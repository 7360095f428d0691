import SqlTutor.Proofs.Double.Finite

/-!
Of an integer beyond 2^53 a double keeps the first 53 binary digits, the last of them rounded, so
the doubles of two integers compare as what rounding leaves of them. Rounding never turns two
integers round, and it keeps them apart unless both lie from 2^53 on to one side of zero.
-/
namespace SqlTutor

theorem divToEven_mul_mul_right (num den : Nat) {k : Nat} (hk : 0 < k) :
    divToEven (num * k) (den * k) = divToEven num den := by
  have rest : 2 * (num % den * k) = 2 * (num % den) * k := (Nat.mul_assoc _ _ _).symm
  unfold divToEven
  rw [Nat.mul_mod_mul_right, Nat.mul_div_mul_right _ _ hk, rest]
  simp only [Nat.mul_lt_mul_right hk, Nat.mul_right_cancel_iff hk]

theorem divToEven_one (n : Nat) : divToEven n 1 = n := by
  rw [divToEven, Nat.mod_one, Nat.div_one, if_pos (Or.inl Nat.one_pos)]

theorem log2_mul_twoTo {n : Nat} (h : n ≠ 0) (e : Nat) : (n * twoTo e).log2 = n.log2 + e := by
  have pos := twoTo_pos e
  refine (Nat.log2_eq_iff (Nat.mul_ne_zero h pos.ne')).mpr ⟨?_, ?_⟩
  · rw [Nat.pow_add]
    exact Nat.mul_le_mul_right _ (Nat.log2_self_le h)
  · rw [Nat.add_right_comm, Nat.pow_add]
    exact Nat.mul_lt_mul_of_pos_right Nat.lt_log2_self pos

theorem natAbs_toInt_le (n : Int64) : n.toInt.natAbs ≤ twoTo 64 := by
  have low := n.le_toInt
  have high := n.toInt_lt
  rw [show twoTo 64 = 2 ^ 64 from rfl]
  omega

theorem compare_eq_compare {a b c d : Int} (less : a < b ↔ c < d) (greater : b < a ↔ d < c) :
    compare a b = compare c d := by
  rcases lt_trichotomy c d with lt | eq | gt
  · rw [compare_lt_iff_lt.mpr lt, compare_lt_iff_lt.mpr (less.mpr lt)]
  · rw [compare_eq_iff_eq.mpr eq, compare_eq_iff_eq]
    omega
  · rw [compare_gt_iff_gt.mpr gt, compare_gt_iff_gt.mpr (greater.mpr gt)]

namespace Double

/-- A whole number up to 2^53 is a multiple of a spacing that its size allows. -/
theorem exists_units_eq {n : Nat} (h : n ≤ twoTo 53) :
    ∃ j < infinityIndex, units j = n * twoTo 1074 := by
  by_cases zero : n = 0
  · refine ⟨0, by decide, ?_⟩
    rw [zero, Nat.zero_mul]
    exact if_pos (twoTo_pos 52)
  · obtain ⟨e, he, below, above⟩ : ∃ e ≤ 52, twoTo e ≤ n ∧ n ≤ twoTo (e + 1) := by
      by_cases small : n.log2 ≤ 52
      · exact ⟨n.log2, small, Nat.log2_self_le zero, Nat.lt_log2_self.le⟩
      · refine ⟨52, le_rfl, ?_, h⟩
        exact (Nat.le_log2 zero).mp (by omega)
    have scaled : twoTo 52 = twoTo e * twoTo (52 - e) := by
      rw [← twoTo_add, Nat.add_sub_cancel' he]
    have low : twoTo 52 ≤ n * twoTo (52 - e) := by
      rw [scaled]
      exact Nat.mul_le_mul_right _ below
    have high : n * twoTo (52 - e) ≤ 2 * twoTo 52 := by
      have double : twoTo (e + 1) = 2 * twoTo e := by
        rw [twoTo_add, Nat.mul_comm]
        rfl
      rw [scaled, ← Nat.mul_assoc, ← double]
      exact Nat.mul_le_mul_right _ above
    have inside : (1022 + e) * twoTo 52 + n * twoTo (52 - e) < infinityIndex := by
      have first : infinityIndex = 2047 * twoTo 52 := by decide
      have steps : (1022 + e) * twoTo 52 ≤ 1074 * twoTo 52 := Nat.mul_le_mul_right _ (by omega)
      have pos := twoTo_pos 52
      omega
    refine ⟨_, inside, ?_⟩
    rw [units_quotient (Or.inr low) high, Nat.mul_assoc, ← twoTo_add,
      show 52 - e + (1022 + e) = 1074 by omega]

theorem IsNearest.index_eq {num index j : Nat} (h : IsNearest num 1 index)
    (hj : j ≤ infinityIndex) (exact : units j = num * twoTo 1074) : index = j := by
  by_contra other
  have nearer := h.2 j hj (Ne.symm other)
  unfold Nearer at nearer
  rw [Nat.mul_one, Nat.mul_one, exact, Nat.dist_self] at nearer
  rcases nearer with less | ⟨same, -⟩
  · exact Nat.not_lt_zero _ less
  · exact other (index_eq_of_units_eq ((Nat.eq_of_dist_eq_zero same).trans exact.symm))

/-- The first 53 binary digits of a number, the last of them rounded, and zeros behind. -/
def roundedNat (n : Nat) : Nat := divToEven n (twoTo (n.log2 - 52)) * twoTo (n.log2 - 52)

theorem roundedNat_eq_self {n : Nat} (h : n ≤ twoTo 53) : roundedNat n = n := by
  by_cases last : n = twoTo 53
  · rw [last]
    decide
  · have digits : n.log2 - 52 = 0 := by
      by_cases zero : n = 0
      · rw [zero]
        decide
      · have log : n.log2 < 53 := (Nat.log2_lt zero).mpr (Nat.lt_of_le_of_ne h last)
        omega
    rw [roundedNat, digits, show twoTo 0 = 1 from rfl, Nat.mul_one, divToEven_one]

/-- A number from 2^53 on has 53 digits in front of those that are rounded. -/
theorem exists_log2_eq {n : Nat} (h : twoTo 53 ≤ n) : ∃ e, n.log2 = e + 52 ∧
    twoTo 52 ≤ divToEven n (twoTo e) ∧ divToEven n (twoTo e) ≤ 2 * twoTo 52 := by
  have nonzero : n ≠ 0 := ((twoTo_pos 53).trans_le h).ne'
  have log : 53 ≤ n.log2 := le_log2_of_twoTo_le h
  obtain ⟨e, he⟩ : ∃ e, n.log2 = e + 52 := ⟨n.log2 - 52, by omega⟩
  have below : twoTo 52 * twoTo e ≤ n := by
    rw [← twoTo_add, Nat.add_comm, ← he]
    exact Nat.log2_self_le nonzero
  have above : n < 2 * twoTo 52 * twoTo e := by
    have power : 2 * twoTo 52 * twoTo e = 2 ^ (n.log2 + 1) := by
      rw [he, show 2 * twoTo 52 = twoTo 53 by decide, ← twoTo_add, Nat.add_comm 53]
      rfl
    exact Nat.lt_log2_self.trans_eq power.symm
  refine ⟨e, he, ?_, ?_⟩
  · exact ((Nat.le_div_iff_mul_le (twoTo_pos e)).mpr below).trans (le_divToEven _ _)
  · exact (divToEven_le _ _).trans ((Nat.div_lt_iff_lt_mul (twoTo_pos e)).mpr above)

theorem le_roundedNat {n : Nat} (h : twoTo 53 ≤ n) : twoTo 53 ≤ roundedNat n := by
  obtain ⟨e, he, digits, -⟩ := exists_log2_eq h
  have log : 53 ≤ n.log2 := le_log2_of_twoTo_le h
  calc
    twoTo 53 ≤ twoTo (52 + e) := twoTo_le_twoTo (by omega)
    _ = twoTo 52 * twoTo e := twoTo_add 52 e
    _ ≤ divToEven n (twoTo e) * twoTo e := Nat.mul_le_mul_right _ digits
    _ = roundedNat n := by rw [roundedNat, he, Nat.add_sub_cancel]

/-- The magnitude of a whole number is what rounding leaves of it. -/
theorem units_ofNat {n : Nat} (h : n ≤ twoTo 64) :
    units (ofNat n).index = roundedNat n * twoTo 1074 := by
  by_cases small : n ≤ twoTo 53
  · obtain ⟨j, hj, exact⟩ := exists_units_eq small
    rw [(isNearest_ofNat n).2.index_eq hj.le exact, exact, roundedNat_eq_self small]
  · have large : twoTo 53 ≤ n := (Nat.not_le.mp small).le
    have nonzero : n ≠ 0 := ((twoTo_pos 53).trans_le large).ne'
    obtain ⟨e, he, low, high⟩ := exists_log2_eq large
    have whole : ¬ n * twoTo 1074 / 1 < twoTo 53 := by
      rw [Nat.div_one, Nat.not_lt]
      exact large.trans (Nat.le_mul_of_pos_right _ (twoTo_pos _))
    have step : (n * twoTo 1074 / 1).log2 - 52 = e + 1074 := by
      rw [Nat.div_one, log2_mul_twoTo nonzero]
      omega
    have cut : divToEven (n * twoTo 1074) (1 * twoTo (e + 1074)) = divToEven n (twoTo e) := by
      rw [Nat.one_mul, twoTo_add, divToEven_mul_mul_right _ _ (twoTo_pos 1074)]
    have index : (ofNat n).index =
        min infinityIndex ((e + 1074) * twoTo 52 + divToEven n (twoTo e)) := by
      change nearestIndex n 1 = _
      rw [nearestIndex, if_neg whole, step, cut]
    have finite : (ofNat n).index < infinityIndex :=
      of_decide_eq_true (isFinite_ofRatio h false)
    have inside : (e + 1074) * twoTo 52 + divToEven n (twoTo e) ≤ infinityIndex := by
      by_contra beyond
      rw [index, Nat.min_eq_left (Nat.not_le.mp beyond).le] at finite
      exact Nat.lt_irrefl _ finite
    rw [index, Nat.min_eq_right inside, units_quotient (Or.inr low) high, roundedNat, he,
      Nat.add_sub_cancel, twoTo_add, Nat.mul_assoc]

theorem index_ofNat_lt_iff {m n : Nat} (hm : m ≤ twoTo 64) (hn : n ≤ twoTo 64) :
    (ofNat m).index < (ofNat n).index ↔ roundedNat m < roundedNat n := by
  have units_iff : (ofNat m).index < (ofNat n).index ↔
      units (ofNat m).index < units (ofNat n).index :=
    ⟨units_lt_units, fun less => Nat.lt_of_not_le fun le =>
      (Nat.lt_or_eq_of_le le).elim (fun lt => (units_lt_units lt).not_gt less)
        fun eq => less.ne (congrArg units eq.symm)⟩
  rw [units_iff, units_ofNat hm, units_ofNat hn, Nat.mul_lt_mul_right (twoTo_pos 1074)]

theorem roundedNat_pos {n : Nat} (h : 0 < n) : 0 < roundedNat n := by
  by_cases small : n ≤ twoTo 53
  · rwa [roundedNat_eq_self small]
  · exact (twoTo_pos 53).trans_le (le_roundedNat (Nat.not_le.mp small).le)

/-- A larger number is not rounded to a smaller magnitude: each of the two magnitudes would be the
nearer one to the number that lies further away from it. -/
theorem IsNearest.mono {a b den i j : Nat} (ha : IsNearest a den i) (hb : IsNearest b den j)
    (hden : 0 < den) (less : a < b) : i ≤ j := by
  by_contra turned
  have turned := Nat.not_le.mp turned
  have magnitudes : units j * den < units i * den :=
    Nat.mul_lt_mul_of_pos_right (units_lt_units turned) hden
  have numbers : a * twoTo 1074 < b * twoTo 1074 :=
    Nat.mul_lt_mul_of_pos_right less (twoTo_pos 1074)
  have first := ha.2 j hb.1 turned.ne
  have second := hb.2 i ha.1 turned.ne'
  unfold Nearer Nat.dist at first second
  omega

theorem roundedNat_le_roundedNat {m n : Nat} (h : m ≤ n) (hn : n ≤ twoTo 64) :
    roundedNat m ≤ roundedNat n := by
  by_contra turned
  have less : m < n := Nat.lt_of_le_of_ne h fun same => turned (same ▸ le_rfl)
  have index := (isNearest_ofNat m).2.mono (isNearest_ofNat n).2 Nat.one_pos less
  exact index.not_gt ((index_ofNat_lt_iff hn (h.trans hn)).mpr (Nat.not_le.mp turned))

/-- What rounding leaves of an integer. -/
def rounded (n : Int) : Int := if n < 0 then -roundedNat n.natAbs else roundedNat n.natAbs

theorem natAbs_rounded (n : Int) : (rounded n).natAbs = roundedNat n.natAbs := by
  unfold rounded
  split <;> omega

theorem rounded_eq_self {n : Int} (h : n.natAbs ≤ twoTo 53) : rounded n = n := by
  rw [rounded, roundedNat_eq_self h]
  split <;> omega

/-- The integers are the same, or not both from 2^53 on to one side of zero. -/
def ToldApart (m n : Int) : Prop := m = n ∨ min m n < twoTo 53 ∧ -twoTo 53 < max m n

instance (m n : Int) : Decidable (ToldApart m n) := inferInstanceAs (Decidable (_ ∨ _))

theorem ToldApart.symm {m n : Int} (h : ToldApart m n) : ToldApart n m := by
  unfold ToldApart at h ⊢
  omega

/-- Up to 2^53 nothing is rounded, and nothing above that is rounded to what lies below. -/
theorem ToldApart.rounded_lt_iff {m n : Int} (h : ToldApart m n) :
    rounded m < rounded n ↔ m < n := by
  rcases h with rfl | ⟨left, right⟩
  · exact iff_of_false (lt_irrefl _) (lt_irrefl _)
  · have small := fun k : Int => roundedNat_eq_self (n := k.natAbs)
    have large := fun k : Int => le_roundedNat (n := k.natAbs)
    have hm := And.intro (small m) (large m)
    have hn := And.intro (small n) (large n)
    have pos := twoTo_pos 53
    unfold rounded
    generalize twoTo 53 = bound at *
    split <;> split <;> omega

theorem ToldApart.rounded_eq_iff {m n : Int} (h : ToldApart m n) :
    rounded m = rounded n ↔ m = n := by
  have less := h.rounded_lt_iff
  have greater := h.symm.rounded_lt_iff
  omega

theorem rounded_le_rounded {m n : Int} (h : m ≤ n) (hm : m.natAbs ≤ twoTo 64)
    (hn : n.natAbs ≤ twoTo 64) : rounded m ≤ rounded n := by
  unfold rounded
  split
  · split
    · have bound := roundedNat_le_roundedNat (m := n.natAbs) (by omega) hm
      omega
    · omega
  · rw [if_neg (by omega)]
    have bound := roundedNat_le_roundedNat (n := n.natAbs) (m := m.natAbs) (by omega) hn
    omega

/-- Where no zero has a sign, the total order is that of the places. -/
theorem rank_lt_rank_iff {x y : Double} (hx : x.negative → 0 < x.index)
    (hy : y.negative → 0 < y.index) : x.rank < y.rank ↔ x.place < y.place := by
  unfold rank place
  cases sign : x.negative <;> cases sign' : y.negative <;>
    simp only [sign, sign', forall_const, if_true, Bool.false_eq_true, if_false] at hx hy ⊢ <;>
    omega

section OfInt

variable {m n : Int}

theorem isNaN_ofInt (hn : n.natAbs ≤ twoTo 64) : (ofInt n).isNaN = false := by
  have finite : (ofInt n).index < infinityIndex := of_decide_eq_true (isFinite_ofRatio hn (n < 0))
  exact decide_eq_false (Nat.not_lt.mpr finite.le)

theorem index_ofInt_pos_iff (hn : n.natAbs ≤ twoTo 64) : 0 < (ofInt n).index ↔ n ≠ 0 := by
  have zero : (ofNat 0).index = 0 := nearestIndex_zero 1
  have index := index_ofNat_lt_iff (Nat.zero_le _) hn
  rw [zero, roundedNat_eq_self (Nat.zero_le _)] at index
  change 0 < (ofNat n.natAbs).index ↔ n ≠ 0
  rw [index]
  constructor
  · rintro rounds rfl
    exact rounds.ne' (roundedNat_eq_self (Nat.zero_le _))
  · exact fun nonzero => roundedNat_pos (Int.natAbs_pos.mpr nonzero)

variable (hm : m.natAbs ≤ twoTo 64) (hn : n.natAbs ≤ twoTo 64)

include hm hn

theorem place_ofInt_lt_iff : (ofInt m).place < (ofInt n).place ↔ rounded m < rounded n := by
  have index := index_ofNat_lt_iff hm hn
  have index' := index_ofNat_lt_iff hn hm
  have pos := index_ofInt_pos_iff hm
  have pos' := roundedNat_pos (n := m.natAbs)
  have ofInt_eq : ∀ k : Int, (ofInt k).index = (ofNat k.natAbs).index := fun _ => rfl
  have negative : ∀ k : Int, (ofInt k).negative = decide (k < 0) := fun _ => rfl
  unfold place rounded
  simp only [negative, decide_eq_true_eq, ofInt_eq] at pos ⊢
  split <;> split <;> omega

theorem rank_ofInt_lt_iff : (ofInt m).rank < (ofInt n).rank ↔ rounded m < rounded n := by
  have nonzero : ∀ k : Int, (ofInt k).negative → k ≠ 0 := fun k negative =>
    (of_decide_eq_true negative).ne
  rw [rank_lt_rank_iff (fun h => (index_ofInt_pos_iff hm).mpr (nonzero m h))
    fun h => (index_ofInt_pos_iff hn).mpr (nonzero n h), place_ofInt_lt_iff hm hn]

theorem totalCompare_ofInt :
    (ofInt m).totalCompare (ofInt n) = compare (rounded m) (rounded n) :=
  compare_eq_compare (rank_ofInt_lt_iff hm hn) (rank_ofInt_lt_iff hn hm)

theorem equal_ofInt : (ofInt m).equal (ofInt n) = (rounded m == rounded n) := by
  have less := place_ofInt_lt_iff hm hn
  have greater := place_ofInt_lt_iff hn hm
  rw [Bool.eq_iff_iff, equal, isNaN_ofInt hm, isNaN_ofInt hn, Bool.not_false, Bool.true_and,
    Bool.true_and, beq_iff_eq, beq_iff_eq]
  omega

end OfInt

/-- The double is the integer itself; a negative zero is zero. -/
def isInteger (x : Double) (n : Int) : Bool :=
  x.isFinite && units x.index == n.natAbs * twoTo 1074 && (n == 0 || x.negative == decide (n < 0))

theorem equal_ofInt_eq_isInteger {n : Int} (hn : n.natAbs ≤ twoTo 64) (x : Double) :
    x.equal (ofInt n) = x.isInteger (rounded n) := by
  have finite : (ofInt n).index < infinityIndex := of_decide_eq_true (isFinite_ofRatio hn (n < 0))
  have magnitude : units (ofInt n).index = roundedNat n.natAbs * twoTo 1074 := units_ofNat hn
  have same : units x.index = roundedNat n.natAbs * twoTo 1074 ↔ x.index = (ofInt n).index :=
    ⟨fun eq => index_eq_of_units_eq (eq.trans magnitude.symm), fun eq => eq ▸ magnitude⟩
  have zero := index_ofInt_pos_iff hn
  have sign : (ofInt n).negative = decide (n < 0) := rfl
  have pos := roundedNat_pos (n := n.natAbs)
  have nothing : roundedNat 0 = 0 := roundedNat_eq_self (Nat.zero_le _)
  have rounds : (rounded n = 0 ↔ n = 0) ∧ (rounded n < 0 ↔ n < 0) := by
    unfold rounded
    by_cases none : n = 0
    · simp [none, nothing]
    · split <;> omega
  rw [Bool.eq_iff_iff, equal, isInteger, natAbs_rounded, isNaN_ofInt hn, isNaN, isFinite]
  simp only [Bool.and_eq_true, Bool.or_eq_true, Bool.not_eq_true', decide_eq_false_iff_not,
    decide_eq_true_eq, beq_iff_eq, same, rounds, Bool.not_false, and_true]
  unfold place
  rw [sign]
  cases x.negative <;> by_cases negative : n < 0 <;> simp [negative] <;> omega

end Double

end SqlTutor

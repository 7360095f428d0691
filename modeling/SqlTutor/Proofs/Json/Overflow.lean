import SqlTutor.Proofs.Decimal.Values
import SqlTutor.Proofs.Json.Range
import Mathlib.Algebra.Order.Field.Power
import Mathlib.Tactic.Linarith
import Mathlib.Tactic.Positivity
import Mathlib.Tactic.Ring

/-!
Numbers out of range. The leading digits make the significand, the others count as places only, and
two roundings follow; all this moves a number by less than one part in 2^50. Up to that, the numbers
that are refused begin where the doubles end.
-/
namespace SqlTutor.Json

open Double

theorem mul_le_ofDigitChars (digits : List Char) (init : Nat) :
    init * tenTo digits.length ≤ Nat.ofDigitChars 10 digits init := by
  rw [Nat.ofDigitChars_eq_ofDigitChars_zero, Nat.mul_comm]
  exact Nat.le_add_right _ _

theorem digit_le {c : Char} (h : c.isDigit) : c.toNat - 48 ≤ 9 := by
  have nine : c.val ≤ '9'.val := (of_decide_eq_true (Bool.and_eq_true_iff.mp h).2)
  have bound : c.toNat ≤ 57 := UInt32.le_iff_toNat_le.mp nine
  omega

theorem ofDigitChars_lt {digits : List Char} (h : ∀ d ∈ digits, d.isDigit) (init : Nat) :
    Nat.ofDigitChars 10 digits init < (init + 1) * tenTo digits.length := by
  induction digits generalizing init with
  | nil =>
    rw [Nat.ofDigitChars_nil]
    exact (Nat.lt_succ_self init).trans_eq (Nat.mul_one _).symm
  | cons d digits ih =>
    obtain ⟨digit, others⟩ := List.forall_mem_cons.mp h
    have small := digit_le digit
    rw [Nat.ofDigitChars_cons, List.length_cons, tenTo_add, Nat.mul_comm (tenTo _), ← Nat.mul_assoc]
    refine (ih others _).trans_le (Nat.mul_le_mul_right _ ?_)
    have zero : '0'.toNat = 48 := by decide
    rw [show tenTo 1 = 10 from rfl, zero]
    omega

/-- The digits that are taken up, those that are left, and what they come to. -/
structure TakenUp (start : Nat) (digits taken left : List Char) (result : Nat) : Prop where
  cut : digits = taken ++ left
  value : result = Nat.ofDigitChars 10 taken start
  fits : ∀ c ∈ taken.head?, start * 10 + (c.toNat - 48) ≤ significandLimit
  stuck : ∀ c ∈ left.head?, significandLimit < result * 10 + (c.toNat - 48)

theorem TakenUp.start_mul_le {start result : Nat} {digits taken left : List Char}
    (h : TakenUp start digits taken left result) : start * tenTo taken.length ≤ result := by
  rw [h.value]
  exact mul_le_ofDigitChars _ _

theorem exists_takenUp (start : Nat) (digits : List Char) :
    ∃ taken, TakenUp start digits taken (takeUp start digits).2 (takeUp start digits).1 := by
  induction digits generalizing start with
  | nil => exact ⟨[], rfl, rfl, by simp, by simp [takeUp]⟩
  | cons c digits ih =>
    rw [takeUp]
    split
    · rename_i fits
      obtain ⟨taken, cut, value, -, stuck⟩ := ih (start * 10 + (c.toNat - 48))
      refine ⟨c :: taken, by rw [List.cons_append, ← cut], ?_, by simpa using fits, stuck⟩
      rw [value, Nat.ofDigitChars_cons, Nat.mul_comm start]
      rfl
    · rename_i large
      exact ⟨[], rfl, rfl, by simp, by simpa using Nat.not_le.mp large⟩

section TakenUp

variable {whole wholeTaken places fraction taken dropped : List Char} {leading significand : Nat}
  (before : TakenUp 0 whole wholeTaken places leading)
  (behind : TakenUp leading fraction taken dropped significand)

include before

theorem ofDigitChars_append_eq : Nat.ofDigitChars 10 (whole ++ fraction) 0 =
    Nat.ofDigitChars 10 fraction (Nat.ofDigitChars 10 places leading) := by
  rw [Nat.ofDigitChars_append, before.cut, Nat.ofDigitChars_append, ← before.value]

/-- Digits behind the point can be taken up where one before it does not fit. They are smaller. -/
theorem significand_mul_ten_le (behind : TakenUp leading fraction taken dropped significand)
    (isDigit : ∀ d ∈ fraction, d.isDigit) {d : Char} (hd : d ∈ places.head?) :
    significand * 10 ≤ (10 * leading + (d.toNat - 48)) * tenTo taken.length := by
  have stuck := before.stuck d hd
  rw [behind.cut] at isDigit
  rw [behind.value]
  cases taken with
  | nil =>
    rw [Nat.ofDigitChars_nil, show tenTo [].length = 1 from rfl]
    omega
  | cons c taken =>
    have fits := behind.fits c rfl
    have zero : '0'.toNat = 48 := by decide
    have digits : ∀ d ∈ taken, d.isDigit := fun d hd => isDigit d (by simp [hd])
    have less := ofDigitChars_lt digits (10 * leading + (c.toNat - 48))
    rw [Nat.ofDigitChars_cons, List.length_cons, tenTo_add, zero, ← Nat.mul_assoc]
    refine Nat.mul_le_mul_right _ (less.le.trans (Nat.mul_le_mul_right _ ?_))
    omega

include behind

/-- Without the digits that are left a number is not greater. -/
theorem significand_mul_le (isDigit : ∀ d ∈ fraction, d.isDigit) :
    significand * tenTo (places.length + dropped.length) ≤
      Nat.ofDigitChars 10 (whole ++ fraction) 0 := by
  have length := congrArg List.length behind.cut
  rw [List.length_append] at length
  rw [ofDigitChars_append_eq before]
  cases places with
  | nil =>
    rw [List.length_nil, Nat.zero_add, Nat.ofDigitChars_nil, behind.cut, Nat.ofDigitChars_append,
      ← behind.value]
    exact mul_le_ofDigitChars dropped _
  | cons d places =>
    have bound := significand_mul_ten_le before behind isDigit (d := d) rfl
    calc
      _ = significand * 10 * tenTo (places.length + dropped.length) := by
        rw [List.length_cons, Nat.add_right_comm, tenTo_add, Nat.mul_comm (tenTo _), Nat.mul_assoc]
        rfl
      _ ≤ (10 * leading + (d.toNat - 48)) * tenTo taken.length *
          tenTo (places.length + dropped.length) := Nat.mul_le_mul_right _ bound
      _ = (10 * leading + (d.toNat - 48)) * tenTo places.length * tenTo fraction.length := by
        rw [length, tenTo_add, tenTo_add]
        ring
      _ ≤ Nat.ofDigitChars 10 places (10 * leading + (d.toNat - 48)) * tenTo fraction.length :=
        Nat.mul_le_mul_right _ (mul_le_ofDigitChars _ _)
      _ ≤ _ := mul_le_ofDigitChars _ _

/-- If digits before the point are left, at most one behind it is taken up. -/
theorem length_le_one (isDigit : ∀ d ∈ whole, d.isDigit) (nonempty : places ≠ [])
    (bound : significand ≤ significandLimit) : taken.length ≤ 1 := by
  obtain ⟨d, rest, rfl⟩ := List.exists_cons_of_ne_nil nonempty
  rw [before.cut] at isDigit
  have stuck := before.stuck d rfl
  have small := digit_le (isDigit d (by simp))
  by_contra many
  have hundred : tenTo 2 ≤ tenTo taken.length := tenTo_le_tenTo (by omega)
  have large := (Nat.mul_le_mul_left leading hundred).trans (behind.start_mul_le.trans bound)
  have limit : 10 ≤ significandLimit := by decide
  rw [show tenTo 2 = 100 from rfl] at large
  omega

/-- The digits that are left change a significand by less than ten. -/
theorem ofDigitChars_lt_of_takenUp (isDigitWhole : ∀ d ∈ whole, d.isDigit)
    (isDigit : ∀ d ∈ fraction, d.isDigit) (bound : significand ≤ significandLimit) :
    Nat.ofDigitChars 10 (whole ++ fraction) 0 <
      (significand + 10) * tenTo (places.length + dropped.length) := by
  have length := congrArg List.length behind.cut
  rw [List.length_append] at length
  rw [ofDigitChars_append_eq before]
  by_cases empty : places = []
  · rw [empty, List.length_nil, Nat.zero_add, Nat.ofDigitChars_nil, behind.cut,
      Nat.ofDigitChars_append, ← behind.value]
    rw [behind.cut] at isDigit
    have less := ofDigitChars_lt (fun d hd => isDigit d (List.mem_append_right _ hd)) significand
    exact less.trans_le (Nat.mul_le_mul_right _ (by omega))
  · have few := tenTo_le_tenTo (length_le_one before behind isDigitWhole empty bound)
    rw [before.cut] at isDigitWhole
    calc
      _ < (Nat.ofDigitChars 10 places leading + 1) * tenTo fraction.length :=
        ofDigitChars_lt isDigit _
      _ ≤ (leading + 1) * tenTo places.length * tenTo fraction.length := by
        refine Nat.mul_le_mul_right _ (ofDigitChars_lt (fun c hc => ?_) leading)
        exact isDigitWhole c (List.mem_append_right _ hc)
      _ = (leading * tenTo taken.length + tenTo taken.length) *
          tenTo (places.length + dropped.length) := by
        rw [length, tenTo_add, tenTo_add]
        ring
      _ ≤ _ := Nat.mul_le_mul_right _ (Nat.add_le_add behind.start_mul_le few)

/-- A significand from which digits are left has at least nineteen. -/
theorem eq_or_significandLimit_lt (isDigitWhole : ∀ d ∈ whole, d.isDigit)
    (isDigit : ∀ d ∈ fraction, d.isDigit) :
    (Nat.ofDigitChars 10 (whole ++ fraction) 0 = significand ∧
      places.length + dropped.length = 0) ∨ significandLimit < significand * 10 + 10 := by
  rw [ofDigitChars_append_eq before]
  rw [before.cut] at isDigitWhole
  cases places with
  | nil =>
    rw [behind.cut] at isDigit
    rw [Nat.ofDigitChars_nil, behind.cut, Nat.ofDigitChars_append, ← behind.value]
    cases dropped with
    | nil => exact Or.inl ⟨rfl, rfl⟩
    | cons c dropped =>
      have stuck := behind.stuck c rfl
      have small := digit_le (isDigit c (by simp))
      omega
  | cons d places =>
    have stuck := before.stuck d rfl
    have small := digit_le (isDigitWhole d (by simp))
    have least : leading ≤ significand :=
      (Nat.le_mul_of_pos_right _ (tenTo_pos _)).trans behind.start_mul_le
    omega

end TakenUp

namespace Numeral

/-- The leading digits, of which those before the point come first. -/
def significand (n : Numeral) : Nat := (takeUp (takeUp 0 n.whole).1 n.fraction).1

/-- How many digits are not taken up. -/
def left (n : Numeral) : Nat :=
  (takeUp 0 n.whole).2.length + (takeUp (takeUp 0 n.whole).1 n.fraction).2.length

def digits (n : Numeral) : Nat := Nat.ofDigitChars 10 (n.whole ++ n.fraction) 0

def places (n : Numeral) : Int := n.exponent - n.fraction.length

/-- The number without its sign. -/
def magnitude (n : Numeral) : ℚ := n.digits * 10 ^ n.places

theorem toDouble?_eq (n : Numeral) :
    n.toDouble? = (scale (Double.ofNat n.significand) (n.places + n.left)).map
      fun x => ⟨n.negative, x.index, x.index_lt⟩ := by
  obtain ⟨taken, up⟩ := exists_takenUp (takeUp 0 n.whole).1 n.fraction
  have length := congrArg List.length up.cut
  rw [List.length_append] at length
  have exponent : n.exponent + (takeUp 0 n.whole).2.length -
      (n.fraction.length - (takeUp (takeUp 0 n.whole).1 n.fraction).2.length : Nat) =
      n.places + n.left := by
    unfold places left
    omega
  unfold toDouble? significand
  dsimp only
  rw [exponent]

end Numeral

/-- Where the range ends, less what the roundings can add. -/
def lowerEnd : Nat := twoTo 1024 - twoTo 974

/-- Where the range ends, and what the roundings can take away. -/
def roundedEnd : Nat := twoTo 1024 + twoTo 973 + twoTo 972

/-- Where the range ends, and what the roundings and the digits that are left can take away. -/
def upperEnd : Nat := twoTo 1024 + twoTo 974

theorem twoTo_1024_eq : twoTo 1024 = twoTo 53 * twoTo 971 := twoTo_add 53 971

/-- The ends are multiples of the spacing of doubles at the end of the range. -/
theorem lowerEnd_eq : lowerEnd = (twoTo 53 - twoTo 3) * twoTo 971 := by
  rw [lowerEnd, twoTo_1024_eq, show twoTo 974 = twoTo 3 * twoTo 971 from twoTo_add 3 971,
    Nat.sub_mul]

theorem roundedEnd_eq : roundedEnd = (twoTo 53 + twoTo 2 + twoTo 1) * twoTo 971 := by
  rw [roundedEnd, twoTo_1024_eq, show twoTo 973 = twoTo 2 * twoTo 971 from twoTo_add 2 971,
    show twoTo 972 = twoTo 1 * twoTo 971 from twoTo_add 1 971, Nat.add_mul, Nat.add_mul]

theorem upperEnd_eq : upperEnd = (twoTo 53 + twoTo 3) * twoTo 971 := by
  rw [upperEnd, twoTo_1024_eq, show twoTo 974 = twoTo 3 * twoTo 971 from twoTo_add 3 971,
    Nat.add_mul]

theorem roundedEnd_le_upperEnd : roundedEnd ≤ upperEnd := by
  rw [roundedEnd_eq, upperEnd_eq]
  exact Nat.mul_le_mul_right _ (by decide)

theorem significandLimit_lt_upperEnd : significandLimit + 10 < upperEnd :=
  calc
    significandLimit + 10 < twoTo 65 := by decide
    _ ≤ twoTo 1024 := twoTo_le_twoTo (by decide)
    _ ≤ upperEnd := Nat.le_add_right _ _

theorem close_ofNat {n : Nat} (pos : 0 < n) (range : n ≤ tenTo 308) :
    units (Double.ofNat n).index * twoTo 52 ≤ n * twoTo 1074 * (twoTo 52 + 1) ∧
      n * twoTo 1074 * twoTo 52 ≤ units (Double.ofNat n).index * (twoTo 52 + 1) := by
  have normal : twoTo 52 * 1 ≤ n * twoTo 1074 := by
    rw [Nat.mul_one]
    exact (twoTo_le_twoTo (by decide)).trans (Nat.le_mul_of_pos_left _ pos)
  have small : n < twoTo 1024 * 1 := range.trans_lt (range_bounds.1.trans_eq (Nat.mul_one _).symm)
  have close := (isNearest_ofNat n).2.close Nat.one_pos normal small
  rwa [Nat.mul_one] at close

section Products

variable {significand e : Nat} (pos : 0 < significand) (small : significand ≤ significandLimit)
  (he : e ≤ 308)

include pos small he

theorem close_product :
    units (Double.ofNat significand).index * units (powerOfTen e).index * (twoTo 52 * twoTo 52) ≤
        significand * tenTo e * ((twoTo 52 + 1) * (twoTo 52 + 1)) * (twoTo 1074 * twoTo 1074) ∧
      significand * tenTo e * (twoTo 52 * twoTo 52) * (twoTo 1074 * twoTo 1074) ≤
        units (Double.ofNat significand).index * units (powerOfTen e).index *
          ((twoTo 52 + 1) * (twoTo 52 + 1)) := by
  have limit : significandLimit ≤ tenTo 308 :=
    (by decide : significandLimit ≤ tenTo 20).trans (tenTo_le_tenTo (by decide))
  obtain ⟨above, below⟩ := close_ofNat pos (small.trans limit)
  obtain ⟨abovePower, belowPower⟩ :=
    close_ofNat (tenTo_pos e) (tenTo_le_tenTo he)
  unfold powerOfTen
  constructor
  · calc
      _ = units (Double.ofNat significand).index * twoTo 52 *
          (units (Double.ofNat (tenTo e)).index * twoTo 52) := by ring
      _ ≤ _ := Nat.mul_le_mul above abovePower
      _ = _ := by ring
  · calc
      _ = significand * twoTo 1074 * twoTo 52 * (tenTo e * twoTo 1074 * twoTo 52) := by ring
      _ ≤ _ := Nat.mul_le_mul below belowPower
      _ = _ := by ring

theorem isFinite_product (below : significand * tenTo e ≤ lowerEnd) :
    ((Double.ofNat significand).product (powerOfTen e)).isFinite := by
  have ends : lowerEnd * ((twoTo 52 + 1) * (twoTo 52 + 1)) ≤
      (twoTo 1024 - twoTo 971) * (twoTo 52 * twoTo 52) := by
    have last : twoTo 1024 - twoTo 971 = (twoTo 53 - 1) * twoTo 971 := by
      rw [twoTo_1024_eq, Nat.sub_mul, Nat.one_mul]
    rw [lowerEnd_eq, last, Nat.mul_right_comm, Nat.mul_right_comm (twoTo 53 - 1)]
    exact Nat.mul_le_mul_right _ (by decide)
  have square : twoTo 2148 = twoTo 1074 * twoTo 1074 := twoTo_add 1074 1074
  have kpos : 0 < twoTo 52 * twoTo 52 := by decide
  have product : units (Double.ofNat significand).index * units (powerOfTen e).index ≤
      (twoTo 1024 - twoTo 971) * (twoTo 1074 * twoTo 1074) := by
    refine Nat.le_of_mul_le_mul_right ?_ kpos
    calc
      _ ≤ _ := (close_product pos small he).1
      _ ≤ lowerEnd * ((twoTo 52 + 1) * (twoTo 52 + 1)) * (twoTo 1074 * twoTo 1074) :=
        Nat.mul_le_mul_right _ (Nat.mul_le_mul_right _ below)
      _ ≤ (twoTo 1024 - twoTo 971) * (twoTo 52 * twoTo 52) * (twoTo 1074 * twoTo 1074) :=
        Nat.mul_le_mul_right _ ends
      _ = _ := Nat.mul_right_comm _ _ _
  refine isFinite_of_le (twoTo_pos _) (by decide : infinityIndex - 1 < infinityIndex) ?_ _
  rw [units_infinityIndex_pred, square]
  calc
    _ ≤ _ := Nat.mul_le_mul_right _ product
    _ = _ := by ring

theorem not_isFinite_product (above : roundedEnd ≤ significand * tenTo e) :
    ((Double.ofNat significand).product (powerOfTen e)).isFinite = false := by
  have ends : twoTo 1024 * ((twoTo 52 + 1) * (twoTo 52 + 1)) ≤
      roundedEnd * (twoTo 52 * twoTo 52) := by
    rw [roundedEnd_eq, twoTo_1024_eq, Nat.mul_right_comm,
      Nat.mul_right_comm (twoTo 53 + twoTo 2 + twoTo 1)]
    exact Nat.mul_le_mul_right _ (by decide)
  have square : twoTo 2148 = twoTo 1074 * twoTo 1074 := twoTo_add 1074 1074
  have kpos : 0 < (twoTo 52 + 1) * (twoTo 52 + 1) := by decide
  have product : twoTo 1024 * (twoTo 1074 * twoTo 1074) ≤
      units (Double.ofNat significand).index * units (powerOfTen e).index := by
    refine Nat.le_of_mul_le_mul_right ?_ kpos
    calc
      _ = twoTo 1024 * ((twoTo 52 + 1) * (twoTo 52 + 1)) * (twoTo 1074 * twoTo 1074) :=
        Nat.mul_right_comm _ _ _
      _ ≤ roundedEnd * (twoTo 52 * twoTo 52) * (twoTo 1074 * twoTo 1074) :=
        Nat.mul_le_mul_right _ ends
      _ ≤ significand * tenTo e * (twoTo 52 * twoTo 52) * (twoTo 1074 * twoTo 1074) :=
        Nat.mul_le_mul_right _ (Nat.mul_le_mul_right _ above)
      _ ≤ _ := (close_product pos small he).2
  have scaled : units infinityIndex * twoTo 2148 ≤
      units (Double.ofNat significand).index * units (powerOfTen e).index * twoTo 1074 := by
    rw [units_infinityIndex, square]
    calc
      _ = twoTo 1024 * (twoTo 1074 * twoTo 1074) * twoTo 1074 := by ring
      _ ≤ _ := Nat.mul_le_mul_right _ product
  have infinite :=
    (nearestIndex_isNearest _ (twoTo_pos 2148)).units_le (twoTo_pos 2148) le_rfl scaled
  exact decide_eq_false (Nat.not_lt.mpr (index_le_of_units_le infinite))

end Products

/-- Only multiplications are refused. -/
theorem scale_eq_none_iff {x : Double} {e : Int} :
    scale x e = none ↔ x.index ≠ 0 ∧ 0 ≤ e ∧
      (e ≤ 308 → (x.product (powerOfTen e.toNat)).isFinite = false) := by
  fun_induction scale x e with
  | case1 x e zero => simp [zero]
  | case2 x e nonzero nonneg large =>
    refine iff_of_true rfl ⟨nonzero, nonneg, fun small => ?_⟩
    omega
  | case3 x e nonzero nonneg small y finite =>
    refine iff_of_false (by simp) fun h => ?_
    have infinite := h.2.2 (Int.not_lt.mp small)
    exact Bool.false_ne_true (infinite.symm.trans finite)
  | case4 x e nonzero nonneg small y infinite =>
    exact iff_of_true rfl ⟨nonzero, nonneg, fun _ => Bool.eq_false_iff.mpr infinite⟩
  | case5 x e nonzero negative large =>
    exact iff_of_false (by simp) fun h => negative h.2.1
  | case6 x e nonzero negative small ih =>
    rw [ih]
    refine iff_of_false (fun h => ?_) fun h => negative h.2.1
    have still := h.2.1
    omega

theorem index_ofNat_eq_zero_iff {n : Nat} : (Double.ofNat n).index = 0 ↔ n = 0 := by
  constructor
  · intro zero
    by_contra pos
    have one := one_le_ofNat (Nat.pos_of_ne_zero pos)
    rw [zero, show units 0 = 0 from rfl] at one
    exact absurd one (Nat.not_le.mpr (twoTo_pos _))
  · rintro rfl
    exact nearestIndex_zero 1

theorem Numeral.toDouble?_eq_none_iff (n : Numeral) :
    n.toDouble? = none ↔ n.significand ≠ 0 ∧ 0 ≤ n.places + n.left ∧
      (n.places + n.left ≤ 308 → ((Double.ofNat n.significand).product
        (powerOfTen (n.places + n.left).toNat)).isFinite = false) := by
  rw [toDouble?_eq, Option.map_eq_none_iff, scale_eq_none_iff, ne_eq, index_ofNat_eq_zero_iff]

theorem Numeral.significand_le (n : Numeral) : n.significand ≤ significandLimit :=
  takeUp_le (takeUp_le (Nat.zero_le _) n.whole) n.fraction

theorem Numeral.zpow_places (n : Numeral) :
    (10 : ℚ) ^ (n.places + n.left) = tenTo n.left * 10 ^ n.places := by
  have left := tenTo_toNat (Int.natCast_nonneg n.left)
  rw [Int.toNat_natCast] at left
  rw [zpow_add₀ (by decide), ← left, mul_comm]

namespace WrittenNumber

variable (n : WrittenNumber)

theorem le_magnitude :
    n.numeral.significand * 10 ^ (n.numeral.places + n.numeral.left) ≤ n.numeral.magnitude := by
  obtain ⟨_, before⟩ := exists_takenUp 0 n.whole
  obtain ⟨_, behind⟩ := exists_takenUp (takeUp 0 n.whole).1 n.fraction
  have digits : n.numeral.significand * tenTo n.numeral.left ≤ n.numeral.digits :=
    significand_mul_le before behind n.fraction_isDigit
  have scaled : (n.numeral.significand * tenTo n.numeral.left : ℚ) ≤ n.numeral.digits := by
    exact_mod_cast digits
  rw [Numeral.zpow_places, ← mul_assoc, Numeral.magnitude]
  exact mul_le_mul_of_nonneg_right scaled (by positivity)

theorem magnitude_eq_or_lt :
    n.numeral.magnitude =
        n.numeral.significand * 10 ^ (n.numeral.places + n.numeral.left) ∨
      significandLimit < n.numeral.significand * 10 + 10 ∧ n.numeral.magnitude <
        (n.numeral.significand + 10 : Nat) * 10 ^ (n.numeral.places + n.numeral.left) := by
  obtain ⟨_, before⟩ := exists_takenUp 0 n.whole
  obtain ⟨_, behind⟩ := exists_takenUp (takeUp 0 n.whole).1 n.fraction
  have digits : (n.numeral.digits = n.numeral.significand ∧ n.numeral.left = 0) ∨
      significandLimit < n.numeral.significand * 10 + 10 :=
    eq_or_significandLimit_lt before behind n.whole_isDigit n.fraction_isDigit
  have less : n.numeral.digits < (n.numeral.significand + 10) * tenTo n.numeral.left :=
    ofDigitChars_lt_of_takenUp before behind n.whole_isDigit n.fraction_isDigit
      n.numeral.significand_le
  rcases digits with ⟨same, nothing⟩ | many
  · left
    rw [Numeral.magnitude, same, nothing, Nat.cast_zero, add_zero]
  · right
    have scaled : (n.numeral.digits : ℚ) <
        (n.numeral.significand + 10 : Nat) * tenTo n.numeral.left := by
      exact_mod_cast less
    refine ⟨many, ?_⟩
    rw [Numeral.zpow_places, ← mul_assoc, Numeral.magnitude]
    exact mul_lt_mul_of_pos_right scaled (by positivity)

/-- A number that is refused is not below the range. -/
theorem lt_magnitude_of_toDouble? (h : n.numeral.toDouble? = none) :
    (lowerEnd : ℚ) < n.numeral.magnitude := by
  obtain ⟨nonzero, nonneg, infinite⟩ := n.numeral.toDouble?_eq_none_iff.mp h
  refine lt_of_lt_of_le ?_ n.le_magnitude
  rw [← tenTo_toNat nonneg, ← Nat.cast_mul, Nat.cast_lt]
  generalize n.numeral.places + n.numeral.left = e at *
  have pos := Nat.pos_of_ne_zero nonzero
  by_cases small : e ≤ 308
  · by_contra below
    have finite := isFinite_product pos n.numeral.significand_le (e := e.toNat) (by omega)
      (Nat.not_lt.mp below)
    exact Bool.false_ne_true ((infinite small).symm.trans finite)
  · calc
      lowerEnd ≤ twoTo 1024 := Nat.sub_le _ _
      _ ≤ twoTo 1025 := twoTo_le_twoTo (by decide)
      _ < tenTo 309 := range_bounds.2
      _ ≤ tenTo e.toNat := tenTo_le_tenTo (by omega)
      _ ≤ _ := Nat.le_mul_of_pos_left _ pos

/-- Digits that are left do not bring a number from below the range to above it. -/
theorem le_significand_mul {s p : Nat} (many : significandLimit < s * 10 + 10)
    (h : upperEnd ≤ (s + 10) * p) : roundedEnd ≤ s * p := by
  obtain ⟨k, hk⟩ : ∃ k, k = twoTo 52 + 3 := ⟨_, rfl⟩
  have limit : 100 * k + 10 ≤ significandLimit := by
    rw [hk]
    decide
  have step : twoTo 972 = twoTo 971 * twoTo 1 := twoTo_add 971 1
  have inner : roundedEnd = twoTo 972 * k := by
    have halves : twoTo 53 + twoTo 2 + twoTo 1 = twoTo 1 * k := by
      rw [hk]
      decide
    rw [roundedEnd_eq, halves, step, Nat.mul_comm, Nat.mul_assoc]
  have outer : upperEnd = twoTo 972 * (k + 1) := by
    have halves : twoTo 53 + twoTo 3 = twoTo 1 * (k + 1) := by
      rw [hk]
      decide
    rw [upperEnd_eq, halves, step, Nat.mul_comm, Nat.mul_assoc]
  have few : k * 10 ≤ s := by omega
  refine Nat.le_of_mul_le_mul_right ?_ (Nat.add_pos_right s (by decide) : 0 < s + 10)
  calc
    roundedEnd * (s + 10) = twoTo 972 * (k * s + k * 10) := by
      rw [inner, Nat.mul_assoc, Nat.mul_add]
    _ ≤ twoTo 972 * (k * s + s) := Nat.mul_le_mul_left _ (Nat.add_le_add_left few _)
    _ = upperEnd * s := by rw [outer, Nat.mul_assoc, Nat.succ_mul]
    _ ≤ (s + 10) * p * s := Nat.mul_le_mul_right _ h
    _ = s * p * (s + 10) := by ring

/-- A number above the range is refused. -/
theorem toDouble?_eq_none (h : (upperEnd : ℚ) ≤ n.numeral.magnitude) :
    n.numeral.toDouble? = none := by
  have bound := n.numeral.significand_le
  have either := n.magnitude_eq_or_lt
  rw [Numeral.toDouble?_eq_none_iff]
  generalize n.numeral.places + n.numeral.left = e at *
  generalize n.numeral.significand = s at *
  have nonneg : 0 ≤ e := by
    by_contra negative
    have one : (10 : ℚ) ^ e ≤ 1 := zpow_le_one_of_nonpos₀ (by decide) (Int.not_le.mp negative).le
    have atMost : n.numeral.magnitude ≤ (s + 10 : Nat) * 10 ^ e := by
      rcases either with same | ⟨-, less⟩
      · rw [same]
        exact mul_le_mul_of_nonneg_right (by simp) (by positivity)
      · exact less.le
    have small : n.numeral.magnitude ≤ (s + 10 : Nat) :=
      atMost.trans (mul_le_of_le_one_right (by positivity) one)
    have end' : upperEnd ≤ s + 10 := by exact_mod_cast h.trans small
    have beyond := significandLimit_lt_upperEnd
    omega
  rw [← tenTo_toNat nonneg] at either
  have large : roundedEnd ≤ s * tenTo e.toNat := by
    rcases either with same | ⟨many, less⟩
    · have least : upperEnd ≤ s * tenTo e.toNat := by exact_mod_cast h.trans_eq same
      exact roundedEnd_le_upperEnd.trans least
    · have least : upperEnd ≤ (s + 10) * tenTo e.toNat := by exact_mod_cast h.trans less.le
      exact le_significand_mul many least
  have pos : 0 < s := by
    refine Nat.pos_of_ne_zero fun zero => ?_
    rw [zero, Nat.zero_mul, roundedEnd_eq] at large
    exact absurd large (Nat.not_le.mpr (Nat.mul_pos (Nat.succ_pos _) (twoTo_pos 971)))
  exact ⟨pos.ne', nonneg, fun small => not_isFinite_product pos bound (by omega) large⟩

theorem magnitude_of_isWhole (h : n.isWhole) : n.numeral.magnitude = n.wholeValue := by
  rw [isWhole, Bool.and_eq_true, List.isEmpty_iff, Option.isNone_iff_eq_none] at h
  simp [Numeral.magnitude, Numeral.digits, Numeral.places, numeral, h, exponentValue, wholeValue]

/-- The numbers that are refused end where the doubles do, up to what the roundings change. -/
theorem magnitude_of_refused :
    (n.numeral.toNumber? = none → (lowerEnd : ℚ) < n.numeral.magnitude) ∧
      ((upperEnd : ℚ) ≤ n.numeral.magnitude → n.numeral.toNumber? = none) := by
  rw [toNumber?_eq]
  constructor
  · intro h
    split at h
    · nomatch h
    · split at h
      · nomatch h
      · exact n.lt_magnitude_of_toDouble? (Option.map_eq_none_iff.mp h)
  · intro h
    have large : n.isWhole → 2 ^ 64 < n.wholeValue := by
      intro whole
      rw [n.magnitude_of_isWhole whole, Nat.cast_le] at h
      have beyond : 2 ^ 64 ≤ significandLimit + 10 := by decide
      exact (beyond.trans_lt significandLimit_lt_upperEnd).trans_le h
    rw [n.toDouble?_eq_none h, Option.map_none]
    cases whole : n.isWhole with
    | false => simp
    | true =>
      have beyond := large whole
      rw [if_neg (by simp; omega), if_neg (by simp; omega)]

end WrittenNumber

end SqlTutor.Json

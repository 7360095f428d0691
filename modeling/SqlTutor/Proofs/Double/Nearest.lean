import SqlTutor.Decimal.Basic
import Mathlib.Data.Nat.Dist
import Mathlib.Data.Nat.Log
import Mathlib.Tactic.Ring

/-!
The magnitude that a ratio is rounded to is found by one division and one comparison. Here it is
held against all magnitudes, infinity included: none is nearer to the ratio, and of two that are
equally near it is the one with an even number.
-/
namespace SqlTutor

/-- The multiple that is found is the nearest one, or one of two with an even factor. -/
theorem divToEven_nearest {num den : Nat} (hden : 0 < den) {m : Nat}
    (hm : m ≠ divToEven num den) :
    Nat.dist (divToEven num den * den) num < Nat.dist (m * den) num ∨
      Nat.dist (divToEven num den * den) num = Nat.dist (m * den) num ∧
        divToEven num den % 2 = 0 := by
  have hsplit : num / den * den + num % den = num := Nat.div_add_mod' num den
  have hrest : num % den < den := Nat.mod_lt num hden
  have hnext : (num / den + 1) * den = num / den * den + den := Nat.succ_mul _ _
  have hplace : m * den + den ≤ num / den * den ∨ m = num / den ∨ m = num / den + 1 ∨
      num / den * den + 2 * den ≤ m * den := by
    by_cases below : m < num / den
    · left
      calc
        m * den + den = (m + 1) * den := (Nat.succ_mul _ _).symm
        _ ≤ num / den * den := Nat.mul_le_mul_right den below
    · by_cases above : num / den + 1 < m
      · right; right; right
        calc
          num / den * den + 2 * den = (num / den + 2) * den := (Nat.add_mul _ _ _).symm
          _ ≤ m * den := Nat.mul_le_mul_right den above
      · omega
  unfold divToEven at hm ⊢
  unfold Nat.dist
  generalize hk : num / den = k at *
  split at hm
  · rename_i down
    rw [if_pos down]
    rcases hplace with below | rfl | rfl | above
    · omega
    · exact absurd rfl hm
    · omega
    · omega
  · rename_i up
    rw [if_neg up, hnext]
    rcases hplace with below | rfl | rfl | above
    · omega
    · omega
    · exact absurd rfl hm
    · omega

theorem le_divToEven (num den : Nat) : num / den ≤ divToEven num den := by
  unfold divToEven
  split <;> omega

theorem divToEven_le (num den : Nat) : divToEven num den ≤ num / den + 1 := by
  unfold divToEven
  split <;> omega

namespace Double

theorem units_quotient {step q : Nat} (hlow : step = 0 ∨ twoTo 52 ≤ q) (hhigh : q ≤ 2 * twoTo 52) :
    units (step * twoTo 52 + q) = q * twoTo step := by
  have hpos : 0 < twoTo 52 := twoTo_pos 52
  unfold units
  generalize twoTo 52 = base at *
  by_cases small : step * base + q < base
  · rw [if_pos small]
    obtain rfl : step = 0 := by
      rcases hlow with zero | large
      · exact zero
      · omega
    simp [twoTo]
  · rw [if_neg small]
    have large : base ≤ q := by
      rcases hlow with rfl | large
      · omega
      · exact large
    by_cases last : q = 2 * base
    · have index : step * base + q = base * (step + 2) := by
        rw [last]
        ring
      rw [index, Nat.mul_mod_right, Nat.mul_div_cancel_left _ hpos, last]
      have power : twoTo (step + 1) = 2 * twoTo step := by
        rw [twoTo_add, Nat.mul_comm]
        rfl
      rw [Nat.add_zero, Nat.add_sub_assoc (by omega), power]
      ring
    · have index : step * base + q = (q - base) + base * (step + 1) := by
        rw [Nat.mul_succ, Nat.mul_comm base step]
        omega
      rw [index, Nat.add_mul_mod_self_left, Nat.add_mul_div_left _ _ hpos,
        Nat.mod_eq_of_lt (by omega), Nat.div_eq_of_lt (by omega), Nat.zero_add,
        Nat.add_sub_cancel]
      congr 1
      omega

/-- The magnitude is nearer to `scaled / den` units than the other one, or as near and of an even
number. -/
def Nearer (scaled den i j : Nat) : Prop :=
  Nat.dist (units i * den) scaled < Nat.dist (units j * den) scaled ∨
    Nat.dist (units i * den) scaled = Nat.dist (units j * den) scaled ∧ i % 2 = 0

/-- Between the ends of the magnitudes with one spacing the multiple that is found is nearest;
beyond the ends magnitudes are even further away. -/
theorem nearer_of_bounds {scaled den step : Nat} (hden : 0 < den)
    (hlow : step = 0 ∨ twoTo 52 * (den * twoTo step) ≤ scaled)
    (hhigh : scaled < 2 * twoTo 52 * (den * twoTo step)) {j : Nat}
    (hj : j ≠ step * twoTo 52 + divToEven scaled (den * twoTo step)) :
    Nearer scaled den (step * twoTo 52 + divToEven scaled (den * twoTo step)) j := by
  have hunit : 0 < den * twoTo step := Nat.mul_pos hden (twoTo_pos step)
  generalize hq : divToEven scaled (den * twoTo step) = q at hj ⊢
  have nearest : ∀ m, m ≠ q →
      Nat.dist (q * (den * twoTo step)) scaled < Nat.dist (m * (den * twoTo step)) scaled ∨
        Nat.dist (q * (den * twoTo step)) scaled = Nat.dist (m * (den * twoTo step)) scaled ∧
          q % 2 = 0 := by
    intro m hm
    rw [← hq] at hm ⊢
    exact divToEven_nearest hunit hm
  have notFar : ∀ m, Nat.dist (q * (den * twoTo step)) scaled ≤
      Nat.dist (m * (den * twoTo step)) scaled := by
    intro m
    by_cases same : m = q
    · rw [same]
    · rcases nearest m same with lt | ⟨eq, -⟩
      · exact lt.le
      · exact eq.le
  have atLeast : step = 0 ∨ twoTo 52 ≤ q := by
    refine hlow.imp_right fun bound => ?_
    rw [← hq]
    exact ((Nat.le_div_iff_mul_le hunit).mpr bound).trans (le_divToEven _ _)
  have atMost : q ≤ 2 * twoTo 52 := by
    rw [← hq]
    exact (divToEven_le _ _).trans ((Nat.div_lt_iff_lt_mul hunit).mpr hhigh)
  have scale : ∀ m, (step = 0 ∨ twoTo 52 ≤ m) → m ≤ 2 * twoTo 52 →
      units (step * twoTo 52 + m) * den = m * (den * twoTo step) := by
    intro m hm hm'
    rw [units_quotient hm hm']
    ring
  unfold Nearer
  rw [scale q atLeast atMost]
  by_cases below : j < step * twoTo 52 + twoTo 52 ∧ step ≠ 0
  · have bound := hlow.resolve_left below.2
    have lowEnd := notFar (twoTo 52)
    have away : units j * den < twoTo 52 * (den * twoTo step) := by
      rw [← scale (twoTo 52) (Or.inr le_rfl) (by omega)]
      exact Nat.mul_lt_mul_of_pos_right (units_lt_units below.1) hden
    left
    unfold Nat.dist at lowEnd ⊢
    omega
  · by_cases above : step * twoTo 52 + 2 * twoTo 52 < j
    · have highEnd := notFar (2 * twoTo 52)
      have away : 2 * twoTo 52 * (den * twoTo step) < units j * den := by
        rw [← scale (2 * twoTo 52) (Or.inr (by omega)) le_rfl]
        exact Nat.mul_lt_mul_of_pos_right (units_lt_units above) hden
      left
      unfold Nat.dist at highEnd ⊢
      omega
    · obtain ⟨m, rfl⟩ : ∃ m, j = step * twoTo 52 + m := by
        refine ⟨j - step * twoTo 52, ?_⟩
        by_cases zero : step = 0
        · rw [zero]
          omega
        · omega
      have even : (step * twoTo 52) % 2 = 0 := by
        have base : twoTo 52 % 2 = 0 := by decide
        rw [Nat.mul_mod, base, Nat.mul_zero, Nat.zero_mod]
      rw [scale m (by omega) (by omega)]
      refine (nearest m (by omega)).imp_right fun ⟨same, half⟩ => ⟨same, ?_⟩
      omega

/-- The spacing that is chosen fits the ratio. -/
theorem spacing_bounds (scaled : Nat) {den step : Nat} (hden : 0 < den)
    (hstep : step = if scaled / den < twoTo 53 then 0 else (scaled / den).log2 - 52) :
    (step = 0 ∨ twoTo 52 * (den * twoTo step) ≤ scaled) ∧
      scaled < 2 * twoTo 52 * (den * twoTo step) := by
  by_cases small : scaled / den < twoTo 53
  · rw [if_pos small] at hstep
    have bound : scaled < twoTo 53 * den := (Nat.div_lt_iff_lt_mul hden).mp small
    have double : twoTo 53 = 2 * twoTo 52 := by decide
    refine ⟨Or.inl hstep, ?_⟩
    rw [hstep, ← double, show twoTo 0 = 1 from rfl, Nat.mul_one]
    exact bound
  · rw [if_neg small] at hstep
    have nonzero : scaled / den ≠ 0 := by
      have pos := twoTo_pos 53
      omega
    have below : 2 ^ (scaled / den).log2 ≤ scaled / den := Nat.log2_self_le nonzero
    have above : scaled / den < 2 ^ ((scaled / den).log2 + 1) := Nat.lt_log2_self
    have large : 53 ≤ (scaled / den).log2 := by
      rw [Nat.le_log2 nonzero]
      exact Nat.not_lt.mp small
    have power : twoTo 52 * twoTo step = 2 ^ (scaled / den).log2 := by
      rw [← twoTo_add, hstep, Nat.add_sub_cancel' (by omega)]
      rfl
    have lower : twoTo 52 * (den * twoTo step) = 2 ^ (scaled / den).log2 * den := by
      rw [← power]
      ring
    have upper : 2 * twoTo 52 * (den * twoTo step) = 2 ^ ((scaled / den).log2 + 1) * den := by
      rw [Nat.pow_succ, ← power]
      ring
    rw [lower, upper]
    exact ⟨Or.inr ((Nat.le_div_iff_mul_le hden).mp below), (Nat.div_lt_iff_lt_mul hden).mp above⟩

/-- No magnitude is nearer to `num / den`, and one that is as near has an odd number. -/
def IsNearest (num den index : Nat) : Prop :=
  index ≤ infinityIndex ∧
    ∀ j ≤ infinityIndex, j ≠ index → Nearer (num * twoTo 1074) den index j

/-- If infinity is below the nearest number of an unbounded range it is the nearest itself. -/
theorem isNearest_min {num den i : Nat}
    (h : ∀ j, j ≠ i → Nearer (num * twoTo 1074) den i j) (hden : 0 < den) :
    IsNearest num den (min infinityIndex i) := by
  refine ⟨Nat.min_le_left _ _, fun j hj hne => ?_⟩
  by_cases inside : i ≤ infinityIndex
  · rw [Nat.min_eq_right inside] at hne ⊢
    exact h j hne
  · rw [Nat.min_eq_left (by omega)] at hne ⊢
    have first : units j * den < units infinityIndex * den :=
      Nat.mul_lt_mul_of_pos_right (units_lt_units (by omega)) hden
    have second : units infinityIndex * den < units i * den :=
      Nat.mul_lt_mul_of_pos_right (units_lt_units (by omega)) hden
    have nearer := h infinityIndex (by omega)
    left
    unfold Nearer Nat.dist at nearer
    unfold Nat.dist
    omega

theorem nearestIndex_isNearest (num : Nat) {den : Nat} (hden : 0 < den) :
    IsNearest num den (nearestIndex num den) := by
  have bounds := spacing_bounds (num * twoTo 1074) hden rfl
  exact isNearest_min (fun j hj => nearer_of_bounds hden bounds.1 bounds.2 hj) hden

theorem index_eq_of_units_eq {i j : Nat} (h : units i = units j) : i = j := by
  rcases Nat.lt_trichotomy i j with below | same | above
  · have lt := units_lt_units below
    omega
  · exact same
  · have lt := units_lt_units above
    omega

theorem index_le_of_units_le {i j : Nat} (h : units i ≤ units j) : i ≤ j := by
  by_contra above
  have lt := units_lt_units (Nat.not_le.mp above)
  omega

section Order

variable {num den index j : Nat} (h : IsNearest num den index) (hden : 0 < den)
  (hj : j ≤ infinityIndex)

include h hden hj

/-- Rounding does not fall below a double that the ratio does not fall below. -/
theorem IsNearest.units_le (below : units j * den ≤ num * twoTo 1074) :
    units j ≤ units index := by
  by_contra less
  have other : j ≠ index := by
    rintro rfl
    exact less le_rfl
  have nearer := h.2 j hj other
  have closer : units index * den < units j * den :=
    Nat.mul_lt_mul_of_pos_right (Nat.not_le.mp less) hden
  unfold Nearer Nat.dist at nearer
  omega

/-- Rounding does not go beyond a double that the ratio does not go beyond. -/
theorem IsNearest.le_units (above : num * twoTo 1074 ≤ units j * den) :
    units index ≤ units j := by
  by_contra more
  have other : j ≠ index := by
    rintro rfl
    exact more le_rfl
  have nearer := h.2 j hj other
  have further : units j * den < units index * den :=
    Nat.mul_lt_mul_of_pos_right (Nat.not_le.mp more) hden
  unfold Nearer Nat.dist at nearer
  omega

end Order

theorem nearestIndex_zero (den : Nat) : nearestIndex 0 den = 0 := by
  have nothing : ∀ m, divToEven 0 m = 0 := by
    intro m
    rw [divToEven, Nat.zero_mod, Nat.zero_div, if_pos]
    omega
  unfold nearestIndex
  dsimp only
  rw [Nat.zero_mul, Nat.zero_div, if_pos (twoTo_pos 53), Nat.zero_mul, Nat.zero_add, nothing,
    Nat.min_zero]

theorem isNearest_ofNat (n : Nat) : (ofNat n).negative = false ∧ IsNearest n 1 (ofNat n).index :=
  ⟨rfl, nearestIndex_isNearest n Nat.one_pos⟩

theorem le_log2_of_twoTo_le {e n : Nat} (h : twoTo e ≤ n) : e ≤ n.log2 := by
  have pos := twoTo_pos e
  exact (Nat.le_log2 (by omega)).mpr h

/-- What has more than 1025 binary digits is beyond the range. -/
theorem nearestIndex_of_large {n : Nat} (h : twoTo 1025 ≤ n) :
    nearestIndex n 1 = infinityIndex := by
  have whole : twoTo 2099 ≤ n * twoTo 1074 / 1 := by
    rw [Nat.div_one, show twoTo 2099 = twoTo 1025 * twoTo 1074 from twoTo_add 1025 1074]
    exact Nat.mul_le_mul_right _ h
  have large : ¬ n * twoTo 1074 / 1 < twoTo 53 := by
    have power : twoTo 53 ≤ twoTo 2099 := by
      rw [show twoTo 2099 = twoTo 53 * twoTo 2046 from twoTo_add 53 2046]
      exact Nat.le_mul_of_pos_right _ (twoTo_pos 2046)
    omega
  have log : 2047 + 52 ≤ (n * twoTo 1074 / 1).log2 := le_log2_of_twoTo_le whole
  have first : infinityIndex = 2047 * twoTo 52 := by decide
  unfold nearestIndex
  dsimp only
  rw [if_neg large]
  refine Nat.min_eq_left (Nat.le_trans ?_ (Nat.le_add_right _ _))
  rw [first]
  exact Nat.mul_le_mul_right _ (Nat.le_sub_of_add_le log)

end Double

/-- The range of doubles ends between two powers of ten. -/
theorem range_bounds : tenTo 308 < twoTo 1024 ∧ twoTo 1025 < tenTo 309 := by decide +kernel

theorem tenTo_le_of_length {n e : Nat} (he : 0 < e) (h : e < (Nat.toDigits 10 n).length) :
    tenTo e ≤ n := by
  by_contra small
  have short : (Nat.toDigits 10 n).length ≤ e :=
    (Nat.length_toDigits_le_iff (by omega) he).mpr (Nat.not_le.mp small)
  omega

/-- The shortcuts for very long numbers change nothing. -/
theorem Decimal.toDouble_ofNat (n : Nat) : Decimal.toDouble false ⟨n, 0⟩ = Double.ofNat n := by
  have index : Decimal.nearestIndex ⟨n, 0⟩ = Double.nearestIndex n 1 := by
    have ratio : Decimal.ratio ⟨n, 0⟩ = (n, 1) := by
      unfold Decimal.ratio
      rw [if_pos (Int.le_refl 0)]
      simp [tenTo]
    have leading : Decimal.leadingExponent ⟨n, 0⟩ = (Nat.toDigits 10 n).length - 1 := by
      unfold Decimal.leadingExponent Decimal.digits
      simp
    have some_digit : 0 < (Nat.toDigits 10 n).length := Nat.length_toDigits_pos
    unfold Decimal.nearestIndex
    rw [ratio, leading]
    by_cases zero : n = 0
    · rw [if_pos (Or.inl zero), zero, Double.nearestIndex_zero]
    · rw [if_neg (by simp only [zero, false_or]; omega)]
      by_cases long : (310 : Int) < (Nat.toDigits 10 n).length - 1
      · have large : tenTo 309 ≤ n := tenTo_le_of_length (by omega) (by omega)
        rw [if_pos long, Double.nearestIndex_of_large (range_bounds.2.le.trans large)]
      · rw [if_neg long]
  unfold Decimal.toDouble Double.ofNat Double.ofRatio
  simp only [index]

end SqlTutor

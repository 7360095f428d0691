import SqlTutor.Proofs.Double.Nearest

/-!
Results that stay finite, and what rounding adds to them. Whole numbers of 64 bits are finite
doubles, and so is a finite double that is divided by one not below 1. Within the range of normal
doubles rounding changes a ratio by one part in 2^52 at most; nothing is said of ratios below it.
-/
namespace SqlTutor.Double

/-- The magnitudes at which the spacing changes are powers of two. -/
theorem units_power (step : Nat) : units ((step + 1) * twoTo 52) = twoTo (step + 52) := by
  rw [Nat.succ_mul, units_quotient (Or.inr le_rfl) (Nat.le_mul_of_pos_left _ (by decide)),
    Nat.add_comm step, twoTo_add]

/-- The number of the magnitude 1. -/
def oneIndex : Nat := 1023 * twoTo 52

theorem units_oneIndex : units oneIndex = twoTo 1074 := units_power 1022

theorem isFinite_of_le {num den j : Nat} (hden : 0 < den) (hj : j < infinityIndex)
    (above : num * twoTo 1074 ≤ units j * den) (negative : Bool) :
    (ofRatio negative num den).isFinite := by
  have bound := (nearestIndex_isNearest num hden).le_units hden hj.le above
  exact decide_eq_true (Nat.lt_of_le_of_lt (index_le_of_units_le bound) hj)

theorem isFinite_ofRatio {n : Nat} (h : n ≤ twoTo 64) (negative : Bool) :
    (ofRatio negative n 1).isFinite := by
  have power : units (1087 * twoTo 52) = twoTo 64 * twoTo 1074 :=
    (units_power 1086).trans (twoTo_add 64 1074)
  refine isFinite_of_le Nat.one_pos (by decide : 1087 * twoTo 52 < infinityIndex) ?_ negative
  rw [power, Nat.mul_one]
  exact Nat.mul_le_mul_right _ h

theorem isFinite_quotient {x y : Double} (hx : x.isFinite) (hy : twoTo 1074 ≤ units y.index) :
    (x.quotient y).isFinite := by
  refine isFinite_of_le ((twoTo_pos _).trans_le hy) (of_decide_eq_true hx) ?_ _
  exact Nat.mul_le_mul_left _ hy

theorem one_le_ofNat {n : Nat} (h : 0 < n) : twoTo 1074 ≤ units (ofNat n).index := by
  rw [← units_oneIndex]
  refine (isNearest_ofNat n).2.units_le Nat.one_pos (by decide) ?_
  rw [units_oneIndex, Nat.mul_one]
  exact Nat.le_mul_of_pos_left _ h

theorem units_infinityIndex : units infinityIndex = twoTo 1024 * twoTo 1074 := by
  have first : infinityIndex = (2046 + 1) * twoTo 52 := by decide
  rw [first, units_power, ← twoTo_add]

/-- The greatest finite magnitude. -/
theorem units_infinityIndex_pred :
    units (infinityIndex - 1) = (twoTo 1024 - twoTo 971) * twoTo 1074 := by
  have last : infinityIndex - 1 = 2045 * twoTo 52 + (twoTo 53 - 1) := by decide
  have digits : twoTo 52 ≤ twoTo 53 - 1 ∧ twoTo 53 - 1 ≤ 2 * twoTo 52 := by decide
  have power : twoTo 2045 = twoTo 971 * twoTo 1074 := twoTo_add 971 1074
  have ends : twoTo 1024 = twoTo 53 * twoTo 971 := twoTo_add 53 971
  rw [last, units_quotient (Or.inr digits.1) digits.2, power, ends, ← Nat.mul_assoc, Nat.sub_mul,
    Nat.one_mul]

/-- A ratio lies between two neighbours that are one part in 2^52 apart. -/
theorem exists_neighbours {num den : Nat} (hden : 0 < den)
    (normal : twoTo 52 * den ≤ num * twoTo 1074) (range : num < twoTo 1024 * den) :
    ∃ j < infinityIndex, units j * den ≤ num * twoTo 1074 ∧
      num * twoTo 1074 ≤ units (j + 1) * den ∧
      units (j + 1) * twoTo 52 ≤ units j * (twoTo 52 + 1) := by
  obtain ⟨step, hstep⟩ : ∃ step, step = if num * twoTo 1074 / den < twoTo 53 then 0
      else (num * twoTo 1074 / den).log2 - 52 := ⟨_, rfl⟩
  obtain ⟨low, high⟩ := spacing_bounds (num * twoTo 1074) hden hstep
  have hunit : 0 < den * twoTo step := Nat.mul_pos hden (twoTo_pos step)
  have least : twoTo 52 * (den * twoTo step) ≤ num * twoTo 1074 := by
    rcases low with rfl | low
    · exact normal.trans_eq' (by rw [show twoTo 0 = 1 from rfl, Nat.mul_one])
    · exact low
  obtain ⟨q, hq⟩ : ∃ q, q = num * twoTo 1074 / (den * twoTo step) := ⟨_, rfl⟩
  have atLeast : twoTo 52 ≤ q := hq ▸ (Nat.le_div_iff_mul_le hunit).mpr least
  have atMost : q < 2 * twoTo 52 := hq ▸ (Nat.div_lt_iff_lt_mul hunit).mpr high
  have lower : units (step * twoTo 52 + q) * den ≤ num * twoTo 1074 := by
    rw [units_quotient (Or.inr atLeast) atMost.le, Nat.mul_assoc, Nat.mul_comm (twoTo step), hq]
    exact Nat.div_mul_le_self _ _
  have upper : num * twoTo 1074 ≤ units (step * twoTo 52 + q + 1) * den := by
    rw [Nat.add_assoc, units_quotient (Or.inr (by omega)) atMost, Nat.mul_assoc,
      Nat.mul_comm (twoTo step), hq]
    exact (Nat.lt_mul_of_div_lt (Nat.lt_succ_self _) hunit).le
  refine ⟨step * twoTo 52 + q, ?_, lower, upper, ?_⟩
  · by_contra beyond
    have first : units infinityIndex ≤ units (step * twoTo 52 + q) := by
      rcases Nat.lt_or_eq_of_le (Nat.not_lt.mp beyond) with lt | eq
      · exact (units_lt_units lt).le
      · rw [eq]
    have second := Nat.mul_lt_mul_of_pos_right range (twoTo_pos 1074)
    have third := (Nat.mul_le_mul_right den first).trans lower
    rw [units_infinityIndex, Nat.mul_right_comm] at third
    omega
  · rw [Nat.add_assoc, units_quotient (Or.inr (by omega)) atMost,
      units_quotient (Or.inr atLeast) atMost.le, Nat.mul_right_comm, Nat.mul_right_comm q]
    refine Nat.mul_le_mul_right _ ?_
    rw [Nat.succ_mul, Nat.mul_succ]
    exact Nat.add_le_add_left atLeast _

theorem IsNearest.close {num den index : Nat} (h : IsNearest num den index) (hden : 0 < den)
    (normal : twoTo 52 * den ≤ num * twoTo 1074) (range : num < twoTo 1024 * den) :
    units index * den * twoTo 52 ≤ num * twoTo 1074 * (twoTo 52 + 1) ∧
      num * twoTo 1074 * twoTo 52 ≤ units index * den * (twoTo 52 + 1) := by
  obtain ⟨j, finite, lower, upper, near⟩ := exists_neighbours hden normal range
  have below := h.units_le hden finite.le lower
  have above := h.le_units hden finite upper
  constructor
  · calc
      units index * den * twoTo 52 ≤ units (j + 1) * den * twoTo 52 :=
        Nat.mul_le_mul_right _ (Nat.mul_le_mul_right _ above)
      _ = units (j + 1) * twoTo 52 * den := Nat.mul_right_comm _ _ _
      _ ≤ units j * (twoTo 52 + 1) * den := Nat.mul_le_mul_right _ near
      _ = units j * den * (twoTo 52 + 1) := Nat.mul_right_comm _ _ _
      _ ≤ _ := Nat.mul_le_mul_right _ lower
  · calc
      num * twoTo 1074 * twoTo 52 ≤ units (j + 1) * den * twoTo 52 :=
        Nat.mul_le_mul_right _ upper
      _ = units (j + 1) * twoTo 52 * den := Nat.mul_right_comm _ _ _
      _ ≤ units j * (twoTo 52 + 1) * den := Nat.mul_le_mul_right _ near
      _ ≤ units index * (twoTo 52 + 1) * den :=
        Nat.mul_le_mul_right _ (Nat.mul_le_mul_right _ below)
      _ = _ := Nat.mul_right_comm _ _ _

end SqlTutor.Double

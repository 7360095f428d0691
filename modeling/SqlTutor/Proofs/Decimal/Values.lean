import SqlTutor.Decimal.Shortest
import SqlTutor.Proofs.Double.Integers
import Mathlib.Algebra.Order.Field.Power
import Mathlib.Data.List.TakeWhile
import Mathlib.Tactic.FieldSimp
import Mathlib.Tactic.Linarith
import Mathlib.Tactic.Positivity

/-!
Rounding sees the number that a decimal stands for, and not how it is spread over significand and
exponent. The digits that are chosen for a finite magnitude round to that magnitude, whichever of
the candidates they come from.
-/
namespace SqlTutor

theorem tenTo_toNat {e : Int} (h : 0 ≤ e) : (tenTo e.toNat : ℚ) = 10 ^ e := by
  obtain ⟨k, rfl⟩ := Int.eq_ofNat_of_zero_le h
  rw [Int.toNat_natCast, zpow_natCast]
  exact Nat.cast_pow 10 k

namespace Double

theorem nearestIndex_mul_right (num den : Nat) {k : Nat} (hk : 0 < k) :
    nearestIndex (num * k) (den * k) = nearestIndex num den := by
  unfold nearestIndex
  rw [Nat.mul_right_comm num k, Nat.mul_div_mul_right _ _ hk]
  simp only [Nat.mul_right_comm den k, divToEven_mul_mul_right _ _ hk]

/-- Equal ratios are rounded alike. -/
theorem nearestIndex_eq_of_ratio_eq {num den num' den' : Nat} (hden : 0 < den) (hden' : 0 < den')
    (same : (num : ℚ) / den = num' / den') : nearestIndex num den = nearestIndex num' den' := by
  have cross : num * den' = num' * den := by
    have fields : (num : ℚ) * den' = num' * den := (div_eq_div_iff (by positivity)
      (by positivity)).mp same
    exact_mod_cast fields
  calc
    nearestIndex num den = nearestIndex (num * den') (den * den') :=
      (nearestIndex_mul_right num den hden').symm
    _ = nearestIndex (num' * den) (den' * den) := by rw [cross, Nat.mul_comm den]
    _ = nearestIndex num' den' := nearestIndex_mul_right num' den' hden

/-- A ratio that is a magnitude is rounded to it. -/
theorem nearestIndex_units {index : Nat} (h : index ≤ infinityIndex) :
    nearestIndex (units index) (twoTo 1074) = index := by
  have hden := twoTo_pos 1074
  have nearest := nearestIndex_isNearest (units index) hden
  refine index_eq_of_units_eq (Nat.le_antisymm ?_ ?_)
  · exact nearest.le_units hden h le_rfl
  · exact nearest.units_le hden h le_rfl

end Double

theorem ofDigitChars_append_zeros (digits : List Char) (n : Nat) :
    Nat.ofDigitChars 10 (digits ++ List.replicate n '0') 0 =
      Nat.ofDigitChars 10 digits 0 * tenTo n := by
  rw [Nat.ofDigitChars_append, Nat.ofDigitChars_replicate_zero, Nat.mul_comm]
  rfl

namespace Decimal

open Double

/-- The number that a decimal stands for. -/
def value (d : Decimal) : ℚ := d.significand * 10 ^ d.exponent

theorem significand_eq_zero_iff (d : Decimal) : d.significand = 0 ↔ d.value = 0 := by
  have power : (10 : ℚ) ^ d.exponent ≠ 0 := by positivity
  simp [value, power]

theorem ratio_pos (d : Decimal) : 0 < d.ratio.2 := by
  unfold ratio
  split
  · exact Nat.one_pos
  · exact tenTo_pos _

theorem ratio_eq_value (d : Decimal) : (d.ratio.1 : ℚ) / d.ratio.2 = d.value := by
  unfold ratio value
  split
  · rename_i nonneg
    rw [Nat.cast_mul, tenTo_toNat nonneg, Nat.cast_one, div_one]
  · rename_i negative
    rw [tenTo_toNat (by omega), zpow_neg, div_inv_eq_mul]

/-- The first digit is not zero, and so tells the order of magnitude. -/
theorem leadingExponent_bounds {d : Decimal} (h : d.significand ≠ 0) :
    10 ^ d.leadingExponent ≤ d.value ∧ d.value < 10 ^ (d.leadingExponent + 1) := by
  obtain ⟨e, he⟩ : ∃ e, d.digits.length = e + 1 :=
    Nat.exists_eq_add_one.mpr Nat.length_toDigits_pos
  have leading : d.leadingExponent = e + d.exponent := by
    unfold leadingExponent
    omega
  have power : (0 : ℚ) < 10 ^ d.exponent := by positivity
  have low : 10 ^ e ≤ d.significand := by
    by_cases one : e = 0
    · rw [one]
      exact Nat.pos_of_ne_zero h
    · exact tenTo_le_of_length (Nat.pos_of_ne_zero one) (by unfold digits at he; omega)
  have high : d.significand < 10 ^ (e + 1) :=
    (Nat.length_toDigits_le_iff (by decide) (Nat.succ_pos e)).mp he.le
  rw [leading, add_right_comm, zpow_add₀ (by decide), zpow_add₀ (by decide)]
  constructor
  · refine mul_le_mul_of_nonneg_right ?_ power.le
    exact_mod_cast low
  · refine mul_lt_mul_of_pos_right ?_ power
    exact_mod_cast high

theorem leadingExponent_le {d e : Decimal} (h : d.significand ≠ 0) (he : e.significand ≠ 0)
    (le : d.value ≤ e.value) : d.leadingExponent ≤ e.leadingExponent := by
  have between : (10 : ℚ) ^ d.leadingExponent < 10 ^ (e.leadingExponent + 1) :=
    (leadingExponent_bounds h).1.trans_lt (le.trans_lt (leadingExponent_bounds he).2)
  have less := (zpow_lt_zpow_iff_right₀ (by norm_num)).mp between
  omega

/-- Decimals that stand for one number are rounded alike. -/
theorem nearestIndex_eq_of_value_eq {d e : Decimal} (same : d.value = e.value) :
    d.nearestIndex = e.nearestIndex := by
  by_cases zero : d.value = 0
  · have first : d.significand = 0 := (significand_eq_zero_iff d).mpr zero
    have second : e.significand = 0 := (significand_eq_zero_iff e).mpr (same ▸ zero)
    simp [nearestIndex, first, second]
  · have first : d.significand ≠ 0 := fun h => zero ((significand_eq_zero_iff d).mp h)
    have second : e.significand ≠ 0 := fun h => zero (same ▸ (significand_eq_zero_iff e).mp h)
    have leading : d.leadingExponent = e.leadingExponent :=
      le_antisymm (leadingExponent_le first second same.le)
        (leadingExponent_le second first same.ge)
    have ratios : Double.nearestIndex d.ratio.1 d.ratio.2 =
        Double.nearestIndex e.ratio.1 e.ratio.2 :=
      nearestIndex_eq_of_ratio_eq d.ratio_pos e.ratio_pos
        (d.ratio_eq_value.trans (same.trans e.ratio_eq_value.symm))
    simp only [nearestIndex, first, second, leading, ratios]

/-- Taking zeros off the end changes no number. -/
theorem value_strip (d : Decimal) : d.strip.value = d.value := by
  obtain ⟨zeros, hzeros⟩ : ∃ zeros, zeros = (d.digits.reverse.takeWhile (· == '0')).length :=
    ⟨_, rfl⟩
  have cut : d.digits =
      (d.digits.reverse.dropWhile (· == '0')).reverse ++ List.replicate zeros '0' := by
    have same : d.digits.reverse.takeWhile (· == '0') = List.replicate zeros '0' := by
      refine List.eq_replicate_iff.mpr ⟨hzeros.symm, fun c hc => ?_⟩
      have passed := List.mem_takeWhile_imp (p := (· == '0')) hc
      exact beq_iff_eq.mp passed
    rw [← List.reverse_replicate, ← same, ← List.reverse_append,
      List.takeWhile_append_dropWhile, List.reverse_reverse]
  have split : d.significand =
      Nat.ofDigitChars 10 (d.digits.reverse.dropWhile (· == '0')).reverse 0 * tenTo zeros := by
    rw [← ofDigitChars_append_zeros, ← cut]
    exact Nat.ofDigitChars_ten_toDigits.symm
  unfold strip
  dsimp only
  rw [← hzeros]
  split_ifs with zero
  · simp [value, zero]
  · have power : (tenTo zeros : ℚ) = 10 ^ (zeros : Int) := by
      rw [← tenTo_toNat (Int.natCast_nonneg zeros), Int.toNat_natCast]
    unfold value
    rw [split, Nat.mul_div_cancel _ (tenTo_pos zeros), zpow_add₀ (by decide), Nat.cast_mul, power]
    ring

/-- Powers of ten beyond both ends of the doubles. -/
theorem ends_lt : twoTo 1074 < tenTo 324 ∧ twoTo 1024 < tenTo 309 := by decide +kernel

theorem value_mul_fives (u n : Nat) : value ⟨u * Nat.pow 5 n, -(n : Int)⟩ = u / twoTo n := by
  have five : ((Nat.pow 5 n : Nat) : ℚ) = 5 ^ n := Nat.cast_pow 5 n
  have two : (twoTo n : ℚ) = 2 ^ n := Nat.cast_pow 2 n
  have ten : (10 : ℚ) ^ n = 2 ^ n * 5 ^ n := by
    rw [← mul_pow]
    norm_num
  rw [value, Nat.cast_mul, five, two, zpow_neg, zpow_natCast, ten]
  field_simp

theorem value_exact (index : Nat) : (exact index).value = units index / twoTo 1074 := by
  -- the powers are too large to be worked out, so their exponent is given a name
  obtain ⟨n, hn⟩ : ∃ n, n = 1074 := ⟨_, rfl⟩
  have places : (-1074 : Int) = -(n : Int) := by omega
  rw [exact, places, ← hn, value_mul_fives]

theorem significand_exact_eq_zero_iff (index : Nat) :
    (exact index).significand = 0 ↔ units index = 0 := by
  have unit : (twoTo 1074 : ℚ) ≠ 0 := Nat.cast_ne_zero.mpr (twoTo_pos 1074).ne'
  rw [significand_eq_zero_iff, value_exact, div_eq_zero_iff, or_iff_left unit, Nat.cast_eq_zero]

theorem leadingExponent_exact {index : Nat} (h : index < infinityIndex)
    (nonzero : units index ≠ 0) :
    -330 ≤ (exact index).leadingExponent ∧ (exact index).leadingExponent ≤ 310 := by
  have bounds := leadingExponent_bounds ((significand_exact_eq_zero_iff index).not.mpr nonzero)
  have unit : (0 : ℚ) < twoTo 1074 := by exact_mod_cast twoTo_pos 1074
  have positive : 1 ≤ units index := Nat.pos_of_ne_zero nonzero
  have low : (10 : ℚ) ^ (-324 : Int) < (exact index).value := by
    have ten : (10 : ℚ) ^ (324 : Int) = tenTo 324 := (tenTo_toNat (by decide)).symm
    calc
      (10 : ℚ) ^ (-324 : Int) = 1 / tenTo 324 := by rw [zpow_neg, ten, one_div]
      _ < 1 / twoTo 1074 := one_div_lt_one_div_of_lt unit (by exact_mod_cast ends_lt.1)
      _ ≤ units index / twoTo 1074 := by
        refine div_le_div_of_nonneg_right ?_ unit.le
        exact_mod_cast positive
      _ = (exact index).value := (value_exact index).symm
  have high : (exact index).value < 10 ^ (309 : Int) := by
    have ten : (10 : ℚ) ^ (309 : Int) = tenTo 309 := (tenTo_toNat (by decide)).symm
    have less := units_lt_units h
    rw [units_infinityIndex] at less
    rw [value_exact, div_lt_iff₀ unit, ten]
    exact_mod_cast less.trans (Nat.mul_lt_mul_of_pos_right ends_lt.2 (twoTo_pos 1074))
  have least := (zpow_lt_zpow_iff_right₀ (by norm_num)).mp (low.trans bounds.2)
  have greatest := (zpow_lt_zpow_iff_right₀ (by norm_num)).mp (bounds.1.trans_lt high)
  omega

/-- The value written out in full is the magnitude itself. -/
theorem nearestIndex_exact {index : Nat} (h : index < infinityIndex) :
    (exact index).nearestIndex = index := by
  by_cases zero : units index = 0
  · have none : units 0 = 0 := if_pos (twoTo_pos 52)
    rw [nearestIndex, if_pos (Or.inl ((significand_exact_eq_zero_iff index).mpr zero))]
    exact index_eq_of_units_eq (none.trans zero.symm)
  · have nonzero : (exact index).significand ≠ 0 :=
      (significand_exact_eq_zero_iff index).not.mpr zero
    obtain ⟨least, greatest⟩ := leadingExponent_exact h zero
    have ratios := (exact index).ratio_eq_value.trans (value_exact index)
    rw [nearestIndex, if_neg (by omega), if_neg (by omega),
      nearestIndex_eq_of_ratio_eq (exact index).ratio_pos (twoTo_pos 1074) ratios,
      nearestIndex_units h.le]

theorem nearestIndex_shortest (tie : Tie) {index : Nat} (h : index < infinityIndex) :
    (shortest tie index).nearestIndex = index := by
  unfold shortest
  rw [nearestIndex_eq_of_value_eq (value_strip _)]
  cases found : (List.range 17).findSome? fun (more : Nat) =>
      (neighbours tie index (magnitudeExponent index - more)).find? (readsBack index) with
  | none => exact nearestIndex_exact h
  | some d =>
    obtain ⟨more, -, tried⟩ := List.exists_of_findSome?_eq_some found
    have back : readsBack index d = true := List.find?_some tried
    exact beq_iff_eq.mp back

end Decimal

end SqlTutor

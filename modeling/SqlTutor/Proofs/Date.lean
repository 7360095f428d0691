import SqlTutor.Date
import Mathlib.Algebra.Order.Group.Unbundled.Int
import Mathlib.Data.String.Basic
import Std.Time.Date.PlainDate

/-!
Dates are written as texts, and texts are compared character by character. Numbers that are filled
up with zeros to the same number of places are compared as numbers, and what stands behind them
decides only if they are equal. So in the years 0 to 9999 the texts of dates are compared as the
dates are in the calendar; all other years are written with a sign.
-/
namespace SqlTutor

open Std.Time

theorem compares_compareLex (l m : List Char) : (l.compareLex compare m).Compares l m := by
  induction l generalizing m with
  | nil =>
    cases m with
    | nil => rfl
    | cons d m => exact List.nil_lt_cons d m
  | cons c l ih =>
    cases m with
    | nil => exact List.nil_lt_cons c l
    | cons d m =>
      rw [List.compareLex_cons_cons]
      cases first : compare c d with
      | lt => exact List.cons_lt_cons_iff.mpr (Or.inl (compare_lt_iff_lt.mp first))
      | gt => exact List.cons_lt_cons_iff.mpr (Or.inl (compare_gt_iff_gt.mp first))
      | eq =>
        obtain rfl := compare_eq_iff_eq.mp first
        have rest := ih m
        rw [Ordering.eq_then]
        cases h : l.compareLex compare m with rw [h] at rest
        | lt => exact List.cons_lt_cons_iff.mpr (Or.inr ⟨rfl, rest⟩)
        | eq => exact congrArg (List.cons c) rest
        | gt => exact List.cons_lt_cons_iff.mpr (Or.inr ⟨rfl, rest⟩)

theorem compare_ofList (l m : List Char) :
    compare (String.ofList l) (String.ofList m) = l.compareLex compare m := by
  have compares := compares_compareLex l m
  rw [compare_iff]
  cases h : l.compareLex compare m with rw [h] at compares
  | lt =>
    change String.ofList l < String.ofList m
    rwa [String.lt_iff_toList_lt, String.toList_ofList, String.toList_ofList]
  | eq => exact congrArg String.ofList compares
  | gt =>
    change String.ofList m < String.ofList l
    rwa [String.lt_iff_toList_lt, String.toList_ofList, String.toList_ofList]

namespace Date

theorem compare_natCast (m n : Nat) : compare (m : Int) (n : Int) = compare m n := by
  rw [← cmp_eq_compare, ← cmp_eq_compare]
  exact Int.natCast_strictMono.cmp_map_eq m n

theorem compare_digitChar : ∀ a < 10, ∀ b < 10,
    compare (Nat.digitChar a) (Nat.digitChar b) = compare a b := by
  decide

theorem compare_eq_div_then_mod (m n : Nat) :
    compare m n = (compare (m / 10) (n / 10)).then (compare (m % 10) (n % 10)) := by
  cases front : compare (m / 10) (n / 10) with
  | lt =>
    have less := Nat.compare_eq_lt.mp front
    exact Nat.compare_eq_lt.mpr (by omega)
  | gt =>
    have greater := Nat.compare_eq_gt.mp front
    exact Nat.compare_eq_gt.mpr (by omega)
  | eq =>
    have same := Nat.compare_eq_eq.mp front
    rw [Ordering.eq_then]
    cases last : compare (m % 10) (n % 10) with
    | lt =>
      have less := Nat.compare_eq_lt.mp last
      exact Nat.compare_eq_lt.mpr (by omega)
    | eq =>
      have equal := Nat.compare_eq_eq.mp last
      exact Nat.compare_eq_eq.mpr (by omega)
    | gt =>
      have greater := Nat.compare_eq_gt.mp last
      exact Nat.compare_eq_gt.mpr (by omega)

theorem padded_one {n : Nat} (h : n < 10) : padded 1 n = [Nat.digitChar n] := by
  rw [padded, Nat.toDigits_of_lt_base h]
  rfl

theorem padded_succ {places : Nat} (h : 0 < places) (n : Nat) :
    padded (places + 1) n = padded places (n / 10) ++ [Nat.digitChar (n % 10)] := by
  unfold padded
  by_cases small : n < 10
  · have first : places + 1 - 1 = places - 1 + 1 := by omega
    rw [Nat.toDigits_of_lt_base small, Nat.div_eq_of_lt small, Nat.mod_eq_of_lt small,
      Nat.toDigits_zero]
    dsimp only [List.length_singleton]
    rw [first, List.replicate_succ']
  · have digits := Nat.toDigits_of_base_le (by decide) (Nat.not_lt.mp small)
    rw [digits]
    dsimp only
    rw [List.length_append, List.length_singleton, Nat.add_sub_add_right, List.append_assoc]

theorem compareLex_padded_append {places : Nat} (h : 0 < places) {m n : Nat}
    (hm : m < 10 ^ places) (hn : n < 10 ^ places) (r s : List Char) :
    (padded places m ++ r).compareLex compare (padded places n ++ s) =
      (compare m n).then (r.compareLex compare s) := by
  induction places, h using Nat.le_induction generalizing m n r s with
  | base =>
    rw [padded_one hm, padded_one hn, List.singleton_append, List.singleton_append,
      List.compareLex_cons_cons, compare_digitChar m hm n hn]
  | succ places h ih =>
    -- The last digits are the first characters of what stands behind the other places.
    rw [padded_succ h, padded_succ h, List.append_assoc, List.append_assoc,
      ih (by omega) (by omega), List.singleton_append, List.singleton_append,
      List.compareLex_cons_cons,
      compare_digitChar _ (Nat.mod_lt _ (by decide)) _ (Nat.mod_lt _ (by decide)),
      ← Ordering.then_assoc, ← compare_eq_div_then_mod]

/-- The year is written with four digits and no sign, and month and day with two digits. -/
structure Fits (d : Date) : Prop where
  year_nonneg : 0 ≤ d.year
  year_le : d.year ≤ 9999
  month_lt : d.month < 10 ^ 2
  day_lt : d.day < 10 ^ 2

namespace Fits

variable {a b : Date}

theorem natAbs_year_lt (h : a.Fits) : a.year.natAbs < 10 ^ 4 := by
  obtain ⟨nonneg, le, -, -⟩ := h
  omega

theorem text_eq (h : a.Fits) : a.text = String.ofList
    (padded 4 a.year.natAbs ++ '-' :: (padded 2 a.month ++ '-' :: (padded 2 a.day ++ []))) := by
  rw [text, yearText, if_pos ⟨h.year_nonneg, h.year_le⟩, List.append_nil, List.append_assoc,
    List.cons_append]

theorem compare_natAbs_year (ha : a.Fits) (hb : b.Fits) :
    compare a.year.natAbs b.year.natAbs = compare a.year b.year := by
  rw [← compare_natCast, Int.natAbs_of_nonneg ha.year_nonneg, Int.natAbs_of_nonneg hb.year_nonneg]

theorem compare_text (ha : a.Fits) (hb : b.Fits) : compare a.text b.text =
    (compare a.year b.year).then ((compare a.month b.month).then (compare a.day b.day)) := by
  have hyphen : compare '-' '-' = .eq := rfl
  rw [ha.text_eq, hb.text_eq, compare_ofList,
    compareLex_padded_append (by decide) ha.natAbs_year_lt hb.natAbs_year_lt,
    List.compareLex_cons_cons, hyphen, Ordering.eq_then,
    compareLex_padded_append (by decide) ha.month_lt hb.month_lt,
    List.compareLex_cons_cons, hyphen, Ordering.eq_then,
    compareLex_padded_append (by decide) ha.day_lt hb.day_lt,
    List.compareLex_nil_nil, Ordering.then_eq, compare_natAbs_year ha hb]

end Fits

/-- A day of the calendar by its year, month and day. -/
def ofPlain (day : PlainDate) : Date := ⟨day.year.toInt, day.month.toNat, day.day.toNat⟩

theorem toNat_month (m : Month.Ordinal) : (m.toNat : Int) = m.val := by
  obtain ⟨m, h⟩ := m
  cases m with
  | ofNat n => rfl
  | negSucc n => nomatch h.1

theorem toNat_day (d : Day.Ordinal) : (d.toNat : Int) = d.val := by
  have first : 1 ≤ d.val := d.property.1
  change (d.val.toNat : Int) = _
  omega

def FourDigitYear (day : PlainDate) : Prop := 0 ≤ day.year.toInt ∧ day.year.toInt ≤ 9999

instance (day : PlainDate) : Decidable (FourDigitYear day) :=
  inferInstanceAs (Decidable (_ ∧ _))

theorem fits_ofPlain {day : PlainDate} (h : FourDigitYear day) : (ofPlain day).Fits where
  year_nonneg := h.1
  year_le := h.2
  month_lt := by
    have last : day.month.val ≤ 12 := day.month.property.2
    have month := toNat_month day.month
    change day.month.toNat < _
    omega
  day_lt := by
    have last : day.day.val ≤ 31 := day.day.property.2
    have day' := toNat_day day.day
    change day.day.toNat < _
    omega

theorem compare_ofPlain (a b : PlainDate) :
    (compare (ofPlain a).year (ofPlain b).year).then
      ((compare (ofPlain a).month (ofPlain b).month).then
        (compare (ofPlain a).day (ofPlain b).day)) = compare a b := by
  have month : compare (ofPlain a).month (ofPlain b).month = compare a.month b.month := by
    rw [← compare_natCast, ofPlain, ofPlain, toNat_month, toNat_month]
    rfl
  have day : compare (ofPlain a).day (ofPlain b).day = compare a.day b.day := by
    rw [← compare_natCast, ofPlain, ofPlain, toNat_day, toNat_day]
    rfl
  rw [month, day]
  rfl

theorem compare_text_ofPlain {a b : PlainDate} (ha : FourDigitYear a) (hb : FourDigitYear b) :
    compare (ofPlain a).text (ofPlain b).text = compare a b := by
  rw [Fits.compare_text (fits_ofPlain ha) (fits_ofPlain hb), compare_ofPlain]

end Date

end SqlTutor

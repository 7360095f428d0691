import SqlTutor.Proofs.Date
import SqlTutor.Proofs.Query.FreshIds

/-!
The days that INSERT stamps on rows. A stamp is a text like any other and is sorted by its
characters, which within the years 0 to 9999 sorts the stamps as their days follow each other.
-/
namespace SqlTutor.Query

open Std.Time

/-- What a row that is made on a day has in `created_at`. -/
def stamp (day : PlainDate) : Value := .text (Date.ofPlain day).text

theorem get?_inserted (id : Int64) {options : Options} {day : PlainDate}
    (today : options.today = .ofPlain day) :
    ∃ row, (inserted id options).rows = [row] ∧ row.get? "created_at" = some (stamp day) := by
  refine ⟨_, rfl, ?_⟩
  rw [stamp, ← today]
  rfl

/-- Whether two rows may stand in their order if their keys compare in this way. -/
def Direction.allows : Direction → Ordering → Bool
  | .ascending, o => o.isLE
  | .descending, o => o.isGE

namespace OrderBy

theorem compareRows_ne_gt (order : OrderBy) (a b : Row) : (order.compareRows a b != .gt) =
    order.direction.allows ((order.key a).sortCompare (order.key b)) := by
  unfold compareRows Direction.allows
  cases order.direction with
  | ascending => cases (order.key a).sortCompare (order.key b) <;> rfl
  | descending => cases (order.key a).sortCompare (order.key b) <;> rfl

/-- Where keys compare as what they stand for, rows are sorted by that. -/
theorem sort_map_snd {β : Type} {cmp : β → β → Ordering} (order : OrderBy)
    {entries : List (β × Row)} (h : ∀ x ∈ entries, ∀ y ∈ entries,
      (order.key x.2).sortCompare (order.key y.2) = cmp x.1 y.1) :
    order.sort (entries.map Prod.snd) =
      (entries.mergeSort fun x y => order.direction.allows (cmp x.1 y.1)).map Prod.snd := by
  have same : ∀ x ∈ entries, ∀ y ∈ entries, order.direction.allows (cmp x.1 y.1) =
      (order.compareRows x.2 y.2 != .gt) := fun x hx y hy => by
    rw [compareRows_ne_gt, h x hx y hy]
  exact (List.map_mergeSort same).symm

end OrderBy

theorem sortCompare_stamp {a b : PlainDate} (ha : Date.FourDigitYear a)
    (hb : Date.FourDigitYear b) : (stamp a).sortCompare (stamp b) = compare a b :=
  Date.compare_text_ofPlain ha hb

/-- A row that INSERT hands out is stamped with the day it is made on. Stamps of the years 0 to 9999
compare as their days do in the calendar, and rows that are sorted by a column of such stamps,
upwards or downwards, are sorted by the days, those of one day in the order in which they stood. -/
theorem stamps_chronological :
    (∀ {sql table : String}, insertTable? sql.toList = some table →
      hasReturning sql.toList = true → ∀ (dataset : Dataset) {options : Options} {day : PlainDate},
        options.today = .ofPlain day → ∃ set row, insert sql dataset options = .ok set ∧
          set.rows = [row] ∧ row.get? "created_at" = some (stamp day)) ∧
    (∀ {a b : PlainDate}, Date.FourDigitYear a → Date.FourDigitYear b →
      (stamp a).sortCompare (stamp b) = compare a b) ∧
    ∀ (order : OrderBy) {entries : List (PlainDate × Row)},
      (∀ entry ∈ entries, Date.FourDigitYear entry.1 ∧
        entry.2.get? order.column = some (stamp entry.1)) →
      order.sort (entries.map Prod.snd) =
        (entries.mergeSort fun x y => order.direction.allows (compare x.1 y.1)).map Prod.snd := by
  refine ⟨fun htable asks dataset options day today => ?_, sortCompare_stamp,
    fun order entries stamped => order.sort_map_snd fun x hx y hy => ?_⟩
  · obtain ⟨row, rows, value⟩ := get?_inserted (nextId dataset _) today
    exact ⟨_, row, insert_eq_inserted htable asks dataset options, rows, value⟩
  · obtain ⟨year, value⟩ := stamped x hx
    obtain ⟨year', value'⟩ := stamped y hy
    rw [OrderBy.key_of_get?_eq_some value, OrderBy.key_of_get?_eq_some value']
    exact sortCompare_stamp year year'

section Days

def leapDay : PlainDate := ⟨2024, 2, 29, by decide⟩

def firstOfOctober : PlainDate := ⟨2024, 10, 1, by decide⟩

/-- A day of a year of three digits. -/
def earlyDay : PlainDate := ⟨987, 11, 5, by decide⟩

def stampedRow (day : PlainDate) : Row := .ofList [("title", .null), ("created_at", stamp day)]

def stampedRows : List (PlainDate × Row) :=
  [firstOfOctober, earlyDay, leapDay].map fun day => (day, stampedRow day)

/-- Without zeros in front the text of the early day would be the greatest, and that of the leap day
greater than that of October. -/
theorem stamps_chronological_early :
    insertTable? insertReturning.toList = some "t" ∧
    hasReturning insertReturning.toList = true ∧
    (∃ set row, insert insertReturning mixedIds { today := .ofPlain leapDay } = .ok set ∧
      set.rows = [row] ∧ row.get? "created_at" = some (.text "2024-02-29")) ∧
    (Value.text "0987-11-05").sortCompare (.text "2024-02-29") = .lt ∧
    (∀ entry ∈ stampedRows, Date.FourDigitYear entry.1 ∧
      entry.2.get? "created_at" = some (stamp entry.1)) ∧
    OrderBy.sort ⟨"created_at", .descending⟩ (stampedRows.map Prod.snd) =
      [firstOfOctober, leapDay, earlyDay].map stampedRow := by
  have asks : insertTable? insertReturning.toList = some "t" ∧
      hasReturning insertReturning.toList = true := by decide +kernel
  have texts : stamp leapDay = .text "2024-02-29" ∧ stamp earlyDay = .text "0987-11-05" := by
    decide +kernel
  have stamped : ∀ entry ∈ stampedRows, Date.FourDigitYear entry.1 ∧
      entry.2.get? "created_at" = some (stamp entry.1) := by decide +kernel
  have days : compare earlyDay leapDay = .lt ∧ compare firstOfOctober earlyDay = .gt ∧
      compare firstOfOctober leapDay = .gt := by decide
  obtain ⟨inserts, compares, sorts⟩ := stamps_chronological
  refine ⟨asks.1, asks.2, ?_, ?_, stamped,
    (sorts ⟨"created_at", .descending⟩ stamped).trans ?_⟩
  · rw [← texts.1]
    exact inserts asks.1 asks.2 mixedIds rfl
  · rw [← texts.1, ← texts.2]
    exact (compares (by decide) (by decide)).trans days.1
  · simp [stampedRows, List.mergeSort, Direction.allows, days]

end Days

end SqlTutor.Query

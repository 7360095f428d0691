import SqlTutor.Proofs.Query.Conjunction
import Mathlib.Data.List.Basic

/-!
Conditions that say the opposite of each other. The two of a pair are recognized by forms of their
own, and each has its own answer for rows without the column. Each row is kept by one of `=` and
`!=` with the same text, and by one of IS NULL and IS NOT NULL. Of `<` and `>=` with the same number
it is kept by one if its value counts as a number, and by none if it does not.
-/
namespace SqlTutor

theorem Double.isNaN_ofNat (n : Nat) : (ofNat n).isNaN = false :=
  decide_eq_false (Nat.not_lt.mpr (isNearest_ofNat n).2.1)

namespace Query

open Text

namespace CompareOp

variable {x y : Double}

theorem greater_holds_iff :
    greater.holds x y = true ↔ (x.isNaN = false ∧ y.isNaN = false) ∧ y.place < x.place := by
  simp [holds, Double.less, and_comm]

theorem less_holds_iff :
    less.holds x y = true ↔ (x.isNaN = false ∧ y.isNaN = false) ∧ x.place < y.place := by
  simp [holds, Double.less]

theorem atLeast_holds_iff :
    atLeast.holds x y = true ↔ (x.isNaN = false ∧ y.isNaN = false) ∧ y.place ≤ x.place := by
  simp [holds, Double.atMost, and_comm]

/-- Of two numbers the first is at least the second unless it is less. -/
theorem atLeast_holds_iff_not_less (hx : x.isNaN = false) (hy : y.isNaN = false) :
    atLeast.holds x y = true ↔ ¬ less.holds x y = true := by
  rw [atLeast_holds_iff, less_holds_iff]
  simp only [hx, hy, true_and, Int.not_lt]

theorem not_less_and_atLeast_holds : ¬ (less.holds x y = true ∧ atLeast.holds x y = true) := by
  rw [less_holds_iff, atLeast_holds_iff]
  omega

theorem less_or_atLeast_holds_iff (hy : y.isNaN = false) :
    less.holds x y = true ∨ atLeast.holds x y = true ↔ x.isNaN = false := by
  constructor
  · rintro (below | above)
    · exact (less_holds_iff.mp below).1.1
    · exact (atLeast_holds_iff.mp above).1.1
  · intro hx
    rw [atLeast_holds_iff_not_less hx hy]
    exact Classical.em _

theorem atLeast_holds_of_greater (h : greater.holds x y = true) : atLeast.holds x y = true := by
  obtain ⟨numbers, above⟩ := greater_holds_iff.mp h
  exact atLeast_holds_iff.mpr ⟨numbers, above.le⟩

end CompareOp

namespace Predicate

variable {column : String} {row : Row} {y : Double}

theorem textEq_iff_not_textNe {value : String} : (textEq column value).holds row = true ↔
    ¬ (textNe column value).holds row = true := by
  simp only [holds]
  cases row.get? column with
  | none => simp
  | some v => simp

theorem isNull_iff_not_isNotNull :
    (isNull column).holds row = true ↔ ¬ (isNotNull column).holds row = true := by
  simp only [holds]
  cases row.get? column with
  | none => simp
  | some v => simp

theorem holds_compare_iff {op : CompareOp} : (compare column op y).holds row = true ↔
    ∃ x, (row.get? column).bind Value.comparable? = some x ∧ op.holds x y = true := by
  simp only [holds]
  cases (row.get? column).bind Value.comparable? with
  | none => simp
  | some x => simp

theorem not_less_and_atLeast : ¬ ((compare column .less y).holds row = true ∧
    (compare column .atLeast y).holds row = true) := by
  rw [holds_compare_iff, holds_compare_iff]
  rintro ⟨⟨x, number, below⟩, x', number', above⟩
  obtain rfl : x = x' := Option.some.inj (number.symm.trans number')
  exact CompareOp.not_less_and_atLeast_holds ⟨below, above⟩

theorem less_or_atLeast_iff (hy : y.isNaN = false) :
    (compare column .less y).holds row = true ∨ (compare column .atLeast y).holds row = true ↔
      ∃ v x, row.get? column = some v ∧ v.comparable? = some x ∧ x.isNaN = false := by
  simp only [holds_compare_iff, ← exists_or, ← and_or_left,
    CompareOp.less_or_atLeast_holds_iff hy, Option.bind_eq_some_iff]
  constructor
  · rintro ⟨x, ⟨v, value, number⟩, real⟩
    exact ⟨v, x, value, number, real⟩
  · rintro ⟨v, x, value, number, real⟩
    exact ⟨x, ⟨v, value, number⟩, real⟩

theorem atLeast_of_greater (h : (compare column .greater y).holds row = true) :
    (compare column .atLeast y).holds row = true := by
  obtain ⟨x, number, above⟩ := holds_compare_iff.mp h
  exact holds_compare_iff.mpr ⟨x, number, CompareOp.atLeast_holds_of_greater above⟩

end Predicate

/-- The rows that the condition keeps. -/
def Form.kept (f : Form) (rows : List Row) : List Row := rows.filter f.predicate.holds

/-- A single condition is read as itself, strictly or not. -/
theorem Form.read_text (f : Form) (strict : Bool) :
    Condition.read strict f.text = .ok (.ofForms [f]) := by
  have isPart : ∀ part ∈ [(f.text, f.predicate)], IsPart part.1 part.2 := by
    intro part mem
    rw [List.mem_singleton.mp mem]
    exact f.isPart
  exact Condition.read_of_joined (.one f.text) isPart strict

theorem Form.filter_text (f : Form) (rows : List Row) :
    (Condition.ofForms [f]).filter rows = f.kept rows := by
  refine List.filter_congr fun row _ => ?_
  rw [holds_ofForms, List.all_cons, List.all_nil, Bool.and_true]

/-- The same literal where fewer characters are ruled out. -/
def Literal.ofSubset {without others : List Char} (h : others ⊆ without) (v : Literal without) :
    Literal others where
  text := v.text
  ne_nil := v.ne_nil
  chars c hc := v.chars c (h hc)
  clear := v.clear

section Opposites

variable (c : Column) (n : Nat) (v : Literal ['\'', '='])

/-- The column is the text. -/
def Form.textIs : Form := .textEq c (v.ofSubset (List.cons_subset_cons _ (List.nil_subset _)))

/-- The conditions of each pair are read as they are written. Each row is kept by exactly one of the
two on a text, and by exactly one of the two on null. No row is kept by both of the two on a number,
and those are kept by one of them that have a value in the column which counts as a number. What is
greater than a number is also at least that number. -/
theorem opposites_split (rows : List Row) :
    (∀ strict, ∀ f ∈ [Form.textIs c v, .textNe c v, .isNull c, .isNotNull c, .compare c .less n,
        .compare c .atLeast n, .compare c .greater n],
      (Condition.read strict f.text).map (·.filter rows) = .ok (f.kept rows)) ∧
    (∀ row ∈ rows, row ∈ (Form.textIs c v).kept rows ↔ row ∉ (Form.textNe c v).kept rows) ∧
    (∀ row ∈ rows, row ∈ (Form.isNull c).kept rows ↔ row ∉ (Form.isNotNull c).kept rows) ∧
    (∀ row ∈ rows, ¬ (row ∈ (Form.compare c .less n).kept rows ∧
      row ∈ (Form.compare c .atLeast n).kept rows)) ∧
    (∀ row ∈ rows, row ∈ (Form.compare c .less n).kept rows ∨
      row ∈ (Form.compare c .atLeast n).kept rows ↔
        ∃ w x, row.get? (String.ofList c.text) = some w ∧ w.comparable? = some x ∧
          x.isNaN = false) ∧
    ((Form.compare c .greater n).kept rows).Sublist ((Form.compare c .atLeast n).kept rows) := by
  have kept : ∀ (f : Form), ∀ row ∈ rows, row ∈ f.kept rows ↔ f.predicate.holds row = true := by
    intro f row hrow
    rw [Form.kept, List.mem_filter]
    exact and_iff_right hrow
  refine ⟨?_, ?_, ?_, ?_, ?_, ?_⟩
  · intro strict f _
    rw [f.read_text, Except.map, f.filter_text]
  · intro row hrow
    rw [kept _ row hrow, kept _ row hrow]
    exact Predicate.textEq_iff_not_textNe
  · intro row hrow
    rw [kept _ row hrow, kept _ row hrow]
    exact Predicate.isNull_iff_not_isNotNull
  · intro row hrow
    rw [kept _ row hrow, kept _ row hrow]
    exact Predicate.not_less_and_atLeast
  · intro row hrow
    rw [kept _ row hrow, kept _ row hrow]
    exact Predicate.less_or_atLeast_iff (Double.isNaN_ofNat n)
  · exact List.monotone_filter_right rows fun row => Predicate.atLeast_of_greater

end Opposites

def ageColumn : Column := ⟨"age".toList, by decide, by decide⟩

def trueText : Literal ['\'', '='] :=
  ⟨"true".toList, by decide, by decide, clear_of_length (by decide)⟩

def ageRow (age : Value) : Row := .ofList [("age", age)]

def mixedRows : List Row :=
  [.ofList [("id", .int 1)], ageRow .null, ageRow (.bool true), ageRow (.float (.nan false)),
    ageRow (.text " 42 "), ageRow (.text "old")]

/-- A boolean is shown as a text, what is not a number does not count as one, and a text does if it
writes one out. -/
theorem opposites_split_mixed :
    (Condition.read true "age != 'true'".toList).map (·.filter mixedRows) =
      .ok ((Form.textNe ageColumn trueText).kept mixedRows) ∧
    (ageRow (.bool true) ∈ mixedRows ∧
      ageRow (.bool true) ∉ (Form.textNe ageColumn trueText).kept mixedRows) ∧
    (ageRow .null ∈ mixedRows ∧ ageRow .null ∉ (Form.isNotNull ageColumn).kept mixedRows) ∧
    (ageRow (.float (.nan false)) ∈ mixedRows ∧
      ¬ (ageRow (.float (.nan false)) ∈ (Form.compare ageColumn .less 30).kept mixedRows ∨
        ageRow (.float (.nan false)) ∈ (Form.compare ageColumn .atLeast 30).kept mixedRows)) ∧
    (ageRow (.text " 42 ") ∈ mixedRows ∧
      (ageRow (.text " 42 ") ∈ (Form.compare ageColumn .less 30).kept mixedRows ∨
        ageRow (.text " 42 ") ∈ (Form.compare ageColumn .atLeast 30).kept mixedRows)) := by
  have inside : ∀ age ∈ [.null, .bool true, .float (.nan false), .text " 42 "],
      ageRow age ∈ mixedRows := by decide
  have shown : ageRow (.bool true) ∈ (Form.textIs ageColumn trueText).kept mixedRows := by
    decide +kernel
  have null : ageRow .null ∈ (Form.isNull ageColumn).kept mixedRows := by decide +kernel
  have number : ∃ x, (Value.text " 42 ").comparable? = some x ∧ x.isNaN = false :=
    ⟨Double.ofNat 42, by decide +kernel, Double.isNaN_ofNat 42⟩
  obtain ⟨read, text, absence, -, counts, -⟩ := opposites_split ageColumn 30 trueText mixedRows
  refine ⟨read true _ (List.mem_cons_of_mem _ List.mem_cons_self), ?_, ?_, ?_, ?_⟩
  · have mem := inside (.bool true) (by decide)
    exact ⟨mem, (text _ mem).mp shown⟩
  · have mem := inside .null (by decide)
    exact ⟨mem, (absence _ mem).mp null⟩
  · have mem := inside (.float (.nan false)) (by decide)
    refine ⟨mem, fun kept => ?_⟩
    obtain ⟨w, x, value, found, real⟩ := (counts _ mem).mp kept
    obtain rfl : .float (.nan false) = w := Option.some.inj value
    obtain rfl : .nan false = x := Option.some.inj found
    exact absurd real (by decide)
  · have mem := inside (.text " 42 ") (by decide)
    obtain ⟨x, found, real⟩ := number
    exact ⟨mem, (counts _ mem).mpr ⟨_, x, rfl, found, real⟩⟩

end Query

end SqlTutor

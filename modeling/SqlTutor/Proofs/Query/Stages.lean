import SqlTutor.Proofs.Except
import SqlTutor.Query.Select

/-!
The stages of a query. Only the first three can fail: the table is looked up, the other one joined,
and the condition applied. Sorting, cutting, grouping and projecting are maps of the rows that these
leave, so a run is such a map of the rows to be sorted, or of the working set behind LIMIT.
-/
namespace SqlTutor.Query

namespace Clauses

variable {c : Clauses} {dataset : Dataset} {strict : Bool} {name : String}
  {table joined kept : List Row}

theorem fetch_eq_ok_iff : c.fetch dataset = .ok (name, table) ↔
    c.fromTable = some name ∧ dataset.get? name = some table := by
  unfold fetch
  cases c.fromTable with
  | none => simp
  | some other =>
    simp only [Option.some.injEq]
    cases found : dataset.get? other with
    | none =>
      refine iff_of_false (by simp) ?_
      rintro ⟨rfl, other⟩
      nomatch found.symm.trans other
    | some rows =>
      simp only [Except.ok.injEq, Prod.mk.injEq]
      refine and_congr_right fun same => ?_
      rw [← same, found, Option.some.injEq]

/-- The FROM table, and the rows that are there to be sorted. -/
def unsorted (c : Clauses) (dataset : Dataset) (strict : Bool) :
    Except Error (List Row × List Row) := do
  let (name, table) ← c.fetch dataset
  let rows ← c.joined dataset name table
  let rows ← c.filtered strict rows
  return (table, rows)

/-- The FROM table, and the rows that are left before they are grouped and projected. -/
def workingSet (c : Clauses) (dataset : Dataset) (strict : Bool) :
    Except Error (List Row × List Row) :=
  (c.unsorted dataset strict).map fun w => (w.1, c.limited (c.sorted w.2))

theorem unsorted_eq_ok_iff : c.unsorted dataset strict = .ok (table, kept) ↔
    ∃ name joined, c.fetch dataset = .ok (name, table) ∧
      c.joined dataset name table = .ok joined ∧ c.filtered strict joined = .ok kept := by
  unfold unsorted
  constructor
  · intro h
    obtain ⟨⟨name, found⟩, fetched, h⟩ := bind_eq_ok_iff.mp h
    obtain ⟨joined, hjoined, h⟩ := bind_eq_ok_iff.mp h
    obtain ⟨kept, hkept, h⟩ := bind_eq_ok_iff.mp h
    obtain ⟨rfl, rfl⟩ := Prod.mk.inj (Except.ok.inj h)
    exact ⟨name, joined, fetched, hjoined, hkept⟩
  · rintro ⟨name, joined, fetched, hjoined, hkept⟩
    simp only [fetched, hjoined, hkept, bind, Except.bind, pure, Except.pure]

theorem run_eq_map_unsorted (c : Clauses) (dataset : Dataset) (options : Options) :
    c.run dataset options = (c.unsorted dataset options.strict).map fun w => .ofRows
      (c.results options.countSource w.1.length (c.grouped (c.limited (c.sorted w.2)))) := by
  change c.run dataset options = _ <$> c.unsorted dataset options.strict
  simp only [unsorted, map_bind, map_pure]
  rfl

theorem run_eq_map (c : Clauses) (dataset : Dataset) (options : Options) :
    c.run dataset options = (c.workingSet dataset options.strict).map fun w =>
      .ofRows (c.results options.countSource w.1.length (c.grouped w.2)) := by
  rw [run_eq_map_unsorted, workingSet]
  cases c.unsorted dataset options.strict <;> rfl

theorem run_eq_ok {options : Options} (hfetch : c.fetch dataset = .ok (name, table))
    (hjoined : c.joined dataset name table = .ok joined)
    (hkept : c.filtered options.strict joined = .ok kept) :
    c.run dataset options = .ok (.ofRows
      (c.results options.countSource table.length (c.grouped (c.limited (c.sorted kept))))) := by
  rw [run_eq_map_unsorted, unsorted_eq_ok_iff.mpr ⟨name, joined, hfetch, hjoined, hkept⟩]
  rfl

theorem exists_table_of_workingSet (h : c.workingSet dataset strict = .ok (table, kept)) :
    ∃ name, c.fromTable = some name ∧ dataset.get? name = some table := by
  obtain ⟨⟨_, rows⟩, found, same⟩ := map_eq_ok_iff.mp h
  obtain ⟨rfl, -⟩ := Prod.mk.inj same
  obtain ⟨name, -, fetched, -⟩ := unsorted_eq_ok_iff.mp found
  exact ⟨name, fetch_eq_ok_iff.mp fetched⟩

end Clauses

end SqlTutor.Query

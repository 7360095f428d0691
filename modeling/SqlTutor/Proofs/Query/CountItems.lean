import SqlTutor.Proofs.Query.Counting
import SqlTutor.Proofs.Query.Formless
import SqlTutor.Proofs.Text.LetterCase

/-!
Counts as items of a list. Two readers look for them: one reads items, in which white space does not
matter, and the other looks for the plain text of a count in the whole list. With an item that
counts a query answers a single count if the text occurs in the list, as it does if there is no
white space in the item. Otherwise it answers a row for each row, and counts nothing.
-/
namespace SqlTutor

namespace Text

theorem isInfix_of_mem_intercalate {sep piece : List Char} {pieces : List (List Char)}
    (h : piece ∈ pieces) : piece <:+: sep.intercalate pieces := by
  induction pieces with
  | nil => nomatch h
  | cons first rest ih =>
    by_cases last : rest = []
    · subst last
      rw [List.mem_singleton.mp h, List.intercalate_singleton]
    · obtain ⟨second, rest, rfl⟩ := List.exists_cons_of_ne_nil last
      rw [List.intercalate_cons_cons]
      rcases List.mem_cons.mp h with rfl | later
      · exact (List.prefix_append _ _).isInfix.trans (List.prefix_append _ _).isInfix
      · exact (ih later).trans (List.suffix_append _ _).isInfix

theorem isInfix_of_mem_splitOn {c : Char} {s piece : List Char} (h : piece ∈ s.splitOn c) :
    piece <:+: s := by
  have inside : piece <:+: [c].intercalate (s.splitOn c) := isInfix_of_mem_intercalate h
  rwa [List.intercalate_splitOn] at inside

theorem compact_eq_self {s : List Char} (h : ∀ c ∈ s, isBlank c = false) : compact s = s :=
  List.filter_eq_self.mpr fun c hc => by rw [h c hc, Bool.not_false]

theorem Contains.of_isInfix {key part s : List Char} (h : Contains key part)
    (inside : part <:+: s) : Contains key s :=
  h.trans (inside.map Char.toLower)

end Text

namespace Query

open Text

namespace Projection

/-- What stands in front of the first `AS` of each item. -/
def expressions (p : Projection) : List (List Char) :=
  (p.text.toList.splitOn ',').map fun s => (splitOnWord "as".toList (trim s)).headD []

/-- White space and letter case apart, the expression is `count(*)`. -/
def IsCount (e : List Char) : Prop := lowerAscii (compact e) = "count(*)".toList

instance (e : List Char) : Decidable (IsCount e) := inferInstanceAs (Decidable (_ = _))

variable {p : Projection} {e : List Char}

theorem map_source_items (p : Projection) :
    p.items.map SelectItem.source = p.expressions.map fun e => String.ofList (sourceOf e) := by
  rw [items, expressions, List.map_map, List.map_map]
  refine List.map_congr_left fun s _ => ?_
  obtain ⟨first, names, cut⟩ :=
    List.exists_cons_of_ne_nil (splitOnWord_ne_nil "as".toList (trim s))
  rw [Function.comp_apply, Function.comp_apply, item, cut]
  rcases names with _ | ⟨_ | ⟨c, name⟩, _⟩ <;> rfl

theorem isInfix_of_mem_expressions (h : e ∈ p.expressions) : e <:+: p.text.toList := by
  obtain ⟨s, mem, rfl⟩ := List.mem_map.mp h
  obtain ⟨first, names, cut⟩ :=
    List.exists_cons_of_ne_nil (splitOnWord_ne_nil "as".toList (trim s))
  have mem_first : first ∈ splitOnWord "as".toList (trim s) := by
    rw [cut]
    exact List.mem_cons_self
  have front := (isInfix_of_mem_splitOnWord "as".toList (trim s)).2 first mem_first
  rw [cut]
  exact (front.trans (isInfix_trim s)).trans (isInfix_of_mem_splitOn mem)

theorem hasCountStar_iff (p : Projection) :
    p.hasCountStar = true ↔ Contains "count(*)".toList p.text.toList :=
  Native.occursIn_lower_iff (by decide) (by decide) _

theorem IsCount.contains (counts : IsCount e) (solid : ∀ c ∈ e, isBlank c = false) :
    Contains "count(*)".toList e := by
  rw [IsCount, compact_eq_self solid] at counts
  rw [Contains, counts]

theorem isWildcard_eq_false_of_isCount (he : e ∈ p.expressions) (counts : IsCount e) :
    p.isWildcard = false := by
  have text := (isInfix_of_mem_expressions he).length_le
  have signs : (compact e).length = 8 := by
    rw [← List.length_map Char.toLower]
    exact congrArg List.length counts
  have kept : (compact e).length ≤ e.length := List.length_filter_le _ _
  rw [isWildcard, beq_eq_false_iff_ne]
  intro star
  rw [star] at text
  have one : "*".toList.length = 1 := rfl
  omega

end Projection

theorem Clauses.run_of_projection {c : Clauses} {p : Projection} (hp : c.projection = some p)
    (named : p.isWildcard = false) (ungrouped : c.groupBy = none) (dataset : Dataset)
    (options : Options) : c.run dataset options =
      (c.workingSet dataset options.strict).map fun w => .ofRows
        (if p.hasCountStar then [countRow (countOf options.countSource w.1 w.2)]
        else w.2.map (Projection.row p.items)) := by
  have counts : c.countsAll = p.hasCountStar := by
    rw [countsAll, hp, ungrouped, Option.any_some, named]
    rfl
  rw [run_eq_map]
  unfold results grouped projected countOf
  simp only [counts, ungrouped, hp, named, Bool.false_eq_true, if_false]
  cases options.countSource <;> rfl

/-- An item that counts reads the counts of groups. Without groups a query with such an item
answers a single count if `count(*)` stands in its list without white space, in some letter case,
as it does if there is no white space in the item. Otherwise it answers a row for each row, in which
the item reads a column `count`. -/
theorem select_countItem {p : Projection} {e : List Char} (he : e ∈ p.expressions)
    (counts : Projection.IsCount e) :
    "count" ∈ p.items.map SelectItem.source ∧
    (p.hasCountStar = true ↔ Contains "count(*)".toList p.text.toList) ∧
    ((∀ c ∈ e, isBlank c = false) → p.hasCountStar = true) ∧
    ∀ (sql : String) (dataset : Dataset) (options : Options) (set : ResultSet),
      projection? (collapse sql.toList) = some p → groupBy? (collapse sql.toList) = none →
      select sql dataset options = .ok set →
      ∃ table rows,
        (Clauses.ofText (collapse sql.toList)).workingSet dataset options.strict =
          .ok (table, rows) ∧
        set = .ofRows (if p.hasCountStar
          then [Clauses.countRow (Clauses.countOf options.countSource table rows)]
          else rows.map (Projection.row p.items)) := by
  refine ⟨?_, p.hasCountStar_iff, fun solid => ?_, fun sql dataset options set hp ungrouped h => ?_⟩
  · rw [Projection.map_source_items]
    refine List.mem_map.mpr ⟨e, he, ?_⟩
    exact congrArg String.ofList (if_pos counts)
  · exact p.hasCountStar_iff.mpr
      ((counts.contains solid).of_isInfix (Projection.isInfix_of_mem_expressions he))
  · rw [select, Clauses.run_of_projection hp (Projection.isWildcard_eq_false_of_isCount he counts)
      ungrouped] at h
    obtain ⟨w, working, rows⟩ := map_eq_ok_iff.mp h
    exact ⟨w.1, w.2, working, rows.symm⟩

def nameAndCount : Projection := ⟨"name, Count(*) AS n"⟩

def tableOptions : Options := { today := ⟨2024, 6, 1⟩ }

/-- With a count among other items all of them give way to it. -/
theorem select_countItem_nameAndCount :
    "Count(*)".toList ∈ nameAndCount.expressions ∧ Projection.IsCount "Count(*)".toList ∧
    nameAndCount.hasCountStar = true ∧
    select "SELECT name, Count(*) AS n FROM users LIMIT 1" Dataset.sample tableOptions =
      .ok (.ofRows [Clauses.countRow 4]) ∧
    ∃ table rows,
      (Clauses.ofText (collapse "SELECT name, Count(*) AS n FROM users LIMIT 1".toList)).workingSet
        Dataset.sample tableOptions.strict = .ok (table, rows) ∧
      ResultSet.ofRows [Clauses.countRow 4] =
        .ofRows [Clauses.countRow (Clauses.countOf tableOptions.countSource table rows)] := by
  have answers : ("Count(*)".toList ∈ nameAndCount.expressions ∧
        Projection.IsCount "Count(*)".toList) ∧
      projection? (collapse "SELECT name, Count(*) AS n FROM users LIMIT 1".toList) =
        some nameAndCount ∧
      groupBy? (collapse "SELECT name, Count(*) AS n FROM users LIMIT 1".toList) = none ∧
      select "SELECT name, Count(*) AS n FROM users LIMIT 1" Dataset.sample tableOptions =
        .ok (.ofRows [Clauses.countRow 4]) := by decide +kernel
  obtain ⟨⟨mem, counts⟩, listed, ungrouped, four⟩ := answers
  obtain ⟨-, -, plain, single⟩ := select_countItem mem counts
  have star := plain (by decide)
  obtain ⟨table, rows, working, same⟩ :=
    single _ Dataset.sample tableOptions _ listed ungrouped four
  rw [if_pos star] at same
  exact ⟨mem, counts, star, four, table, rows, working, same⟩

/-- White space in an item hides it from the reader of the whole list, and each row becomes an
empty one. -/
theorem not_forall_select_countItem :
    (¬ ∀ (p : Projection) (e : List Char), e ∈ p.expressions → Projection.IsCount e →
      p.hasCountStar = true) ∧
    projection? (collapse "SELECT COUNT( * ) FROM users".toList) = some ⟨"COUNT( * )"⟩ ∧
    groupBy? (collapse "SELECT COUNT( * ) FROM users".toList) = none ∧
    select "SELECT COUNT( * ) FROM users" Dataset.sample tableOptions =
      .ok (.ofRows (List.replicate 4 .empty)) := by
  have answers : ("COUNT( * )".toList ∈ Projection.expressions ⟨"COUNT( * )"⟩ ∧
        Projection.IsCount "COUNT( * )".toList ∧
        Projection.hasCountStar ⟨"COUNT( * )"⟩ = false) ∧
      projection? (collapse "SELECT COUNT( * ) FROM users".toList) = some ⟨"COUNT( * )"⟩ ∧
      groupBy? (collapse "SELECT COUNT( * ) FROM users".toList) = none ∧
      select "SELECT COUNT( * ) FROM users" Dataset.sample tableOptions =
        .ok (.ofRows (List.replicate 4 .empty)) := by decide +kernel
  obtain ⟨⟨mem, counts, hidden⟩, shown⟩ := answers
  exact ⟨fun h => Bool.false_ne_true (hidden.symm.trans (h _ _ mem counts)), shown⟩

end Query

end SqlTutor

import SqlTutor.Proofs.Query.Continuation
import SqlTutor.Proofs.Query.Sources
import Mathlib.Algebra.BigOperators.Group.List.Basic

/-!
Queries that count. All clauses but the projection are looked for behind the FROM of a query, so a
count is taken of the working set that the query for whole rows answers, and fails where that query
fails. It is the number of these rows, or of the rows of the table if that is what counts refer to,
and the counts of groups sum to it.
-/
namespace SqlTutor.Query

open Text

/-- A query, of which the projection and all that stands behind FROM are given. -/
def selectFrom (projection rest : List Char) : List Char :=
  "SELECT ".toList ++ (projection ++ (" FROM ".toList ++ rest))

/-- The words behind the projection, each with a space in front of it. -/
def behindProjection (rest : List Char) : List Char := spread ("FROM".toList :: words rest)

section Projections

variable {p : List Char}

theorem words_selectFrom (hp : Solid p) (rest : List Char) :
    words (selectFrom p rest) = ["SELECT".toList, p, "FROM".toList] ++ words rest := by
  have selectWord : Solid "SELECT".toList := by decide
  have fromWord : Solid "FROM".toList := by decide
  have text : selectFrom p rest = "SELECT".toList ++ ' ' :: (p ++ ' ' ::
      ("FROM".toList ++ ' ' :: rest)) := rfl
  rw [text, words_append_cons _ _ rfl, words_append_cons _ _ rfl, words_append_cons _ _ rfl,
    words_solid selectWord, words_solid hp, words_solid fromWord]
  rfl

theorem cons_collapse_selectFrom (hp : Solid p) (rest : List Char) :
    ' ' :: collapse (selectFrom p rest) =
      spread (["SELECT".toList, p] ++ "FROM".toList :: words rest) := by
  have cut := words_selectFrom hp rest
  rw [cons_collapse (by rw [cut]; exact List.cons_ne_nil _ _), cut]
  rfl

/-- All clauses are found behind a plain projection. -/
theorem findFirst?_selectFrom {α : Type} {key : List Char} {read : List Char → Option α}
    (led : LedBy key read) (hkey : key ∈ clauseWords) (hp : Solid p) (plain : Plain p)
    (rest : List Char) :
    findFirst? read (collapse (selectFrom p rest)) = findFirst? read (behindProjection rest) := by
  have lacks : ∀ w ∈ ["SELECT".toList, p], Lacks key w := by
    intro w hw
    simp only [List.mem_cons, List.not_mem_nil, or_false] at hw
    rcases hw with rfl | rfl
    · exact (by decide : Plain "SELECT".toList).lacks hkey
    · exact plain.lacks hkey
  rw [← findFirst?_cons_of_foreign led (foreign_blank led.isKeyword (c := ' ') rfl),
    cons_collapse_selectFrom hp, findFirst?_spread_append led lacks, behindProjection]

theorem projection?_selectFrom (hp : Solid p) (rest : List Char) :
    projection? (collapse (selectFrom p rest)) = some ⟨String.ofList p⟩ := by
  have text : collapse (selectFrom p rest) =
      "SELECT".toList ++ ' ' :: (p ++ behindProjection rest) := by
    have spaced := cons_collapse_selectFrom hp rest
    rw [List.cons_append, spread_cons, List.cons_append, spread_cons] at spaced
    exact (List.cons.inj spaced).2
  have selectWord : Spells "select".toList "SELECT".toList := by decide
  have ends : projectionPlace.endsAt (behindProjection rest) :=
    Enclosure.endsAt_spread List.mem_cons_self (by decide) (by decide) _
  have read : projectionPlace.read? (collapse (selectFrom p rest)) = some p := by
    rw [text]
    exact Enclosure.read?_enclosed (by decide) selectWord (tidy_of_solid hp)
      (Enclosure.open_solid hp.2 _) ends
  have trimmed : trim p = p := trim_eq_self (tidy_of_solid hp).stops (tidy_of_solid hp).last
  rw [projection?, Enclosure.find?_eq_findFirst?, findFirst?_eq_some read, Option.map_some,
    trimmed]

/-- Texts in which the search finds the same clauses have the same but for the projection. -/
theorem ofText_congr {s t : List Char}
    (h : ∀ {α : Type} {key : List Char} {read : List Char → Option α}, LedBy key read →
      key ∈ clauseWords → findFirst? read s = findFirst? read t) :
    Clauses.ofText s = { Clauses.ofText t with projection := projection? s } := by
  simp only [Clauses.ofText, fromTable?, joinClause?, condition?, orderBy?, limit?, groupBy?,
    Enclosure.find?_eq_findFirst?]
  rw [h ledBy_readFrom? (by decide), h ledBy_readJoin? (by decide), h ledBy_condition (by decide),
    h ledBy_readOrderBy? (by decide), h ledBy_readLimit? (by decide),
    h ledBy_readGroupBy? (by decide)]

theorem ofText_selectFrom (hp : Solid p) (plain : Plain p) (rest : List Char) :
    Clauses.ofText (collapse (selectFrom p rest)) =
      { Clauses.ofText (behindProjection rest) with projection := some ⟨String.ofList p⟩ } := by
  rw [ofText_congr fun led hkey => findFirst?_selectFrom led hkey hp plain rest,
    projection?_selectFrom hp]

end Projections

/-- A query with a GROUP BY at its end. -/
def groupedBy (c : Column) (rest : List Char) : List Char := rest ++ (" GROUP BY ".toList ++ c.text)

def groupText (c : Column) : List Char := "GROUP".toList ++ ' ' :: ("BY".toList ++ ' ' :: c.text)

theorem behindProjection_groupedBy (c : Column) (rest : List Char) :
    behindProjection (groupedBy c rest) = behindProjection rest ++ ' ' :: groupText c := by
  have groupWord : Solid "GROUP".toList := by decide
  have byWord : Solid "BY".toList := by decide
  have text : groupedBy c rest = rest ++ ' ' :: ("GROUP".toList ++ ' ' ::
      ("BY".toList ++ ' ' :: c.text)) := rfl
  have cut : words (groupedBy c rest) = words rest ++ ["GROUP".toList, "BY".toList, c.text] := by
    rw [text, words_append_cons _ _ rfl, words_append_cons _ _ rfl, words_append_cons _ _ rfl,
      words_solid groupWord, words_solid byWord, words_solid c.solid]
    rfl
  rw [behindProjection, cut, ← List.cons_append, spread_append, behindProjection]
  simp only [spread_cons, spread_nil, List.append_nil, groupText]

theorem clauseAhead_groupText (c : Column) : ClauseAhead (groupText c) :=
  clauseAhead (by decide) (stops_cons rfl _) rfl

theorem findFirst?_groupText {α : Type} {key : List Char} {read : List Char → Option α}
    (h : Opened key read) (hkey : key ∈ clauseWords) (hgroup : key ≠ "group".toList) (c : Column) :
    findFirst? read (groupText c) = none := by
  have lacks : Lacks key "GROUP".toList ∧ Lacks key "BY".toList :=
    ⟨lacks_spelling hkey (by decide) (by decide) hgroup,
      (by decide : Plain "BY".toList).lacks hkey⟩
  rw [groupText, findFirst?_lacks_space h.toLedBy lacks.1, findFirst?_lacks_space h.toLedBy lacks.2,
    findFirst?_solid h (isKeyword_of_mem hkey).2 c.solid.2]

theorem readGroupBy?_groupText (c : Column) : readGroupBy? (groupText c) = some c.text := by
  have groupWord : keyword? "group".toList (groupText c) =
    some (' ' :: ("BY".toList ++ ' ' :: c.text)) := rfl
  have byWord : ∀ s, keyword? "by".toList ("BY".toList ++ s) = some s := fun _ => rfl
  have gap : blanks? (' ' :: ("BY".toList ++ ' ' :: c.text)) =
    some ("BY".toList ++ ' ' :: c.text) := blanks?_space (stops_cons rfl _)
  have space : blanks? (' ' :: c.text) = some c.text :=
    blanks?_space (tidy_of_solid c.solid).stops
  simp only [readGroupBy?, groupWord, gap, byWord, space, c.word?_text, bind, Option.bind_some,
    pure]

/-- A GROUP BY behind a sealed query is the only clause that comes in. -/
theorem ofText_selectFrom_groupedBy {p : List Char} (hp : Solid p) (plain : Plain p)
    {rest : List Char} (hsealed : Sealed sealingWords (behindProjection rest))
    (ungrouped : groupBy? (behindProjection rest) = none) (c : Column) :
    Clauses.ofText (collapse (selectFrom p (groupedBy c rest))) =
      { Clauses.ofText (behindProjection rest) with
        projection := some ⟨String.ofList p⟩, groupBy := some (String.ofList c.text) } := by
  have found : groupBy? (groupText c) = some (String.ofList c.text) := by
    rw [groupBy?, findFirst?_eq_some (readGroupBy?_groupText c), Option.map_some]
  rw [ofText_selectFrom hp plain, behindProjection_groupedBy,
    ofText_append_clause hsealed (clauseAhead_groupText c)]
  simp only [Clauses.ofText, Clauses.or, ungrouped, found]
  simp only [fromTable?, joinClause?, condition?, orderBy?, limit?,
    Enclosure.find?_eq_findFirst?]
  rw [findFirst?_groupText opened_readFrom? (by decide) (by decide),
    findFirst?_groupText opened_readJoin? (by decide) (by decide),
    findFirst?_groupText opened_condition (by decide) (by decide),
    findFirst?_groupText opened_readOrderBy? (by decide) (by decide),
    findFirst?_groupText opened_readLimit? (by decide) (by decide)]
  simp only [Option.map_none, Option.or_none, Option.none_or]

namespace Group

theorem sum_count_add (value : Option Value) (groups : List Group) :
    ((add value groups).map count).sum = (groups.map count).sum + 1 := by
  induction groups with
  | nil => rfl
  | cons group rest ih =>
    rw [add]
    split
    · simp only [List.map_cons, List.sum_cons]
      omega
    · simp only [List.map_cons, List.sum_cons, ih]
      omega

theorem sum_count_foldl (column : String) (rows : List Row) (groups : List Group) :
    ((rows.foldl (fun groups row => add (row.get? column) groups) groups).map count).sum =
      (groups.map count).sum + rows.length := by
  induction rows generalizing groups with
  | nil => rfl
  | cons row rows ih =>
    rw [List.foldl_cons, ih, sum_count_add, List.length_cons]
    omega

/-- Each row is counted in one group. -/
theorem sum_count_ofRows (column : String) (rows : List Row) :
    ((ofRows column rows).map count).sum = rows.length := by
  rw [ofRows, sum_count_foldl]
  simp

/-- Groups in the order in which they are answered. -/
def ranked (column : String) (rows : List Row) : List Group :=
  (ofRows column rows).mergeSort fun a b => a.rank ≤ b.rank

theorem sum_count_ranked (column : String) (rows : List Row) :
    ((ranked column rows).map count).sum = rows.length := by
  have same : ((ranked column rows).map count).Perm ((ofRows column rows).map count) :=
    (List.mergeSort_perm _ _).map count
  rw [same.sum_eq, sum_count_ofRows]

/-- The count is what is left of a group if only its count is asked for. -/
theorem row_toRow (column : String) (group : Group) :
    Projection.row [⟨"count", "count"⟩] (toRow column group) = Clauses.countRow group.count := by
  have counted : (toRow column group).get? "count" = some (.ofCount group.count) := by
    rw [toRow, OrderedMap.get?_insert, if_pos rfl]
  simp only [Projection.row, List.filterMap_cons, counted, Option.map_some, List.filterMap_nil]
  rfl

end Group

namespace Clauses

section Projected

variable {c : Clauses} (dataset : Dataset) (options : Options)

theorem run_wildcard (hp : c.projection = some ⟨"*"⟩) (ungrouped : c.groupBy = none) :
    c.run dataset options = (c.workingSet dataset options.strict).map fun w => .ofRows w.2 := by
  have star : Projection.isWildcard ⟨"*"⟩ = true := rfl
  have whole : c.countsAll = false := by
    rw [countsAll, hp, Option.any_some, star, Bool.not_true, Bool.false_and, Bool.and_false]
  simp [run_eq_map, results, whole, projected, hp, star, grouped, ungrouped]

/-- What a count without groups is. -/
def countOf (source : CountSource) (table rows : List Row) : Nat :=
  match source with
  | .table => table.length
  | .workingSet => rows.length

theorem run_count (hp : c.projection = some ⟨"COUNT(*)"⟩) (ungrouped : c.groupBy = none) :
    c.run dataset options = (c.workingSet dataset options.strict).map fun w =>
      .ofRows [countRow (countOf options.countSource w.1 w.2)] := by
  have counts : c.countsAll = true := by
    rw [countsAll, hp, ungrouped]
    decide +kernel
  rw [run_eq_map]
  unfold results grouped countOf
  simp only [counts, ungrouped, if_true]
  cases options.countSource <;> rfl

theorem run_groupCount (hp : c.projection = some ⟨"COUNT(*)"⟩) {column : String}
    (hgroup : c.groupBy = some column) :
    c.run dataset options = (c.workingSet dataset options.strict).map fun w =>
      .ofRows (((Group.ranked column w.2).map Group.count).map countRow) := by
  have several : c.countsAll = false := by
    rw [countsAll, hgroup]
    rfl
  have items : Projection.items ⟨"COUNT(*)"⟩ = [⟨"count", "count"⟩] := by decide +kernel
  have notStar : Projection.isWildcard ⟨"COUNT(*)"⟩ = false := by decide
  have rows : ∀ groups : List Group, (groups.map (Group.toRow column)).map
      (Projection.row [⟨"count", "count"⟩]) = (groups.map Group.count).map countRow := by
    intro groups
    rw [List.map_map, List.map_map]
    exact List.map_congr_left fun group _ => Group.row_toRow column group
  have listed : ∀ kept, Group.rows column kept = (Group.ranked column kept).map
    (Group.toRow column) := fun _ => rfl
  rw [run_eq_map]
  unfold results grouped
  simp only [several, hgroup, projected, hp, notStar, items, Bool.false_eq_true, if_false, listed,
    rows]

end Projected

end Clauses

/-- The query ends in no keyword that still takes a word. -/
def EndsSealed (query : List Char) : Prop :=
  ∀ w ∈ (words query).getLast?, ∀ key ∈ sealingWords, ¬ EndsIn key w

instance (query : List Char) : Decidable (EndsSealed query) :=
  inferInstanceAs (Decidable (∀ w ∈ _, ∀ key ∈ _, _))

theorem sealed_behindProjection {p : List Char} (hp : Solid p) {rest : List Char}
    (h : EndsSealed (selectFrom p rest)) : Sealed sealingWords (behindProjection rest) := by
  have nonempty : "FROM".toList :: words rest ≠ [] := List.cons_ne_nil _ _
  have last : (words (selectFrom p rest)).getLast? = ("FROM".toList :: words rest).getLast? := by
    rw [words_selectFrom hp]
    exact List.getLast?_append_of_ne_nil ["SELECT".toList, p] nonempty
  refine sealed_spread (by decide) (fun w hw => ?_) (last ▸ h)
  rcases List.mem_cons.mp hw with rfl | later
  · decide
  · exact solid_of_mem_words later

section Answers

variable {rest : List Char} (ungrouped : groupBy? (behindProjection rest) = none)
  (dataset : Dataset) (options : Options)

include ungrouped

theorem select_star_eq_map : select (String.ofList (selectFrom "*".toList rest)) dataset options =
    ((Clauses.ofText (behindProjection rest)).workingSet dataset options.strict).map fun w =>
      .ofRows w.2 := by
  rw [select, String.toList_ofList, ofText_selectFrom (by decide) (by decide)]
  exact Clauses.run_wildcard dataset options rfl ungrouped

theorem select_count_eq_map :
    select (String.ofList (selectFrom "COUNT(*)".toList rest)) dataset options =
      ((Clauses.ofText (behindProjection rest)).workingSet dataset options.strict).map fun w =>
        .ofRows [Clauses.countRow (Clauses.countOf options.countSource w.1 w.2)] := by
  rw [select, String.toList_ofList, ofText_selectFrom (by decide) (by decide)]
  exact Clauses.run_count dataset options rfl ungrouped

theorem select_groupCount_eq_map (hsealed : Sealed sealingWords (behindProjection rest))
    (c : Column) :
    select (String.ofList (selectFrom "COUNT(*)".toList (groupedBy c rest))) dataset options =
      ((Clauses.ofText (behindProjection rest)).workingSet dataset options.strict).map fun w =>
        .ofRows (((Group.ranked (String.ofList c.text) w.2).map Group.count).map
          Clauses.countRow) := by
  rw [select, String.toList_ofList,
    ofText_selectFrom_groupedBy (by decide) (by decide) hsealed ungrouped]
  exact Clauses.run_groupCount dataset options rfl rfl

end Answers

/-- A count fails as the query for whole rows does, and otherwise counts what it answers, all at
once or, if the query may go on, in groups. -/
theorem select_count (rest : List Char) (dataset : Dataset) (options : Options)
    (ungrouped : groupBy? (collapse (selectFrom "*".toList rest)) = none) :
    match select (String.ofList (selectFrom "*".toList rest)) dataset options with
    | .error e =>
      select (String.ofList (selectFrom "COUNT(*)".toList rest)) dataset options = .error e ∧
        (EndsSealed (selectFrom "*".toList rest) → ∀ c : Column,
          select (String.ofList (selectFrom "COUNT(*)".toList (groupedBy c rest))) dataset options =
            .error e)
    | .ok set =>
      (∃ name table, fromTable? (collapse (selectFrom "*".toList rest)) = some name ∧
        dataset.get? name = some table ∧
        select (String.ofList (selectFrom "COUNT(*)".toList rest)) dataset options =
          .ok (.ofRows [Clauses.countRow (match options.countSource with
            | .table => table.length
            | .workingSet => set.rowCount)])) ∧
      (EndsSealed (selectFrom "*".toList rest) → ∀ c : Column, ∃ counts : List Nat,
        select (String.ofList (selectFrom "COUNT(*)".toList (groupedBy c rest))) dataset options =
          .ok (.ofRows (counts.map Clauses.countRow)) ∧ counts.sum = set.rowCount) := by
  have clauses := ofText_selectFrom (p := "*".toList) (by decide) (by decide) rest
  have base : groupBy? (behindProjection rest) = none :=
    (congrArg Clauses.groupBy clauses).symm.trans ungrouped
  have table : fromTable? (collapse (selectFrom "*".toList rest)) =
      fromTable? (behindProjection rest) := congrArg Clauses.fromTable clauses
  have inGroups := fun ends : EndsSealed (selectFrom "*".toList rest) =>
    select_groupCount_eq_map base dataset options (sealed_behindProjection (by decide) ends)
  rw [select_star_eq_map base, select_count_eq_map base, table]
  cases hset : (Clauses.ofText (behindProjection rest)).workingSet dataset options.strict with
  | error e =>
    refine ⟨rfl, fun ends c => ?_⟩
    rw [inGroups ends c, hset]
    rfl
  | ok w =>
    obtain ⟨name, hname, htable⟩ := Clauses.exists_table_of_workingSet hset
    refine ⟨⟨name, w.1, hname, htable, ?_⟩, fun ends c => ?_⟩
    · cases options.countSource <;> rfl
    · refine ⟨(Group.ranked (String.ofList c.text) w.2).map Group.count, ?_, ?_⟩
      · rw [inGroups ends c, hset]
        rfl
      · exact Group.sum_count_ranked _ w.2

def publishedPosts : List Char := "posts WHERE published = true".toList

def userIdColumn : Column := ⟨"user_id".toList, by decide, by decide⟩

def workingSetOptions : Options := { countSource := .workingSet, today := ⟨2024, 6, 1⟩ }

theorem select_count_publishedPosts :
    groupBy? (collapse (selectFrom "*".toList publishedPosts)) = none ∧
      EndsSealed (selectFrom "*".toList publishedPosts) ∧
      select "SELECT COUNT(*) FROM posts WHERE published = true" Dataset.sample workingSetOptions =
        .ok (.ofRows [Clauses.countRow 4]) ∧
      ∃ counts : List Nat,
        select "SELECT COUNT(*) FROM posts WHERE published = true GROUP BY user_id" Dataset.sample
          workingSetOptions = .ok (.ofRows (counts.map Clauses.countRow)) ∧ counts.sum = 4 := by
  have ungrouped : groupBy? (collapse (selectFrom "*".toList publishedPosts)) = none := by
    decide +kernel
  have ends : EndsSealed (selectFrom "*".toList publishedPosts) := by decide +kernel
  have size : (select (String.ofList (selectFrom "*".toList publishedPosts)) Dataset.sample
      workingSetOptions).toOption.map (·.rowCount) = some 4 := by decide +kernel
  have agree := select_count publishedPosts Dataset.sample workingSetOptions ungrouped
  cases whole : select (String.ofList (selectFrom "*".toList publishedPosts)) Dataset.sample
      workingSetOptions with
  | error e =>
    rw [whole] at size
    exact absurd size (by simp [Except.toOption])
  | ok set =>
    rw [whole] at agree size
    have four : set.rowCount = 4 := Option.some.inj size
    obtain ⟨⟨name, table, -, -, counted⟩, inGroups⟩ := agree
    obtain ⟨counts, grouped, total⟩ := inGroups ends userIdColumn
    dsimp only [workingSetOptions] at counted
    rw [four] at counted total
    exact ⟨ungrouped, ends, counted, counts, grouped, total⟩

end SqlTutor.Query

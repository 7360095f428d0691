import SqlTutor.Proofs.OrderedMap
import SqlTutor.Proofs.Value.Equality
import SqlTutor.Dataset.Sample
import SqlTutor.Query.Select
import Mathlib.Data.List.Forall2

/-!
Which columns a joined row has, and with whose values, is known from its two rows alone. A join on a
column that is a key of the joined table keeps some of the left rows, each once and in order. A
condition on columns of one side only may be applied to that side in front of the join.
-/
namespace SqlTutor.Query

namespace JoinClause

variable {join : JoinClause} {left right row : Row} {name : String}

/-- What a row of a join shows of the two rows it is made of. The id of the right one comes before
both, the right one comes before the left one, and columns keep their first places. -/
structure IsOverlay (join : JoinClause) (left right row : Row) : Prop where
  id_eq : ∀ v, right.get? "id" = some v → row.get? join.idColumn = some v
  right_eq : ∀ name v, name ≠ join.idColumn ∨ right.get? "id" = none →
    right.get? name = some v → row.get? name = some v
  left_eq : ∀ name, name ≠ join.idColumn ∨ right.get? "id" = none →
    right.get? name = none → row.get? name = left.get? name
  names_eq : row.names = (left.names ++ right.names ++
    if right.contains "id" then [join.idColumn] else []).eraseDups

theorem records_combine (join : JoinClause) (left right : Row) :
    OrderedMap.Records
      (left.entries ++ right.entries ++ ((right.get? "id").map (join.idColumn, ·)).toList)
      (join.combine left right) := by
  have merged := (OrderedMap.records_entries left).merge (OrderedMap.records_entries right)
  unfold combine
  cases right.get? "id" with
  | none => simpa using merged
  | some id => exact merged.insert join.idColumn id

theorem get?_combine (join : JoinClause) (left right : Row) (name : String) :
    (join.combine left right).get? name =
      (if name = join.idColumn then right.get? "id" else none).or
        ((right.get? name).or (left.get? name)) := by
  unfold combine
  cases right.get? "id" with
  | none => simp [OrderedMap.get?_merge]
  | some id =>
    rw [OrderedMap.get?_insert, OrderedMap.get?_merge]
    split <;> simp

theorem isOverlay_combine (join : JoinClause) (left right : Row) :
    join.IsOverlay left right (join.combine left right) where
  id_eq v h := by simp [get?_combine, h]
  right_eq name v free h := by
    rcases free with other | none
    · simp [get?_combine, other, h]
    · simp [get?_combine, none, h]
  left_eq name free h := by
    rcases free with other | none
    · simp [get?_combine, other, h]
    · simp [get?_combine, none, h]
  names_eq := by
    rw [(records_combine join left right).names_eq, OrderedMap.contains]
    cases right.get? "id" <;> simp [OrderedMap.names]

/-- A column of the right row hides the one of the left row. -/
theorem get?_combine_of_mem {v : Value} (other : name ≠ join.idColumn)
    (h : right.get? name = some v) :
    (join.combine left right).get? name = right.get? name := by
  rw [h]
  exact (isOverlay_combine join left right).right_eq name v (Or.inl other) h

theorem get?_combine_of_notMem (other : name ≠ join.idColumn) (h : right.get? name = none) :
    (join.combine left right).get? name = left.get? name :=
  (isOverlay_combine join left right).left_eq name (Or.inl other) h

/-- The column has a value in every row, and no two of them are equal. -/
structure IsKey (column : String) (rows : List Row) : Prop where
  present : ∀ row ∈ rows, row.contains column
  distinct : rows.Pairwise fun r s =>
    ∀ v ∈ r.get? column, ∀ w ∈ s.get? column, v.strictEq w = false

/-- The left column of the row has a value that is equal to one in the right column. -/
def hasPartner (join : JoinClause) (rights : List Row) (left : Row) : Bool :=
  (left.get? join.left.column).any fun v =>
    (rights.filterMap fun right => right.get? join.right.column).any v.strictEq

/-- The right row has the value of the left one. -/
def IsPartner (join : JoinClause) (left right : Row) : Prop :=
  ∃ v w, left.get? join.left.column = some v ∧ right.get? join.right.column = some w ∧
    v.strictEq w = true

theorem hasPartner_iff {rights : List Row} :
    join.hasPartner rights left = true ↔ ∃ right ∈ rights, join.IsPartner left right := by
  simp only [hasPartner, IsPartner, Option.any_eq_true, List.any_eq_true, List.mem_filterMap]
  constructor
  · rintro ⟨v, hv, w, ⟨right, mem, hw⟩, same⟩
    exact ⟨right, mem, v, w, hv, hw, same⟩
  · rintro ⟨right, mem, v, w, hv, hw, same⟩
    exact ⟨v, hv, w, ⟨right, mem, hw⟩, same⟩

section Key

variable {fromTable : String} {rights : List Row}

/-- With its left side in the FROM table and its right side in the joined one, ON compares a value
of the left row to a value of the right row, or two missing ones. -/
theorem isMatch_iff (hleft : join.left.table = fromTable) (hright : join.right.table ≠ fromTable)
    {w : Value} (hw : right.get? join.right.column = some w) :
    join.isMatch fromTable left right = true ↔ join.IsPartner left right := by
  have fromLeft : join.left.read fromTable left right = left.get? join.left.column := by
    rw [ColumnRef.read, if_pos hleft]
  have fromRight : join.right.read fromTable left right = some w := by
    rw [ColumnRef.read, if_neg hright, hw]
  unfold isMatch IsPartner
  rw [fromLeft, fromRight, hw]
  cases left.get? join.left.column <;> simp

/-- Two different rows of a table cannot both be partners: their values would be equal, too. -/
theorem IsKey.partners_le_one (key : IsKey join.right.column rights) (left : Row)
    {matched : Row → Bool}
    (partner : ∀ right ∈ rights, matched right = true → join.IsPartner left right) :
    (rights.filter matched).length ≤ 1 := by
  have distinct := key.distinct.filter matched
  have partners : ∀ right ∈ rights.filter matched, join.IsPartner left right := by
    intro right mem
    obtain ⟨old, isMatched⟩ := List.mem_filter.mp mem
    exact partner right old isMatched
  match h : rights.filter matched with
  | [] => exact Nat.zero_le 1
  | [_] => exact Nat.le_refl 1
  | first :: second :: rest =>
    rw [h] at distinct partners
    obtain ⟨u, v, hu, hv, huv⟩ := partners first (by simp)
    obtain ⟨u', w, hu', hw, huw⟩ := partners second (by simp)
    obtain rfl : u = u' := Option.some_inj.mp (hu.symm.trans hu')
    have different := List.rel_of_pairwise_cons distinct List.mem_cons_self v hv w hw
    exact absurd (Value.strictEq_of_common huv huw) (Bool.eq_false_iff.mp different)

/-- The part of a join that one left row makes. -/
theorem IsKey.filter_isMatch (key : IsKey join.right.column rights)
    (hleft : join.left.table = fromTable) (hright : join.right.table ≠ fromTable) (left : Row) :
    if join.hasPartner rights left then
      ∃ right ∈ rights, join.IsPartner left right ∧
        rights.filter (join.isMatch fromTable left) = [right]
    else rights.filter (join.isMatch fromTable left) = [] := by
  have matched_iff : ∀ right ∈ rights,
      (join.isMatch fromTable left right = true ↔ join.IsPartner left right) := by
    intro right mem
    obtain ⟨w, hw⟩ := Option.isSome_iff_exists.mp (key.present right mem)
    exact isMatch_iff hleft hright hw
  have one := key.partners_le_one left fun right mem => (matched_iff right mem).mp
  split
  · rename_i found
    obtain ⟨right, mem, isPartner⟩ := hasPartner_iff.mp found
    have kept : right ∈ rights.filter (join.isMatch fromTable left) :=
      List.mem_filter.mpr ⟨mem, (matched_iff right mem).mpr isPartner⟩
    obtain ⟨only, single⟩ := List.length_eq_one_iff.mp
      (Nat.le_antisymm one (List.length_pos_of_mem kept))
    rw [single, List.mem_singleton] at kept
    exact ⟨right, mem, isPartner, by rw [single, kept]⟩
  · rename_i missing
    refine List.filter_eq_nil_iff.mpr fun right mem matched => missing ?_
    exact hasPartner_iff.mpr ⟨right, mem, (matched_iff right mem).mp matched⟩

theorem IsKey.rows_forall₂ (key : IsKey join.right.column rights)
    (hleft : join.left.table = fromTable) (hright : join.right.table ≠ fromTable)
    (lefts : List Row) :
    List.Forall₂ (fun left row =>
        ∃ right ∈ rights, join.IsPartner left right ∧ join.IsOverlay left right row)
      (lefts.filter (join.hasPartner rights)) (join.rows fromTable lefts rights) := by
  induction lefts with
  | nil => exact .nil
  | cons left lefts ih =>
    have own := key.filter_isMatch hleft hright left
    rw [rows, List.flatMap_cons, List.filter_cons]
    split at own
    · rename_i found
      obtain ⟨right, mem, isPartner, single⟩ := own
      rw [if_pos found, single]
      exact .cons ⟨right, mem, isPartner, isOverlay_combine join left right⟩ ih
    · rename_i missing
      rw [if_neg missing, own]
      exact ih

end Key

end JoinClause

open JoinClause

/-- A join on a key of the joined table has one row for each left row that finds its value there,
and no other row. -/
theorem joined_forall₂_of_isKey {c : Clauses} {dataset : Dataset} {fromTable : String}
    {join : JoinClause} {rights : List Row} (hjoin : c.join = some join)
    (hrights : dataset.get? join.table = some rights) (hleft : join.left.table = fromTable)
    (hright : join.right.table ≠ fromTable) (key : IsKey join.right.column rights)
    (lefts : List Row) :
    ∃ rows, c.joined dataset fromTable lefts = .ok rows ∧
      List.Forall₂ (fun left row =>
          ∃ right ∈ rights, join.IsPartner left right ∧ join.IsOverlay left right row)
        (lefts.filter (join.hasPartner rights)) rows := by
  refine ⟨join.rows fromTable lefts rights, ?_, key.rows_forall₂ hleft hright lefts⟩
  simp only [Clauses.joined, hjoin, hrights]

section Numbers

/-- Numbers of both kinds, what is not a number twice, a text and null. -/
def keyed : List Row :=
  [.ofList [("id", .int 10), ("key", .int 1)], .ofList [("id", .int 11), ("key", .null)],
   .ofList [("id", .int 12), ("key", .float (.nan false))],
   .ofList [("key", .float (.nan false))], .ofList [("key", .text "1")],
   .ofList [("key", .float (.zero true)), ("name", .text "zero")]]

def keyedJoin : JoinClause := ⟨"k", ⟨"t", "ref"⟩, ⟨"k", "key"⟩⟩

theorem isKey_keyed : IsKey "key" keyed := ⟨by decide +kernel, by decide +kernel⟩

def keyedClauses : Clauses := { Clauses.ofText [] with join := some keyedJoin }

def referring : List Row :=
  [.ofList [("ref", .float (.ofNat 1)), ("k_id", .bool true), ("name", .text "one")],
   .ofList [("ref", .float (.nan false))], .ofList [("name", .text "none")],
   .ofList [("ref", .int 0), ("name", .text "nothing"), ("id", .int 4)]]

theorem joined_forall₂_of_isKey_keyed :
    IsKey "key" keyed ∧
      ∃ rows, keyedClauses.joined (.ofList [("k", keyed)]) "t" referring = .ok rows ∧
        List.Forall₂ (fun left row => ∃ right ∈ keyed,
            keyedJoin.IsPartner left right ∧ keyedJoin.IsOverlay left right row)
          (referring.filter (keyedJoin.hasPartner keyed)) rows :=
  have joins : keyedClauses.join = some keyedJoin := rfl
  ⟨isKey_keyed, joined_forall₂_of_isKey joins rfl rfl (by decide) isKey_keyed referring⟩

/-- The id of the joined row takes the place of a column of its name, and a zero is equal to the
other one. -/
example : (keyedJoin.rows "t" referring keyed).map OrderedMap.entries =
    [[("ref", .float (.ofNat 1)), ("k_id", .int 10), ("name", .text "one"), ("id", .int 10),
        ("key", .int 1)],
      [("ref", .int 0), ("name", .text "zero"), ("id", .int 4), ("key", .float (.zero true))]] := by
  decide +kernel

end Numbers

namespace Predicate

def column : Predicate → String
  | .textEq column _ => column
  | .numberEq column _ => column
  | .textNe column _ => column
  | .compare column _ _ => column
  | .contains column _ => column
  | .isNull column => column
  | .isNotNull column => column
  | .boolEq column _ => column

/-- A predicate sees nothing of a row but its own column. -/
theorem holds_congr {p : Predicate} {row other : Row}
    (h : row.get? p.column = other.get? p.column) : p.holds row = p.holds other := by
  cases p <;> simp only [column] at h <;> simp only [holds, h]

end Predicate

namespace Condition

/-- The columns of the parts that are recognized. -/
def columns (condition : Condition) : List String :=
  condition.parts.filterMap fun part => part.2.map Predicate.column

theorem holds_congr {condition : Condition} {row other : Row}
    (h : ∀ column ∈ condition.columns, row.get? column = other.get? column) :
    condition.holds row = condition.holds other := by
  rw [Bool.eq_iff_iff, holds, holds, List.all_eq_true, List.all_eq_true]
  refine forall₂_congr fun part mem => ?_
  match hpart : part.2 with
  | none => exact Iff.rfl
  | some p =>
    have mentioned : p.column ∈ condition.columns :=
      List.mem_filterMap.mpr ⟨part, mem, by rw [hpart, Option.map_some]⟩
    exact Bool.eq_iff_iff.mp (Predicate.holds_congr (h p.column mentioned))

section Combine

variable {condition : Condition} {join : JoinClause} {left right : Row}

/-- A condition on columns that the right row has is a condition on the right row. -/
theorem holds_combine_right (other : ∀ column ∈ condition.columns, column ≠ join.idColumn)
    (present : ∀ column ∈ condition.columns, right.contains column) :
    condition.holds (join.combine left right) = condition.holds right := by
  refine holds_congr fun column mem => ?_
  obtain ⟨v, hv⟩ := Option.isSome_iff_exists.mp (present column mem)
  exact get?_combine_of_mem (other column mem) hv

/-- A condition on columns that the right row lacks is a condition on the left row. -/
theorem holds_combine_left (other : ∀ column ∈ condition.columns, column ≠ join.idColumn)
    (absent : ∀ column ∈ condition.columns, right.get? column = none) :
    condition.holds (join.combine left right) = condition.holds left :=
  holds_congr fun column mem => get?_combine_of_notMem (other column mem) (absent column mem)

variable {fromTable : String} {rights : List Row}

theorem filter_rows_right (other : ∀ column ∈ condition.columns, column ≠ join.idColumn)
    (present : ∀ column ∈ condition.columns, ∀ right ∈ rights, right.contains column)
    (lefts : List Row) :
    condition.filter (join.rows fromTable lefts rights) =
      join.rows fromTable lefts (condition.filter rights) := by
  unfold filter JoinClause.rows
  rw [List.filter_flatMap]
  refine List.flatMap_congr fun left _ => ?_
  have onRight : ∀ right ∈ rights, (condition.holds ∘ join.combine left) right =
      condition.holds right := by
    intro right mem
    exact holds_combine_right other fun column hcolumn => present column hcolumn right mem
  calc ((rights.filter (join.isMatch fromTable left)).map (join.combine left)).filter
          condition.holds
      = ((rights.filter (join.isMatch fromTable left)).filter
          (condition.holds ∘ join.combine left)).map (join.combine left) := List.filter_map
    _ = ((rights.filter (join.isMatch fromTable left)).filter condition.holds).map
          (join.combine left) := by
      rw [List.filter_congr fun right mem => onRight right (List.mem_of_mem_filter mem)]
    _ = ((rights.filter condition.holds).filter (join.isMatch fromTable left)).map
          (join.combine left) := by rw [List.filter_comm]

theorem filter_rows_left (other : ∀ column ∈ condition.columns, column ≠ join.idColumn)
    (absent : ∀ column ∈ condition.columns, ∀ right ∈ rights, right.get? column = none)
    (lefts : List Row) :
    condition.filter (join.rows fromTable lefts rights) =
      join.rows fromTable (condition.filter lefts) rights := by
  induction lefts with
  | nil => rfl
  | cons left lefts ih =>
    have onLeft : ∀ row ∈ (rights.filter (join.isMatch fromTable left)).map (join.combine left),
        condition.holds row = condition.holds left := by
      intro row mem
      obtain ⟨right, matched, rfl⟩ := List.mem_map.mp mem
      exact holds_combine_left other fun column hcolumn =>
        absent column hcolumn right (List.mem_of_mem_filter matched)
    simp only [filter, JoinClause.rows, List.flatMap_cons, List.filter_append] at ih ⊢
    rw [ih, List.filter_cons]
    by_cases holds : condition.holds left = true
    · rw [if_pos holds, List.flatMap_cons, List.filter_eq_self.mpr fun row mem => by
        rw [onLeft row mem, holds]]
    · rw [if_neg holds, List.filter_eq_nil_iff.mpr fun row mem => by rwa [onLeft row mem],
        List.nil_append]

end Combine

end Condition

/-- A condition on columns that every row of the joined table has may be applied to this table in
front of the join, and one on columns that no row of it has to the left rows. -/
theorem joined_filter {c : Clauses} {dataset : Dataset} {fromTable : String} {join : JoinClause}
    {rights : List Row} {condition : Condition} (hjoin : c.join = some join)
    (hrights : dataset.get? join.table = some rights)
    (other : ∀ column ∈ condition.columns, column ≠ join.idColumn) (lefts : List Row) :
    ∃ rows, c.joined dataset fromTable lefts = .ok rows ∧
      ((∀ column ∈ condition.columns, ∀ right ∈ rights, right.contains column) →
        c.joined (dataset.insert join.table (condition.filter rights)) fromTable lefts =
          .ok (condition.filter rows)) ∧
      ((∀ column ∈ condition.columns, ∀ right ∈ rights, right.get? column = none) →
        c.joined dataset fromTable (condition.filter lefts) = .ok (condition.filter rows)) := by
  have joined {dataset : Dataset} {rights : List Row}
      (found : dataset.get? join.table = some rights) (lefts : List Row) :
      c.joined dataset fromTable lefts = .ok (join.rows fromTable lefts rights) := by
    simp only [Clauses.joined, hjoin, found]
  refine ⟨_, joined hrights lefts, fun present => ?_, fun absent => ?_⟩
  · have replaced : (dataset.insert join.table (condition.filter rights)).get? join.table =
        some (condition.filter rights) := by
      rw [OrderedMap.get?_insert, if_pos rfl]
    rw [joined replaced, Condition.filter_rows_right other present]
  · rw [joined hrights, Condition.filter_rows_left other absent]

section Posts

def authored : Clauses :=
  { Clauses.ofText [] with join := some ⟨"posts", ⟨"users", "id"⟩, ⟨"posts", "user_id"⟩⟩ }

def published : Condition := .ofText "published = true AND content LIKE '%is%'".toList

def admins : Condition := .ofText "role = 'admin'".toList

theorem joined_filter_posts :
    (∃ rows, authored.joined .sample "users" Dataset.users = .ok rows ∧
      authored.joined (Dataset.sample.insert "posts" (published.filter Dataset.posts)) "users"
        Dataset.users = .ok (published.filter rows)) ∧
    ∃ rows, authored.joined .sample "users" Dataset.users = .ok rows ∧
      authored.joined .sample "users" (admins.filter Dataset.users) = .ok (admins.filter rows) := by
  have found : Dataset.sample.get? "posts" = some Dataset.posts := by decide +kernel
  obtain ⟨rows, all, below, -⟩ := joined_filter (c := authored) rfl found
    (by decide +kernel : ∀ column ∈ published.columns, column ≠ "posts_id") Dataset.users
  obtain ⟨others, all', -, below'⟩ := joined_filter (c := authored) rfl found
    (by decide +kernel : ∀ column ∈ admins.columns, column ≠ "posts_id") Dataset.users
  exact ⟨⟨rows, all, below (by decide +kernel)⟩, others, all', below' (by decide +kernel)⟩

end Posts

end SqlTutor.Query

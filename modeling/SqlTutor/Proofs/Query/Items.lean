import SqlTutor.Proofs.OrderedMap
import SqlTutor.Proofs.Query.Conjunction
import SqlTutor.Proofs.Query.Vocabulary
import SqlTutor.Proofs.Text.LetterCase
import SqlTutor.Query.Select

/-!
Lists of plain columns as projections. Commas separate the items, each item reads the column that it
names, and a row keeps the columns that it has in the order of the list. The row that is left is
given entry by entry.
-/
namespace SqlTutor

namespace Query

open Text

/-- Names with a comma and a space between each two of them. -/
def columnList (names : List Column) : List Char :=
  [',', ' '].intercalate (names.map Column.text)

theorem columnList_cons (c : Column) {rest : List Column} (h : rest ≠ []) :
    columnList (c :: rest) = c.text ++ ([',', ' '] ++ columnList rest) := by
  obtain ⟨d, rest, rfl⟩ := List.exists_cons_of_ne_nil h
  rw [columnList, columnList, List.map_cons, List.map_cons, List.intercalate_cons_cons,
    List.append_assoc]

/-- The item reads the column and keeps its name. -/
def plainItem (c : Column) : SelectItem := ⟨String.ofList c.text, String.ofList c.text⟩

theorem eq_paren_of_toLower {c : Char} (h : c.toLower = '(') : c = '(' := by
  by_cases small : c.toNat < 128
  · have table : ∀ n < 128, (Char.ofNat n).toLower = '(' → Char.ofNat n = '(' := by decide
    rw [← Char.ofNat_toNat c] at h ⊢
    exact table _ small h
  · rwa [toLower_of_ne_ascii (Nat.not_lt.mp small)] at h

/-- Without a bracket in it an expression is no count. -/
theorem sourceOf_of_notMem {s : List Char} (h : '(' ∉ s) :
    Projection.sourceOf s = Projection.dropQualifier s := by
  refine if_neg fun count => h ?_
  have paren : '(' ∈ lowerAscii (compact s) := by
    rw [count]
    decide
  obtain ⟨c, hc, lowered⟩ := List.mem_map.mp paren
  obtain rfl := eq_paren_of_toLower lowered
  exact (List.mem_filter.mp hc).1

theorem toLower_ne_paren {c : Char} (h : isNameChar c) : c.toLower ≠ '(' := by
  intro lowered
  obtain rfl := eq_paren_of_toLower lowered
  exact absurd h (by decide)

theorem sourceOf_column (c : Column) (ascii : ∀ a ∈ c.text, isNameChar a) :
    Projection.sourceOf c.text = c.text := by
  have noParen : '(' ∉ c.text := fun mem => absurd (ascii '(' mem) (by decide)
  rw [sourceOf_of_notMem noParen, Projection.dropQualifier, c.word?_text]

theorem item_of_trim (c : Column) (ascii : ∀ a ∈ c.text, isNameChar a) {s : List Char}
    (h : trim s = c.text) : Projection.item s = plainItem c := by
  rw [Projection.item, h, (uncut_of_solid c.solid.2).splitOnWord_eq]
  dsimp only
  rw [sourceOf_column c ascii]
  rfl

theorem trim_column (c : Column) {gap : List Char} (hgap : ∀ a ∈ gap, isBlank a) :
    trim (gap ++ c.text) = c.text := by
  have tidy := tidy_of_solid c.solid
  have nothing : ∀ a ∈ ([] : List Char), isBlank a := by simp
  simpa using trim_append hgap nothing c.ne_nil tidy.stops tidy.last

theorem splitOn_append_comma {s : List Char} (hs : ',' ∉ s) (t : List Char) :
    (s ++ ',' :: t).splitOn ',' = s :: t.splitOn ',' := by
  have first : s.splitOn ',' = [s] := List.splitOn_eq_singleton hs
  have cut := List.splitOnP_append_cons (p := fun c => c == ',') s t (beq_self_eq_true ',')
  rw [List.splitOn_eq_splitOnP] at first ⊢
  rw [cut, first, List.splitOn_eq_splitOnP, List.singleton_append]

/-- The items of a list are its names; white space in front of it does not matter. -/
theorem map_item_splitOn {names : List Column} (nonempty : names ≠ [])
    (ascii : ∀ c ∈ names, ∀ a ∈ c.text, isNameChar a) {gap : List Char}
    (hgap : ∀ a ∈ gap, isBlank a) :
    ((gap ++ columnList names).splitOn ',').map Projection.item = names.map plainItem := by
  induction names generalizing gap with
  | nil => exact absurd rfl nonempty
  | cons c rest ih =>
    have noComma : ',' ∉ gap ++ c.text := by
      intro mem
      rcases List.mem_append.mp mem with inside | inside
      · exact absurd (hgap ',' inside) (by decide)
      · exact absurd (c.chars ',' inside) (by decide)
    have here : Projection.item (gap ++ c.text) = plainItem c :=
      item_of_trim c (ascii c List.mem_cons_self) (trim_column c hgap)
    by_cases last : rest = []
    · subst last
      rw [columnList, List.map_singleton, List.intercalate_singleton,
        List.splitOn_eq_singleton noComma, List.map_singleton, here, List.map_singleton]
    · have blank : ∀ a ∈ [' '], isBlank a := by decide
      have behind := ih last (fun d hd => ascii d (List.mem_cons_of_mem c hd)) blank
      have text : gap ++ columnList (c :: rest) =
          (gap ++ c.text) ++ ',' :: ([' '] ++ columnList rest) := by
        rw [columnList_cons c last, List.append_assoc]
        rfl
      rw [text, splitOn_append_comma noComma, List.map_cons, List.map_cons, here, behind]

section Projection

variable {names : List Column}

theorem items_columnList (nonempty : names ≠ []) (ascii : ∀ c ∈ names, ∀ a ∈ c.text, isNameChar a) :
    Projection.items ⟨String.ofList (columnList names)⟩ = names.map plainItem := by
  have nothing : ∀ a ∈ ([] : List Char), isBlank a := by simp
  rw [Projection.items, String.toList_ofList]
  exact map_item_splitOn nonempty ascii nothing

theorem mem_columnList {a : Char} (h : a ∈ columnList names) :
    a = ',' ∨ a = ' ' ∨ ∃ c ∈ names, a ∈ c.text := by
  induction names with
  | nil => exact absurd h List.not_mem_nil
  | cons c rest ih =>
    by_cases last : rest = []
    · subst last
      rw [columnList, List.map_singleton, List.intercalate_singleton] at h
      exact Or.inr (Or.inr ⟨c, List.mem_cons_self, h⟩)
    · rw [columnList_cons c last] at h
      rcases List.mem_append.mp h with inside | behind
      · exact Or.inr (Or.inr ⟨c, List.mem_cons_self, inside⟩)
      · rcases List.mem_append.mp behind with separator | later
        · simp only [List.mem_cons, List.not_mem_nil, or_false] at separator
          exact separator.imp_right Or.inl
        · refine (ih later).imp_right (Or.imp_right ?_)
          rintro ⟨d, hd, inside⟩
          exact ⟨d, List.mem_cons_of_mem c hd, inside⟩

theorem not_occursIn {needle s : List Char} {a : Char} (ha : a ∈ needle) (hs : a ∉ s) :
    occursIn needle s = false := by
  induction s with
  | nil => simp [occursIn, List.ne_nil_of_mem ha]
  | cons c s ih =>
    have front : needle.isPrefixOf (c :: s) = false := by
      rw [Bool.eq_false_iff]
      intro found
      exact hs ((List.isPrefixOf_iff_prefix.mp found).subset ha)
    rw [occursIn, front, ih fun mem => hs (List.mem_cons_of_mem c mem), Bool.or_false]

theorem hasCountStar_columnList (ascii : ∀ c ∈ names, ∀ a ∈ c.text, isNameChar a) :
    Projection.hasCountStar ⟨String.ofList (columnList names)⟩ = false := by
  have small : ∀ a ∈ columnList names, a.toNat < 128 ∧ a.toLower ≠ '(' := by
    intro a ha
    rcases mem_columnList ha with rfl | rfl | ⟨c, hc, inside⟩
    · decide
    · decide
    · exact ⟨toNat_lt_of_isNameChar (ascii c hc a inside), toLower_ne_paren (ascii c hc a inside)⟩
  have lowered := lower_eq_lowerAscii fun a ha => (small a ha).1
  rw [Projection.hasCountStar]
  dsimp only
  rw [String.toList_ofList (l := columnList names), lowered]
  refine not_occursIn (a := '(') (by decide) fun mem => ?_
  obtain ⟨a, ha, lowered⟩ := List.mem_map.mp mem
  exact (small a ha).2 lowered

theorem isWildcard_columnList (nonempty : names ≠ []) :
    Projection.isWildcard ⟨String.ofList (columnList names)⟩ = false := by
  rw [Projection.isWildcard, beq_eq_false_iff_ne]
  intro star
  have text : columnList names = ['*'] := by
    have same : String.ofList (columnList names) = "*" := star
    rw [← String.toList_ofList (l := columnList names), same]
    rfl
  obtain ⟨c, rest, rfl⟩ := List.exists_cons_of_ne_nil nonempty
  obtain ⟨a, word, hword⟩ := List.exists_cons_of_ne_nil c.ne_nil
  have first : (columnList (c :: rest)).head? = some a := by
    by_cases last : rest = []
    · rw [last, columnList, List.map_singleton, List.intercalate_singleton, hword]
      rfl
    · rw [columnList_cons c last, hword]
      rfl
  rw [text] at first
  obtain rfl : '*' = a := Option.some.inj first
  exact absurd (c.chars '*' (hword ▸ List.mem_cons_self)) (by decide)

/-- Entries that may be missing have names from the list. -/
theorem map_fst_filterMap_sublist {α β : Type} (name : α → String) (value? : α → Option β)
    (l : List α) : List.Sublist
      ((l.filterMap fun a => (value? a).map (name a, ·)).map Prod.fst) (l.map name) := by
  induction l with
  | nil => exact List.Sublist.refl _
  | cons a l ih =>
    rw [List.filterMap_cons, List.map_cons]
    cases value? a with
    | none => exact ih.cons (name a)
    | some b => exact ih.cons_cons (name a)

/-- A row keeps the columns that it has, in the order of the list. -/
theorem entries_row_columnList (nonempty : names ≠ [])
    (ascii : ∀ c ∈ names, ∀ a ∈ c.text, isNameChar a) (nodup : (names.map Column.text).Nodup)
    (row : Row) :
    (Projection.row (Projection.items ⟨String.ofList (columnList names)⟩) row).entries =
      names.filterMap fun c => (row.get? (String.ofList c.text)).map (String.ofList c.text, ·) := by
  have distinct : (names.map fun c => String.ofList c.text).Nodup := by
    have different : ((names.map Column.text).map String.ofList).Nodup :=
      List.Pairwise.map _ (fun s t hne same => hne (String.ofList_injective same)) nodup
    rwa [List.map_map] at different
  rw [items_columnList nonempty ascii, Projection.row, List.filterMap_map]
  exact OrderedMap.entries_ofList (distinct.sublist (map_fst_filterMap_sublist _ _ names))

end Projection

end Query

end SqlTutor

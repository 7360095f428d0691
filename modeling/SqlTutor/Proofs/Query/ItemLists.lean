import SqlTutor.Proofs.Query.Items

/-!
Lists of items as projections. An item is read in four passes: commas cut the list, the ends are
trimmed, AS cuts off the name, and the rest is a count or loses its qualifier. A column or a name
may itself be called `as`, since a separator has white space on both sides. Each item reads what is
written, and a row becomes the columns of the items that it has, under their names.
-/
namespace SqlTutor.Query

open Text

/-- The text is `count(*)`, apart from letter case and from white space between its characters. -/
structure CountText where
  text : List Char
  spells : Spells "count(*)".toList (compact text)
  stops : Stops isBlank text
  endsSolid : EndsSolid text

/-- What an item reads. -/
inductive Expression where
  | column (c : Column)
  | qualified (table c : Column)
  | count (c : CountText)

/-- AS with white space on both sides, and a word. -/
structure Alias where
  separator : List Char
  isSeparator : Separator "as".toList separator
  name : Column

/-- An item with the white space around it. -/
structure WrittenItem where
  before : List Char
  expression : Expression
  alias? : Option Alias
  after : List Char
  before_blank : ∀ c ∈ before, isBlank c
  after_blank : ∀ c ∈ after, isBlank c

namespace Expression

def text : Expression → List Char
  | column c => c.text
  | qualified table c => table.text ++ '.' :: c.text
  | count c => c.text

/-- The column that is read. -/
def source : Expression → String
  | column c => String.ofList c.text
  | qualified _ c => String.ofList c.text
  | count _ => "count"

end Expression

namespace WrittenItem

/-- The item without the white space around it. -/
def body (i : WrittenItem) : List Char :=
  match i.alias? with
  | none => i.expression.text
  | some a => i.expression.text ++ (a.separator ++ a.name.text)

def text (i : WrittenItem) : List Char := i.before ++ (i.body ++ i.after)

def item (i : WrittenItem) : SelectItem :=
  ⟨i.expression.source, (i.alias?.map fun a => String.ofList a.name.text).getD i.expression.source⟩

end WrittenItem

/-- The items with commas between them. -/
def listText (items : List WrittenItem) : List Char :=
  [','].intercalate (items.map WrittenItem.text)

namespace CountText

variable (c : CountText)

/-- All characters are white space or signs of `count(*)`. -/
theorem blank_or_mem {d : Char} (hd : d ∈ c.text) :
    isBlank d ∨ d.toLower ∈ "count(*)".toList := by
  by_cases blank : isBlank d
  · exact Or.inl blank
  · have kept : d ∈ compact c.text := List.mem_filter.mpr ⟨hd, by simpa using blank⟩
    exact Or.inr (c.spells ▸ List.mem_map_of_mem kept)

theorem ne_nil : c.text ≠ [] := by
  intro empty
  have spells := c.spells
  rw [empty] at spells
  exact absurd spells (by decide)

theorem foreign {d : Char} (hd : d ∈ c.text) : Foreign ['a'] d := by
  intro k hk
  obtain rfl := List.mem_singleton.mp hk
  rcases c.blank_or_mem hd with blank | sign
  · exact of_isBlank blank (fun d => foldCase d ≠ 'a') (by decide)
  · intro letter
    rw [toLower_of_foldCase letter (by decide) (by decide)] at sign
    exact absurd sign (by decide)

theorem lacks : Lacks "as".toList c.text := by
  intro r hr
  cases r with
  | nil => rfl
  | cons d r =>
    exact if_neg (c.foreign (hr.subset List.mem_cons_self) 'a' List.mem_cons_self)

end CountText

namespace Expression

theorem notMem_column (c : Column) {d : Char} (hd : isWordChar d = false) : d ∉ c.text := by
  intro mem
  exact absurd ((c.chars d mem).symm.trans hd) (by decide)

theorem notMem_qualified (table c : Column) {d : Char} (hd : isWordChar d = false)
    (point : d ≠ '.') : d ∉ (qualified table c).text := by
  rw [text, List.mem_append, List.mem_cons]
  rintro (front | same | back)
  · exact notMem_column table hd front
  · exact point same
  · exact notMem_column c hd back

theorem solid_qualified (table c : Column) : Solid (qualified table c).text :=
  table.solid.append (List.forall_mem_cons.mpr ⟨by decide, c.solid.2⟩)

theorem uncut (e : Expression) : Uncut "as".toList e.text := by
  cases e with
  | column c => exact uncut_of_solid c.solid.2
  | qualified table c => exact uncut_of_solid (solid_qualified table c).2
  | count c => exact c.lacks.uncut

theorem ne_nil (e : Expression) : e.text ≠ [] := by
  cases e with
  | column c => exact c.ne_nil
  | qualified table c => exact (solid_qualified table c).1
  | count c => exact c.ne_nil

theorem stops (e : Expression) : Stops isBlank e.text := by
  cases e with
  | column c => exact (tidy_of_solid c.solid).stops
  | qualified table c => exact (tidy_of_solid (solid_qualified table c)).stops
  | count c => exact c.stops

theorem endsSolid (e : Expression) : EndsSolid e.text := by
  cases e with
  | column c => exact (tidy_of_solid c.solid).last
  | qualified table c => exact (tidy_of_solid (solid_qualified table c)).last
  | count c => exact c.endsSolid

theorem notMem_comma (e : Expression) : ',' ∉ e.text := by
  cases e with
  | column c => exact notMem_column c (by decide)
  | qualified table c => exact notMem_qualified table c (by decide) (by decide)
  | count c =>
    intro mem
    exact absurd (c.blank_or_mem mem) (by decide)

theorem sourceOf_text (e : Expression) : String.ofList (Projection.sourceOf e.text) = e.source := by
  cases e with
  | column c =>
    have text : (column c).text = c.text := rfl
    rw [text, sourceOf_of_notMem (notMem_column c (by decide)), Projection.dropQualifier,
      c.word?_text]
    rfl
  | qualified table c =>
    have noParen : '(' ∉ (qualified table c).text :=
      notMem_qualified table c (by decide) (by decide)
    have read : word? (qualified table c).text = some (table.text, '.' :: c.text) :=
      Predicate.word?_column table (stops_cons rfl _)
    rw [sourceOf_of_notMem noParen, Projection.dropQualifier, read]
    rfl
  | count c =>
    rw [Projection.sourceOf, if_pos (show lowerAscii (compact (count c).text) = _ from c.spells)]
    rfl

end Expression

namespace WrittenItem

variable (i : WrittenItem)

theorem body_ne_nil : i.body ≠ [] := by
  unfold body
  split
  · exact i.expression.ne_nil
  · exact List.append_ne_nil_of_left_ne_nil i.expression.ne_nil _

theorem body_stops : Stops isBlank i.body := by
  unfold body
  split
  · exact i.expression.stops
  · exact stops_append i.expression.ne_nil i.expression.stops _

theorem body_endsSolid : EndsSolid i.body := by
  unfold body
  split
  · exact i.expression.endsSolid
  · rename_i a _
    rw [← List.append_assoc]
    exact (tidy_of_solid a.name.solid).last.append a.name.ne_nil _

theorem trim_text : trim i.text = i.body :=
  trim_append i.before_blank i.after_blank i.body_ne_nil i.body_stops i.body_endsSolid

theorem splitOnWord_body : splitOnWord "as".toList i.body =
    i.expression.text :: (i.alias?.map fun a => a.name.text).toList := by
  unfold body
  split
  · rename_i none
    rw [none, i.expression.uncut.splitOnWord_eq]
    rfl
  · rename_i a some
    have closed := i.expression.uncut.closed i.expression.endsSolid
    have stops := (tidy_of_solid a.name.solid).stops
    rw [some, splitOnWord_append (by decide) closed a.isSeparator stops,
      i.expression.uncut.splitOnWord_eq, (uncut_of_solid a.name.solid.2).splitOnWord_eq]
    rfl

/-- An item is read as it is written. -/
theorem item_text : Projection.item i.text = i.item := by
  rw [Projection.item, i.trim_text, i.splitOnWord_body, item, ← i.expression.sourceOf_text]
  cases i.alias? with
  | none => rfl
  | some a =>
    obtain ⟨c, rest, name⟩ := List.exists_cons_of_ne_nil a.name.ne_nil
    simp only [Option.map_some, Option.toList_some, name, Option.getD_some]

theorem notMem_comma : ',' ∉ i.text := by
  have blank {gap : List Char} (hgap : ∀ c ∈ gap, isBlank c) : ',' ∉ gap :=
    fun mem => absurd (hgap ',' mem) (by decide)
  have body : ',' ∉ i.body := by
    unfold body
    split
    · exact i.expression.notMem_comma
    · rename_i a _
      obtain ⟨separator, ⟨gap, word, gap', -, hblank, hword, -, hblank'⟩, name⟩ := a
      have spelled : ',' ∉ word := fun mem =>
        absurd (hword ▸ List.mem_map_of_mem mem : (',').toLower ∈ "as".toList) (by decide)
      have named : ',' ∉ name.text := Expression.notMem_column name (by decide)
      simp only [List.mem_append, not_or]
      exact ⟨i.expression.notMem_comma, ⟨blank hblank, spelled, blank hblank'⟩, named⟩
  simp only [text, List.mem_append, not_or]
  exact ⟨blank i.before_blank, body, blank i.after_blank⟩

theorem source_ne_star : i.item.source ≠ "*" := by
  have word (c : Column) : String.ofList c.text ≠ "*" := by
    intro star
    have text : c.text = ['*'] := String.ofList_injective star
    exact Expression.notMem_column c (d := '*') (by decide) (text ▸ List.mem_cons_self)
  unfold item
  cases i.expression with
  | column c => exact word c
  | qualified table c => exact word c
  | count c => exact (by decide : "count" ≠ "*")

end WrittenItem

section List

variable {items : List WrittenItem} (nonempty : items ≠ [])

include nonempty

theorem items_listText :
    Projection.items ⟨String.ofList (listText items)⟩ = items.map WrittenItem.item := by
  have cut : (listText items).splitOn ',' = items.map WrittenItem.text := by
    refine List.splitOn_intercalate ',' ?_ (by simpa using nonempty)
    intro t ht
    obtain ⟨i, -, rfl⟩ := List.mem_map.mp ht
    exact i.notMem_comma
  rw [Projection.items, String.toList_ofList, cut, List.map_map]
  exact List.map_congr_left fun i _ => i.item_text

/-- No list is taken for the star. -/
theorem isWildcard_listText : Projection.isWildcard ⟨String.ofList (listText items)⟩ = false := by
  rw [Projection.isWildcard, beq_eq_false_iff_ne]
  intro star
  have star : String.ofList (listText items) = "*" := star
  have read := items_listText nonempty
  have single : Projection.items ⟨"*"⟩ = [⟨"*", "*"⟩] := by decide +kernel
  rw [star, single] at read
  obtain ⟨i, rest, rfl⟩ := List.exists_cons_of_ne_nil nonempty
  exact i.source_ne_star (congrArg SelectItem.source (List.cons.inj read).1).symm

end List

/-- The items whose columns the row has. -/
def present (items : List SelectItem) (row : Row) : List SelectItem :=
  items.filter fun item => row.contains item.source

section Rows

variable (items : List SelectItem) (row : Row)

/-- What is written into the row that a row becomes. -/
def writes : List (String × Value) :=
  items.filterMap fun item => (row.get? item.source).map fun v => (item.name, v)

theorem map_fst_writes : (writes items row).map Prod.fst =
    (present items row).map SelectItem.name := by
  induction items with
  | nil => rfl
  | cons item items ih =>
    unfold writes present OrderedMap.contains at *
    cases found : row.get? item.source with
    | none => simpa [found] using ih
    | some v => simpa [found] using ih

/-- The last value that is written under a name is that of the last item of the name. -/
theorem lookup_reverse_writes (name : String) : (writes items row).reverse.lookup name =
    (((present items row).filter fun item => item.name = name).getLast?).bind
      fun item => row.get? item.source := by
  induction items using List.reverseRecOn with
  | nil => rfl
  | append_singleton items item ih =>
    unfold writes present OrderedMap.contains at *
    cases found : row.get? item.source with
    | none => simpa [found] using ih
    | some v =>
      by_cases same : item.name = name
      · simp [found, same]
      · have other : (name == item.name) = false := beq_false_of_ne (Ne.symm same)
        simpa [found, same, List.lookup_cons, other] using ih

end Rows

/-- A list is read as it is written. A row becomes the names of the items whose columns it has, in
the order in which they first occur, each with the value of the last such item of the name; and each
row becomes one row. -/
theorem projection_listText {items : List WrittenItem} (nonempty : items ≠ []) :
    let p : Projection := ⟨String.ofList (listText items)⟩
    p.items = items.map WrittenItem.item ∧
    (∀ row : Row,
      (Projection.row p.items row).names =
        ((present p.items row).map SelectItem.name).eraseDups ∧
      ∀ name, (Projection.row p.items row).get? name =
        ((present p.items row).filter fun item => item.name = name).getLast?.bind
          fun item => row.get? item.source) ∧
    ∀ (c : Clauses) (rows : List Row), c.projection = some p →
      c.projected rows = rows.map (Projection.row p.items) ∧
        (c.projected rows).length = rows.length := by
  intro p
  refine ⟨items_listText nonempty, fun row => ?_, fun c rows hp => ?_⟩
  · have records := OrderedMap.records_ofList (writes p.items row)
    refine ⟨?_, fun name => ?_⟩
    · rw [← map_fst_writes]
      exact records.names_eq
    · rw [← lookup_reverse_writes]
      exact records.get?_eq name
  · have each : c.projected rows = rows.map (Projection.row p.items) := by
      rw [Clauses.projected, hp]
      dsimp only
      rw [isWildcard_listText nonempty, if_neg Bool.false_ne_true]
    exact ⟨each, by rw [each, List.length_map]⟩

def wordAs : Column := ⟨"as".toList, by decide, by decide⟩

def wordB : Column := ⟨"b".toList, by decide, by decide⟩

def wordX : Column := ⟨"x".toList, by decide, by decide⟩

/-- White space in front of AS and behind it, and a word. -/
def aliasOf (gap word gap' : List Char) (name : Column)
    (h : (gap ≠ [] ∧ ∀ c ∈ gap, isBlank c) ∧ Spells "as".toList word ∧
      gap' ≠ [] ∧ ∀ c ∈ gap', isBlank c) : Alias :=
  ⟨gap ++ (word ++ gap'), .mk gap word gap' h.1.1 h.1.2 h.2.1 h.2.2.1 h.2.2.2, name⟩

def spacedCount : CountText where
  text := "Count ( * )".toList
  spells := by decide
  stops := by
    unfold Stops
    decide
  endsSolid := by
    unfold EndsSolid
    decide

/-- A column and a name that are called `as`, a count with white space in it, a name that is given
twice, and a column that the row below does not have. -/
def mixedItems : List WrittenItem :=
  [⟨[], .column wordAs, some (aliasOf [' '] "As".toList [' ', ' '] wordAs (by decide)), [],
      by decide, by decide⟩,
    ⟨['\n'], .qualified wordAs wordB, none, [], by decide, by decide⟩,
    ⟨[], .count spacedCount, some (aliasOf [' '] "AS".toList [' '] wordB (by decide)), [' '],
      by decide, by decide⟩,
    ⟨[' '], .column wordX, some (aliasOf ['\t'] "as".toList [' '] wordAs (by decide)), [],
      by decide, by decide⟩]

theorem projection_listText_mixed :
    let p : Projection := ⟨"as As  as,\nas.b,Count ( * ) AS b , x\tas as"⟩
    let row : Row := .ofList [("count", .int 3), ("b", .int 2), ("as", .int 1)]
    p.items = [⟨"as", "as"⟩, ⟨"b", "b"⟩, ⟨"count", "b"⟩, ⟨"x", "as"⟩] ∧
      (Projection.row p.items row).names = ["as", "b"] ∧
      (Projection.row p.items row).get? "b" = some (.int 3) ∧
      ∀ (c : Clauses) (rows : List Row), c.projection = some p →
        (c.projected rows).length = rows.length := by
  intro p row
  have text : String.ofList (listText mixedItems) =
      "as As  as,\nas.b,Count ( * ) AS b , x\tas as" := by decide +kernel
  have nonempty : mixedItems ≠ [] := List.cons_ne_nil _ _
  have read := projection_listText nonempty
  rw [text] at read
  obtain ⟨items, rows, each⟩ := read
  have listed : mixedItems.map WrittenItem.item =
      [⟨"as", "as"⟩, ⟨"b", "b"⟩, ⟨"count", "b"⟩, ⟨"x", "as"⟩] := by decide +kernel
  have whole := items.trans listed
  refine ⟨whole, ?_, ?_, fun c rows hp => (each c rows hp).2⟩
  · rw [(rows row).1, whole]
    decide +kernel
  · rw [(rows row).2 "b", whole]
    decide +kernel

end SqlTutor.Query

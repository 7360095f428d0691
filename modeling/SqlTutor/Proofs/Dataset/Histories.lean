import SqlTutor.Proofs.Dataset.RoundTrip

/-!
Every way to make a row or a dataset has a history, which is all that was written in order. What is
read from a text has the members of the document as its history, repeated names included. Whatever
the history is, each name is shown once, in the order of the first writes, and with it the value
that was written last.
-/
namespace SqlTutor

open Json

namespace Row

/-- The ways to make a row. It may be read from a text of its own or off the front of the tokens of
a dataset, which then go on with others. -/
inductive Written : List (String × Value) → Row → Prop
  | empty : Written [] .empty
  | insert {writes : List (String × Value)} {row : Row} (h : Written writes row) (column : String)
      (value : Value) : Written (writes ++ [(column, value)]) (row.insert column value)
  | ofList (writes : List (String × Value)) : Written writes (.ofList writes)
  | merge {writes more : List (String × Value)} {row other : Row} (h : Written writes row)
      (hother : Written more other) : Written (writes ++ more) (row.merge other)
  | read {writes : List (String × Value)} {row : Row} {j : Json} {rest : List Token}
      (members : objectOf? scalar? j = some writes)
      (taken : reader.result (j.tokens ++ rest) = .ok (row, rest)) : Written writes row

theorem eq_ofList_of_result {writes : List (String × Value)} {row : Row} {j : Json}
    {rest : List Token} (members : objectOf? scalar? j = some writes)
    (taken : reader.result (j.tokens ++ rest) = .ok (row, rest)) : row = .ofList writes := by
  have value : ofJson? j = some (.ofList writes) := by rw [ofJson?, members, Option.map_some]
  have same := taken.symm.trans (follows_reader.takes.ok_iff.mpr ⟨j, value, rfl⟩)
  exact (Prod.mk.inj (Except.ok.inj same)).1

theorem Written.records {writes : List (String × Value)} {row : Row} (h : Written writes row) :
    row.Records writes := by
  induction h with
  | empty => exact OrderedMap.records_empty
  | insert _ column value ih => exact ih.insert column value
  | ofList writes => exact OrderedMap.records_ofList writes
  | merge _ _ ih ihOther => exact ih.merge ihOther
  | read members taken =>
    rw [eq_ofList_of_result members taken]
    exact OrderedMap.records_ofList _

/-- The row that a document is has the members of the document as its history. -/
theorem written_of_ofJson? {j : Json} {row : Row} (h : ofJson? j = some row) :
    ∃ writes, objectOf? scalar? j = some writes ∧ Written writes row := by
  obtain ⟨writes, members, -⟩ := Option.map_eq_some_iff.mp h
  have taken : reader.result (j.tokens ++ []) = .ok (row, []) :=
    follows_reader.takes.ok_iff.mpr ⟨j, h, rfl⟩
  exact ⟨writes, members, .read members taken⟩

/-- A row shows each of its columns once, in the order of their first writes, with the value that
was last written to it. The rows of texts and of datasets are among those with a history. A merged
row has the columns of the first row and then the others of the second, with the values of the
second where it has the column. -/
theorem shows_writes :
    (∀ writes row, Written writes row →
      row.names.Nodup ∧ row.names = (writes.map Prod.fst).eraseDups ∧
        ∀ column, row.get? column = writes.reverse.lookup column) ∧
    (∀ text row, ofText text = .ok row → ∃ j writes, IsText j text.toList ∧
      objectOf? scalar? j = some writes ∧ Written writes row) ∧
    (∀ text d, Dataset.ofText text = .ok d → ∀ table ∈ d.entries, ∀ row ∈ table.2,
      ∃ tables items item writes, IsText (.object tables) text.toList ∧
        (table.1, .array items) ∈ tables ∧ item ∈ items ∧ objectOf? scalar? item = some writes ∧
        Written writes row) ∧
    ∀ row other : Row,
      (row.merge other).names = row.names ++ other.names.filter (fun column => column ∉ row.names) ∧
      ∀ column, (row.merge other).get? column = (other.get? column).or (row.get? column) := by
  refine ⟨fun writes row h => ⟨row.nodup, h.records.names_eq, h.records.get?_eq⟩,
    fun text row read => ?_, fun text d read table htable row hrow => ?_,
    fun row other => ⟨row.names_merge other, row.get?_merge other⟩⟩
  · obtain ⟨j, isText, value⟩ := follows_reader.run_eq_ok_iff.mp read
    obtain ⟨writes, members, written⟩ := written_of_ofJson? value
    exact ⟨j, writes, isText, members, written⟩
  · obtain ⟨j, isText, value⟩ := Dataset.follows_reader.run_eq_ok_iff.mp read
    obtain ⟨additions, parts, rfl⟩ := Option.map_eq_some_iff.mp value
    obtain ⟨tables, rfl, array, harray, value⟩ :=
      exists_member parts (OrderedMap.mem_of_mem_ofList htable)
    obtain ⟨items, rfl, item, hitem, value⟩ := exists_item value hrow
    obtain ⟨writes, members, written⟩ := written_of_ofJson? value
    exact ⟨tables, items, item, writes, isText, harray, hitem, members, written⟩

/-- Its first column is written twice. -/
def draft : Json :=
  .object [("id", .number (.int 1)), ("title", .string "Draft"), ("id", .number (.int 2))]

def draftText : String := "\x7b\"id\": 1, \"title\": \"Draft\", \"id\": 2\x7d"

def draftTableText : String := "\x7b\"drafts\": [" ++ draftText ++ "]\x7d"

def readDraft : Row := .ofList [("id", .int 2), ("title", .text "Draft")]

/-- The draft with two changes. -/
def changedDraft : Row :=
  (readDraft.insert "title" .null).merge (.ofList [("name", .text "Alice"), ("id", .int 3)])

theorem shows_writes_draft :
    ofText draftText = .ok readDraft ∧
      Dataset.ofText draftTableText = .ok (.ofList [("drafts", [readDraft])]) ∧
      (∃ j writes, IsText j draftText.toList ∧ objectOf? scalar? j = some writes ∧
        Written writes readDraft) ∧
      (∃ tables items item writes, IsText (.object tables) draftTableText.toList ∧
        ("drafts", .array items) ∈ tables ∧ item ∈ items ∧ objectOf? scalar? item = some writes ∧
        Written writes readDraft) ∧
      changedDraft.names.Nodup ∧ changedDraft.names = ["id", "title", "name"] ∧
      changedDraft.get? "id" = some (.int 3) ∧ changedDraft.get? "title" = some .null ∧
      changedDraft.get? "body" = none := by
  have read : ofText draftText = .ok readDraft := by decide +kernel
  have reads : Dataset.ofText draftTableText = .ok (.ofList [("drafts", [readDraft])]) := by
    decide +kernel
  have taken : reader.result (draft.tokens ++ []) = .ok (readDraft, []) := by decide +kernel
  obtain ⟨shown, texts, datasets, -⟩ := shows_writes
  obtain ⟨distinct, names, values⟩ :=
    shown _ changedDraft (((Written.read rfl taken).insert "title" .null).merge (.ofList _))
  refine ⟨read, reads, texts _ _ read,
    datasets _ _ reads ("drafts", [readDraft]) (by decide) readDraft List.mem_cons_self, distinct,
    names.trans (by decide), (values "id").trans (by decide), (values "title").trans (by decide),
    (values "body").trans (by decide)⟩

end Row

namespace Dataset

/-- The ways to make a dataset. -/
inductive Made : List (String × List Row) → Dataset → Prop
  | empty : Made [] .empty
  | insert {additions : List (String × List Row)} {d : Dataset} (h : Made additions d)
      (table : String) (rows : List Row) : Made (additions ++ [(table, rows)]) (d.insert table rows)
  | read {additions : List (String × List Row)} {d : Dataset} {j : Json} {text : String}
      (isText : IsText j text.toList)
      (tables : objectOf? (arrayOf? Row.ofJson?) j = some additions)
      (read : ofText text = .ok d) : Made additions d

theorem eq_ofList_of_ofText {additions : List (String × List Row)} {d : Dataset} {j : Json}
    {text : String} (isText : IsText j text.toList)
    (tables : objectOf? (arrayOf? Row.ofJson?) j = some additions) (read : ofText text = .ok d) :
    d = .ofList additions := by
  have value : ofJson? j = some (.ofList additions) := by rw [ofJson?, tables, Option.map_some]
  have same := read.symm.trans (follows_reader.run_eq_ok_iff.mpr ⟨j, isText, value⟩)
  exact Except.ok.inj same

theorem Made.records {additions : List (String × List Row)} {d : Dataset} (h : Made additions d) :
    d.Records additions := by
  induction h with
  | empty => exact OrderedMap.records_empty
  | insert _ table rows ih => exact ih.insert table rows
  | read isText tables read =>
    rw [eq_ofList_of_ofText isText tables read]
    exact OrderedMap.records_ofList _

/-- A dataset shows each of its tables once, in the order in which the names were first added, with
the rows that were added last. The datasets of texts are among those with a history. Replacing a
table changes neither the rows nor the places of the others. -/
theorem shows_additions :
    (∀ additions d, Made additions d →
      d.names.Nodup ∧ d.names = (additions.map Prod.fst).eraseDups ∧
        ∀ table, d.get? table = additions.reverse.lookup table) ∧
    (∀ text d, ofText text = .ok d → ∃ j additions, IsText j text.toList ∧
      objectOf? (arrayOf? Row.ofJson?) j = some additions ∧ Made additions d) ∧
    ∀ (d : Dataset) (table : String) (rows : List Row), table ∈ d.names →
      (d.insert table rows).entries =
        d.entries.map fun entry => if entry.1 = table then (table, rows) else entry := by
  refine ⟨fun additions d h => ⟨d.nodup, h.records.names_eq, h.records.get?_eq⟩,
    fun text d read => ?_, fun d table rows h => OrderedMap.entries_insert_of_mem h rows⟩
  obtain ⟨j, isText, value⟩ := follows_reader.run_eq_ok_iff.mp read
  obtain ⟨additions, tables, -⟩ := Option.map_eq_some_iff.mp value
  exact ⟨j, additions, isText, tables, .read isText tables read⟩

/-- Its second table replaces the first. -/
def drafts : Json := .object [("drafts", .array [Row.draft]), ("drafts", .array [])]

def draftsText : String := "\x7b\"drafts\": [" ++ Row.draftText ++ "], \"drafts\": []\x7d"

def readDrafts : Dataset := .ofList [("drafts", [])]

def changedDrafts : Dataset := (readDrafts.insert "users" [.empty]).insert "drafts" [Row.readDraft]

theorem shows_additions_drafts :
    ofText draftsText = .ok readDrafts ∧
      (∃ j additions, IsText j draftsText.toList ∧
        objectOf? (arrayOf? Row.ofJson?) j = some additions ∧ Made additions readDrafts) ∧
      changedDrafts.names.Nodup ∧ changedDrafts.names = ["drafts", "users"] ∧
      changedDrafts.get? "drafts" = some [Row.readDraft] ∧
      changedDrafts.get? "users" = some [.empty] ∧ changedDrafts.get? "posts" = none ∧
      (changedDrafts.insert "drafts" []).entries = [("drafts", []), ("users", [.empty])] := by
  have isText : IsText drafts draftsText.toList := lex_eq_tokens_iff.mp (by decide +kernel)
  have read : ofText draftsText = .ok readDrafts := by decide +kernel
  obtain ⟨shown, texts, replaced⟩ := shows_additions
  obtain ⟨distinct, names, values⟩ :=
    shown _ changedDrafts (((Made.read isText rfl read).insert _ _).insert _ _)
  refine ⟨read, texts _ _ read, distinct, names.trans (by decide), (values "drafts").trans ?_,
    (values "users").trans ?_, (values "posts").trans ?_,
    (replaced changedDrafts "drafts" [] (by decide)).trans ?_⟩
  all_goals decide

end Dataset

end SqlTutor

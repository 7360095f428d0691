import SqlTutor.Dataset.Sample
import SqlTutor.Proofs.Query.Filtering

/-!
Texts between quotes. Clauses are looked for in the whole text of a query, quotes or not, so a text
between quotes counts as data only if no clause is read from it and if no keyword that ends or
separates conditions stands behind white space in it. A quote itself is never part of a clause. A
query for the rows whose column is such a text answers the rows that show it.
-/
namespace SqlTutor.Query

open Text

section Quote

variable (s t : List Char)

theorem keyword?_quote {key : List Char} (hkey : IsKeyword key) :
    keyword? key (s ++ '\'' :: t) = (keyword? key s).map (· ++ '\'' :: t) :=
  keyword?_append_cons (foreign_of_not_isLower hkey (by decide)) s t

theorem blanks?_quote : blanks? (s ++ '\'' :: t) = (blanks? s).map (· ++ '\'' :: t) :=
  blanks?_append_cons (by decide) s t

theorem word?_quote : word? (s ++ '\'' :: t) = (word? s).map fun p => (p.1, p.2 ++ '\'' :: t) :=
  word?_append_cons (by decide) s t

theorem readColumn?_quote :
    readColumn? (s ++ '\'' :: t) = (readColumn? s).map fun p => (p.1, p.2 ++ '\'' :: t) := by
  have point : ∀ r, exactly? ['.'] (r ++ '\'' :: t) = (exactly? ['.'] r).map (· ++ '\'' :: t) :=
    fun r => exactly?_append_cons (by decide) r t
  simp only [readColumn?, word?_quote, point, bind, pure, Option.bind_map, Option.map_bind,
    Function.comp_def, Option.map_some]

theorem readJoin?_quote : readJoin? (s ++ '\'' :: t) = readJoin? s := by
  have joinWord : IsKeyword "join".toList := by decide
  have onWord : IsKeyword "on".toList := by decide
  have trimmed : ∀ r, trimStart (r ++ '\'' :: t) = trimStart r ++ '\'' :: t :=
    fun r => trimStart_append_cons (by decide) r t
  have equals : ∀ r, exactly? ['='] (r ++ '\'' :: t) = (exactly? ['='] r).map (· ++ '\'' :: t) :=
    fun r => exactly?_append_cons (by decide) r t
  simp only [readJoin?, keyword?_quote _ _ joinWord, keyword?_quote _ _ onWord, blanks?_quote,
    word?_quote, readColumn?_quote, trimmed, equals, bind, pure, Option.bind_map,
    Function.comp_def]

theorem readDirection_quote : readDirection (s ++ '\'' :: t) = readDirection s := by
  have quote : Foreign "desc".toList '\'' := foreign_of_not_isLower (by decide) (by decide)
  unfold readDirection
  rw [blanks?_quote]
  cases blanks? s with
  | none => rfl
  | some r => simp only [Option.map_some, isDesc_append_cons quote]

theorem readOrderBy?_quote : readOrderBy? (s ++ '\'' :: t) = readOrderBy? s := by
  have orderWord : IsKeyword "order".toList := by decide
  have byWord : IsKeyword "by".toList := by decide
  simp only [readOrderBy?, keyword?_quote _ _ orderWord, keyword?_quote _ _ byWord, blanks?_quote,
    word?_quote, readDirection_quote, bind, pure, Option.bind_map, Function.comp_def]

theorem readGroupBy?_quote : readGroupBy? (s ++ '\'' :: t) = readGroupBy? s := by
  have groupWord : IsKeyword "group".toList := by decide
  have byWord : IsKeyword "by".toList := by decide
  simp only [readGroupBy?, keyword?_quote _ _ groupWord, keyword?_quote _ _ byWord, blanks?_quote,
    word?_quote, bind, pure, Option.bind_map, Function.comp_def]

theorem readLimit?_quote : readLimit? (s ++ '\'' :: t) = readLimit? s := by
  have limitWord : IsKeyword "limit".toList := by decide
  have digits : ∀ r, digits? (r ++ '\'' :: t) =
      (digits? r).map fun p => (p.1, p.2 ++ '\'' :: t) :=
    fun r => digits?_append_cons (by decide) r t
  simp only [readLimit?, keyword?_quote _ _ limitWord, blanks?_quote, digits, bind, pure,
    Option.bind_map, Function.comp_def]

end Quote

/-- No clause is read from the text, and no keyword that ends a condition stands in it behind a
space. -/
structure Inert (s : List Char) : Prop extends Clauseless s where
  closes_nothing : ∀ key ∈ conditionPlace.closing, ¬ ' ' :: key <:+: lowerAscii s

/-- Quotes around a text hide nothing in it and add nothing to it. -/
theorem findFirst?_quoted {α : Type} {key : List Char} {read : List Char → Option α}
    (h : LedBy key read) (hquote : ∀ s t, read (s ++ '\'' :: t) = read s) (v : List Char) :
    findFirst? read (" '".toList ++ (v ++ ['\''])) = findFirst? read v := by
  have space : Foreign key ' ' := foreign_blank h.isKeyword rfl
  have quote : Foreign key '\'' := foreign_of_not_isLower h.isKeyword (by decide)
  have nothing : findFirst? read ['\''] = none := by
    rw [findFirst?_cons_of_foreign h quote, findFirst?, h.nil]
  calc
    findFirst? read (" '".toList ++ (v ++ ['\''])) = findFirst? read (v ++ '\'' :: []) := by
      rw [show " '".toList ++ (v ++ ['\'']) = ' ' :: '\'' :: (v ++ ['\'']) from rfl,
        findFirst?_cons_of_foreign h space, findFirst?_cons_of_foreign h quote]
    _ = (findFirst? read v).or (findFirst? read ['\'']) :=
      findFirst?_append_cons h.nil fun r _ _ => hquote r []
    _ = findFirst? read v := by rw [nothing, Option.or_none]

theorem Clauseless.quoted {v : List Char} (h : Clauseless v) :
    Clauseless (" '".toList ++ (v ++ ['\''])) where
  join := by
    rw [joinClause?, findFirst?_quoted ledBy_readJoin? readJoin?_quote]
    exact h.join
  orderBy := by
    rw [orderBy?, findFirst?_quoted ledBy_readOrderBy? readOrderBy?_quote]
    exact h.orderBy
  limit := by
    rw [limit?, findFirst?_quoted ledBy_readLimit? readLimit?_quote]
    exact h.limit
  groupBy := by
    rw [groupBy?, findFirst?_quoted ledBy_readGroupBy? readGroupBy?_quote, ← groupBy?]
    exact h.groupBy

/-- A condition goes on behind each space of an inert text. -/
theorem Inert.open_quoted {v : List Char} (h : Inert v) (tidy : Tidy v) :
    conditionPlace.Open ('\'' :: (v ++ ['\''])) [] := by
  have keys : ∀ key ∈ conditionPlace.closing, IsKeyword key ∧ 's' ∉ key ∧ 'k' ∉ key := by decide
  intro c r hr hc
  rcases List.suffix_cons_iff.mp hr with whole | later
  · obtain ⟨rfl, -⟩ := List.cons.inj whole
    exact absurd hc (by decide)
  · obtain empty | ⟨front, hfront, suffix⟩ := List.suffix_concat_iff.mp later
    · exact absurd empty (List.cons_ne_nil c r)
    · cases front with
      | nil =>
        obtain ⟨rfl, -⟩ := List.cons.inj hfront
        exact absurd hc (by decide)
      | cons d q =>
        obtain ⟨rfl, rfl⟩ := List.cons.inj hfront
        obtain rfl : c = ' ' := tidy.eq_space (suffix.subset List.mem_cons_self) hc
        have begins : ∀ key ∈ conditionPlace.closing, ¬ BeginsWith key q := by
          intro key hkey begins
          have front : ' ' :: key <+: lowerAscii (' ' :: q) :=
            List.cons_prefix_cons.mpr ⟨rfl, begins⟩
          exact h.closes_nothing key hkey (front.isInfix.trans (suffix.map _).isInfix)
        rw [List.append_nil]
        refine closesAt_append keys begins fun key hkey d hd => ?_
        obtain rfl : '\'' = d := by simpa using hd
        exact foreign_of_not_isLower (keys key hkey).1 (by decide)

section Query

variable (c : Column) (v : Literal ['\''])

theorem text_textEq : (Form.textEq c v).text =
    c.text ++ ' ' :: (['='] ++ ' ' :: (['\''] ++ (v.text ++ ['\'']))) := rfl

theorem tidy_textEq (tidy : Tidy v.text) : Tidy (Form.textEq c v).text := by
  have quoted : Tidy (['\''] ++ (v.text ++ ['\''])) := tidy.around (by decide) (by decide)
  have equals : Tidy ['='] := tidy_of_solid (by decide)
  rw [text_textEq]
  exact (tidy_of_solid c.solid).append_space (equals.append_space quoted)

theorem open_textEq (tidy : Tidy v.text) (inert : Inert v.text) :
    conditionPlace.Open (Form.textEq c v).text [] := by
  have foreign : ∀ d ∈ ['=', '\''], ∀ key ∈ conditionPlace.closing,
      IsKeyword key ∧ Foreign key d := by
    have keys : ∀ key ∈ conditionPlace.closing, IsKeyword key := by decide
    have marks : ∀ d ∈ ['=', '\''], (foldCase d).isLower = false := by decide
    exact fun d hd key hkey => ⟨keys key hkey, foreign_of_not_isLower (keys key hkey) (marks d hd)⟩
  have equals : conditionPlace.Open (['='] ++ ' ' :: ('\'' :: (v.text ++ ['\'']))) [] :=
    (inert.open_quoted tidy).solid_space (by decide)
      (closesAt_cons_of_foreign (foreign '\'' (by decide)) _)
  exact equals.solid_space c.solid.2 (closesAt_cons_of_foreign (foreign '=' (by decide)) _)

end Query

/-- A query for an inert text answers the rows that show it in the column, whatever the options. -/
theorem select_textEq (t : TableName) (c : Column) (v : Literal ['\'']) (tidy : Tidy v.text)
    (inert : Inert v.text) (admits : t.Admits c) {dataset : Dataset} {rows : List Row}
    (hrows : dataset.get? t.name = some rows) (options : Options) :
    select (String.ofList (selectWhere t (Form.textEq c v).text)) dataset options =
      .ok (.ofRows (rows.filter fun row =>
        (row.get? (String.ofList c.text)).any fun value => value.shown == v.text)) := by
  have isPart : ∀ part ∈ [(t.lead ++ (Form.textEq c v).text, (Form.textEq c v).predicate)],
      IsPart part.1 part.2 := by
    intro part hpart
    rw [List.mem_singleton.mp hpart]
    have recognized := Predicate.ofText?_word_textEq whereWord c v
    exact TableName.isPart_lead (f := .textEq c v) admits recognized
  have meets : ∀ row, (Form.textEq c v).predicate.holds row =
      (row.get? (String.ofList c.text)).any fun value => value.shown == v.text := by
    intro row
    rw [Form.predicate, Predicate.holds, String.toList_ofList]
    cases row.get? (String.ofList c.text) <;> rfl
  rw [select_selectWhere (text_textEq c v) (tidy_textEq c v tidy) inert.toClauseless.quoted
    (open_textEq c v tidy inert) admits (.one _) isPart hrows options]
  simp only [List.all_cons, List.all_nil, Bool.and_true, meets]

/-- A text that begins and ends with keywords. -/
def meetingText : Literal ['\''] where
  text := "and where to join from".toList
  ne_nil := by decide
  chars := by decide
  clear := clear_of_words (by decide) (stops_cons rfl _) (by decide)

def notesTable : TableName := ⟨"notes".toList, by decide, by decide⟩

def bodyColumn : Column := ⟨"body".toList, by decide, by decide⟩

def noteRows : List Row :=
  [.ofList [("id", .int 1), ("body", .text "and where to join from")],
   .ofList [("id", .int 2), ("body", .text "and where to join")],
   .ofList [("id", .int 3)]]

theorem select_textEq_meeting :
    Tidy meetingText.text ∧ Inert meetingText.text ∧ notesTable.Admits bodyColumn ∧
      ∀ options, select "SELECT * FROM notes WHERE body = 'and where to join from'"
        (.ofList [("notes", noteRows)]) options = .ok (.ofRows (noteRows.take 1)) := by
  have tidy : Tidy meetingText.text := ⟨by decide, by decide +kernel⟩
  have inert : Inert meetingText.text :=
    ⟨⟨by decide, by decide, by decide, by decide⟩, by decide⟩
  have admits : notesTable.Admits bodyColumn := fun ends => absurd ends (by decide)
  refine ⟨tidy, inert, admits, fun options => ?_⟩
  have kept : (noteRows.filter fun row => (row.get? "body").any fun value =>
      value.shown == meetingText.text) = noteRows.take 1 := by decide
  rw [← kept]
  exact select_textEq notesTable bodyColumn meetingText tidy inert admits rfl options

/-- AND between spaces separates conditions within quotes, too, and neither of the two that come
out is of a known form. -/
theorem not_opaque_saltAndPepper :
    ¬ ∀ (t : TableName) (c : Column) (v : List Char), Tidy v → '\'' ∉ v →
      ∀ (dataset : Dataset) (rows : List Row), dataset.get? t.name = some rows → ∀ options,
        select (String.ofList (selectWhere t (c.text ++ (" = '".toList ++ (v ++ ['\'']))))) dataset
          options = .ok (.ofRows (rows.filter fun row =>
            (row.get? (String.ofList c.text)).any fun value => value.shown == v)) := by
  intro claim
  have none := claim ⟨"users".toList, by decide, by decide⟩ ⟨"name".toList, by decide, by decide⟩
    "salt and pepper".toList ⟨by decide, by decide +kernel⟩ (by decide) Dataset.sample
    Dataset.users (by decide) { today := ⟨2024, 6, 1⟩ }
  have all : select "SELECT * FROM users WHERE name = 'salt and pepper'" Dataset.sample
      { today := ⟨2024, 6, 1⟩ } = .ok (.ofRows Dataset.users) := by decide +kernel
  have same := all.symm.trans none
  revert same
  decide +kernel

end SqlTutor.Query

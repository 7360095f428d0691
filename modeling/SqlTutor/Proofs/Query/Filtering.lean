import SqlTutor.Proofs.Query.Selection
import SqlTutor.Proofs.Query.Stages

/-!
What a query for whole rows answers. The condition is read behind the table, or together with the
word WHERE if the table itself ends in it; one word in front of a comparison does not matter to what
is recognized. The answer is the rows that meet every part of the condition, in the order of the
table.
-/
namespace SqlTutor.Query

open Text

def whereWord : Column := ⟨"WHERE".toList, by decide, by decide⟩

def TableName.column (t : TableName) : Column :=
  ⟨t.text, t.ne_nil, fun c hc => isWordChar_of_isNameChar (t.chars c hc).1⟩

/-- A table that ends in WHERE must not put AND or the keyword of another clause behind white
space. -/
def TableName.Admits (t : TableName) (c : Column) : Prop :=
  EndsIn "where".toList t.text →
    ¬ Spells "and".toList c.text ∧ ∀ key ∈ conditionPlace.closing, ¬ BeginsWith key c.text

namespace Predicate

/-- No symbol stands where another word begins. -/
theorem readColumn?_word_word {symbol : List Char} (hne : symbol ≠ [])
    (hsymbol : ∀ q ∈ symbol.head?, isWordChar q = false) (c : Column) (t : List Char) :
    readColumn? symbol ('c' :: ' ' :: (c.text ++ t)) = none := by
  have space : isWordChar ' ' = false := rfl
  have word : word? ('c' :: ' ' :: (c.text ++ t)) = some (['c'], ' ' :: (c.text ++ t)) :=
    run?_append (List.cons_ne_nil 'c' []) (by decide) (stops_cons space _)
  have behind := trimStart_space (stops_append c.ne_nil (tidy_of_solid c.solid).stops t)
  have noSymbol : exactly? symbol (c.text ++ t) = none := by
    obtain ⟨q, symbol, rfl⟩ := List.exists_cons_of_ne_nil hne
    obtain ⟨d, rest, hd⟩ := List.exists_cons_of_ne_nil c.ne_nil
    have letter := c.chars d (hd ▸ List.mem_cons_self)
    rw [hd, List.cons_append, exactly?, if_neg]
    rintro rfl
    rw [hsymbol d rfl] at letter
    exact Bool.false_ne_true letter
  simp only [readColumn?, word, behind, noSymbol, bind, Option.bind_some, Option.bind_none]

/-- A comparison is not found where another word follows the word that it would begin with. -/
theorem findFirst?_word_space (read : List Char → Option Predicate) (hread : read ∈ forms)
    {next : List Char × List Char → Option Predicate}
    (begins : ∀ s, read s = (readColumn? ['='] s).bind next) (w c : Column) (t : List Char) :
    findFirst? read (w.text ++ ' ' :: (c.text ++ t)) = findFirst? read (c.text ++ t) := by
  have space : isWordChar ' ' = false := rfl
  have fails : read ('c' :: ' ' :: (c.text ++ t)) = none := by
    rw [begins, readColumn?_word_word (List.cons_ne_nil _ _) (by decide), Option.bind_none]
  have gap : ∀ d ∈ [' '], isWordChar d = false := by decide
  rw [findFirst?_word_append (takesWord hread) (stops_cons space _) fails w.chars]
  exact findFirst?_nonword_append (takesWord hread) gap

theorem ofText?_word_textEq (w c : Column) (v : Literal ['\'']) :
    ofText? (w.text ++ ' ' :: (Form.textEq c v).text) = some (Form.textEq c v).predicate := by
  have skip := findFirst?_word_space readTextEq? (by simp [forms]) (fun _ => rfl) w c
  refine ofText?_of_findFirst? [] rfl (by simp) ?_
  rw [Form.text, Form.column, skip]
  exact findFirst?_eq_some (readTextEq?_written c v)

/-- A comparison is recognized behind whatever both readers of comparisons pass over. -/
theorem ofText?_numberEq_of_skip {s : List Char} (c : Column) (n : Nat)
    (skip : ∀ read ∈ forms, ∀ next, (∀ s, read s = (readColumn? ['='] s).bind next) →
      findFirst? read s = findFirst? read (Form.numberEq c n).text) :
    ofText? s = some (Form.numberEq c n).predicate := by
  refine ofText?_of_findFirst? (forms.take 1) rfl (fun read hread => ?_) ?_
  · have nowhere := nowhere_numberEq c n read hread
    obtain rfl : read = readTextEq? := by simpa [forms] using hread
    rw [skip readTextEq? (by simp [forms]) _ (fun _ => rfl), nowhere]
  · rw [skip readNumberEq? (by simp [forms]) _ (fun _ => rfl)]
    exact findFirst?_eq_some (readNumberEq?_written c n)

theorem ofText?_word_numberEq (w c : Column) (n : Nat) :
    ofText? (w.text ++ ' ' :: (Form.numberEq c n).text) = some (Form.numberEq c n).predicate :=
  ofText?_numberEq_of_skip c n fun read hread _ begins =>
    findFirst?_word_space read hread begins w c _

end Predicate

theorem Form.exists_tail (f : Form) : ∃ rest, f.tail = ' ' :: rest := by
  cases f with
  | boolEq c b => cases b <;> exact ⟨_, rfl⟩
  | _ => exact ⟨_, rfl⟩

namespace TableName

variable {t : TableName}

/-- What is read in front of the condition stays with its first part. -/
theorem isPart_lead_append {s : List Char} {p : Predicate} (part : IsPart s p)
    (first : EndsIn "where".toList t.text → ∀ w ∈ (words s).head?, ¬ Spells "and".toList w)
    (closed : ∀ front, Closed "and".toList (front ++ s))
    (recognized : Predicate.ofText? (whereWord.text ++ ' ' :: s) = some p) :
    IsPart (t.lead ++ s) p := by
  unfold lead
  by_cases ends : EndsIn "where".toList t.text
  · rw [if_pos ends]
    exact {
      ne_nil := List.cons_ne_nil _ _
      stops := stops_cons rfl _
      closed := closed _
      clear := Clear.solid_space (by decide) whereWord.solid.2 part.clear (first ends)
      recognized := recognized }
  · rw [if_neg ends]
    exact part

theorem isPart_lead {f : Form} (admits : t.Admits f.column)
    (recognized : Predicate.ofText? (whereWord.text ++ ' ' :: f.text) = some f.predicate) :
    IsPart (t.lead ++ f.text) f.predicate := by
  refine isPart_lead_append f.isPart (fun ends => ?_) f.closed_append recognized
  obtain ⟨rest, hrest⟩ := f.exists_tail
  have blank : ∀ d ∈ f.tail.head?, isBlank d := by
    intro d hd
    rw [hrest] at hd
    obtain rfl : ' ' = d := by simpa using hd
    rfl
  rw [Form.text, words_append f.column.solid blank]
  intro w hw
  obtain rfl : f.column.text = w := by simpa using hw
  exact (admits ends).1

theorem tidy_lead (t : TableName) {condition : List Char} (h : Tidy condition) :
    Tidy (t.lead ++ condition) := by
  unfold lead
  split
  · exact (tidy_of_solid whereWord.solid).append_space h
  · exact h

/-- The condition stays open behind what is read in front of it. -/
theorem open_lead_append {s more : List Char} (h : conditionPlace.Open s more)
    (stays : EndsIn "where".toList t.text → conditionPlace.closesAt (s ++ more) = false) :
    conditionPlace.Open (t.lead ++ s) more := by
  unfold lead
  by_cases ends : EndsIn "where".toList t.text
  · rw [if_pos ends]
    exact h.solid_space (w := "WHERE".toList) whereWord.solid.2 (stays ends)
  · rw [if_neg ends]
    exact h

theorem open_lead {c : Column} (admits : t.Admits c) {more : List Char}
    (h : conditionPlace.Open (c.text ++ ' ' :: more) []) :
    conditionPlace.Open (t.lead ++ (c.text ++ ' ' :: more)) [] := by
  have keys : ∀ key ∈ conditionPlace.closing, IsKeyword key ∧ 's' ∉ key ∧ 'k' ∉ key := by decide
  refine open_lead_append h fun ends => ?_
  rw [List.append_nil]
  exact closesAt_append keys (admits ends).2 fun key hkey => apart_space (keys key hkey).1 more

end TableName

/-- The clauses of a query for the whole rows of a table that meet a condition. -/
def Clauses.filtering (table condition : String) : Clauses where
  fromTable := some table
  join := none
  condition := some condition
  orderBy := none
  limit := none
  groupBy := none
  projection := some ⟨"*"⟩

section Answer

variable {parts : List (List Char × Predicate)} {condition : List Char}

theorem Clauses.run_filtering (h : Joined "and".toList (parts.map Prod.fst) condition)
    (hparts : ∀ part ∈ parts, IsPart part.1 part.2) {dataset : Dataset} {table : String}
    {rows : List Row} (hrows : dataset.get? table = some rows) (options : Options) :
    (filtering table (String.ofList condition)).run dataset options =
      .ok (.ofRows (rows.filter fun row => parts.all fun part => part.2.holds row)) := by
  have kept : (Condition.ofParts parts).filter rows =
      rows.filter fun row => parts.all fun part => part.2.holds row :=
    List.filter_congr fun row _ => Condition.holds_ofParts parts row
  have read := Condition.read_of_joined h hparts options.strict
  have filtered : (filtering table (String.ofList condition)).filtered options.strict rows =
      .ok (rows.filter fun row => parts.all fun part => part.2.holds row) := by
    simp only [Clauses.filtered, filtering, String.toList_ofList, read, ← kept]
    rfl
  have fetched : (filtering table (String.ofList condition)).fetch dataset = .ok (table, rows) := by
    simp only [fetch, filtering, hrows]
  exact run_eq_ok fetched rfl filtered

variable {t : TableName} {c : Column} {more : List Char}

/-- The rows that meet all parts of the condition are the answer, in the order of the table. -/
theorem select_selectWhere (hcondition : condition = c.text ++ ' ' :: '=' :: more)
    (tidy : Tidy condition) (clauseless : Clauseless more)
    (hopen : conditionPlace.Open condition []) (admits : t.Admits c)
    (h : Joined "and".toList (parts.map Prod.fst) (t.lead ++ condition))
    (hparts : ∀ part ∈ parts, IsPart part.1 part.2) {dataset : Dataset} {rows : List Row}
    (hrows : dataset.get? t.name = some rows) (options : Options) :
    select (String.ofList (selectWhere t condition)) dataset options =
      .ok (.ofRows (rows.filter fun row => parts.all fun part => part.2.holds row)) := by
  subst hcondition
  have others := clauseless_selectWhere t c clauseless
  have clauses : Clauses.ofText (selectWhere t (c.text ++ ' ' :: '=' :: more)) =
      .filtering t.name (String.ofList (t.lead ++ (c.text ++ ' ' :: '=' :: more))) := by
    rw [Clauses.ofText, fromTable?_selectWhere, projection?_selectWhere,
      condition?_selectWhere t (t.tidy_lead tidy) (TableName.open_lead admits hopen), others.join,
      others.orderBy, others.limit, others.groupBy]
    rfl
  rw [select, String.toList_ofList, (tidy_selectWhere t tidy).collapse_eq, clauses,
    Clauses.run_filtering h hparts hrows]

end Answer

end SqlTutor.Query

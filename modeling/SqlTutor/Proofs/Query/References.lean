import SqlTutor.Proofs.Query.Conjuncts
import SqlTutor.Proofs.Query.Trailing

/-!
Columns that may have the table in front of them, and what the readers make of them. A comparison is
found behind the point, so it is still one part of a condition, with the predicate of the column.
ORDER BY and GROUP BY take the first word behind them, which is then the table and not the column.
-/
namespace SqlTutor.Query

open Text

/-- A column, which may have the table in front of it. -/
structure Reference where
  column : Column
  qualified : Bool

namespace Reference

/-- The table and the point. -/
def qualifier (t : TableName) (r : Reference) : List Char :=
  if r.qualified then t.text ++ ['.'] else []

def text (t : TableName) (r : Reference) : List Char := r.qualifier t ++ r.column.text

/-- The first word of the text. -/
def firstWord (t : TableName) (r : Reference) : List Char :=
  if r.qualified then t.text else r.column.text

def bare (r : Reference) : Reference := ⟨r.column, false⟩

variable (t : TableName) (r : Reference)

theorem text_of_bare (h : r.qualified = false) : r.text t = r.column.text := by
  rw [text, qualifier, h]
  rfl

theorem text_of_qualified (h : r.qualified) : r.text t = t.text ++ '.' :: r.column.text := by
  rw [text, qualifier, if_pos h, List.append_assoc, List.singleton_append]

theorem solid : Solid (r.text t) := by
  cases h : r.qualified with
  | false =>
    rw [r.text_of_bare t h]
    exact r.column.solid
  | true =>
    rw [r.text_of_qualified t h]
    refine ⟨List.append_ne_nil_of_left_ne_nil t.ne_nil _, fun c hc => ?_⟩
    rcases List.mem_append.mp hc with table | behind
    · exact t.solid.2 c table
    · rcases List.mem_cons.mp behind with rfl | column
      · rfl
      · exact r.column.solid.2 c column

theorem notMem_text : '=' ∉ r.text t := by
  have table : '=' ∉ t.text := fun mem => absurd (t.chars _ mem).1 (by decide)
  have column : '=' ∉ r.column.text := fun mem => absurd (r.column.chars _ mem) (by decide)
  cases h : r.qualified with
  | false =>
    rw [r.text_of_bare t h]
    exact column
  | true => simp [r.text_of_qualified t h, table, column]

/-- What stands behind the first word. -/
def afterFirst : List Char := if r.qualified then '.' :: r.column.text else []

theorem word?_text_append {s : List Char} (hs : Stops isWordChar s) :
    word? (r.text t ++ s) = some (r.firstWord t, r.afterFirst ++ s) := by
  cases h : r.qualified with
  | false =>
    rw [r.text_of_bare t h, firstWord, afterFirst, h]
    exact run?_append r.column.ne_nil r.column.chars hs
  | true =>
    rw [r.text_of_qualified t h, firstWord, afterFirst, h, List.append_assoc]
    exact t.word?_append (stops_cons rfl _)

end Reference

namespace Predicate

/-- No comparison begins in front of a point. -/
theorem findFirst?_word_point (read : List Char → Option Predicate) (hread : read ∈ forms)
    {next : List Char × List Char → Option Predicate}
    (begins : ∀ s, read s = (readColumn? ['='] s).bind next) (w : Column) (s : List Char) :
    findFirst? read (w.text ++ '.' :: s) = findFirst? read s := by
  have point : ∀ d ∈ ['.'], isWordChar d = false := by decide
  have word : word? ('c' :: '.' :: s) = some (['c'], '.' :: s) :=
    run?_append (List.cons_ne_nil 'c' []) (by decide) (stops_cons rfl _)
  have noSymbol : exactly? ['='] (trimStart ('.' :: s)) = none := rfl
  have fails : read ('c' :: '.' :: s) = none := by
    simp only [begins, readColumn?, word, noSymbol, bind, Option.bind_some, Option.bind_none]
  rw [findFirst?_word_append (takesWord hread) (stops_cons rfl _) fails w.chars]
  exact findFirst?_nonword_append (takesWord hread) point

theorem ofText?_point_numberEq (w c : Column) (n : Nat) :
    ofText? (w.text ++ '.' :: (Form.numberEq c n).text) = some (Form.numberEq c n).predicate :=
  ofText?_numberEq_of_skip c n fun read hread _ begins =>
    findFirst?_word_point read hread begins w _

theorem ofText?_word_point_numberEq (v w c : Column) (n : Nat) :
    ofText? (v.text ++ ' ' :: (w.text ++ '.' :: (Form.numberEq c n).text)) =
      some (Form.numberEq c n).predicate := by
  refine ofText?_numberEq_of_skip c n fun read hread next begins => ?_
  rw [findFirst?_word_space read hread begins, findFirst?_word_point read hread begins]

end Predicate

/-- The table in front keeps a comparison a part of its own. -/
theorem isPart_point (t : TableName) (c : Column) (n : Nat) :
    IsPart (t.text ++ '.' :: (Form.numberEq c n).text) (Form.numberEq c n).predicate where
  ne_nil := List.append_ne_nil_of_left_ne_nil t.ne_nil _
  stops := stops_append t.ne_nil (tidy_of_solid t.solid).stops _
  closed := by
    rw [← List.singleton_append, ← List.append_assoc]
    exact (Form.numberEq c n).closed_append _
  clear := by
    have table : Clear "and".toList t.text := by
      refine clear_of_words (by decide) (tidy_of_solid t.solid).stops fun w hw => ?_
      rw [words_solid t.solid] at hw
      nomatch hw
    exact table.append_cons (by decide) (by decide) (Form.numberEq c n).clear
  recognized := Predicate.ofText?_point_numberEq t.column c n

/-- A table that ends in WHERE admits the column, and if the table stands in front of it, then the
table does not begin with the keyword of another clause. -/
def TableName.AdmitsReference (t : TableName) (r : Reference) : Prop :=
  t.Admits r.column ∧ (EndsIn "where".toList t.text → r.qualified →
    ∀ key ∈ conditionPlace.closing, ¬ BeginsWith key t.text)

/-- The condition as it is written. -/
def conditionText (t : TableName) (c : Reference × Nat) : List Char :=
  c.1.text t ++ spread [['='], Nat.toDigits 10 c.2]

theorem solid_comparison (n : Nat) : ∀ w ∈ [['='], Nat.toDigits 10 n], Solid w :=
  List.forall_mem_cons.mpr ⟨by decide, List.forall_mem_singleton.mpr (solid_toDigits n)⟩

section Condition

variable {t : TableName} {c : Reference × Nat}

theorem conditionText_eq (t : TableName) (c : Reference × Nat) :
    conditionText t c = c.1.qualifier t ++ (Form.numberEq c.1.column c.2).text := by
  rw [conditionText, Reference.text, List.append_assoc, text_numberEq]
  simp [spread_cons]

theorem words_conditionText (t : TableName) (c : Reference × Nat) :
    words (conditionText t c) = [c.1.text t, ['='], Nat.toDigits 10 c.2] := by
  rw [conditionText, words_append_spread _ (solid_comparison c.2), words_solid (c.1.solid t),
    List.singleton_append]

theorem isPart_conditionText (admits : t.AdmitsReference c.1) :
    IsPart (t.lead ++ conditionText t c) (Form.numberEq c.1.column c.2).predicate := by
  cases h : c.1.qualified with
  | false =>
    have written : conditionText t c = (Form.numberEq c.1.column c.2).text := by
      rw [conditionText_eq, Reference.qualifier, h]
      rfl
    rw [written]
    exact TableName.isPart_lead admits.1
      (Predicate.ofText?_word_numberEq whereWord c.1.column c.2)
  | true =>
    have written : conditionText t c = t.text ++ '.' :: (Form.numberEq c.1.column c.2).text := by
      rw [conditionText_eq, Reference.qualifier, if_pos h, List.append_assoc,
        List.singleton_append]
    have closed : ∀ front, Closed "and".toList (front ++ conditionText t c) := by
      intro front
      rw [conditionText_eq, ← List.append_assoc]
      exact (Form.numberEq c.1.column c.2).closed_append _
    refine TableName.isPart_lead_append (written ▸ isPart_point t c.1.column c.2)
      (fun _ w hw => ?_) closed
      (written ▸ Predicate.ofText?_word_point_numberEq whereWord t.column c.1.column c.2)
    rw [words_conditionText] at hw
    obtain rfl : c.1.text t = w := by simpa using hw
    have point : '.' ∈ c.1.text t := by simp [c.1.text_of_qualified t h]
    exact not_spells_of_mem (by decide) (by decide) point

theorem tidy_conditionText (t : TableName) (c : Reference × Nat) : Tidy (conditionText t c) :=
  tidy_append_spread (c.1.solid t) (solid_comparison c.2)

/-- Neither the sign nor the number closes the condition. -/
theorem open_conditionText (t : TableName) (c : Reference × Nat) (more : List (List Char)) :
    conditionPlace.Open (conditionText t c) (spread more) := by
  have keys : ∀ key ∈ conditionPlace.closing, key ∈ clauseWords ∧ ¬ BeginsWith key ['='] := by
    decide
  have number : ∀ key ∈ conditionPlace.closing, ¬ BeginsWith key (Nat.toDigits 10 c.2) :=
    fun key hkey => (plain_toDigits c.2).not_beginsWith (keys key hkey).1
  refine (Enclosure.open_spread (fun key hkey => isKeyword_of_mem (keys key hkey).1) ?_
    (fun key hkey => apart_spread (isKeyword_of_mem (keys key hkey).1).1 more)).solid_append
    (c.1.solid t).2
  exact List.forall_mem_cons.mpr ⟨⟨by decide, fun key hkey => (keys key hkey).2⟩,
    List.forall_mem_singleton.mpr ⟨(solid_toDigits c.2).2, number⟩⟩

theorem not_beginsWith_text (admits : t.AdmitsReference c.1) (ends : EndsIn "where".toList t.text) :
    ∀ key ∈ conditionPlace.closing, ¬ BeginsWith key (c.1.text t) := by
  have keys : ∀ key ∈ conditionPlace.closing, IsKeyword key := by decide
  intro key hkey
  cases h : c.1.qualified with
  | false =>
    rw [c.1.text_of_bare t h]
    exact (admits.1 ends).2 key hkey
  | true =>
    rw [c.1.text_of_qualified t h]
    exact fun begins =>
      admits.2 ends h key hkey (begins.of_append_cons (keys key hkey) (by decide))

theorem open_lead_conditionText (admits : t.AdmitsReference c.1) (more : List (List Char)) :
    conditionPlace.Open (t.lead ++ conditionText t c) (spread more) := by
  have keys : ∀ key ∈ conditionPlace.closing, IsKeyword key ∧ 's' ∉ key ∧ 'k' ∉ key := by decide
  refine TableName.open_lead_append (open_conditionText t c more) fun ends => ?_
  rw [conditionText, List.append_assoc, ← spread_append]
  exact closesAt_append keys (not_beginsWith_text admits ends)
    fun key hkey => apart_spread (keys key hkey).1 _

end Condition

section Readers

variable (t : TableName)

theorem readOrderBy?_reference (o : Reference × Option Direction) {rest : List (List Char)}
    (hrest : Follows rest) :
    readOrderBy? ("ORDER".toList ++ spread ("BY".toList :: o.1.text t ::
      (o.2.toList.map Direction.written ++ rest))) =
      some ⟨String.ofList (o.1.firstWord t),
        if o.1.qualified then .ascending else o.2.getD .ascending⟩ := by
  have direction : readDirection (o.1.afterFirst ++
      spread (o.2.toList.map Direction.written ++ rest)) =
        if o.1.qualified then .ascending else o.2.getD .ascending := by
    rw [Reference.afterFirst]
    split
    · rfl
    · rw [List.nil_append]
      exact readDirection_spread o.2 hrest
  rw [readOrderBy?_spread (o.1.solid t) (o.1.word?_text_append t (stops_spread rfl _)), direction]

theorem readGroupBy?_reference (r : Reference) (rest : List (List Char)) :
    readGroupBy? ("GROUP".toList ++ spread ("BY".toList :: r.text t :: rest)) =
      some (r.firstWord t) :=
  readGroupBy?_spread (r.solid t) (r.word?_text_append t (stops_spread rfl _))

end Readers

end SqlTutor.Query

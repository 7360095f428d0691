import SqlTutor.Proofs.Double.Exact
import SqlTutor.Proofs.Query.Filtering

/-!
Two comparisons with numbers, joined by AND. A condition ends before the keyword of another clause,
and also before a word that merely begins with one, so the column of the second comparison must not
begin in such a way. Any other two comparisons both count, and a row is in the answer just when its
two columns are the two numbers.
-/
namespace SqlTutor.Query

open Text

theorem holds_numberEq (c : Column) {n : Nat} (h : n < twoTo 53) (row : Row) :
    (Form.numberEq c n).predicate.holds row =
      (row.get? (String.ofList c.text)).any (·.isNatural n) := by
  rw [Form.predicate, Predicate.holds]
  cases row.get? (String.ofList c.text) with
  | none => rfl
  | some v =>
    rw [Option.bind_some, Option.any_some, ← Value.any_equal_ofNat h]
    cases v.number? <;> rfl

section Condition

variable (c d : Column) (m n : Nat)

theorem text_numberEq : (Form.numberEq c m).text =
    c.text ++ ' ' :: '=' :: ' ' :: Nat.toDigits 10 m := rfl

/-- Both columns are whole numbers. -/
def bothEq : List Char :=
  (Form.numberEq c m).text ++ ' ' :: ("AND".toList ++ ' ' :: (Form.numberEq d n).text)

/-- What stands behind the first sign. -/
def behindFirst : List Char :=
  ' ' :: (Nat.toDigits 10 m ++ ' ' :: ("AND".toList ++ ' ' :: (Form.numberEq d n).text))

theorem bothEq_eq : bothEq c d m n = c.text ++ ' ' :: '=' :: behindFirst d m n := by
  rw [bothEq, text_numberEq, List.append_assoc]
  rfl

theorem bothEq_eq_spread : bothEq c d m n = c.text ++ spread
    [['='], Nat.toDigits 10 m, "AND".toList, d.text, ['='], Nat.toDigits 10 n] := by
  simp only [bothEq_eq, behindFirst, text_numberEq, spread_cons, spread_nil, List.append_nil,
    List.cons_append, List.nil_append]

theorem tidy_bothEq : Tidy (bothEq c d m n) := by
  have signs : Solid ['='] ∧ Solid "AND".toList := by decide
  rw [bothEq_eq_spread]
  refine tidy_append_spread c.solid ?_
  simp only [List.forall_mem_cons, List.not_mem_nil, false_implies, implies_true, and_true]
  exact ⟨signs.1, solid_toDigits m, signs.2, d.solid, signs.1, solid_toDigits n⟩

theorem open_bothEq (later : ∀ key ∈ conditionPlace.closing, ¬ BeginsWith key d.text) :
    conditionPlace.Open (bothEq c d m n) [] := by
  have keys : ∀ key ∈ conditionPlace.closing,
      key ∈ clauseWords ∧ ¬ BeginsWith key ['='] ∧ ¬ BeginsWith key "AND".toList := by decide
  have number : ∀ k, ∀ key ∈ conditionPlace.closing, ¬ BeginsWith key (Nat.toDigits 10 k) :=
    fun k key hkey => (plain_toDigits k).not_beginsWith (keys key hkey).1
  have sign : ∀ key ∈ conditionPlace.closing, ¬ BeginsWith key ['='] :=
    fun key hkey => (keys key hkey).2.1
  have andWord : ∀ key ∈ conditionPlace.closing, ¬ BeginsWith key "AND".toList :=
    fun key hkey => (keys key hkey).2.2
  rw [bothEq_eq_spread]
  refine (Enclosure.open_spread (fun key hkey => isKeyword_of_mem (keys key hkey).1) ?_
    (by simp [Apart])).solid_append c.solid.2
  simp only [List.forall_mem_cons, List.not_mem_nil, false_implies, implies_true, and_true]
  exact ⟨⟨by decide, sign⟩, ⟨(solid_toDigits m).2, number m⟩, ⟨by decide, andWord⟩,
    ⟨d.solid.2, later⟩, ⟨by decide, sign⟩, ⟨(solid_toDigits n).2, number n⟩⟩

/-- The two comparisons, what is read in front of them with the first. -/
def bothParts (lead : List Char) : List (List Char × Predicate) :=
  [(lead ++ (Form.numberEq c m).text, (Form.numberEq c m).predicate),
    ((Form.numberEq d n).text, (Form.numberEq d n).predicate)]

theorem joined_bothParts (lead : List Char) :
    Joined "and".toList ((bothParts c d m n lead).map Prod.fst) (lead ++ bothEq c d m n) := by
  have separator : Separator "and".toList ([' '] ++ ("AND".toList ++ [' '])) :=
    .mk [' '] "AND".toList [' '] (by decide) (by decide) (by decide) (by decide) (by decide)
  rw [bothEq, ← List.append_assoc]
  exact .cons separator (.one _)

theorem isPart_bothParts {t : TableName} (admits : t.Admits c) :
    ∀ part ∈ bothParts c d m n t.lead, IsPart part.1 part.2 := by
  have recognized := Predicate.ofText?_word_numberEq whereWord c m
  have first := TableName.isPart_lead (f := .numberEq c m) admits recognized
  simp only [bothParts, List.forall_mem_cons, List.not_mem_nil, false_implies, implies_true,
    and_true]
  exact ⟨first, (Form.numberEq d n).isPart⟩

/-- Clauses other than the condition are not found behind the first sign. -/
theorem findFirst?_behindFirst {α : Type} {key : List Char} {read : List Char → Option α}
    (h : Opened key read) (hkey : key ∈ clauseWords)
    (hread : ∀ s, read (key ++ ' ' :: '=' :: s) = none) :
    findFirst? read (behindFirst d m n) = none := by
  have blank : Foreign key ' ' := foreign_blank h.isKeyword rfl
  have digits : ∀ k, Lacks key (Nat.toDigits 10 k) := fun k => (plain_toDigits k).lacks hkey
  have andWord : Lacks key "AND".toList := (by decide : Plain "AND".toList).lacks hkey
  have last : findFirst? read (Nat.toDigits 10 n) = none :=
    findFirst?_solid h (isKeyword_of_mem hkey).2 (solid_toDigits n).2
  rw [behindFirst, findFirst?_cons_of_foreign h.toLedBy blank,
    findFirst?_lacks_space h.toLedBy (digits m), findFirst?_lacks_space h.toLedBy andWord,
    text_numberEq, findFirst?_comparison h hkey d (hread _),
    findFirst?_cons_of_foreign h.toLedBy blank, last]

theorem clauseless_behindFirst : Clauseless (behindFirst d m n) where
  join := findFirst?_behindFirst d m n opened_readJoin? (by decide) fun _ => rfl
  orderBy := findFirst?_behindFirst d m n opened_readOrderBy? (by decide) fun _ => rfl
  limit := findFirst?_behindFirst d m n opened_readLimit? (by decide) fun _ => rfl
  groupBy := by
    rw [groupBy?, findFirst?_behindFirst d m n opened_readGroupBy? (by decide) fun _ => rfl]
    rfl

end Condition

/-- Neither comparison is dropped: the answer is the rows that meet both. -/
theorem select_bothEq (t : TableName) (c d : Column) {m n : Nat} (hm : m < twoTo 53)
    (hn : n < twoTo 53) (admits : t.Admits c)
    (later : ∀ key ∈ conditionPlace.closing, ¬ BeginsWith key d.text) {dataset : Dataset}
    {rows : List Row} (hrows : dataset.get? t.name = some rows) (options : Options) :
    select (String.ofList (selectWhere t (bothEq c d m n))) dataset options =
      .ok (.ofRows (rows.filter fun row =>
        (row.get? (String.ofList c.text)).any (·.isNatural m) &&
          (row.get? (String.ofList d.text)).any (·.isNatural n))) := by
  rw [select_selectWhere (bothEq_eq c d m n) (tidy_bothEq c d m n) (clauseless_behindFirst d m n)
    (open_bothEq c d m n later) admits (joined_bothParts c d m n t.lead)
    (isPart_bothParts c d m n admits) hrows options]
  simp only [bothParts, List.all_cons, List.all_nil, Bool.and_true, holds_numberEq c hm,
    holds_numberEq d hn]

def itemsTable : TableName := ⟨"items".toList, by decide, by decide⟩

def pairRow (first second : String) (a b : Value) : Row := .ofList [(first, a), (second, b)]

def groupIdColumn : Column := ⟨"group_id".toList, by decide, by decide⟩

def reorderIdColumn : Column := ⟨"reorder_id".toList, by decide, by decide⟩

def itemRows : List Row :=
  [pairRow "group_id" "reorder_id" (.int 1) (.int 2),
   pairRow "group_id" "reorder_id" (.float (.ofNat 1)) (.int 2),
   pairRow "group_id" "reorder_id" (.int 1) (.int 3),
   pairRow "group_id" "reorder_id" (.text "1") (.int 2)]

/-- The first column may begin with a keyword, and the second one may contain one. -/
theorem select_bothEq_reorder :
    itemsTable.Admits groupIdColumn ∧
      (∀ key ∈ conditionPlace.closing, ¬ BeginsWith key reorderIdColumn.text) ∧
      ∀ options, select "SELECT * FROM items WHERE group_id = 1 AND reorder_id = 2"
        (.ofList [("items", itemRows)]) options = .ok (.ofRows (itemRows.take 2)) := by
  have admits : itemsTable.Admits groupIdColumn := fun ends => absurd ends (by decide)
  have later : ∀ key ∈ conditionPlace.closing, ¬ BeginsWith key reorderIdColumn.text := by decide
  refine ⟨admits, later, fun options => ?_⟩
  have kept : (itemRows.filter fun row => (row.get? "group_id").any (·.isNatural 1) &&
      (row.get? "reorder_id").any (·.isNatural 2)) = itemRows.take 2 := by decide +kernel
  rw [← kept]
  exact select_bothEq itemsTable groupIdColumn reorderIdColumn (m := 1) (n := 2) (by decide)
    (by decide) admits later rfl options

def orderRows : List Row :=
  [pairRow "product_id" "order_id" (.int 1) (.int 1),
   pairRow "product_id" "order_id" (.int 1) (.int 2)]

/-- The condition ends in front of a column whose name begins with ORDER. -/
theorem not_forall_select_bothEq :
    ¬ ∀ (t : TableName) (c d : Column), (∀ e ∈ [c, d], (∀ a ∈ e.text, isNameChar a) ∧
        ∀ key ∈ ["and".toList, "order".toList, "group".toList, "limit".toList, "where".toList,
          "from".toList], ¬ Spells key e.text) →
      ∀ m < twoTo 53, ∀ n < twoTo 53, ∀ (dataset : Dataset) (rows : List Row),
        dataset.get? t.name = some rows → ∀ options,
          select (String.ofList (selectWhere t (bothEq c d m n))) dataset options =
            .ok (.ofRows (rows.filter fun row =>
              (row.get? (String.ofList c.text)).any (·.isNatural m) &&
                (row.get? (String.ofList d.text)).any (·.isNatural n))) := by
  intro claim
  have one := claim itemsTable ⟨"product_id".toList, by decide, by decide⟩
    ⟨"order_id".toList, by decide, by decide⟩ (by decide) 1 (by decide) 2 (by decide)
    (.ofList [("items", orderRows)]) orderRows rfl { today := ⟨2024, 6, 1⟩ }
  have both : select "SELECT * FROM items WHERE product_id = 1 AND order_id = 2"
      (.ofList [("items", orderRows)]) { today := ⟨2024, 6, 1⟩ } = .ok (.ofRows orderRows) := by
    decide +kernel
  have same := both.symm.trans one
  revert same
  decide +kernel

end SqlTutor.Query

import SqlTutor.Proofs.Query.Integers
import SqlTutor.Proofs.Value.Equality
import SqlTutor.Query.Write

/-!
The id that an INSERT hands out. It follows the greatest integer id of the table and leaves
floating-point ids out of account, so it may be an id of the table already. Within 2^53 the ids that
it equals in joins are the floating-point ids that are the same whole number; beyond that, integers
that rounding does not tell from it come in.
-/
namespace SqlTutor

open Double

instance lawfulOrderMax_int64 : Std.LawfulOrderMax Int64 where
  max_eq_or a b := (ite_eq_or_eq _ b a).symm
  max_le_iff a b c := by
    change (if a ≤ b then b else a) ≤ c ↔ _
    split <;> grind

namespace Value

theorem strictEq_int_float (n : Int64) (x : Double) :
    (Value.int n).strictEq (.float x) = x.isInteger (rounded n.toInt) := by
  rw [← equal_ofInt_eq_isInteger (natAbs_toInt_le n), Bool.eq_iff_iff]
  exact ⟨strictEq_symm (v := .int n) (w := .float x), strictEq_symm (v := .float x) (w := .int n)⟩

/-- No value of the list equals the integer in joins. -/
theorem forall_strictEq_int_eq_false_iff {n : Int64} {values : List Value} :
    (∀ v ∈ values, (Value.int n).strictEq v = false) ↔
      (∀ m, .int m ∈ values → rounded m.toInt ≠ rounded n.toInt) ∧
        ∀ x, .float x ∈ values → x.isInteger (rounded n.toInt) = false := by
  constructor
  · refine fun fresh => ⟨fun m hm same => ?_, fun x hx => ?_⟩
    · have differ := fresh _ hm
      rw [strictEq_int, same, beq_self_eq_true] at differ
      exact Bool.noConfusion differ
    · rw [← strictEq_int_float]
      exact fresh _ hx
  · rintro ⟨ints, floats⟩ v hv
    cases v with
    | int m =>
      rw [strictEq_int, beq_eq_false_iff_ne]
      exact (ints m hv).symm
    | float x =>
      rw [strictEq_int_float]
      exact floats x hv
    | null | bool | text => rfl

end Value

namespace Query

/-- The ids in use in a table. -/
def ids (dataset : Dataset) (table : String) : List Value :=
  ((dataset.get? table).getD []).filterMap (·.get? "id")

theorem mem_integerIds_iff {dataset : Dataset} {table : String} {n : Int64} :
    n ∈ integerIds ((dataset.get? table).getD []) ↔ .int n ∈ ids dataset table := by
  unfold integerIds ids
  rw [List.mem_filterMap, List.mem_filterMap]
  refine exists_congr fun row => and_congr_right fun _ => ?_
  split <;> simp_all

/-- The id is one past the greatest integer, as far as integers go, and 1 if there is none. -/
def FollowsIntegers (values : List Value) (id : Int64) : Prop :=
  (∃ greatest, .int greatest ∈ values ∧ (∀ n, .int n ∈ values → n ≤ greatest) ∧
    id.toInt = min (greatest.toInt + 1) Int64.maxValue.toInt) ∨
  (∀ n, .int n ∉ values) ∧ id = 1

/-- One more, as far as integers go. -/
theorem toInt_next (n : Int64) : (if n = .maxValue then n else n + 1).toInt =
    min (n.toInt + 1) Int64.maxValue.toInt := by
  have low := n.le_toInt
  have high := n.toInt_lt
  split
  · next last =>
    rw [last]
    omega
  · next inside =>
    have below := mt Int64.toInt_inj.mp inside
    rw [Int64.toInt_maxValue] at below ⊢
    rw [Int64.toInt_add, show (1 : Int64).toInt = 1 from rfl,
      Int.bmod_eq_of_le (by omega) (by omega)]
    omega

theorem followsIntegers_nextId (dataset : Dataset) (table : String) :
    FollowsIntegers (ids dataset table) (nextId dataset table) := by
  unfold nextId
  cases h : (integerIds ((dataset.get? table).getD [])).max? with
  | none =>
    rw [List.max?_eq_none_iff, List.eq_nil_iff_forall_not_mem] at h
    exact Or.inr ⟨fun n hn => h n (mem_integerIds_iff.mpr hn), rfl⟩
  | some greatest =>
    obtain ⟨mem, bound⟩ := List.max?_eq_some_iff.mp h
    exact Or.inl ⟨greatest, mem_integerIds_iff.mp mem,
      fun n hn => bound n (mem_integerIds_iff.mpr hn), toInt_next greatest⟩

/-- Integers are below the id that follows them, unless they go as far as integers go. -/
theorem FollowsIntegers.lt {values : List Value} {id : Int64} (h : FollowsIntegers values id)
    (inside : id ≠ .maxValue) {n : Int64} (hn : .int n ∈ values) : n.toInt < id.toInt := by
  obtain ⟨greatest, -, bound, follows⟩ | ⟨none, -⟩ := h
  · have le := Int64.le_iff_toInt_le.mp (bound n hn)
    have last := mt Int64.toInt_inj.mp inside
    omega
  · exact absurd hn (none n)

/-- The answer to an INSERT that asks for the new row. -/
def inserted (id : Int64) (options : Options) : ResultSet :=
  ⟨[.ofList [("id", .int id), ("created_at", .text options.today.text)]], 1,
    some "INSERT with RETURNING - new row returned (simulated)"⟩

theorem insert_eq_inserted {sql table : String} (htable : insertTable? sql.toList = some table)
    (asks : hasReturning sql.toList = true) (dataset : Dataset) (options : Options) :
    insert sql dataset options = .ok (inserted (nextId dataset table) options) := by
  rw [insert, htable]
  dsimp only
  rw [if_pos asks]
  rfl

/-- A row that an INSERT hands out gets the id that follows the integer ids of the table. It equals
no id of the table in joins just when no integer id is rounded to the same and no floating-point id
is what it is rounded to. Between -2^53 and 2^53 nothing is rounded, and integer ids are never in
the way. -/
theorem insert_fresh {sql table : String} (htable : insertTable? sql.toList = some table)
    (asks : hasReturning sql.toList = true) (dataset : Dataset) (options : Options) :
    ∃ id : Int64, insert sql dataset options = .ok (inserted id options) ∧
      FollowsIntegers (ids dataset table) id ∧
      ((∀ v ∈ ids dataset table, (Value.int id).strictEq v = false) ↔
        (∀ n, .int n ∈ ids dataset table → rounded n.toInt ≠ rounded id.toInt) ∧
          ∀ x, .float x ∈ ids dataset table → x.isInteger (rounded id.toInt) = false) ∧
      (-twoTo 53 < id.toInt → id.toInt ≤ twoTo 53 →
        ((∀ v ∈ ids dataset table, (Value.int id).strictEq v = false) ↔
          ∀ x, .float x ∈ ids dataset table → x.isInteger id.toInt = false)) := by
  have follows := followsIntegers_nextId dataset table
  have answer := insert_eq_inserted htable asks dataset options
  generalize nextId dataset table = id at *
  refine ⟨id, answer, follows, Value.forall_strictEq_int_eq_false_iff, fun low high => ?_⟩
  have inside : id ≠ .maxValue := by
    rintro rfl
    exact absurd high (by decide)
  have exact : rounded id.toInt = id.toInt := rounded_eq_self (by omega)
  have ints : ∀ n, .int n ∈ ids dataset table → rounded n.toInt ≠ id.toInt := by
    intro n hn
    have less := follows.lt inside hn
    have apart : ToldApart n.toInt id.toInt := Or.inr (by omega)
    exact ((apart.rounded_lt_iff.mpr less).trans_eq exact).ne
  rw [Value.forall_strictEq_int_eq_false_iff, exact, and_iff_right ints]

section Tables

def idTable (values : List Value) : Dataset :=
  .ofList [("t", values.map fun v => .ofList [("id", v)])]

def insertReturning : String := "INSERT INTO t (a) VALUES (1) RETURNING *"

def june : Options := { today := ⟨2024, 6, 1⟩ }

/-- The double 7.5. -/
def sevenAndHalf : Double := ⟨false, 0x401e000000000000, by decide⟩

def mixedIds : Dataset := idTable [.int 7, .float sevenAndHalf, .null, .text "8", .int (-3)]

/-- A floating-point id above all integer ids is no obstacle if it is not the next whole number. -/
theorem insert_fresh_mixedIds :
    insertTable? insertReturning.toList = some "t" ∧
    hasReturning insertReturning.toList = true ∧
    insert insertReturning mixedIds june = .ok (inserted 8 june) ∧
    ∀ v ∈ ids mixedIds "t", (Value.int 8).strictEq v = false := by
  have answers : insertTable? insertReturning.toList = some "t" ∧
      hasReturning insertReturning.toList = true ∧
      insert insertReturning mixedIds june = .ok (inserted 8 june) ∧
      sevenAndHalf.isInteger 8 = false := by decide +kernel
  obtain ⟨table, asks, eight, other⟩ := answers
  obtain ⟨id, answer, -, -, bounded⟩ := insert_fresh table asks mixedIds june
  have same : inserted id june = inserted 8 june := Except.ok.inj (answer.symm.trans eight)
  obtain rfl : id = 8 := by
    have rows := congrArg (fun set => set.rows.filterMap (·.get? "id")) same
    exact Value.int.inj (List.cons.inj rows).1
  refine ⟨table, asks, eight, (bounded (by decide) (by decide)).mpr fun x hx => ?_⟩
  have values : ids mixedIds "t" =
      [.int 7, .float sevenAndHalf, .null, .text "8", .int (-3)] := rfl
  rw [values] at hx
  obtain rfl : x = sevenAndHalf := by simpa using hx
  exact other

/-- A floating-point id 1 is left out of account and handed out again, and rounding takes the id
after 2^53 for the one before. -/
theorem not_forall_insert_fresh :
    (¬ ∀ (sql table : String) (dataset : Dataset) (options : Options) (set : ResultSet),
      insertTable? sql.toList = some table → hasReturning sql.toList = true →
      (∀ n, .int n ∈ ids dataset table → n < .maxValue) →
      (∀ x, .float x ∈ ids dataset table → x.less (ofInt Int64.maxValue.toInt) = true) →
      insert sql dataset options = .ok set →
      ∀ row ∈ set.rows, ∀ id ∈ row.get? "id", ∀ v ∈ ids dataset table, id.strictEq v = false) ∧
    insert insertReturning (idTable [.int 9007199254740992]) june =
      .ok (inserted 9007199254740993 june) ∧
    (Value.int 9007199254740993).strictEq (.int 9007199254740992) = true := by
  have answers : insertTable? insertReturning.toList = some "t" ∧
      hasReturning insertReturning.toList = true ∧
      (ofNat 1).less (ofInt Int64.maxValue.toInt) = true ∧
      insert insertReturning (idTable [.float (ofNat 1)]) june = .ok (inserted 1 june) ∧
      (Value.int 1).strictEq (.float (ofNat 1)) = true ∧
      insert insertReturning (idTable [.int 9007199254740992]) june =
        .ok (inserted 9007199254740993 june) ∧
      (Value.int 9007199254740993).strictEq (.int 9007199254740992) = true := by decide +kernel
  obtain ⟨table, asks, below, one, equal, beyond⟩ := answers
  have values : ids (idTable [.float (ofNat 1)]) "t" = [.float (ofNat 1)] := rfl
  refine ⟨fun h => ?_, beyond⟩
  have fresh := h _ _ (idTable [.float (ofNat 1)]) june _ table asks (by simp [values])
    (fun x hx => by
      obtain rfl : x = ofNat 1 := by simpa [values] using hx
      exact below)
    one _ (List.mem_singleton_self _) (.int 1) rfl (.float (ofNat 1)) (by simp [values])
  exact Bool.false_ne_true (fresh.symm.trans equal)

end Tables

end Query

end SqlTutor

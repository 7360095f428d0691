import SqlTutor.Proofs.Double.Integers
import SqlTutor.Proofs.Query.StableSort
import SqlTutor.Query.Select

/-!
Joins and sorts compare integers as doubles, so they go by what rounding leaves of them. Unless
different integers both lie from 2^53 on to one side of zero, a join on integer columns pairs the
rows with equal integers and no others, and a sort by an integer column goes by the integers. From
there on different integers can be taken for equal, but are never turned round.
-/
namespace SqlTutor

open Double

namespace Value

theorem strictEq_int (m n : Int64) :
    (Value.int m).strictEq (.int n) = (rounded m.toInt == rounded n.toInt) :=
  equal_ofInt (natAbs_toInt_le m) (natAbs_toInt_le n)

theorem sortCompare_int (m n : Int64) :
    (Value.int m).sortCompare (.int n) = compare (rounded m.toInt) (rounded n.toInt) :=
  totalCompare_ofInt (natAbs_toInt_le m) (natAbs_toInt_le n)

section Apart

variable {m n : Int64} (h : ToldApart m.toInt n.toInt)

include h

theorem strictEq_int_of_toldApart : (Value.int m).strictEq (.int n) = (m == n) := by
  rw [strictEq_int, Bool.eq_iff_iff, beq_iff_eq, beq_iff_eq, h.rounded_eq_iff, Int64.toInt_inj]

theorem sortCompare_int_of_toldApart :
    (Value.int m).sortCompare (.int n) = compare m.toInt n.toInt := by
  rw [sortCompare_int]
  exact compare_eq_compare h.rounded_lt_iff h.symm.rounded_lt_iff

end Apart

end Value

namespace Query

/-- The integer that a column holds. -/
def integer? : Option Value → Option Int64
  | some (.int n) => some n
  | _ => none

theorem integer?_eq_some_iff {v : Option Value} {n : Int64} :
    integer? v = some n ↔ v = some (.int n) := by
  unfold integer?
  split <;> simp_all

/-- Both columns hold integers, and comparing their doubles tells these apart. -/
def IntegersApart (v w : Option Value) : Prop :=
  ∃ m ∈ integer? v, ∃ n ∈ integer? w, ToldApart m.toInt n.toInt

instance (v w : Option Value) : Decidable (IntegersApart v w) :=
  inferInstanceAs (Decidable (∃ m ∈ _, ∃ n ∈ _, _))

namespace JoinClause

variable {join : JoinClause} {fromTable : String}

theorem isMatch_of_integersApart {left right : Row}
    (h : IntegersApart (join.left.read fromTable left right)
      (join.right.read fromTable left right)) :
    join.isMatch fromTable left right =
      (join.left.read fromTable left right == join.right.read fromTable left right) := by
  obtain ⟨m, hm, n, hn, apart⟩ := h
  unfold isMatch
  rw [integer?_eq_some_iff.mp hm, integer?_eq_some_iff.mp hn]
  dsimp only
  rw [Value.strictEq_int_of_toldApart apart, Bool.eq_iff_iff]
  simp

theorem rows_of_integersApart {lefts rights : List Row}
    (h : ∀ left ∈ lefts, ∀ right ∈ rights, IntegersApart (join.left.read fromTable left right)
      (join.right.read fromTable left right)) :
    join.rows fromTable lefts rights = lefts.flatMap fun left =>
      (rights.filter fun right =>
        join.left.read fromTable left right == join.right.read fromTable left right).map
          (join.combine left) := by
  unfold rows
  refine List.flatMap_congr fun left hleft => ?_
  rw [List.filter_congr fun right hright => isMatch_of_integersApart (h left hleft right hright)]

end JoinClause

namespace OrderBy

def integer (order : OrderBy) (row : Row) : Int :=
  ((integer? (row.get? order.column)).map Int64.toInt).getD 0

/-- The rows may stand in this order if they are sorted by the integers. -/
def integersAllow (order : OrderBy) (a b : Row) : Bool :=
  match order.direction with
  | .ascending => order.integer a ≤ order.integer b
  | .descending => order.integer b ≤ order.integer a

variable {order : OrderBy} {a b : Row}

theorem sortCompare_key_of_integersApart
    (h : IntegersApart (a.get? order.column) (b.get? order.column)) :
    ((order.key a).sortCompare (order.key b) != .gt) =
      decide (order.integer a ≤ order.integer b) := by
  obtain ⟨m, hm, n, hn, apart⟩ := h
  unfold integer
  rw [key_of_get?_eq_some (integer?_eq_some_iff.mp hm),
    key_of_get?_eq_some (integer?_eq_some_iff.mp hn), hm, hn,
    Value.sortCompare_int_of_toldApart apart, Bool.eq_iff_iff, bne_iff_ne, ne_eq,
    compare_gt_iff_gt, decide_eq_true_eq]
  exact not_lt

theorem sort_of_integersApart {rows : List Row} (h : ∀ a ∈ rows, ∀ b ∈ rows,
    IntegersApart (a.get? order.column) (b.get? order.column)) :
    order.sort rows = rows.mergeSort order.integersAllow := by
  have allows : ∀ a ∈ rows, ∀ b ∈ rows,
      (order.compareRows a b != .gt) = order.integersAllow (id a) (id b) := by
    intro a ha b hb
    unfold integersAllow
    cases direction : order.direction with
    | ascending =>
      rw [compareRows_of_ascending direction]
      exact sortCompare_key_of_integersApart (h a ha b hb)
    | descending =>
      rw [compareRows_of_descending direction]
      exact sortCompare_key_of_integersApart (h b hb a ha)
  have sorted := List.map_mergeSort allows
  rwa [List.map_id, List.map_id] at sorted

end OrderBy

/-- Integers are equal in joins if the same is left of them by rounding, and are sorted by what is
left, which never turns two of them round. Unless they differ and both lie from 2^53 on to one side
of zero, they are compared as they are, so a join on such columns pairs the rows with equal integers
and a sort by such a column is one by the integers. -/
theorem integers_compared (m n : Int64) (join : JoinClause) (fromTable : String)
    (lefts rights : List Row) (order : OrderBy) (rows : List Row) :
    (((Value.int m).strictEq (.int n) = true ↔ rounded m.toInt = rounded n.toInt) ∧
      (Value.int m).sortCompare (.int n) = compare (rounded m.toInt) (rounded n.toInt) ∧
      (m ≤ n → (Value.int m).sortCompare (.int n) ≠ .gt)) ∧
    (ToldApart m.toInt n.toInt →
      ((Value.int m).strictEq (.int n) = true ↔ m = n) ∧
      (Value.int m).sortCompare (.int n) = compare m.toInt n.toInt) ∧
    ((∀ left ∈ lefts, ∀ right ∈ rights, IntegersApart (join.left.read fromTable left right)
        (join.right.read fromTable left right)) →
      join.rows fromTable lefts rights = lefts.flatMap fun left =>
        (rights.filter fun right =>
          join.left.read fromTable left right == join.right.read fromTable left right).map
            (join.combine left)) ∧
    ((∀ a ∈ rows, ∀ b ∈ rows, IntegersApart (a.get? order.column) (b.get? order.column)) →
      order.sort rows = rows.mergeSort order.integersAllow) := by
  refine ⟨⟨?_, Value.sortCompare_int m n, fun le => ?_⟩, fun apart => ⟨?_, ?_⟩,
    JoinClause.rows_of_integersApart, OrderBy.sort_of_integersApart⟩
  · rw [Value.strictEq_int, beq_iff_eq]
  · have bounds := rounded_le_rounded (Int64.le_iff_toInt_le.mp le) (natAbs_toInt_le m)
      (natAbs_toInt_le n)
    rw [Value.sortCompare_int, ne_eq, compare_gt_iff_gt]
    exact bounds.not_gt
  · rw [Value.strictEq_int_of_toldApart apart, beq_iff_eq]
  · exact Value.sortCompare_int_of_toldApart apart

section Largest

def idRow (n : Int64) : Row := .ofList [("id", .int n)]

def idJoin : JoinClause := ⟨"b", ⟨"a", "id"⟩, ⟨"b", "id"⟩⟩

/-- The largest integer below 2^53, next to the largest and the least one of all. -/
theorem integers_compared_largest :
    ToldApart (Int64.toInt 9007199254740991) (Int64.toInt .maxValue) ∧
    ((Value.int 9007199254740991).strictEq (.int .maxValue) = true ↔
      (9007199254740991 : Int64) = .maxValue) ∧
    (∀ left ∈ [idRow 9007199254740991, idRow 5],
      ∀ right ∈ [idRow .maxValue, idRow 9007199254740991, idRow .minValue],
        IntegersApart (idJoin.left.read "a" left right) (idJoin.right.read "a" left right)) ∧
    idJoin.rows "a" [idRow 9007199254740991, idRow 5]
        [idRow .maxValue, idRow 9007199254740991, idRow .minValue] =
      [idJoin.combine (idRow 9007199254740991) (idRow 9007199254740991)] ∧
    (∀ a ∈ [idRow (-9007199254740992), idRow 9007199254740992],
      ∀ b ∈ [idRow (-9007199254740992), idRow 9007199254740992],
        IntegersApart (a.get? "id") (b.get? "id")) ∧
    OrderBy.sort ⟨"id", .descending⟩ [idRow (-9007199254740992), idRow 9007199254740992] =
      [idRow (-9007199254740992), idRow 9007199254740992].mergeSort
        (OrderBy.integersAllow ⟨"id", .descending⟩) := by
  have apart : ToldApart (Int64.toInt 9007199254740991) (Int64.toInt .maxValue) := by decide
  have reads : ∀ left ∈ [idRow 9007199254740991, idRow 5],
      ∀ right ∈ [idRow .maxValue, idRow 9007199254740991, idRow .minValue],
        IntegersApart (idJoin.left.read "a" left right) (idJoin.right.read "a" left right) := by
    decide
  have columns : ∀ a ∈ [idRow (-9007199254740992), idRow 9007199254740992],
      ∀ b ∈ [idRow (-9007199254740992), idRow 9007199254740992],
        IntegersApart (a.get? "id") (b.get? "id") := by decide
  obtain ⟨-, compared, joined, sorted⟩ := integers_compared 9007199254740991 .maxValue idJoin "a"
    [idRow 9007199254740991, idRow 5]
    [idRow .maxValue, idRow 9007199254740991, idRow .minValue] ⟨"id", .descending⟩
    [idRow (-9007199254740992), idRow 9007199254740992]
  exact ⟨apart, (compared apart).1, reads, (joined reads).trans (by decide), columns,
    sorted columns⟩

def neighbouringIds : Dataset :=
  .ofList [("a", [idRow 9007199254740992]), ("b", [idRow 9007199254740993])]

/-- From 2^53 on different integers are taken for equal. -/
theorem not_forall_integers_compared :
    (¬ ∀ m n : Int64, (Value.int m).strictEq (.int n) = true ↔ m = n) ∧
    (¬ ∀ m n : Int64, (Value.int m).sortCompare (.int n) = compare m.toInt n.toInt) ∧
    select "SELECT * FROM a JOIN b ON a.id = b.id" neighbouringIds { today := ⟨2024, 6, 1⟩ } =
      .ok (.ofRows [.ofList [("id", .int 9007199254740993), ("b_id", .int 9007199254740993)]]) := by
  have same : rounded (Int64.toInt 9007199254740992) = rounded (Int64.toInt 9007199254740993) := by
    decide
  refine ⟨fun h => ?_, fun h => ?_, by decide +kernel⟩
  · have equal := (h 9007199254740992 9007199254740993).mp
      (by rw [Value.strictEq_int, same, beq_self_eq_true])
    exact absurd equal (by decide)
  · have equal := h 9007199254740992 9007199254740993
    rw [Value.sortCompare_int, same, compare_eq_iff_eq.mpr rfl] at equal
    exact absurd equal (by decide)

end Largest

end Query

end SqlTutor

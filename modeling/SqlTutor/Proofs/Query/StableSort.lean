import SqlTutor.Proofs.Query.Sorting
import Mathlib.Data.List.FinRange
import Mathlib.Data.List.NodupEquivFin

/-!
The order of values and the sort by a column that uses it. Values of all kinds are compared
consistently, and so are rows, with a missing column in the place of null. A sort puts rows at new
positions by their keys, downwards or upwards, without turning round two rows whose keys are equal.
-/
namespace SqlTutor.Query

open Std

theorem sortCompare_of_kindRank_lt {v w : Value} (h : v.kindRank < w.kindRank) :
    v.sortCompare w = .lt := by
  rw [Value.sortCompare_eq_compareLex, compareLex, compareOn, Nat.compare_eq_lt.mpr h]
  rfl

theorem kindRank_of_isSome_number? {v : Value} (h : v.number?.isSome) : v.kindRank = 2 := by
  cases v with
  | null => simp [Value.number?] at h
  | bool b => simp [Value.number?] at h
  | int n => rfl
  | float x => rfl
  | text s => simp [Value.number?] at h

namespace OrderBy

theorem key_insert_null {order : OrderBy} {row : Row} (missing : row.get? order.column = none) :
    order.key (row.insert order.column .null) = order.key row := by
  have written : (row.insert order.column .null).get? order.column = some .null := by
    rw [OrderedMap.get?_insert, if_pos rfl]
  rw [key_of_get?_eq_some written, key_of_get?_eq_none missing]

theorem compareRows_insert_null {order : OrderBy} {row : Row}
    (missing : row.get? order.column = none) (other : Row) :
    order.compareRows (row.insert order.column .null) other = order.compareRows row other := by
  unfold compareRows
  rw [key_insert_null missing]

end OrderBy

/-- Values of all kinds are compared alike from both sides, themselves as equal, and along chains.
Null comes before booleans, these before numbers, and these before texts. So the comparison that
rows are sorted by is consistent, whichever columns are missing: one that is counts as null. -/
theorem sortCompare_consistent :
    (∀ v w : Value, v.sortCompare w = (w.sortCompare v).swap) ∧
    (∀ v : Value, v.sortCompare v = .eq) ∧
    (∀ u v w : Value, u.sortCompare v ≠ .gt → v.sortCompare w ≠ .gt → u.sortCompare w ≠ .gt) ∧
    ((∀ b, Value.null.sortCompare (.bool b) = .lt) ∧
      (∀ b, ∀ v : Value, v.number?.isSome → (Value.bool b).sortCompare v = .lt) ∧
      ∀ (v : Value) (s : String), v.number?.isSome → v.sortCompare (.text s) = .lt) ∧
    ∀ order : OrderBy, TransCmp order.compareRows ∧
      ∀ row other : Row, row.get? order.column = none →
        order.compareRows row other = order.compareRows (row.insert order.column .null) other := by
  have notGreater : ∀ v w : Value, v.sortCompare w ≠ .gt ↔ (v.sortCompare w).isLE := by
    intro v w
    cases v.sortCompare w <;> simp
  refine ⟨fun v w => OrientedCmp.eq_swap, fun v => ReflCmp.compare_self, ?_, ⟨?_, ?_, ?_⟩, ?_⟩
  · intro u v w huv hvw
    rw [notGreater] at huv hvw ⊢
    exact TransCmp.isLE_trans huv hvw
  · intro b
    rfl
  · intro b v number
    apply sortCompare_of_kindRank_lt
    rw [kindRank_of_isSome_number? number]
    exact Nat.lt_succ_self 1
  · intro v s number
    apply sortCompare_of_kindRank_lt
    rw [kindRank_of_isSome_number? number]
    exact Nat.lt_succ_self 2
  · intro order
    exact ⟨inferInstance, fun row other missing =>
      (OrderBy.compareRows_insert_null missing other).symm⟩

/-- An integer that no double is, between what is not a number and the double next to it. -/
theorem sortCompare_consistent_oddInteger :
    ((Value.float (.nan true)).sortCompare (.int 9007199254740993) ≠ .gt ∧
      (Value.int 9007199254740993).sortCompare (.float (.ofNat 9007199254740992)) ≠ .gt ∧
      (Value.float (.nan true)).sortCompare (.float (.ofNat 9007199254740992)) ≠ .gt) ∧
    ((Value.float (.nan true)).number?.isSome ∧
      (Value.bool true).sortCompare (.float (.nan true)) = .lt ∧
      (Value.float (.nan true)).sortCompare (.text "") = .lt) ∧
    OrderedMap.empty.get? "age" = (none : Option Value) ∧
      OrderBy.compareRows ⟨"age", .descending⟩ .empty (.ofList [("age", .int (-1))]) =
        OrderBy.compareRows ⟨"age", .descending⟩ (OrderedMap.empty.insert "age" .null)
          (.ofList [("age", .int (-1))]) := by
  obtain ⟨-, -, chain, ⟨-, booleans, numbers⟩, rows⟩ := sortCompare_consistent
  have below : (Value.float (.nan true)).sortCompare (.int 9007199254740993) ≠ .gt := by
    decide +kernel
  have tied : (Value.int 9007199254740993).sortCompare (.float (.ofNat 9007199254740992)) ≠
      .gt := by decide +kernel
  exact ⟨⟨below, tied, chain _ _ _ below tied⟩, ⟨rfl, booleans _ _ rfl, numbers _ _ rfl⟩, rfl,
    (rows _).2 _ _ rfl⟩

namespace OrderBy

/-- The first row may stand before the second one. -/
def Allows (order : OrderBy) (a b : Row) : Prop :=
  match order.direction with
  | .ascending => (order.key a).sortCompare (order.key b) ≠ .gt
  | .descending => (order.key a).sortCompare (order.key b) ≠ .lt

theorem allows_iff (order : OrderBy) (a b : Row) :
    order.Allows a b ↔ order.compareRows a b ≠ .gt := by
  unfold Allows compareRows
  cases order.direction with
  | ascending => rfl
  | descending => cases (order.key a).sortCompare (order.key b) <;> decide

variable {P : Type} [LinearOrder P] {order : OrderBy} {row : P → Row} {p q : P}

theorem allows_of_precedes
    (h : Precedes (fun p q => order.compareRows (row p) (row q)) (· < ·) p q) :
    order.Allows (row p) (row q) := by
  rw [allows_iff]
  rcases h with less | ⟨equal, -⟩
  · simp [less]
  · simp [equal]

theorem lt_of_precedes (h : Precedes (fun p q => order.compareRows (row p) (row q)) (· < ·) p q)
    (tied : (order.key (row p)).sortCompare (order.key (row q)) = .eq) : p < q := by
  rw [sortCompare_key_eq_iff] at tied
  rcases h with less | ⟨-, before⟩
  · simp [less] at tied
  · exact before

/-- Every row is at one position before and at one after a sort. The keys go up from there, or
down, and rows with equal keys stand in the same order before and after, in either direction. -/
theorem sort_stable (order : OrderBy) (rows : List Row) :
    ∃ source : Fin (order.sort rows).length ≃ Fin rows.length,
      (∀ i, (order.sort rows).get i = rows.get (source i)) ∧
      ∀ i j, i < j →
        order.Allows ((order.sort rows).get i) ((order.sort rows).get j) ∧
        ((order.key ((order.sort rows).get i)).sortCompare
          (order.key ((order.sort rows).get j)) = .eq → source i < source j) := by
  obtain ⟨arranged, sorted, perm, ordered⟩ :=
    order.sort_map rows.get (List.pairwise_lt_finRange rows.length)
  rw [List.map_get_finRange] at sorted
  have nodup : arranged.Nodup := perm.nodup_iff.mpr (List.nodup_finRange _)
  have all : ∀ p, p ∈ arranged := fun p => perm.mem_iff.mpr (List.mem_finRange p)
  have length : (order.sort rows).length = arranged.length := by rw [sorted, List.length_map]
  let source := (finCongr length).trans (nodup.getEquivOfForallMemList arranged all)
  have from_source : ∀ i, (order.sort rows).get i = rows.get (source i) := by
    intro i
    simp [source, sorted]
  refine ⟨source, from_source, fun i j before => ?_⟩
  have precedes := List.pairwise_iff_get.mp ordered (i.cast length) (j.cast length) before
  rw [from_source, from_source]
  exact ⟨allows_of_precedes precedes, lt_of_precedes precedes⟩

end OrderBy

end SqlTutor.Query

import SqlTutor.Value

/-!
The order of values under sorting. Values are compared by their kind, and within a kind by a number
or by a text, so any two values can be compared and the comparison is transitive.
-/
namespace SqlTutor.Value

open Std

/-- The place of a boolean or of a number among its kind. -/
def sortNumber : Value → Int
  | .bool b => b.toNat
  | v => (v.number?.map Double.rank).getD 0

def sortText : Value → String
  | .text s => s
  | _ => ""

theorem sortCompare_eq_compareLex :
    sortCompare = compareLex (compareOn kindRank)
      (compareLex (compareOn sortNumber) (compareOn sortText)) := by
  have numbers : ∀ x y : Double,
      x.totalCompare y = (compare x.rank y.rank).then (compare "" "") := by
    intro x y
    rw [compare_self, Ordering.then_eq, Double.totalCompare]
  funext v w
  cases v with
  | null => cases w <;> rfl
  | bool a =>
    cases w with
    | bool b => cases a <;> cases b <;> rfl
    | _ => rfl
  | int m =>
    cases w with
    | int n => exact numbers _ _
    | float y => exact numbers _ _
    | _ => rfl
  | float x =>
    cases w with
    | int n => exact numbers _ _
    | float y => exact numbers _ _
    | _ => rfl
  | text s => cases w <;> rfl

instance : TransCmp sortCompare := by
  rw [sortCompare_eq_compareLex]
  infer_instance

end SqlTutor.Value

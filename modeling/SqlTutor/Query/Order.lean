import SqlTutor.Query.Clauses
import SqlTutor.Value

/-!
Stable sorting of rows by one column.
-/
namespace SqlTutor.Query.OrderBy

/-- A missing column sorts like null. -/
def key (order : OrderBy) (row : Row) : Value := (row.get? order.column).getD .null

section Key

variable {order : OrderBy} {row : Row}

theorem key_of_get?_eq_some {v : Value} (h : row.get? order.column = some v) :
    order.key row = v := by
  rw [key, h, Option.getD_some]

theorem key_of_get?_eq_none (h : row.get? order.column = none) : order.key row = .null := by
  rw [key, h, Option.getD_none]

end Key

def compareRows (order : OrderBy) (a b : Row) : Ordering :=
  match order.direction with
  | .ascending => (order.key a).sortCompare (order.key b)
  | .descending => ((order.key a).sortCompare (order.key b)).swap

/-- Rows that compare equal keep their order, in either direction. -/
def sort (order : OrderBy) (rows : List Row) : List Row :=
  rows.mergeSort fun a b => order.compareRows a b != .gt

end SqlTutor.Query.OrderBy

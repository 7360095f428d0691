import SqlTutor.Dataset.Basic
import SqlTutor.Query.Clauses

/-!
Inner joins by nested loops. A side of ON reads the left row if its qualifier is the FROM table,
and the right row otherwise, wherever it is written.
-/
namespace SqlTutor.Query

namespace ColumnRef

def read (fromTable : String) (left right : Row) (ref : ColumnRef) : Option Value :=
  if ref.table = fromTable then left.get? ref.column else right.get? ref.column

end ColumnRef

namespace JoinClause

/-- Two missing values match each other, and never a present one. -/
def isMatch (join : JoinClause) (fromTable : String) (left right : Row) : Bool :=
  match join.left.read fromTable left right, join.right.read fromTable left right with
  | some v, some w => v.strictEq w
  | none, none => true
  | _, _ => false

def idColumn (join : JoinClause) : String := join.table ++ "_id"

/-- The right row over the left one, and the id of the right row under the name of its table. -/
def combine (join : JoinClause) (left right : Row) : Row :=
  match right.get? "id" with
  | some id => (left.merge right).insert join.idColumn id
  | none => left.merge right

/-- The combined rows of all pairs that match, the left row counting first. -/
def rows (join : JoinClause) (fromTable : String) (lefts rights : List Row) : List Row :=
  lefts.flatMap fun left =>
    (rights.filter (join.isMatch fromTable left)).map (join.combine left)

end JoinClause

end SqlTutor.Query

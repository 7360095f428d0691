import SqlTutor.Query.Condition
import SqlTutor.Query.Group
import SqlTutor.Query.Join
import SqlTutor.Query.Options
import SqlTutor.Query.Order
import SqlTutor.Query.Outcome

/-!
Evaluation of SELECT. The clauses of a statement are applied to a working set of rows in a fixed
order: FROM, JOIN, WHERE, ORDER BY, LIMIT, GROUP BY, and the projection last.
-/
namespace SqlTutor.Query

/-- The columns of the items that the row has, under their new names. -/
def Projection.row (items : List SelectItem) (row : Row) : Row :=
  .ofList <| items.filterMap fun item => (row.get? item.source).map fun v => (item.name, v)

namespace Clauses

/-- The name and the rows of the FROM table. -/
def fetch (c : Clauses) (dataset : Dataset) : Except Error (String × List Row) :=
  match c.fromTable with
  | none => .error .missingFrom
  | some name =>
    match dataset.get? name with
    | none => .error (.unknownTable name dataset.names)
    | some rows => .ok (name, rows)

def joined (c : Clauses) (dataset : Dataset) (fromTable : String) (rows : List Row) :
    Except Error (List Row) :=
  match c.join with
  | none => .ok rows
  | some join =>
    match dataset.get? join.table with
    | none => .error (.unknownJoinTable join.table dataset.names)
    | some rights => .ok (join.rows fromTable rows rights)

def filtered (c : Clauses) (strict : Bool) (rows : List Row) : Except Error (List Row) :=
  match c.condition with
  | none => .ok rows
  | some text => (Condition.read strict text.toList).map fun condition => condition.filter rows

def sorted (c : Clauses) (rows : List Row) : List Row :=
  match c.orderBy with
  | none => rows
  | some order => order.sort rows

def limited (c : Clauses) (rows : List Row) : List Row :=
  match c.limit with
  | none => rows
  | some n => rows.take n

def grouped (c : Clauses) (rows : List Row) : List Row :=
  match c.groupBy with
  | none => rows
  | some column => Group.rows column rows

/-- Whether the statement counts all rows at once. -/
def countsAll (c : Clauses) : Bool :=
  c.groupBy.isNone && c.projection.any fun p => !p.isWildcard && p.hasCountStar

def projected (c : Clauses) (rows : List Row) : List Row :=
  match c.projection with
  | none => rows
  | some p => if p.isWildcard then rows else rows.map (Projection.row p.items)

/-- The single row of a count. -/
def countRow (n : Nat) : Row := OrderedMap.empty.insert "count" (.ofCount n)

theorem entries_countRow (n : Nat) : (countRow n).entries = [("count", .ofCount n)] := rfl

/-- The result of the clauses, with the number of rows of the FROM table at hand. -/
def results (c : Clauses) (source : CountSource) (tableSize : Nat) (rows : List Row) : List Row :=
  if c.countsAll then
    match source with
    | .table => [countRow tableSize]
    | .workingSet => [countRow rows.length]
  else c.projected rows

def run (c : Clauses) (dataset : Dataset) (options : Options) : Except Error ResultSet := do
  let (name, table) ← c.fetch dataset
  let rows ← c.joined dataset name table
  let rows ← c.filtered options.strict rows
  let rows := c.grouped (c.limited (c.sorted rows))
  return .ofRows (c.results options.countSource table.length rows)

end Clauses

/-- Evaluates a SELECT. Gaps between words count as one space. -/
def select (sql : String) (dataset : Dataset) (options : Options) : Except Error ResultSet :=
  (Clauses.ofText (Text.collapse sql.toList)).run dataset options

end SqlTutor.Query

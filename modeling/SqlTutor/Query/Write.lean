import SqlTutor.Query.Clauses
import SqlTutor.Query.Options
import SqlTutor.Query.Outcome

/-!
INSERT, UPDATE and DELETE, which are only simulated: they answer as a database would, and change
nothing.
-/
namespace SqlTutor.Query

/-- The integer ids of some rows. -/
def integerIds (rows : List Row) : List Int64 :=
  rows.filterMap fun row =>
    match row.get? "id" with
    | some (.int n) => some n
    | _ => none

/-- One past the greatest integer id of a table, as far as integers go; 1 if it has none. -/
def nextId (dataset : Dataset) (table : String) : Int64 :=
  match (integerIds ((dataset.get? table).getD [])).max? with
  | none => 1
  | some greatest => if greatest = Int64.maxValue then greatest else greatest + 1

/-- An INSERT that asks for it gets a row with a fresh id and today's date. -/
def insert (sql : String) (dataset : Dataset) (options : Options) : Except Error ResultSet :=
  match insertTable? sql.toList with
  | none => .error .missingInsertTable
  | some table =>
    .ok <|
      if hasReturning sql.toList then
        ⟨[.ofList [("id", .int (nextId dataset table)),
            ("created_at", .text options.today.text)]], 1,
          some "INSERT with RETURNING - new row returned (simulated)"⟩
      else ⟨[], 1, some "INSERT successful (simulated). Use RETURNING to get the inserted row!"⟩

/-- A change that asks for it gets one row that says what was done. -/
def change (verb flag sql : String) : ResultSet :=
  if hasReturning sql.toList then
    ⟨[.ofList [("id", .int 1), (flag, .bool true)]], 1,
      some (verb ++ " with RETURNING (simulated)")⟩
  else ⟨[], 1, some (verb ++ " successful (simulated)")⟩

def update (sql : String) : ResultSet := change "UPDATE" "updated" sql

def delete (sql : String) : ResultSet := change "DELETE" "deleted" sql

end SqlTutor.Query

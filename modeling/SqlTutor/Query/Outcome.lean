import SqlTutor.Dataset.Text
import SqlTutor.Query.Error

/-!
Results of statements: rows with a count, and a message if the statement only pretended to write;
or the message of an error.
-/
namespace SqlTutor.Query

structure ResultSet where
  rows : List Row
  rowCount : Nat
  message : Option String
deriving DecidableEq

/-- The result of a query, whose count is that of its rows. -/
def ResultSet.ofRows (rows : List Row) : ResultSet := ⟨rows, rows.length, none⟩

inductive Outcome where
  | rows (set : ResultSet)
  | error (message : String)
deriving DecidableEq

namespace Outcome

def ofExcept : Except Error ResultSet → Outcome
  | .ok set => .rows set
  | .error e => .error e.message

def resultSet? : Outcome → Option ResultSet
  | .rows set => some set
  | .error _ => none

def toJson : Outcome → Json
  | .rows set =>
    .object <|
      [("results", .array (set.rows.map Row.toJson)), ("rowCount", .number (.int set.rowCount))] ++
        (set.message.map fun m => ("message", Json.string m)).toList
  | .error message => .object [("error", .string message)]

end Outcome

end SqlTutor.Query

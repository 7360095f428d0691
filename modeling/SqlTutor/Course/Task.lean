import SqlTutor.Query.Sandbox

/-!
Tasks that a learner answers with a statement, and attempts at them.
-/
namespace SqlTutor.Course

open Query

/-- What is asked, a nudge towards the answer, and which results are accepted. -/
structure Task where
  id : String
  prompt : String
  hint : String
  accepts : ResultSet → Bool

/-- A checked answer: whether it passed, and what came of it. -/
structure Attempt where
  passed : Bool
  outcome : Outcome

/-- Runs a statement; one that fails never passes. -/
def Task.check (task : Task) (sandbox : Sandbox) (sql : String) : Attempt :=
  let outcome := sandbox.execute sql
  ⟨outcome.resultSet?.any task.accepts, outcome⟩

def Attempt.toJson (attempt : Attempt) : Json :=
  .object [("passed", .bool attempt.passed), ("outcome", attempt.outcome.toJson)]

def textAt? (row : Row) (column : String) : Option String :=
  match row.get? column with
  | some (.text s) => some s
  | _ => none

def hasText (row : Row) (column : String) : Bool :=
  match textAt? row column with
  | some s => !s.isEmpty
  | none => false

def holds (row : Row) (column : String) (value : Value) : Bool := row.get? column == some value

def firstRow (result : ResultSet) (p : Row → Bool) : Bool := result.rows.head?.any p

def mentionsReturning (result : ResultSet) : Bool :=
  result.message.any fun m => Text.occursIn "RETURNING".toList m.toList

end SqlTutor.Course

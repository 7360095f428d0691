import SqlTutor.Date

/-!
Choices that evaluation depends on beside the statement and the dataset.
-/
namespace SqlTutor.Query

/-- Which rows `COUNT(*)` counts: those of the FROM table, or those that the other clauses leave. -/
inductive CountSource where
  | table
  | workingSet
deriving DecidableEq

structure Options where
  countSource : CountSource := .table
  /-- Whether conditions of no known form are refused. -/
  strict : Bool := false
  /-- The date that inserted rows carry. -/
  today : Date
deriving DecidableEq

end SqlTutor.Query

import SqlTutor.Query.Error
import SqlTutor.Query.Predicate
import SqlTutor.Text.Words

/-!
Conditions: parts joined by AND, each recognized on its own. A part that no form fits passes
every row, or is refused when evaluation is strict.
-/
namespace SqlTutor.Query

/-- The parts, each with the predicate that was recognized in it. -/
structure Condition where
  parts : List (String × Option Predicate)
deriving DecidableEq

namespace Condition

def partTexts (s : List Char) : List (List Char) :=
  (Text.splitOnWord "and".toList s).map Text.trim

def ofText (s : List Char) : Condition :=
  ⟨(partTexts s).map fun part => (String.ofList part, Predicate.ofText? part)⟩

/-- The first part that no form fits. -/
def firstUnrecognized? (c : Condition) : Option String :=
  (c.parts.find? fun part => part.2.isNone).map Prod.fst

def read (strict : Bool) (s : List Char) : Except Error Condition :=
  let c := ofText s
  match c.firstUnrecognized? with
  | some part => if strict then .error (.unsupportedPredicate part) else .ok c
  | none => .ok c

def holds (c : Condition) (row : Row) : Bool :=
  c.parts.all fun part =>
    match part.2 with
    | some p => p.holds row
    | none => true

def filter (c : Condition) (rows : List Row) : List Row := rows.filter c.holds

end Condition

end SqlTutor.Query

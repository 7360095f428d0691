/-!
The ways a statement can fail, with their messages.
-/
namespace SqlTutor.Query

inductive Error where
  | missingFrom
  | unknownTable (table : String) (available : List String)
  | unknownJoinTable (table : String) (available : List String)
  | missingInsertTable
  | unsupportedStatement
  | unsupportedPredicate (part : String)
deriving DecidableEq

namespace Error

def message : Error → String
  | missingFrom => "Missing FROM clause"
  | unknownTable table available =>
    "Table '" ++ table ++ "' not found. Available: " ++ ", ".intercalate available
  | unknownJoinTable table available =>
    "Join table '" ++ table ++ "' not found. Available: " ++ ", ".intercalate available
  | missingInsertTable => "Invalid INSERT syntax"
  | unsupportedStatement =>
    "Unsupported query type. Try SELECT, INSERT, UPDATE, or DELETE."
  | unsupportedPredicate part => "Unsupported WHERE condition: " ++ part

end Error

end SqlTutor.Query

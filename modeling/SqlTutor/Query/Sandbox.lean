import SqlTutor.Dataset.Sample
import SqlTutor.Query.Select
import SqlTutor.Query.Write

/-!
Statements by their leading keyword, and a sandbox that runs them on a dataset. No statement
leaves anything behind.
-/
namespace SqlTutor.Query

inductive StatementKind where
  | select
  | insert
  | update
  | delete
deriving DecidableEq

namespace StatementKind

def keyword : StatementKind → List Char
  | select => "select".toList
  | insert => "insert".toList
  | update => "update".toList
  | delete => "delete".toList

/-- The kind whose keyword a statement starts with, in any letter case. -/
def ofText? (sql : String) : Option StatementKind :=
  let text := Text.lower (Text.collapse sql.toList)
  [select, insert, update, delete].find? fun kind => kind.keyword.isPrefixOf text

end StatementKind

structure Sandbox where
  dataset : Dataset
  options : Options

namespace Sandbox

def execute? (sandbox : Sandbox) (sql : String) : Except Error ResultSet :=
  match StatementKind.ofText? sql with
  | none => .error .unsupportedStatement
  | some .select => select sql sandbox.dataset sandbox.options
  | some .insert => insert sql sandbox.dataset sandbox.options
  | some .update => .ok (update sql)
  | some .delete => .ok (delete sql)

def execute (sandbox : Sandbox) (sql : String) : Outcome := .ofExcept (sandbox.execute? sql)

end Sandbox

end SqlTutor.Query

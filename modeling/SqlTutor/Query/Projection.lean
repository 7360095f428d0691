import SqlTutor.Text.LowerCase
import SqlTutor.Text.Scan
import SqlTutor.Text.Words

/-!
The list between SELECT and FROM. Items are separated by commas; each reads a column, without the
table in front of it, and may rename it.
-/
namespace SqlTutor.Query

/-- A column that is read and the name it gets. -/
structure SelectItem where
  source : String
  name : String
deriving DecidableEq

structure Projection where
  text : String
deriving DecidableEq

namespace Projection

def isWildcard (p : Projection) : Bool := p.text == "*"

/-- Whether `count(*)` occurs anywhere in the list, in any letter case. -/
def hasCountStar (p : Projection) : Bool :=
  Text.occursIn "count(*)".toList (Text.lower p.text.toList)

/-- Drops one word and the point behind it. -/
def dropQualifier (s : List Char) : List Char :=
  match Text.word? s with
  | some (_, '.' :: rest) => rest
  | _ => s

/-- The column that an expression reads: grouping puts counts into the column `count`. -/
def sourceOf (expression : List Char) : List Char :=
  if Text.lowerAscii (Text.compact expression) = "count(*)".toList then "count".toList
  else dropQualifier expression

/-- Of an item with several `AS` only the first name counts; an empty name counts as none. -/
def item (s : List Char) : SelectItem :=
  match Text.splitOnWord "as".toList (Text.trim s) with
  | [] => ⟨"", ""⟩
  | expression :: names =>
    let source := sourceOf expression
    match names with
    | (c :: name) :: _ => ⟨String.ofList source, String.ofList (c :: name)⟩
    | _ => ⟨String.ofList source, String.ofList source⟩

def items (p : Projection) : List SelectItem := (p.text.toList.splitOn ',').map item

end Projection

end SqlTutor.Query

import SqlTutor.Query.Projection
import SqlTutor.Text.Enclosed

/-!
The clauses of a statement. Each is looked for in the whole text on its own, at the first place
where its words stand, whatever stands around it; so clauses may come in any order. Keywords are
found inside longer words as well.
-/
namespace SqlTutor.Query

open Text

/-- A column with the table that qualifies it. -/
structure ColumnRef where
  table : String
  column : String
deriving DecidableEq

/-- The joined table and the two columns that have to be equal, all in small letters. -/
structure JoinClause where
  table : String
  left : ColumnRef
  right : ColumnRef
deriving DecidableEq

inductive Direction where
  | ascending
  | descending
deriving DecidableEq

structure OrderBy where
  column : String
  direction : Direction
deriving DecidableEq

def lowerText (s : List Char) : String := String.ofList (lower s)

def readFrom? (s : List Char) : Option (List Char) := do
  let s ← blanks? (← keyword? "from".toList s)
  let (table, _) ← word? s
  return table

def readInsert? (s : List Char) : Option (List Char) := do
  let s ← blanks? (← keyword? "insert".toList s)
  let s ← blanks? (← keyword? "into".toList s)
  let (table, _) ← word? s
  return table

/-- A word, a point and a word. -/
def readColumn? (s : List Char) : Option (ColumnRef × List Char) := do
  let (table, s) ← word? s
  let (column, s) ← word? (← exactly? ['.'] s)
  return (⟨lowerText table, lowerText column⟩, s)

def readJoin? (s : List Char) : Option JoinClause := do
  let s ← blanks? (← keyword? "join".toList s)
  let (table, s) ← word? s
  let s ← blanks? (← keyword? "on".toList (← blanks? s))
  let (left, s) ← readColumn? s
  let s ← exactly? ['='] (trimStart s)
  let (right, _) ← readColumn? (trimStart s)
  return ⟨lowerText table, left, right⟩

/-- A word behind the column sorts downwards if it is `desc` in letters of ASCII. -/
def readDirection (s : List Char) : Direction :=
  match blanks? s with
  | none => .ascending
  | some s =>
    if (keyword? "desc".toList s).isSome ∧ lowerAscii (s.take 4) = "desc".toList then .descending
    else .ascending

def readOrderBy? (s : List Char) : Option OrderBy := do
  let s ← blanks? (← keyword? "order".toList s)
  let s ← blanks? (← keyword? "by".toList s)
  let (column, s) ← word? s
  return ⟨String.ofList column, readDirection s⟩

def readGroupBy? (s : List Char) : Option (List Char) := do
  let s ← blanks? (← keyword? "group".toList s)
  let s ← blanks? (← keyword? "by".toList s)
  let (column, _) ← word? s
  return column

/-- The greatest limit; longer numbers and digits beyond ASCII count as this one. -/
def maxLimit : Nat := 18446744073709551615

def limitOf (digits : List Char) : Nat :=
  if digits.all Char.isDigit then min (Nat.ofDigitChars 10 digits 0) maxLimit else maxLimit

def readLimit? (s : List Char) : Option Nat := do
  let s ← blanks? (← keyword? "limit".toList s)
  let (digits, _) ← digits? s
  return limitOf digits

/-- A condition stands between WHERE and the word of another clause or the end of the text. -/
def conditionPlace : Enclosure :=
  ⟨"where".toList, ["order".toList, "group".toList, "limit".toList], true⟩

/-- A projection stands between SELECT and FROM. -/
def projectionPlace : Enclosure := ⟨"select".toList, ["from".toList], false⟩

def fromTable? (s : List Char) : Option String := (findFirst? readFrom? s).map lowerText

def insertTable? (s : List Char) : Option String := (findFirst? readInsert? s).map lowerText

def joinClause? (s : List Char) : Option JoinClause := findFirst? readJoin? s

def condition? (s : List Char) : Option String :=
  (conditionPlace.find? s).map fun text => String.ofList (trim text)

def orderBy? (s : List Char) : Option OrderBy := findFirst? readOrderBy? s

def limit? (s : List Char) : Option Nat := findFirst? readLimit? s

def groupBy? (s : List Char) : Option String := (findFirst? readGroupBy? s).map String.ofList

def projection? (s : List Char) : Option Projection :=
  (projectionPlace.find? s).map fun text => ⟨String.ofList (trim text)⟩

/-- Whether a text asks for RETURNING, anywhere and in any letter case. -/
def hasReturning (s : List Char) : Bool := occursIn "returning".toList (lower s)

/-- The clauses of a SELECT statement. -/
structure Clauses where
  fromTable : Option String
  join : Option JoinClause
  condition : Option String
  orderBy : Option OrderBy
  limit : Option Nat
  groupBy : Option String
  projection : Option Projection
deriving DecidableEq

def Clauses.ofText (s : List Char) : Clauses where
  fromTable := fromTable? s
  join := joinClause? s
  condition := condition? s
  orderBy := orderBy? s
  limit := limit? s
  groupBy := groupBy? s
  projection := projection? s

end SqlTutor.Query

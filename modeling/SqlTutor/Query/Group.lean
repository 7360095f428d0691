import SqlTutor.Value

/-!
Counting groups of rows by the shown text of one column. Groups come in the order in which they
first occur, but those whose text is an array index come before all others, in ascending order.
-/
namespace SqlTutor.Query

/-- The value of the first row of a group, unless the column is missing, and the number of rows. -/
structure Group where
  value : Option Value
  count : Nat

namespace Group

/-- Rows are in one group when their columns are shown alike, or are both missing. -/
def key (value : Option Value) : Option (List Char) := value.map Value.shown

def add (value : Option Value) : List Group → List Group
  | [] => [⟨value, 1⟩]
  | group :: rest =>
    if key group.value = key value then { group with count := group.count + 1 } :: rest
    else group :: add value rest

def ofRows (column : String) (rows : List Row) : List Group :=
  rows.foldl (fun groups row => add (row.get? column) groups) []

/-- Reads a number below 2^32 - 1 in its only written form. -/
def arrayIndex? (text : List Char) : Option Nat :=
  let n := Nat.ofDigitChars 10 text 0
  if text.all Char.isDigit ∧ Nat.toDigits 10 n = text ∧ n < 4294967295 then some n else none

/-- Array indices rank as themselves and all else behind them. -/
def rank (group : Group) : Nat := ((key group.value).bind arrayIndex?).getD 4294967296

/-- The value under its column, if there is one, and then the count. -/
def toRow (column : String) (group : Group) : Row :=
  let row :=
    match group.value with
    | some v => OrderedMap.empty.insert column v
    | none => .empty
  row.insert "count" (.ofCount group.count)

/-- One row for each group. -/
def rows (column : String) (rows : List Row) : List Row :=
  ((ofRows column rows).mergeSort fun a b => a.rank ≤ b.rank).map (toRow column)

end Group

end SqlTutor.Query

import SqlTutor.Text.LowerCase
import SqlTutor.Text.Scan
import SqlTutor.Value

/-!
Single conditions on a row: their forms, how they are recognized and when they hold. A form may
stand anywhere in the text that is recognized, and of several forms the earliest in a fixed order
is taken.
-/
namespace SqlTutor.Query

open Text

inductive CompareOp where
  | greater
  | less
  | atLeast
deriving DecidableEq

namespace CompareOp

def symbol : CompareOp → List Char
  | greater => ['>']
  | less => ['<']
  | atLeast => ['>', '=']

def holds : CompareOp → Double → Double → Bool
  | greater, x, y => y.less x
  | less, x, y => x.less y
  | atLeast, x, y => y.atMost x

end CompareOp

inductive Predicate where
  | textEq (column value : String)
  | numberEq (column : String) (value : Double)
  | textNe (column value : String)
  | compare (column : String) (op : CompareOp) (value : Double)
  | contains (column needle : String)
  | isNull (column : String)
  | isNotNull (column : String)
  | boolEq (column : String) (value : Bool)
deriving DecidableEq

namespace Predicate

/-- A word, then a symbol that may have white space on both sides. -/
def readColumn? (symbol s : List Char) : Option (List Char × List Char) := do
  let (column, s) ← word? s
  let s ← exactly? symbol (trimStart s)
  return (column, trimStart s)

/-- A text without quotes between single quotes. -/
def readQuoted? (s : List Char) : Option (List Char) := do
  let (value, s) ← run? (· != '\'') (← exactly? ['\''] s)
  let _ ← exactly? ['\''] s
  return value

/-- The double nearest to a number; digits beyond ASCII make it infinite. -/
def numberOf (digits : List Char) : Double :=
  if digits.all Char.isDigit then Decimal.toDouble false ⟨Nat.ofDigitChars 10 digits 0, 0⟩
  else .infinity false

def readTextEq? (s : List Char) : Option Predicate := do
  let (column, s) ← readColumn? ['='] s
  let value ← readQuoted? s
  return .textEq (String.ofList column) (String.ofList value)

def readNumberEq? (s : List Char) : Option Predicate := do
  let (column, s) ← readColumn? ['='] s
  let (digits, _) ← digits? s
  return .numberEq (String.ofList column) (numberOf digits)

def readTextNe? (s : List Char) : Option Predicate := do
  let (column, s) ← readColumn? ['!', '='] s
  let value ← readQuoted? s
  return .textNe (String.ofList column) (String.ofList value)

def readCompare? (op : CompareOp) (s : List Char) : Option Predicate := do
  let (column, s) ← readColumn? op.symbol s
  let (digits, _) ← digits? s
  return .compare (String.ofList column) op (numberOf digits)

/-- A text without percent signs between two of them, in single quotes. -/
def readContains? (s : List Char) : Option Predicate := do
  let (column, s) ← word? s
  let s ← blanks? (← keyword? "like".toList (← blanks? s))
  let (needle, s) ← run? (· != '%') (← exactly? ['\'', '%'] s)
  let _ ← exactly? ['%', '\''] s
  return .contains (String.ofList column) (String.ofList (lower needle))

def readIsNull? (s : List Char) : Option Predicate := do
  let (column, s) ← word? s
  let s ← blanks? (← keyword? "is".toList (← blanks? s))
  let _ ← keyword? "null".toList s
  return .isNull (String.ofList column)

def readIsNotNull? (s : List Char) : Option Predicate := do
  let (column, s) ← word? s
  let s ← blanks? (← keyword? "is".toList (← blanks? s))
  let s ← blanks? (← keyword? "not".toList s)
  let _ ← keyword? "null".toList s
  return .isNotNull (String.ofList column)

def readBoolEq? (s : List Char) : Option Predicate := do
  let (column, s) ← readColumn? ['='] s
  match keyword? "true".toList s with
  | some _ => return .boolEq (String.ofList column) true
  | none =>
    let _ ← keyword? "false".toList s
    return .boolEq (String.ofList column) false

/-- The forms in the order in which they are tried. -/
def forms : List (List Char → Option Predicate) :=
  [readTextEq?, readNumberEq?, readTextNe?, readCompare? .greater, readCompare? .less,
   readCompare? .atLeast, readContains?, readIsNull?, readIsNotNull?, readBoolEq?]

def ofText? (s : List Char) : Option Predicate := forms.findSome? fun read => findWord? read s

theorem findWord?_column {read : List Char → Option Predicate} {symbol : List Char}
    {next : List Char × List Char → Option Predicate}
    (begins : ∀ s, read s = (readColumn? symbol s).bind next)
    (byRest : ∀ w v r, next (w, r) = none → next (v, r) = none) (s : List Char) :
    findWord? read s = findFirst? read s := by
  let behind (part : List Char × List Char) : Option Predicate :=
    (exactly? symbol (trimStart part.2)).bind fun rest => next (part.1, trimStart rest)
  have byWord (s : List Char) : read s = (word? s).bind behind := by
    rw [begins]
    simp [behind, readColumn?, Option.bind_assoc]
  refine findWord?_eq_of_bind byWord (fun w v r => ?_) s
  simp only [behind, Option.bind_eq_none_iff]
  exact fun h rest hrest => byRest _ _ _ (h rest hrest)

/-- Trying the beginnings of words finds what trying every place finds. -/
theorem findWord?_form {read : List Char → Option Predicate} (h : read ∈ forms) (s : List Char) :
    findWord? read s = findFirst? read s := by
  simp only [forms, List.mem_cons, List.not_mem_nil, or_false] at h
  rcases h with rfl | rfl | rfl | rfl | rfl | rfl | rfl | rfl | rfl | rfl
  · exact findWord?_column (fun _ => rfl) (by simp) s
  · exact findWord?_column (fun _ => rfl) (by simp) s
  · exact findWord?_column (fun _ => rfl) (by simp) s
  · exact findWord?_column (fun _ => rfl) (by simp) s
  · exact findWord?_column (fun _ => rfl) (by simp) s
  · exact findWord?_column (fun _ => rfl) (by simp) s
  · exact findWord?_eq_of_bind (fun _ => rfl) (by simp) s
  · exact findWord?_eq_of_bind (fun _ => rfl) (by simp) s
  · exact findWord?_eq_of_bind (fun _ => rfl) (by simp) s
  · refine findWord?_column (fun _ => rfl) (fun w v r => ?_) s
    dsimp only
    cases keyword? "true".toList r <;> simp

theorem ofText?_eq_findSome? (s : List Char) :
    ofText? s = forms.findSome? fun read => findFirst? read s := by
  have same := List.map_congr_left fun (read : List Char → Option Predicate) (h : read ∈ forms) =>
    findWord?_form h s
  simpa [ofText?, List.findSome?_map, Function.comp_def] using congrArg (List.findSome? id) same

/-- A column that a row lacks counts as null and as different from every text, and meets no other
condition. -/
def holds (row : Row) : Predicate → Bool
  | textEq column value =>
    match row.get? column with
    | some v => v.shown == value.toList
    | none => false
  | numberEq column value =>
    match (row.get? column).bind Value.number? with
    | some x => x.equal value
    | none => false
  | textNe column value =>
    match row.get? column with
    | some v => v.shown != value.toList
    | none => true
  | compare column op value =>
    match (row.get? column).bind Value.comparable? with
    | some x => op.holds x value
    | none => false
  | contains column needle =>
    match row.get? column with
    | some v => occursIn needle.toList (lower v.shown)
    | none => false
  | isNull column =>
    match row.get? column with
    | some v => v.isNull
    | none => true
  | isNotNull column =>
    match row.get? column with
    | some v => !v.isNull
    | none => false
  | boolEq column value => row.get? column == some (.bool value)

end Predicate

end SqlTutor.Query

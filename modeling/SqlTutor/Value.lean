import SqlTutor.Decimal.Layout
import SqlTutor.Decimal.Reading
import SqlTutor.OrderedMap
import SqlTutor.Text.Words

/-!
Values of columns, and rows. Decimals are floating-point values and dates are texts. There are
two comparisons: equality by kind for joins, and a total order of all values for sorting. They
differ on signed zeros and on what is not a number.
-/
namespace SqlTutor

inductive Value where
  | null
  | bool (b : Bool)
  | int (n : Int64)
  | float (x : Double)
  | text (s : String)
deriving DecidableEq, Inhabited

def integerText (n : Int) : List Char :=
  (if n < 0 then ['-'] else []) ++ Nat.toDigits 10 n.natAbs

namespace Value

/-- A count as a value; beyond the range of integers it is the greatest of them. -/
def ofCount (n : Nat) : Value := .int (Int64.ofInt (min (n : Int) Int64.maxValue.toInt))

theorem ofCount_of_le {n : Nat} (h : (n : Int) ≤ Int64.maxValue.toInt) :
    ofCount n = .int (Int64.ofNat n) := by
  rw [ofCount, Int.min_eq_left h, Int64.ofInt_eq_ofNat]

theorem ofCount_of_ge {n : Nat} (h : Int64.maxValue.toInt ≤ n) :
    ofCount n = .int Int64.maxValue := by
  rw [ofCount, Int.min_eq_right h, Int64.ofInt_toInt]

/-- The text a value is shown as. Conditions on text and groups go by it. -/
def shown : Value → List Char
  | .null => "null".toList
  | .bool b => if b then "true".toList else "false".toList
  | .int n => integerText n.toInt
  | .float x => x.shown
  | .text s => s.toList

/-- Up to the greatest integer a count is shown as its digits. -/
theorem shown_ofCount {n : Nat} (h : (n : Int) ≤ Int64.maxValue.toInt) :
    (ofCount n).shown = Nat.toDigits 10 n := by
  rw [ofCount_of_le h, shown, Int64.toInt_ofNat_of_lt (by rw [Int64.toInt_maxValue] at h; omega)]
  rfl

def isNull : Value → Bool
  | .null => true
  | _ => false

/-- The number of a numeric value. -/
def number? : Value → Option Double
  | .int n => some (Double.ofInt n.toInt)
  | .float x => some x
  | _ => none

/-- The number that `<`, `>` and `>=` compare: null and blank texts count as 0, booleans as 0 or
1, and other texts as the number they write out, if any. -/
def comparable? : Value → Option Double
  | .null => some (.zero false)
  | .bool b => some (if b then Double.ofNat 1 else .zero false)
  | .int n => some (Double.ofInt n.toInt)
  | .float x => some x
  | .text s =>
    let s := Text.trim s.toList
    if s.isEmpty then some (.zero false) else Double.ofText? s

/-- Equality by kind, in which integers and floating-point values are both numbers. -/
def strictEq : Value → Value → Bool
  | .text s, .text t => s == t
  | .bool a, .bool b => a == b
  | .null, .null => true
  | v, w =>
    match v.number?, w.number? with
    | some x, some y => x.equal y
    | _, _ => false

/-- Equality as data: of one kind and equal, where floating-point values are compared as numbers. -/
def equal : Value → Value → Bool
  | .null, .null => true
  | .bool a, .bool b => a == b
  | .int m, .int n => m == n
  | .float x, .float y => x.equal y
  | .text s, .text t => s == t
  | _, _ => false

/-- Null comes first, then booleans, numbers and texts. -/
def kindRank : Value → Nat
  | .null => 0
  | .bool _ => 1
  | .int _ => 2
  | .float _ => 2
  | .text _ => 3

/-- The order of values under sorting: by kind, then false before true, numbers in the total order
of doubles, and texts by code points. -/
def sortCompare : Value → Value → Ordering
  | .text s, .text t => compare s t
  | .bool a, .bool b => compare a.toNat b.toNat
  | v, w =>
    match v.number?, w.number? with
    | some x, some y => x.totalCompare y
    | _, _ => compare v.kindRank w.kindRank

end Value

/-- A row: the columns in order, each with its value. -/
abbrev Row := OrderedMap Value

namespace Row

/-- The same columns in the same order, with equal values. -/
def equal (r s : Row) : Bool := r.agrees Value.equal s

end Row

end SqlTutor

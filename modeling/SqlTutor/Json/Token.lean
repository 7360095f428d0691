import SqlTutor.Decimal.Layout
import SqlTutor.Decimal.Reading
import SqlTutor.Value

/-!
Tokens of JSON texts and how each is written. Numbers are whole ones, of any size that their
reader lets through, or doubles.
-/
namespace SqlTutor.Json

inductive Number where
  | int (n : Int)
  | float (x : Double)
deriving DecidableEq

/-- `bad` stands where a text stops being JSON, and ends the tokens. -/
inductive Token where
  | openObject
  | closeObject
  | openArray
  | closeArray
  | comma
  | colon
  | null
  | bool (b : Bool)
  | number (n : Number)
  | string (s : String)
  | bad
deriving DecidableEq

/-- Numbers from 0.00001 up to sixteen whole digits are written without an exponent, and floating
ones always with a fraction or an exponent. -/
def numberLayout : Layout := ⟨.even, some (-5, 15), true⟩

def Number.text : Number → List Char
  | .int n => integerText n
  | .float x => numberLayout.text x

def hexDigits (n places : Nat) : List Char :=
  let digits := Nat.toDigits 16 n
  List.replicate (places - digits.length) '0' ++ digits

/-- Only quotes, backslashes and control characters are escaped. -/
def escapedChar (c : Char) : List Char :=
  if c == '"' || c == '\\' then ['\\', c]
  else if c == '\x08' then ['\\', 'b']
  else if c == '\t' then ['\\', 't']
  else if c == '\n' then ['\\', 'n']
  else if c == '\x0c' then ['\\', 'f']
  else if c == '\r' then ['\\', 'r']
  else if c.toNat < 0x20 then ['\\', 'u'] ++ hexDigits c.toNat 4
  else [c]

def stringText (s : String) : List Char := '"' :: s.toList.flatMap escapedChar ++ ['"']

namespace Token

def text : Token → List Char
  | .openObject => ['\x7b']
  | .closeObject => ['\x7d']
  | .openArray => ['[']
  | .closeArray => [']']
  | .comma => [',']
  | .colon => [':']
  | .null => "null".toList
  | .bool b => if b then "true".toList else "false".toList
  | .number n => n.text
  | .string s => stringText s
  | .bad => []

end Token

end SqlTutor.Json

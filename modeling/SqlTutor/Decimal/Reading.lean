import SqlTutor.Decimal.Basic
import SqlTutor.Text.LowerCase

/-!
Reading a double from a text: an optional sign, digits with an optional fraction and an optional
exponent, or the word for infinity or for what is not a number. Nothing may stand around it.
-/
namespace SqlTutor

def readSign (s : List Char) : Bool × List Char :=
  match s with
  | '-' :: rest => (true, rest)
  | '+' :: rest => (false, rest)
  | _ => (false, s)

/-- A run of ASCII digits, possibly empty, and what follows it. -/
def readDigits (s : List Char) : List Char × List Char :=
  (s.takeWhile Char.isDigit, s.dropWhile Char.isDigit)

namespace Decimal

/-- An exponent, which has at least one digit, or nothing at all. -/
def readExponent? (s : List Char) : Option Int :=
  match s with
  | [] => some 0
  | c :: rest =>
    if c.toLower = 'e' then
      let (negative, rest) := readSign rest
      match readDigits rest with
      | (_ :: _, []) =>
        let n := Nat.ofDigitChars 10 rest 0
        some (if negative then -n else n)
      | _ => none
    else none

/-- An unsigned number with at least one digit before or behind its point. -/
def ofText? (s : List Char) : Option Decimal :=
  let (whole, rest) := readDigits s
  let (fraction, rest) :=
    match rest with
    | '.' :: rest => readDigits rest
    | _ => ([], rest)
  if whole.isEmpty && fraction.isEmpty then none
  else (readExponent? rest).map fun exponent =>
    ⟨Nat.ofDigitChars 10 (whole ++ fraction) 0, exponent - fraction.length⟩

end Decimal

/-- The double nearest to the number that a text writes out. -/
def Double.ofText? (s : List Char) : Option Double :=
  let (negative, rest) := readSign s
  let name := Text.lowerAscii rest
  if name = "inf".toList ∨ name = "infinity".toList then some (.infinity negative)
  else if name = "nan".toList then some (.nan negative)
  else (Decimal.ofText? rest).map (Decimal.toDouble negative)

end SqlTutor

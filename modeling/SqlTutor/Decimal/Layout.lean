import SqlTutor.Decimal.Shortest

/-!
How a double is written: the choice of digits and where the point and the exponent go. A layout
collects the decisions, so that each format is one value of this type.
-/
namespace SqlTutor

/-- The decisions of a number format. -/
structure Layout where
  /-- How the digits are chosen between two equally near decimals. -/
  tie : Decimal.Tie
  /-- The powers of ten of the first digit that are written without an exponent; all when absent. -/
  plain : Option (Int × Int)
  /-- Whether whole numbers keep a zero behind the point. -/
  keepsFraction : Bool

namespace Decimal

/-- Digits with the point between, in front of or behind them. -/
def plainText (keepsFraction : Bool) (d : Decimal) : List Char :=
  if 0 ≤ d.exponent then
    d.digits ++ List.replicate d.exponent.toNat '0' ++ (if keepsFraction then ['.', '0'] else [])
  else
    let places := (-d.exponent).toNat
    let padded := List.replicate (places + 1 - d.digits.length) '0' ++ d.digits
    padded.take (padded.length - places) ++ '.' :: padded.drop (padded.length - places)

/-- One digit, the others behind the point, and the exponent with its sign. -/
def exponentText (d : Decimal) : List Char :=
  let fraction := d.digits.drop 1
  d.digits.take 1 ++ (if fraction.isEmpty then [] else '.' :: fraction) ++
    ['e', if d.leadingExponent < 0 then '-' else '+'] ++
    Nat.toDigits 10 d.leadingExponent.natAbs

end Decimal

namespace Layout

def isPlain (l : Layout) (exponent : Int) : Bool :=
  match l.plain with
  | none => true
  | some (least, greatest) => least ≤ exponent && exponent ≤ greatest

/-- The text of a finite double. -/
def text (l : Layout) (x : Double) : List Char :=
  let d := if x.index = 0 then ⟨0, 0⟩ else Decimal.shortest l.tie x.index
  (if x.negative then ['-'] else []) ++
    (if l.isPlain d.leadingExponent then d.plainText l.keepsFraction else d.exponentText)

end Layout

namespace Double

/-- Shown numbers never have an exponent, and whole ones no point. -/
def shownLayout : Layout := ⟨.up, none, false⟩

/-- The text that a number is shown as, and that it is compared and grouped by as text. -/
def shown (x : Double) : List Char :=
  if x.isFinite then shownLayout.text x
  else if x.isNaN then "NaN".toList
  else if x.negative then "-inf".toList else "inf".toList

end Double

end SqlTutor

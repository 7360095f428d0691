import SqlTutor.Double.Rounding

/-!
Unsigned decimal numbers and the double nearest to one.
-/
namespace SqlTutor

/-- The number `significand * 10 ^ exponent`. -/
structure Decimal where
  significand : Nat
  exponent : Int
deriving DecidableEq

namespace Decimal

def digits (d : Decimal) : List Char := Nat.toDigits 10 d.significand

/-- The power of ten that the first digit counts. -/
def leadingExponent (d : Decimal) : Int := d.exponent + d.digits.length - 1

/-- The number as a ratio of two natural numbers. -/
def ratio (d : Decimal) : Nat × Nat :=
  if 0 ≤ d.exponent then (d.significand * tenTo d.exponent.toNat, 1)
  else (d.significand, tenTo (-d.exponent).toNat)

/-- The number of the magnitude nearest to a decimal. The powers of ten far outside the range of
doubles are not worked out. -/
def nearestIndex (d : Decimal) : Nat :=
  if d.significand = 0 ∨ d.leadingExponent < -330 then 0
  else if 310 < d.leadingExponent then Double.infinityIndex
  else Double.nearestIndex d.ratio.1 d.ratio.2

theorem nearestIndex_le (d : Decimal) : d.nearestIndex ≤ Double.infinityIndex := by
  unfold nearestIndex
  split
  · exact Nat.zero_le _
  · split
    · exact Nat.le_refl _
    · exact Nat.min_le_left _ _

def toDouble (negative : Bool) (d : Decimal) : Double :=
  ⟨negative, d.nearestIndex, Nat.lt_of_le_of_lt d.nearestIndex_le (by decide)⟩

/-- The same number with no zero at the end of its digits. -/
def strip (d : Decimal) : Decimal :=
  let zeros := (d.digits.reverse.takeWhile (· == '0')).length
  if d.significand = 0 then ⟨0, 0⟩ else ⟨d.significand / tenTo zeros, d.exponent + zeros⟩

end Decimal

end SqlTutor

import SqlTutor.Double.Basic

/-!
The nearest double of a ratio of two natural numbers. Halfway cases go to the even neighbour,
and ratios from half a step above the largest finite magnitude on become infinity.
-/
namespace SqlTutor

/-- The quotient rounded to the nearest whole number, a half to the even one. -/
def divToEven (num den : Nat) : Nat :=
  if 2 * (num % den) < den ∨ 2 * (num % den) = den ∧ num / den % 2 = 0 then num / den
  else num / den + 1

namespace Double

/-- The number of the magnitude nearest to `num / den`. From 2^53 units on, magnitudes lie a power
of two apart. -/
def nearestIndex (num den : Nat) : Nat :=
  let whole := num * twoTo 1074 / den
  let step := if whole < twoTo 53 then 0 else whole.log2 - 52
  min infinityIndex (step * twoTo 52 + divToEven (num * twoTo 1074) (den * twoTo step))

def ofRatio (negative : Bool) (num den : Nat) : Double :=
  ⟨negative, nearestIndex num den, Nat.lt_of_le_of_lt (Nat.min_le_left _ _) (by decide)⟩

def ofNat (n : Nat) : Double := ofRatio false n 1

def ofInt (n : Int) : Double := ofRatio (n < 0) n.natAbs 1

/-- The double nearest to the product of two finite ones. -/
def product (x y : Double) : Double :=
  ofRatio (x.negative != y.negative) (units x.index * units y.index) (twoTo 2148)

/-- The double nearest to the quotient of two finite ones. -/
def quotient (x y : Double) : Double :=
  ofRatio (x.negative != y.negative) (units x.index) (units y.index)

end Double

end SqlTutor

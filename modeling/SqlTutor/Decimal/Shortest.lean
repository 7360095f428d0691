import SqlTutor.Decimal.Basic

/-!
The decimal with the fewest digits that reads back as a given magnitude; of several, the one
nearest to it. For each number of digits only the two neighbours of the magnitude on that grid
are tried, since no other decimal of as many digits can be nearer.
-/
namespace SqlTutor.Decimal

/-- Which of two equally near decimals is taken. -/
inductive Tie where
  | even
  | up
deriving DecidableEq

def readsBack (index : Nat) (d : Decimal) : Bool := d.nearestIndex == index

/-- The exact value of a finite magnitude: 2^-1074 is 5^1074 * 10^-1074. -/
def exact (index : Nat) : Decimal := ⟨Double.units index * Nat.pow 5 1074, -1074⟩

/-- The power of ten that the first digit of a finite magnitude counts; 10^-342 is far below the
least of them. -/
def magnitudeExponent (index : Nat) : Int :=
  ((Nat.toDigits 10 (Double.units index * tenTo 342 / twoTo 1074)).length : Int) - 343

/-- The magnitude over the power of ten, as a ratio. -/
def scaled (index : Nat) (exponent : Int) : Nat × Nat :=
  if 0 ≤ exponent then (Double.units index, twoTo 1074 * tenTo exponent.toNat)
  else (Double.units index * tenTo (-exponent).toNat, twoTo 1074)

/-- The neighbours of a magnitude among the multiples of a power of ten, the nearer one first. -/
def neighbours (tie : Tie) (index : Nat) (exponent : Int) : List Decimal :=
  let (num, den) := scaled index exponent
  let low := num / den
  let twice := 2 * (num % den)
  if twice < den ∨ twice = den ∧ tie = .even ∧ low % 2 = 0 then
    [⟨low, exponent⟩, ⟨low + 1, exponent⟩]
  else [⟨low + 1, exponent⟩, ⟨low, exponent⟩]

/-- Seventeen digits always suffice; the exact value stands behind them. -/
def shortest (tie : Tie) (index : Nat) : Decimal :=
  strip <| ((List.range 17).findSome? fun (more : Nat) =>
    (neighbours tie index (magnitudeExponent index - more)).find? (readsBack index)).getD
      (exact index)

end SqlTutor.Decimal

import SqlTutor.Proofs.Double.Integers
import SqlTutor.Value

/-!
Up to 2^53 each whole number is a double itself. Rounding keeps the order, so no larger number is
rounded to a smaller whole one, and a value compares equal to the double of a whole number below
2^53 just when it is that number.
-/
namespace SqlTutor

namespace Double

/-- The double is the number itself; a negative zero is zero. -/
def isNatural (x : Double) (n : Nat) : Bool :=
  x.isFinite && units x.index == n * twoTo 1074 && (!x.negative || n == 0)

theorem isInteger_natCast (x : Double) (n : Nat) : x.isInteger n = x.isNatural n := by
  have sign : decide ((n : Int) < 0) = false := decide_eq_false (by omega)
  have zero : ((n : Int) == 0) = (n == 0) := by
    rw [Bool.eq_iff_iff, beq_iff_eq, beq_iff_eq]
    omega
  rw [isInteger, isNatural, Int.natAbs_natCast, sign, zero, Bool.or_comm, beq_false]

theorem ofInt_natCast (n : Nat) : ofInt n = ofNat n := by
  rw [ofInt, ofNat, Int.natAbs_natCast, decide_eq_false (by omega)]

theorem equal_ofNat {n : Nat} (h : n < twoTo 53) (x : Double) :
    x.equal (ofNat n) = x.isNatural n := by
  have small : (n : Int).natAbs ≤ twoTo 53 := by
    rw [Int.natAbs_natCast]
    exact h.le
  rw [← ofInt_natCast, equal_ofInt_eq_isInteger (small.trans (by decide)), rounded_eq_self small,
    isInteger_natCast]

end Double

namespace Value

/-- The value is an integer or a double, and is the number itself. -/
def isNatural (n : Nat) : Value → Bool
  | .int k => k.toInt == n
  | .float x => x.isNatural n
  | _ => false

/-- What compares equal to a whole number below 2^53 is that number. -/
theorem any_equal_ofNat {n : Nat} (h : n < twoTo 53) (v : Value) :
    v.number?.any (·.equal (Double.ofNat n)) = v.isNatural n := by
  cases v with
  | int k =>
    have range : (n : Int).natAbs ≤ twoTo 64 := by
      rw [Int.natAbs_natCast]
      exact h.le.trans (by decide)
    have apart : Double.ToldApart k.toInt n := Or.inr (by omega)
    rw [number?, Option.any_some, ← Double.ofInt_natCast,
      Double.equal_ofInt (natAbs_toInt_le k) range, Bool.eq_iff_iff, beq_iff_eq,
      apart.rounded_eq_iff, isNatural, beq_iff_eq]
  | float x => exact Double.equal_ofNat h x
  | null | bool | text => rfl

end Value

end SqlTutor

import SqlTutor.Power

/-!
Binary floating-point numbers of 64 bits. The magnitudes are numbered in ascending order: zero,
the subnormal and the normal numbers, infinity, and behind it what is not a number. A finite
magnitude counts whole units of 2^-1074.
-/
namespace SqlTutor

/-- A sign and the number of a magnitude. -/
structure Double where
  negative : Bool
  index : Nat
  index_lt : index < twoTo 63 := by decide
deriving DecidableEq

namespace Double

def infinityIndex : Nat := 0x7ff0000000000000

def zero (negative : Bool) : Double := ⟨negative, 0, by decide⟩

def infinity (negative : Bool) : Double := ⟨negative, infinityIndex, by decide⟩

def nan (negative : Bool) : Double := ⟨negative, 0x7ff8000000000000, by decide⟩

instance : Inhabited Double := ⟨zero false⟩

def isNaN (x : Double) : Bool := infinityIndex < x.index

def isFinite (x : Double) : Bool := x.index < infinityIndex

/-- The number of units in a magnitude. Infinity counts as the power of two that would follow
the largest finite magnitude. -/
def units (index : Nat) : Nat :=
  if index < twoTo 52 then index
  else (twoTo 52 + index % twoTo 52) * twoTo (index / twoTo 52 - 1)

theorem units_lt_units_succ (index : Nat) : units index < units (index + 1) := by
  have hpos : 0 < twoTo 52 := twoTo_pos 52
  unfold units
  generalize twoTo 52 = base at hpos ⊢
  by_cases small : index + 1 < base
  · rw [if_pos (by omega), if_pos small]
    omega
  · rw [if_neg small]
    by_cases last : index < base
    · obtain rfl : base = index + 1 := by omega
      rw [if_pos last, Nat.mod_self, Nat.div_self hpos]
      simp [twoTo]
    · rw [if_neg last]
      have hdiv : 1 ≤ index / base := (Nat.one_le_div_iff hpos).mpr (by omega)
      have hsplit := Nat.div_add_mod index base
      have hmod := Nat.mod_lt index hpos
      by_cases wrap : index % base + 1 = base
      · have hnext : index + 1 = base * (index / base + 1) := by
          rw [Nat.mul_succ]
          omega
        rw [hnext, Nat.mul_mod_right, Nat.mul_div_cancel_left _ hpos]
        have hexp : index / base + 1 - 1 = (index / base - 1) + 1 := by omega
        rw [hexp, twoTo_add, ← Nat.mul_assoc, Nat.mul_right_comm]
        refine Nat.mul_lt_mul_of_pos_right ?_ (twoTo_pos _)
        simp only [twoTo, Nat.pow_eq, Nat.pow_one]
        omega
      · have hnext : index + 1 = (index % base + 1) + base * (index / base) := by omega
        have hlt : index % base + 1 < base := by omega
        rw [hnext, Nat.add_mul_mod_self_left, Nat.add_mul_div_left _ _ hpos,
          Nat.mod_eq_of_lt hlt, Nat.div_eq_of_lt hlt, Nat.zero_add]
        exact Nat.mul_lt_mul_of_pos_right (by omega) (twoTo_pos _)

/-- Magnitudes are numbered in ascending order. -/
theorem units_lt_units {i j : Nat} (h : i < j) : units i < units j := by
  induction h with
  | refl => exact units_lt_units_succ i
  | step _ ih => exact Nat.lt_trans ih (units_lt_units_succ _)

/-- The place on the number line; both zeros are at 0. Magnitudes are numbered in ascending order,
so places compare as numbers do. -/
def place (x : Double) : Int := if x.negative then -x.index else x.index

/-- Equality of numbers: the zeros are equal, and what is not a number equals nothing. -/
def equal (x y : Double) : Bool := !x.isNaN && !y.isNaN && x.place == y.place

def less (x y : Double) : Bool := !x.isNaN && !y.isNaN && decide (x.place < y.place)

def atMost (x y : Double) : Bool := !x.isNaN && !y.isNaN && decide (x.place ≤ y.place)

/-- The place in the total order, in which -0 comes before 0 and the two kinds of what is not a
number stand at the ends. -/
def rank (x : Double) : Int := if x.negative then -1 - x.index else x.index

def totalCompare (x y : Double) : Ordering := compare x.rank y.rank

end Double

end SqlTutor

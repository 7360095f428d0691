import SqlTutor.Proofs.Double.Integers
import SqlTutor.Proofs.Value.Equality
import SqlTutor.Proofs.Value.Order

/-!
The equality of values in joins beside that of sorts, where two values are equal if neither comes
first. Both agree on what has no number and compare doubles otherwise, the one by their places on
the line and the other by their signs and magnitudes. They differ on zeros of different sign and on
what is not a number, and on nothing else.
-/
namespace SqlTutor

namespace Double

variable {x y : Double}

theorem eq_of_negative_of_index (sign : x.negative = y.negative) (magnitude : x.index = y.index) :
    x = y := by
  cases x
  cases y
  simp only at sign magnitude
  subst sign magnitude
  rfl

theorem totalCompare_eq_iff : x.totalCompare y = .eq ↔ x = y := by
  rw [totalCompare, compare_eq_iff_eq]
  refine ⟨fun same => ?_, congrArg rank⟩
  unfold rank at same
  cases hx : x.negative <;> cases hy : y.negative <;>
    simp only [hx, hy, if_true, Bool.false_eq_true, if_false] at same
  · exact eq_of_negative_of_index (hx.trans hy.symm) (by omega)
  · omega
  · omega
  · exact eq_of_negative_of_index (hx.trans hy.symm) (by omega)

/-- Numbers are equal if they are the same, or zeros of different sign. -/
theorem equal_eq_true_iff : x.equal y = true ↔ x.isNaN = false ∧
    (x = y ∨ x.index = 0 ∧ y.index = 0 ∧ y.negative = !x.negative) := by
  rw [equal_iff]
  constructor
  · rintro ⟨⟨number, -⟩, same⟩
    refine ⟨number, ?_⟩
    unfold place at same
    by_cases sign : x.negative = y.negative
    · left
      refine eq_of_negative_of_index sign ?_
      rw [sign] at same
      split at same <;> omega
    · right
      have turned : y.negative = !x.negative := Bool.eq_not.mpr (Ne.symm sign)
      have zeros : x.index = 0 ∧ y.index = 0 := by
        rw [turned] at same
        cases hx : x.negative <;>
          simp only [hx, Bool.not_true, Bool.not_false, if_true, Bool.false_eq_true, if_false]
            at same <;>
          omega
      exact ⟨zeros.1, zeros.2, turned⟩
  · rintro ⟨number, rfl | ⟨hx, hy, -⟩⟩
    · exact ⟨⟨number, number⟩, rfl⟩
    · have zero : y.isNaN = false := by
        rw [isNaN, hy]
        rfl
      refine ⟨⟨number, zero⟩, ?_⟩
      unfold place
      rw [hx, hy]
      simp

end Double

namespace Value

theorem strictEq_iff {v w : Value} : v.strictEq w = true ↔ v.number? = none ∧ v = w ∨
    ∃ x y, v.number? = some x ∧ w.number? = some y ∧ x.equal y = true := by
  cases v <;> cases w <;> simp [strictEq, number?]

theorem sortCompare_eq_iff {v w : Value} : v.sortCompare w = .eq ↔ v.number? = none ∧ v = w ∨
    ∃ x, v.number? = some x ∧ w.number? = some x := by
  have numbers (x y : Double) : x.totalCompare y = .eq ↔ y = x :=
    Double.totalCompare_eq_iff.trans eq_comm
  cases v with
  | bool a =>
    cases w with
    | bool b => cases a <;> cases b <;> simp [sortCompare, number?]
    | _ => simp [sortCompare, number?, kindRank]
  | _ => cases w <;> simp [sortCompare, number?, kindRank, numbers]

def isNaN : Value → Bool
  | .float x => x.isNaN
  | _ => false

/-- Whether a zero is negative; no integer is a negative zero. -/
def zeroSign? : Value → Option Bool
  | .int n => if n = 0 then some false else none
  | .float x => if x.index = 0 then some x.negative else none
  | _ => none

/-- Zeros of different sign. -/
def OppositeZeros (v w : Value) : Prop := ∃ sign ∈ v.zeroSign?, w.zeroSign? = some (!sign)

instance (v w : Value) : Decidable (OppositeZeros v w) :=
  inferInstanceAs (Decidable (∃ sign ∈ _, _))

section Number

variable {v w : Value} {x : Double} (h : v.number? = some x)

include h

theorem isNaN_of_number? : v.isNaN = x.isNaN := by
  cases v with
  | int n =>
    obtain rfl := Option.some.inj h
    exact (Double.isNaN_ofInt (natAbs_toInt_le n)).symm
  | float y =>
    obtain rfl := Option.some.inj h
    rfl
  | null | bool | text => nomatch h

theorem zeroSign?_of_number? :
    v.zeroSign? = if x.index = 0 then some x.negative else none := by
  cases v with
  | int n =>
    obtain rfl := Option.some.inj h
    have pos := Double.index_ofInt_pos_iff (natAbs_toInt_le n)
    by_cases zero : n = 0
    · have magnitude : (Double.ofInt n.toInt).index = 0 := by
        by_contra nonzero
        exact pos.mp (Nat.pos_of_ne_zero nonzero) (by rw [zero]; rfl)
      rw [if_pos magnitude, zero]
      rfl
    · have magnitude := pos.mpr fun same => zero (Int64.toInt_inj.mp same)
      rw [if_neg magnitude.ne']
      exact if_neg zero
  | float y =>
    obtain rfl := Option.some.inj h
    rfl
  | null | bool | text => nomatch h

end Number

theorem isNaN_of_number?_eq_none {v : Value} (h : v.number? = none) : v.isNaN = false := by
  cases v with
  | int | float => nomatch h
  | null | bool | text => rfl

section Numbers

variable {v w : Value} {x y : Double} (hv : v.number? = some x) (hw : w.number? = some y)

include hv hw

theorem sortCompare_eq_iff_of_number? : v.sortCompare w = .eq ↔ x = y := by
  simp [sortCompare_eq_iff, hv, hw, @eq_comm _ y]

theorem oppositeZeros_iff :
    OppositeZeros v w ↔ x.index = 0 ∧ y.index = 0 ∧ y.negative = !x.negative := by
  unfold OppositeZeros
  rw [zeroSign?_of_number? hv, zeroSign?_of_number? hw]
  split <;> split <;> simp_all

end Numbers

theorem not_oppositeZeros_self (v : Value) : ¬ OppositeZeros v v := by
  rintro ⟨sign, mem, turned⟩
  have same := Option.some.inj ((Option.mem_def.mp mem).symm.trans turned)
  exact Bool.not_ne_self sign same.symm

/-- Equality in joins is symmetric and transitive, and what is not a number is all that differs
from itself. Of two values that are equal in joins neither comes first in sorts, unless they are
zeros of different sign; and two values of which neither comes first are equal in joins, unless they
are not numbers. -/
theorem equalities_agree (u v w : Value) :
    v.strictEq w = w.strictEq v ∧
    (u.strictEq v = true → v.strictEq w = true → u.strictEq w = true) ∧
    v.strictEq v = !v.isNaN ∧
    (v.strictEq w = true → (v.sortCompare w = .eq ↔ ¬ OppositeZeros v w)) ∧
    (v.sortCompare w = .eq → (v.strictEq w = true ↔ ¬ (v.isNaN = true ∧ w.isNaN = true))) := by
  have self : v.strictEq v = !v.isNaN := by
    rw [Bool.eq_iff_iff, strictEq_iff]
    cases hv : v.number? with
    | none => simp [isNaN_of_number?_eq_none hv]
    | some x => simp [isNaN_of_number? hv, Double.equal_eq_true_iff]
  refine ⟨?_, strictEq_trans, self, fun equal => ?_, fun level => ?_⟩
  · rw [Bool.eq_iff_iff]
    exact ⟨strictEq_symm, strictEq_symm⟩
  · rcases strictEq_iff.mp equal with ⟨none, rfl⟩ | ⟨x, y, hv, hw, same⟩
    · exact iff_of_true (sortCompare_eq_iff.mpr (Or.inl ⟨none, rfl⟩)) (not_oppositeZeros_self v)
    · rw [sortCompare_eq_iff_of_number? hv hw, oppositeZeros_iff hv hw]
      rcases (Double.equal_eq_true_iff.mp same).2 with rfl | opposite
      · simp
      · refine iff_of_false ?_ (not_not_intro opposite)
        rintro rfl
        exact Bool.not_ne_self _ opposite.2.2.symm
  · rcases sortCompare_eq_iff.mp level with ⟨-, rfl⟩ | ⟨x, hv, hw⟩
    · simp [self]
    · rw [strictEq_iff]
      simp [hv, hw, Double.equal_eq_true_iff, isNaN_of_number? hv, isNaN_of_number? hw]

/-- Both kinds of values on which the equalities differ. -/
theorem equalities_agree_zeros :
    ((Value.float (.zero true)).strictEq (.int 0) = true ∧
      (Value.int 0).strictEq (.float (.zero false)) = true ∧
      (Value.float (.zero true)).strictEq (.float (.zero false)) = true) ∧
    ((Value.float (.zero true)).sortCompare (.int 0) = .eq ↔
      ¬ OppositeZeros (.float (.zero true)) (.int 0)) ∧
    (Value.float (.nan false)).sortCompare (.float (.nan false)) = .eq ∧
      ((Value.float (.nan false)).strictEq (.float (.nan false)) = true ↔
        ¬ ((Value.float (.nan false)).isNaN = true ∧ (Value.float (.nan false)).isNaN = true)) := by
  have equal : (Value.float (.zero true)).strictEq (.int 0) = true ∧
      (Value.int 0).strictEq (.float (.zero false)) = true := by decide +kernel
  have level : (Value.float (.nan false)).sortCompare (.float (.nan false)) = .eq := by decide
  obtain ⟨-, -, -, zeros, -⟩ := equalities_agree .null (.float (.zero true)) (.int 0)
  obtain ⟨-, chain, -, -, -⟩ :=
    equalities_agree (.float (.zero true)) (.int 0) (.float (.zero false))
  obtain ⟨-, -, -, -, numbers⟩ := equalities_agree .null (.float (.nan false)) (.float (.nan false))
  exact ⟨⟨equal.1, equal.2, chain equal.1 equal.2⟩, zeros equal.1, level, numbers level⟩

end Value

end SqlTutor

import SqlTutor.Proofs.Double.Finite
import SqlTutor.Proofs.Json.Texts

/-!
Numbers that are read are whole ones of 64 bits or finite doubles, and so are all numbers of a text.
-/
namespace SqlTutor.Json

open Double

theorem takeUp_le {significand : Nat} (h : significand ≤ significandLimit) (digits : List Char) :
    (takeUp significand digits).1 ≤ significandLimit := by
  induction digits generalizing significand with
  | nil => exact h
  | cons c digits ih =>
    rw [takeUp]
    split
    · exact ih ‹_›
    · exact h

theorem isFinite_of_scale {x y : Double} {exponent : Int} (hx : x.isFinite)
    (h : scale x exponent = some y) : y.isFinite := by
  have power : ∀ n, twoTo 1074 ≤ units (powerOfTen n).index := fun n => one_le_ofNat (tenTo_pos n)
  fun_induction scale x exponent with
  | case1 x exponent zero =>
    obtain rfl := Option.some.inj h
    exact hx
  | case2 => exact absurd h (by simp)
  | case3 x exponent _ _ _ product finite =>
    obtain rfl := Option.some.inj h
    exact finite
  | case4 => exact absurd h (by simp)
  | case5 x exponent _ _ _ =>
    obtain rfl := Option.some.inj h
    exact isFinite_quotient hx (power _)
  | case6 x exponent _ _ _ ih => exact ih (isFinite_quotient hx (power _)) h

theorem isFinite_of_toDouble? {n : Numeral} {x : Double} (h : n.toDouble? = some x) :
    x.isFinite := by
  obtain ⟨y, scaled, rfl⟩ := Option.map_eq_some_iff.mp h
  have limit : significandLimit ≤ twoTo 64 := by decide
  have leading := takeUp_le (Nat.zero_le _) n.whole
  have significand := (takeUp_le leading n.fraction).trans limit
  have finite : y.isFinite := isFinite_of_scale (isFinite_ofRatio significand false) scaled
  exact finite

/-- Numbers are whole ones of 64 bits or finite doubles. -/
def Number.Bounded : Number → Prop
  | .int k => k.natAbs ≤ twoTo 64
  | .float x => x.isFinite

theorem bounded_of_toNumber? {n : WrittenNumber} {x : Number} (h : n.numeral.toNumber? = some x) :
    x.Bounded := by
  have limit : 2 ^ 64 ≤ twoTo 64 := by decide
  rw [WrittenNumber.toNumber?_eq] at h
  split at h
  · rename_i small
    obtain rfl := Option.some.inj h
    simp only [Bool.and_eq_true, decide_eq_true_eq] at small
    exact (by omega : n.wholeValue ≤ 2 ^ 64).trans limit
  · split at h
    · rename_i small
      obtain rfl := Option.some.inj h
      simp only [Bool.and_eq_true, decide_eq_true_eq] at small
      have bound : (-(n.wholeValue : Int)).natAbs ≤ 2 ^ 64 := by omega
      exact bound.trans limit
    · obtain ⟨y, read, rfl⟩ := Option.map_eq_some_iff.mp h
      exact isFinite_of_toDouble? read

/-- Numbers that stand in a text are bounded. -/
theorem Cut.bounded {ts : List Token} {s : List Char} (h : Cut ts s) {x : Number}
    (hx : Token.number x ∈ ts) : x.Bounded := by
  induction h with
  | nil => exact absurd hx List.not_mem_nil
  | cons hgap leads more ih =>
    rcases List.mem_cons.mp hx with rfl | later
    · cases leads with
      | punctuation mark =>
        have marks : ∀ c ∈ ['\x7b', '\x7d', '[', ']', ',', ':'],
            punctuation? c ≠ some (.number x) := by simp [punctuation?]
        exact absurd mark (marks _ (mem_of_punctuation? mark))
      | number read => exact bounded_of_toNumber? read
    · exact ih later

end SqlTutor.Json

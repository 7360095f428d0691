import SqlTutor.Value

/-!
Equality of values in joins goes by a key: integers and floating-point values share a line, on which
both zeros are at one place and what is not a number has none. Values are equal if they have the
same key, so the equality is symmetric and transitive.
-/
namespace SqlTutor

theorem Double.equal_iff {x y : Double} :
    x.equal y = true ↔ (x.isNaN = false ∧ y.isNaN = false) ∧ x.place = y.place := by
  simp [Double.equal]

namespace Value

/-- What two values that are equal in joins have in common. -/
inductive JoinKey where
  | null
  | bool (b : Bool)
  | number (place : Int)
  | text (s : String)
deriving DecidableEq

def numberKey? (x : Double) : Option JoinKey := if x.isNaN then none else some (.number x.place)

def joinKey? : Value → Option JoinKey
  | .null => some .null
  | .bool b => some (.bool b)
  | .int n => numberKey? (Double.ofInt n.toInt)
  | .float x => numberKey? x
  | .text s => some (.text s)

theorem numberKey?_eq_some_iff {x : Double} {key : JoinKey} :
    numberKey? x = some key ↔ x.isNaN = false ∧ key = .number x.place := by
  unfold numberKey?
  split
  · simp_all
  · rename_i finite
    simp [finite, @eq_comm _ key]

theorem equal_iff_numberKey? {x y : Double} :
    x.equal y = true ↔ ∃ key, numberKey? x = some key ∧ numberKey? y = some key := by
  simp only [Double.equal_iff, numberKey?_eq_some_iff]
  constructor
  · rintro ⟨⟨hx, hy⟩, same⟩
    exact ⟨.number x.place, ⟨hx, rfl⟩, hy, by rw [same]⟩
  · rintro ⟨_, ⟨hx, rfl⟩, hy, same⟩
    exact ⟨⟨hx, hy⟩, JoinKey.number.inj same⟩

theorem strictEq_iff_joinKey? {v w : Value} :
    v.strictEq w = true ↔ ∃ key, v.joinKey? = some key ∧ w.joinKey? = some key := by
  have numbers (x y : Double) := equal_iff_numberKey? (x := x) (y := y)
  cases v with
  | null => cases w <;> simp [strictEq, joinKey?, number?, numberKey?_eq_some_iff]
  | bool a =>
    cases w with
    | bool b => simp [strictEq, joinKey?, @eq_comm _ a]
    | _ => simp [strictEq, joinKey?, number?, numberKey?_eq_some_iff]
  | text s =>
    cases w with
    | text t => simp [strictEq, joinKey?, @eq_comm _ s]
    | _ => simp [strictEq, joinKey?, number?, numberKey?_eq_some_iff]
  | int m =>
    cases w with
    | int n => exact numbers _ _
    | float y => exact numbers _ _
    | _ => simp [strictEq, joinKey?, number?, numberKey?_eq_some_iff]
  | float x =>
    cases w with
    | int n => exact numbers _ _
    | float y => exact numbers _ _
    | _ => simp [strictEq, joinKey?, number?, numberKey?_eq_some_iff]

theorem strictEq_symm {v w : Value} (h : v.strictEq w = true) : w.strictEq v = true := by
  obtain ⟨key, hv, hw⟩ := strictEq_iff_joinKey?.mp h
  exact strictEq_iff_joinKey?.mpr ⟨key, hw, hv⟩

theorem strictEq_trans {u v w : Value} (huv : u.strictEq v = true) (hvw : v.strictEq w = true) :
    u.strictEq w = true := by
  obtain ⟨key, hu, hv⟩ := strictEq_iff_joinKey?.mp huv
  obtain ⟨other, hv', hw⟩ := strictEq_iff_joinKey?.mp hvw
  obtain rfl : key = other := Option.some_inj.mp (hv.symm.trans hv')
  exact strictEq_iff_joinKey?.mpr ⟨key, hu, hw⟩

/-- Two values equal to a third one are equal. -/
theorem strictEq_of_common {u v w : Value} (huv : u.strictEq v = true)
    (huw : u.strictEq w = true) : v.strictEq w = true :=
  strictEq_trans (strictEq_symm huv) huw

end Value

end SqlTutor

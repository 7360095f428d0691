import SqlTutor.Dataset.Text
import SqlTutor.Proofs.Json.Formats
import SqlTutor.Proofs.Json.Overflow

/-!
The text of a dataset writes an object of arrays of objects of scalars. Texts are taken as they
come: one is read exactly if it writes a document of this format, and it fails for its shape exactly
if it meets a misfit. Texts that write no document and meet no misfit are malformed.
-/
namespace SqlTutor

open Json

namespace Json

/-- The range of integers. -/
def InRange (k : Int) : Prop := Int64.minValue.toInt ≤ k ∧ k ≤ Int64.maxValue.toInt

/-- A whole number in the range is that integer, and all other numbers are floating-point values. -/
theorem value_of_toNumber? {n : WrittenNumber} {x : Number} (h : n.numeral.toNumber? = some x) :
    (∀ k, n.integer? = some k → InRange k → ∃ i, x.value = .int i ∧ i.toInt = k) ∧
      ((∀ k, n.integer? = some k → ¬ InRange k) → ∃ y, x.value = .float y) := by
  have least : Int64.minValue.toInt = -2 ^ 63 := by decide
  have greatest : Int64.maxValue.toInt = 2 ^ 63 - 1 := by decide
  simp only [InRange, least, greatest]
  constructor
  · rintro k integer ⟨low, high⟩
    have whole := WrittenNumber.toNumber?_of_integer? integer low (by omega)
    obtain rfl := Option.some.inj (whole.symm.trans h)
    refine ⟨Int64.ofInt k, ?_, Int64.toInt_ofInt_of_le low (by omega)⟩
    rw [Number.value, greatest, if_pos high]
  · intro outside
    by_cases large : ∃ k, n.integer? = some k ∧ 2 ^ 63 ≤ k ∧ k < 2 ^ 64
    · obtain ⟨k, integer, low, high⟩ := large
      have whole := WrittenNumber.toNumber?_of_integer? integer (by omega) high
      obtain rfl := Option.some.inj (whole.symm.trans h)
      refine ⟨Double.ofInt k, ?_⟩
      rw [Number.value, greatest, if_neg (by omega)]
    · have beyond : ∀ k, n.integer? = some k → k < -2 ^ 63 ∨ 2 ^ 64 ≤ k := by
        intro k integer
        have no := outside k integer
        have small : ¬ (2 ^ 63 ≤ k ∧ k < 2 ^ 64) := fun within => large ⟨k, integer, within⟩
        omega
      rw [WrittenNumber.toNumber?_of_not_integer? beyond] at h
      obtain ⟨y, -, rfl⟩ := Option.map_eq_some_iff.mp h
      exact ⟨y, rfl⟩

end Json

/-- The row that a document is. -/
def Row.ofJson? (j : Json) : Option Row := (objectOf? scalar? j).map OrderedMap.ofList

theorem Row.follows_reader : Row.reader.Follows (.object .row (.scalar .value)) Row.ofJson? :=
  (follows_scalar.object .row).map OrderedMap.ofList

namespace Dataset

/-- The dataset that a document is. -/
def ofJson? (j : Json) : Option Dataset :=
  (objectOf? (arrayOf? Row.ofJson?) j).map OrderedMap.ofList

/-- An object of arrays of objects of scalars. -/
def format : Format := .object .dataset (.array .table (.object .row (.scalar .value)))

theorem follows_reader : reader.Follows format ofJson? :=
  ((Row.follows_reader.array .table).object .dataset).map OrderedMap.ofList

/-- The reader accepts the texts of documents of the format and no others; numbers beyond the range
of doubles are no part of a document. Documents of another shape fail at their first misfit, and so
do texts that meet one before they stop being JSON; all other texts are malformed. -/
theorem ofText_format (text : String) :
    (∀ d, ofText text = .ok d ↔ ∃ j, IsText j text.toList ∧ ofJson? j = some d) ∧
    (∀ j, format.Fits j ↔ (ofJson? j).isSome) ∧
    (∀ (n : WrittenNumber) x, n.numeral.toNumber? = some x →
      (∀ k, n.integer? = some k → InRange k → ∃ i, x.value = .int i ∧ i.toInt = k) ∧
      ((∀ k, n.integer? = some k → ¬ InRange k) → ∃ y, x.value = .float y)) ∧
    (∀ n : WrittenNumber, (n.numeral.toNumber? = none → (lowerEnd : ℚ) < n.numeral.magnitude) ∧
      ((upperEnd : ℚ) ≤ n.numeral.magnitude → n.numeral.toNumber? = none)) ∧
    (∀ found wanted, ofText text = .error (.wrongShape found wanted) ↔
      format.Meets text.toList found wanted) ∧
    (∀ j, IsText j text.toList → ¬ format.Fits j → ∃ front rest found wanted,
      format.Misfit front found wanted ∧ j.tokens = front ++ rest ∧
      ofText text = .error (.wrongShape found wanted)) ∧
    ((∀ j, ¬ IsText j text.toList) → (∀ found wanted, ¬ format.Meets text.toList found wanted) →
      ofText text = .error .malformed) := by
  refine ⟨fun d => follows_reader.run_eq_ok_iff, follows_reader.fits_iff,
    fun n x h => value_of_toNumber? h, fun n => n.magnitude_of_refused,
    fun found wanted => follows_reader.run_eq_wrongShape_iff, fun j hj unfit => ?_,
    fun noText noMisfit => ?_⟩
  · obtain ⟨front, rest, found, wanted, misfit, cut, meets⟩ := Format.exists_meets hj unfit
    exact ⟨front, rest, found, wanted, misfit, cut, follows_reader.run_eq_wrongShape_iff.mpr meets⟩
  · cases result : ofText text with
    | ok d =>
      obtain ⟨j, hj, -⟩ := follows_reader.run_eq_ok_iff.mp result
      exact absurd hj (noText j)
    | error e =>
      cases e with
      | malformed => rfl
      | wrongShape found wanted =>
        exact absurd (follows_reader.run_eq_wrongShape_iff.mp result) (noMisfit found wanted)

/-- Its second user is no row. -/
def misshapenUsers : Json :=
  .object [("users", .array [.object [("id", .number (.int 1))], .array []])]

def misshapenUsersText : String := "\x7b\"users\": [\x7b\"id\": 1\x7d, []]\x7d"

theorem ofText_format_misshapenUsers :
    IsText misshapenUsers misshapenUsersText.toList ∧ ¬ format.Fits misshapenUsers ∧
      (∃ front rest found wanted, format.Misfit front found wanted ∧
        misshapenUsers.tokens = front ++ rest ∧
        ofText misshapenUsersText = .error (.wrongShape found wanted)) ∧
      format.Meets misshapenUsersText.toList .array .row := by
  have isText : IsText misshapenUsers misshapenUsersText.toList :=
    lex_eq_tokens_iff.mp (by decide +kernel)
  have unfit : ¬ format.Fits misshapenUsers := by
    simp [format, misshapenUsers, Format.Fits]
  have error : ofText misshapenUsersText = .error (.wrongShape .array .row) := by decide +kernel
  obtain ⟨-, -, -, -, meets, fails, -⟩ := ofText_format misshapenUsersText
  exact ⟨isText, unfit, fails misshapenUsers isText unfit, (meets .array .row).mp error⟩

end Dataset

end SqlTutor

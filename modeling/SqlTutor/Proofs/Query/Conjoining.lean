import SqlTutor.Proofs.Query.Conjunction
import SqlTutor.Proofs.Text.Endings

/-!
Conditions joined by AND as they stand, whatever is written in them and whether it is recognized.
The texts are told apart where they were joined unless one of them has white space at an end or the
first ends in an AND of its own, which would take the white space of the new one. Apart from this
the joined text has the parts of both texts in order, so the rows that it keeps are those that both
keep, AND commutes and can be repeated, and strict reading fails at the first text that fails.
-/
namespace SqlTutor.Query

open Text

/-- A text without white space at its ends that does not end in a word AND behind white space. -/
structure Conjoinable (s : List Char) : Prop where
  stops : Stops isBlank s
  last : EndsSolid s
  no_and : ∀ gap word, isBlank gap → Spells "and".toList word → ¬ gap :: word <:+ s

theorem Conjoinable.closed {s : List Char} (h : Conjoinable s) : Closed "and".toList s where
  last := h.last
  no_separator gap word suffix blank ends :=
    h.no_and gap word blank (spells_of_keyword? (by decide) ends) suffix

theorem conjoinable_of_not_endsIn {s : List Char} (stops : Stops isBlank s) (last : EndsSolid s)
    (h : ¬ EndsIn "and".toList s) : Conjoinable s where
  stops := stops
  last := last
  no_and gap word _ spells suffix := h (spells.endsIn ((List.suffix_cons gap word).trans suffix))

/-- The two texts with AND between them. -/
def conjoin (a b : List Char) : List Char := a ++ (" AND ".toList ++ b)

theorem separator_and : Separator "and".toList " AND ".toList :=
  .mk [' '] "AND".toList [' '] (by decide) (by decide) (by decide) (by decide) (by decide)

namespace Condition

/-- The parts of two conditions, one behind the other. -/
def append (c d : Condition) : Condition := ⟨c.parts ++ d.parts⟩

section Append

variable (c d : Condition)

theorem holds_append (row : Row) : (c.append d).holds row = (c.holds row && d.holds row) :=
  List.all_append

theorem filter_append (rows : List Row) : (c.append d).filter rows = d.filter (c.filter rows) := by
  have both : ∀ row, (c.append d).holds row = (d.holds row && c.holds row) := fun row => by
    rw [holds_append, Bool.and_comm]
  rw [filter, filter, filter, List.filter_filter, funext both]

theorem filter_append_comm (rows : List Row) :
    (c.append d).filter rows = (d.append c).filter rows := by
  have same : ∀ row, (c.append d).holds row = (d.append c).holds row := fun row => by
    rw [holds_append, holds_append, Bool.and_comm]
  exact List.filter_congr fun row _ => same row

theorem filter_append_self (rows : List Row) : (c.append c).filter rows = c.filter rows := by
  rw [filter_append]
  exact List.filter_eq_self.mpr fun row kept => (List.mem_filter.mp kept).2

theorem firstUnrecognized?_append :
    (c.append d).firstUnrecognized? = c.firstUnrecognized?.or d.firstUnrecognized? := by
  rw [firstUnrecognized?, append, List.find?_append, Option.map_or]
  rfl

end Append

variable {a b : List Char}

theorem ofText_conjoin (ha : Conjoinable a) (hb : Conjoinable b) :
    ofText (conjoin a b) = (ofText a).append (ofText b) := by
  have texts : partTexts (conjoin a b) = partTexts a ++ partTexts b := by
    rw [partTexts, conjoin, splitOnWord_append (by decide) ha.closed separator_and hb.stops,
      List.map_append]
    rfl
  rw [ofText, texts, List.map_append]
  rfl

theorem read_conjoin_eq (ha : Conjoinable a) (hb : Conjoinable b) (strict : Bool) :
    read strict (conjoin a b) =
      read strict a >>= fun c => read strict b >>= fun d => .ok (c.append d) := by
  simp only [read, ofText_conjoin ha hb, firstUnrecognized?_append]
  cases (ofText a).firstUnrecognized? with
  | some part => cases strict with
    | true => rfl
    | false => cases (ofText b).firstUnrecognized? <;> rfl
  | none => cases (ofText b).firstUnrecognized? with
    | some part => cases strict <;> rfl
    | none => rfl

end Condition

/-- AND puts the parts of one text behind those of the other. Without strictness it keeps what the
second condition keeps of what the first one keeps, in whichever order they are written, and a
condition that is repeated changes nothing. With strictness the joined text fails exactly if one of
the two texts fails, and as the first of them that does. -/
theorem read_conjoin {a b : List Char} (ha : Conjoinable a) (hb : Conjoinable b) :
    (∀ strict, Condition.read strict (conjoin a b) = do
      let c ← Condition.read strict a
      let d ← Condition.read strict b
      return ⟨c.parts ++ d.parts⟩) ∧
    (∃ c d both back twice, Condition.read false a = .ok c ∧ Condition.read false b = .ok d ∧
      Condition.read false (conjoin a b) = .ok both ∧
      Condition.read false (conjoin b a) = .ok back ∧
      Condition.read false (conjoin a a) = .ok twice ∧
      ∀ rows, both.filter rows = d.filter (c.filter rows) ∧
        both.filter rows = back.filter rows ∧ twice.filter rows = c.filter rows) ∧
    ((∃ e, Condition.read true (conjoin a b) = .error e) ↔
      (∃ e, Condition.read true a = .error e) ∨ ∃ e, Condition.read true b = .error e) ∧
    ∀ e, Condition.read true (conjoin a b) = .error e ↔ Condition.read true a = .error e ∨
      (∃ c, Condition.read true a = .ok c) ∧ Condition.read true b = .error e := by
  have parts := Condition.read_conjoin_eq ha hb
  refine ⟨parts, ?_, ?_⟩
  · refine ⟨.ofText a, .ofText b, _, _, _, Condition.read_false a, Condition.read_false b,
      Condition.read_false _, Condition.read_false _, Condition.read_false _, fun rows => ?_⟩
    rw [Condition.ofText_conjoin ha hb, Condition.ofText_conjoin hb ha,
      Condition.ofText_conjoin ha ha]
    exact ⟨Condition.filter_append _ _ rows, Condition.filter_append_comm _ _ rows,
      Condition.filter_append_self _ rows⟩
  · rw [parts true]
    cases Condition.read true a with
    | error e => simp [bind, Except.bind]
    | ok c =>
      cases Condition.read true b with
      | error e => simp [bind, Except.bind]
      | ok d => simp [bind, Except.bind]

/-- None of its three parts is recognized. -/
def saltText : List Char := "id + 1 AND role = 'salt and pepper'".toList

/-- It begins with an AND, which is not the one that is taken for the new one. -/
def idText : List Char := "and id > 1".toList

/-- The error is that of the text that fails, on either side. -/
theorem read_conjoin_salt : (Conjoinable saltText ∧ Conjoinable idText) ∧
    Condition.read true (conjoin saltText idText) = .error (.unsupportedPredicate "id + 1") ∧
    Condition.read true (conjoin idText saltText) = .error (.unsupportedPredicate "id + 1") ∧
    ∃ c both, Condition.read false saltText = .ok c ∧
      Condition.read false (conjoin saltText saltText) = .ok both ∧
      ∀ rows, both.filter rows = c.filter rows := by
  have ends : (∀ c ∈ saltText.getLast?, isBlank c = false) ∧
      ∀ c ∈ idText.getLast?, isBlank c = false := by decide
  have salt : Conjoinable saltText :=
    conjoinable_of_not_endsIn (stops_cons rfl _) ends.1 (by decide)
  have id : Conjoinable idText := conjoinable_of_not_endsIn (stops_cons rfl _) ends.2 (by decide)
  have fails : Condition.read true saltText = .error (.unsupportedPredicate "id + 1") := by
    decide +kernel
  have reads : Condition.read true idText = .ok (.ofText idText) := by decide +kernel
  refine ⟨⟨salt, id⟩, ?_, ?_, ?_⟩
  · exact ((read_conjoin salt id).2.2.2 _).mpr (Or.inl fails)
  · exact ((read_conjoin id salt).2.2.2 _).mpr (Or.inr ⟨⟨_, reads⟩, fails⟩)
  · obtain ⟨-, ⟨c, _, _, _, twice, first, _, _, _, repeated, laws⟩, -⟩ := read_conjoin salt id
    exact ⟨c, twice, first, repeated, fun rows => (laws rows).2.2⟩

end SqlTutor.Query

import SqlTutor.Proofs.Query.Recognition
import SqlTutor.Proofs.Text.LetterCase
import SqlTutor.Proofs.Text.Sigmas

/-!
What LIKE finds. The needle and the text of a value are made small, each on its own, and the one is
looked for in the other. A needle is found where it stands as it is if its capital sigmas are final
there just when they are final in the needle. This is needed: a needle with a sigma for which it can
fail is missed in some value that has the needle in it.
-/
namespace SqlTutor.Query

open Text

/-- What LIKE looks for, with no sign in it that would end it or be taken for a comparison. -/
structure Needle where
  text : List Char
  ne_nil : text ≠ []
  chars : ∀ q ∈ ['%', '=', '<', '>'], q ∉ text

theorem holds_contains_iff {row : Row} {column : String} {v : Value}
    (value : row.get? column = some v) (needle : List Char) :
    (Predicate.contains column (String.ofList needle)).holds row ↔ needle <:+: lower v.shown := by
  rw [Predicate.holds, value, String.toList_ofList]
  exact occursIn_iff

/-- LIKE finds a needle in every text that has it, whatever surrounds it there, as long as no
capital sigma of the needle is final in one of the two only; so it finds each needle that has none.
Where the surroundings can make such a difference, some text with the needle in it is passed
over. -/
theorem like_finds (c : Column) (n : Needle) :
    ∃ p, Predicate.ofText? (c.like n.text) = some p ∧
      (∀ (row : Row) (v : Value) (before behind : List Char),
        row.get? (String.ofList c.text) = some v → v.shown = before ++ (n.text ++ behind) →
        SigmasAlike before n.text behind → p.holds row = true) ∧
      ('Σ' ∉ n.text → ∀ (row : Row) (v : Value), row.get? (String.ofList c.text) = some v →
        n.text <:+: v.shown → p.holds row = true) ∧
      ∀ before behind, ¬ SigmasAlike before n.text behind →
        ∃ (row : Row) (v : Value), row.get? (String.ofList c.text) = some v ∧
          n.text <:+: v.shown ∧ p.holds row = false := by
  refine ⟨_, Predicate.ofText?_like c n.ne_nil n.chars, ?_, ?_, ?_⟩
  · intro row v before behind value shown alike
    rw [holds_contains_iff value, shown]
    exact alike.isInfix_lower
  · rintro plain row v value ⟨before, behind, shown⟩
    rw [holds_contains_iff value, ← shown, List.append_assoc]
    exact (sigmasAlike_of_notMem plain before behind).isInfix_lower
  · intro before behind unlike
    obtain ⟨text, inside, missed⟩ := exists_missed unlike
    have value : (OrderedMap.empty.insert (String.ofList c.text)
        (Value.text (String.ofList text))).get? (String.ofList c.text) =
          some (.text (String.ofList text)) := by
      rw [OrderedMap.get?_insert, if_pos rfl]
    have shown : (Value.text (String.ofList text)).shown = text := String.toList_ofList
    refine ⟨_, _, value, by rwa [shown], ?_⟩
    rw [← Bool.not_eq_true, holds_contains_iff value, shown]
    exact missed

def nameColumn : Column := ⟨"name".toList, by decide, by decide⟩

/-- The beginning of a name, in which the sigma is the last letter. -/
def odysNeedle : Needle := ⟨"ΟΔΥΣ".toList, by decide, by decide⟩

def namedRow (name : String) : Row := .ofList [("name", .text name)]

/-- A sigma that ends the needle ends a word of one text and none of the other. -/
theorem like_finds_odysseus :
    ((namedRow "κ. ΟΔΥΣ, Α").get? "name" = some (.text "κ. ΟΔΥΣ, Α") ∧
      (Value.text "κ. ΟΔΥΣ, Α").shown =
        "κ. ".toList ++ (odysNeedle.text ++ ", Α".toList) ∧
      SigmasAlike "κ. ".toList odysNeedle.text ", Α".toList ∧
      ¬ SigmasAlike [] odysNeedle.text "ΣΕΑΣ".toList) ∧
    ∃ p, Predicate.ofText? (nameColumn.like odysNeedle.text) = some p ∧
      p.holds (namedRow "κ. ΟΔΥΣ, Α") = true ∧
      ∃ (row : Row) (v : Value), row.get? "name" = some v ∧ odysNeedle.text <:+: v.shown ∧
        p.holds row = false := by
  have alike : SigmasAlike "κ. ".toList odysNeedle.text ", Α".toList := by decide +kernel
  have unlike : ¬ SigmasAlike [] odysNeedle.text "ΣΕΑΣ".toList := by decide +kernel
  obtain ⟨p, read, found, -, missed⟩ := like_finds nameColumn odysNeedle
  exact ⟨⟨rfl, rfl, alike, unlike⟩, p, read, found _ _ _ _ rfl rfl alike, missed _ _ unlike⟩

/-- Not every needle is found in every text that has it: a sigma that ends the needle is final
there, and in the text it is not. -/
theorem not_forall_like_finds : ¬ ∀ (c : Column) (n : Needle) (row : Row) (v : Value),
    row.get? (String.ofList c.text) = some v → n.text <:+: v.shown →
      ∃ p, Predicate.ofText? (c.like n.text) = some p ∧ p.holds row = true := by
  intro finds
  obtain ⟨p, read, found⟩ := finds nameColumn odysNeedle (namedRow "ΟΔΥΣΣΕΑΣ") _ rfl
    ⟨[], "ΣΕΑΣ".toList, rfl⟩
  rw [Predicate.ofText?_like nameColumn odysNeedle.ne_nil odysNeedle.chars] at read
  obtain rfl := Option.some.inj read
  revert found
  decide +kernel

end SqlTutor.Query

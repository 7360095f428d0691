import SqlTutor.Proofs.Text.Enclosures
import SqlTutor.Query.Clauses

/-!
Conditions in statements without needless white space. The word WHERE may stand anywhere, also at
the end of a longer word, and so may the words that end a condition at the front of one. The
condition is the text behind the first WHERE, up to the first place where it may end. It has at
least one character, so a word that follows WHERE at once belongs to it.
-/
namespace SqlTutor.Query

open Text

/-- WHERE and a space stand between two parts of the text. -/
def WhereAt (s front tail : List Char) : Prop :=
  ∃ w, Spells "where".toList w ∧ s = front ++ (w ++ ' ' :: tail)

/-- What stands behind the first WHERE and its space. -/
def BehindFirstWhere (s tail : List Char) : Prop :=
  ∃ front, WhereAt s front tail ∧
    ∀ front' tail', WhereAt s front' tail' → front.length ≤ front'.length

/-- A space and then ORDER, GROUP or LIMIT, possibly as the front of a longer word. -/
def BeginsStop (s : List Char) : Prop :=
  ∃ key ∈ ["order".toList, "group".toList, "limit".toList],
    ∃ w rest, Spells key w ∧ s = ' ' :: (w ++ rest)

/-- The text ends, at least one character on, at the first place where ORDER, GROUP or LIMIT follow
behind a space or nothing follows. -/
def EndsAtFirstStop (tail c : List Char) : Prop :=
  c ≠ [] ∧ (∃ rest, tail = c ++ rest ∧ (rest = [] ∨ BeginsStop rest)) ∧
    ∀ front rest, tail = front ++ rest → front ≠ [] → rest = [] ∨ BeginsStop rest →
      c.length ≤ front.length

theorem readable_conditionPlace : conditionPlace.Readable := by
  unfold Enclosure.Readable
  decide

theorem encloses_conditionPlace_iff {tail c : List Char} :
    conditionPlace.Encloses tail c ↔ EndsAtFirstStop tail c := by
  have ends (rest : List Char) : conditionPlace.Ends rest ↔ rest = [] ∨ BeginsStop rest := by
    have closes : conditionPlace.endCloses = true := rfl
    rw [Enclosure.Ends, closes, eq_self, true_and]
    rfl
  simp only [Enclosure.Encloses, ends, EndsAtFirstStop]

section Collapsed

variable {s : List Char} (h : Collapsed s)

include h

theorem WhereAt.collapsed {front tail : List Char} (place : WhereAt s front tail) :
    Collapsed (' ' :: tail) := by
  obtain ⟨w, -, rfl⟩ := place
  exact h.suffix ⟨front ++ w, List.append_assoc _ _ _⟩

theorem read?_conditionPlace_iff {front rest c : List Char} (cut : s = front ++ rest) :
    conditionPlace.read? rest = some c ↔ ∃ tail, WhereAt s front tail ∧ EndsAtFirstStop tail c := by
  subst cut
  have collapsed : Collapsed rest := h.suffix (List.suffix_append front rest)
  simp only [Enclosure.read?_eq_some_iff readable_conditionPlace collapsed,
    encloses_conditionPlace_iff]
  constructor
  · rintro ⟨w, tail, hw, rfl, ends⟩
    exact ⟨tail, ⟨w, hw, rfl⟩, ends⟩
  · rintro ⟨tail, ⟨w, hw, same⟩, ends⟩
    exact ⟨w, tail, hw, List.append_cancel_left same, ends⟩

/-- Behind each WHERE something is read, if only what is left of the text. -/
theorem read?_conditionPlace_eq_none_iff {front rest : List Char} (cut : s = front ++ rest) :
    conditionPlace.read? rest = none ↔ ∀ tail, ¬ WhereAt s front tail := by
  simp only [Option.eq_none_iff_forall_ne_some, ne_eq, read?_conditionPlace_iff h cut, not_exists,
    not_and]
  constructor
  · intro nothing tail place
    have more := (place.collapsed h ' ' tail List.suffix_rfl rfl).2.1
    obtain ⟨c, inside⟩ := Enclosure.exists_encloses (e := conditionPlace) rfl more
    exact nothing c tail place (encloses_conditionPlace_iff.mp inside)
  · exact fun nothing _ tail place => absurd place (nothing tail)

theorem find?_conditionPlace_iff {c : List Char} : conditionPlace.find? s = some c ↔
    ∃ tail, BehindFirstWhere s tail ∧ EndsAtFirstStop tail c := by
  rw [Enclosure.find?_eq_findFirst?, findFirst?_eq_some_iff]
  constructor
  · rintro ⟨front, later, cut, read, fails⟩
    obtain ⟨tail, place, ends⟩ := (read?_conditionPlace_iff h cut).mp read
    refine ⟨tail, ⟨front, place, fun front' tail' place' => ?_⟩, ends⟩
    by_contra less
    obtain ⟨w, -, cut'⟩ := id place'
    have nothing := fails front' _ cut' (Nat.not_le.mp less)
    exact (read?_conditionPlace_eq_none_iff h cut').mp nothing tail' place'
  · rintro ⟨tail, ⟨front, place, first⟩, ends⟩
    obtain ⟨w, -, cut⟩ := id place
    refine ⟨front, _, cut, (read?_conditionPlace_iff h cut).mpr ⟨tail, place, ends⟩, ?_⟩
    intro earlier later cut' less
    refine (read?_conditionPlace_eq_none_iff h cut').mpr fun tail' place' => ?_
    exact absurd (first earlier tail' place') (Nat.not_le.mpr less)

theorem condition?_eq_some_iff {c : List Char} : condition? s = some (String.ofList c) ↔
    ∃ tail, BehindFirstWhere s tail ∧ EndsAtFirstStop tail c := by
  have trimmed {tail text : List Char} (first : BehindFirstWhere s tail)
      (ends : EndsAtFirstStop tail text) : trim text = text := by
    obtain ⟨front, place, -⟩ := first
    exact (encloses_conditionPlace_iff.mpr ends).trim_eq (place.collapsed h)
  rw [condition?, Option.map_eq_some_iff]
  simp only [find?_conditionPlace_iff h, String.ofList_inj]
  constructor
  · rintro ⟨text, ⟨tail, first, ends⟩, rfl⟩
    rw [trimmed first ends]
    exact ⟨tail, first, ends⟩
  · rintro ⟨tail, first, ends⟩
    exact ⟨c, ⟨tail, first, ends⟩, trimmed first ends⟩

end Collapsed

/-- The condition of a statement is missing just when WHERE is; otherwise it is the text between
the first WHERE and the first place where it may end. It is never empty, and none of the words that
end it stands in it behind a space. -/
theorem condition?_of_collapsed {s : List Char} (h : collapse s = s) :
    (condition? s = none ↔ ¬ ∃ front tail, WhereAt s front tail) ∧
    (∀ c, condition? s = some (String.ofList c) ↔
      ∃ tail, BehindFirstWhere s tail ∧ EndsAtFirstStop tail c) ∧
    ∀ c, condition? s = some (String.ofList c) →
      c ≠ [] ∧ ∀ front rest, c = front ++ rest → ¬ BeginsStop rest := by
  have collapsed := collapsed_of_collapse_eq h
  refine ⟨?_, fun c => condition?_eq_some_iff collapsed, fun c found => ?_⟩
  · rw [condition?, Option.map_eq_none_iff, Enclosure.find?_eq_findFirst?, findFirst?_eq_none_iff,
      not_exists]
    constructor
    · rintro nothing front ⟨tail, place⟩
      obtain ⟨w, -, cut⟩ := id place
      have none := nothing front _ cut
      exact (read?_conditionPlace_eq_none_iff collapsed cut).mp none tail place
    · intro nowhere front rest cut
      refine (read?_conditionPlace_eq_none_iff collapsed cut).mpr fun tail place => ?_
      exact nowhere front ⟨tail, place⟩
  · obtain ⟨tail, ⟨front, place, -⟩, ends⟩ := (condition?_eq_some_iff collapsed).mp found
    have inside := encloses_conditionPlace_iff.mpr ends
    exact ⟨ends.1, fun before rest cut => inside.not_beginsWithGap (place.collapsed collapsed) cut⟩

/-- The first WHERE ends a longer word, and one of the words that could end the condition follows
at once. -/
theorem condition?_of_collapsed_elsewhere :
    let s := "elsewhere limit 3 WHERE x = 1 Ordered by b".toList
    let c := "limit 3 WHERE x = 1".toList
    condition? s = some (String.ofList c) ∧
      (∃ tail, BehindFirstWhere s tail ∧ EndsAtFirstStop tail c) ∧
      ∀ front rest, c = front ++ rest → ¬ BeginsStop rest := by
  intro s c
  have collapsed : collapse s = s := by decide +kernel
  have found : condition? s = some (String.ofList c) := by decide +kernel
  obtain ⟨-, some, inside⟩ := condition?_of_collapsed collapsed
  exact ⟨found, (some c).mp found, (inside c found).2⟩

end SqlTutor.Query

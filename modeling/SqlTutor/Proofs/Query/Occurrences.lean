import SqlTutor.Proofs.Query.Spelling
import SqlTutor.Proofs.Query.Strictness
import Mathlib.Data.List.Forall2

/-!
What is needed for a condition to be accepted. Strict evaluation accepts a condition if a form
occurs in each of its parts, and takes the first occurrence of the form that is tried first. What
stands around it is not looked at, so a part need not be a form.
-/
namespace SqlTutor.Query

open Text

namespace Predicate

variable {k : Kind} {p : Predicate} {s : List Char}

/-- A form that ends in the middle of a number goes on to the end of it. -/
theorem Spelled.exists_isAtFront {form : List Char} (spelled : Spelled p form)
    (after : List Char) : ∃ q : Predicate, q.kind = p.kind ∧ q.IsAtFront (form ++ after) := by
  by_cases ends : p.kind.endsInNumber
  · let more := after.takeWhile isDecimalDigit
    let rest := after.dropWhile isDecimalDigit
    have cut : after = more ++ rest := List.takeWhile_append_dropWhile.symm
    have digits : ∀ c ∈ more, isDecimalDigit c := fun c hc => List.mem_takeWhile_imp hc
    have stops : Stops isDecimalDigit rest := stops_dropWhile isDecimalDigit after
    cases spelled with
    | numberEq hcolumn hop hdigits =>
      refine ⟨_, ?_, _, rest, ?_, .numberEq hcolumn hop (hdigits.append digits), fun _ => stops⟩
      · simp only [kind]
      · simp only [cut, List.append_assoc]
    | compare relation hcolumn hop hdigits =>
      refine ⟨_, ?_, _, rest, ?_, .compare relation hcolumn hop (hdigits.append digits),
        fun _ => stops⟩
      · simp only [kind]
      · simp only [cut, List.append_assoc]
    | _ => exact absurd ends Bool.false_ne_true
  · exact ⟨p, rfl, form, after, rfl, spelled, fun number => absurd number ends⟩

/-- A place in a text where the form of a predicate stands. -/
structure Occurrence (text : List Char) where
  predicate : Predicate
  before : List Char
  form : List Char
  after : List Char
  spelled : Spelled predicate form
  text_eq : text = before ++ (form ++ after)

/-- No form that is tried earlier occurs, the form itself does not occur in front of this place, and
its number is complete. -/
structure Occurrence.IsChosen {text : List Char} (o : Occurrence text) : Prop where
  rank_le : ∀ other : Occurrence text, o.predicate.kind.rank ≤ other.predicate.kind.rank
  length_le : ∀ other : Occurrence text, other.predicate.kind = o.predicate.kind →
    o.before.length ≤ other.before.length
  complete : o.predicate.kind.endsInNumber → Stops isDecimalDigit o.after

section Occurrences

variable {text : List Char}

theorem read?_eq_none_iff : k.read? s = none ↔ ∀ (q : Predicate) (form after : List Char),
    q.kind = k → Spelled q form → s ≠ form ++ after := by
  constructor
  · rintro fails q form after rfl spelled rfl
    obtain ⟨r, same, front⟩ := spelled.exists_isAtFront after
    rw [read?_eq_some_iff.mpr ⟨same, front⟩] at fails
    nomatch fails
  · intro absent
    cases found : k.read? s with
    | none => rfl
    | some q =>
      obtain ⟨same, form, after, cut, spelled, -⟩ := read?_eq_some_iff.mp found
      exact absurd cut (absent q form after same spelled)

theorem findFirst?_read?_eq_none_iff : findFirst? k.read? text = none ↔
    ∀ o : Occurrence text, o.predicate.kind ≠ k := by
  simp only [findFirst?_eq_none_iff, read?_eq_none_iff]
  constructor
  · intro absent o same
    exact absent o.before _ o.text_eq o.predicate o.form o.after same o.spelled rfl
  · rintro absent before _ cut q form after same spelled rfl
    exact absent ⟨q, before, form, after, spelled, cut⟩ same

theorem findFirst?_read?_eq_some_iff : findFirst? k.read? text = some p ↔
    ∃ o : Occurrence text, o.predicate = p ∧ p.kind = k ∧
      (∀ other : Occurrence text, other.predicate.kind = k →
        o.before.length ≤ other.before.length) ∧
      (p.kind.endsInNumber → Stops isDecimalDigit o.after) := by
  simp only [findFirst?_eq_some_iff, read?_eq_none_iff, read?_eq_some_iff]
  constructor
  · rintro ⟨before, rest, cut, ⟨same, form, after, rfl, spelled, complete⟩, fails⟩
    refine ⟨⟨p, before, form, after, spelled, cut⟩, rfl, same, fun other hother => ?_, complete⟩
    by_contra less
    exact fails other.before _ other.text_eq (not_le.mp less) other.predicate other.form
      other.after hother other.spelled rfl
  · rintro ⟨o, rfl, same, first, complete⟩
    refine ⟨o.before, _, o.text_eq, ⟨same, o.form, o.after, rfl, o.spelled, complete⟩, ?_⟩
    rintro earlier _ cut less q form after hq spelled rfl
    exact not_le.mpr less (first ⟨q, earlier, form, after, spelled, cut⟩ hq)

/-- Of the members of an ordered list the first success is that of the least one. -/
theorem findSome?_eq_some_iff_of_pairwise {α β : Type} {l : List α} {rank : α → Nat}
    {f : α → Option β} (ordered : l.Pairwise (rank · < rank ·)) {b : β} :
    l.findSome? f = some b ↔
      ∃ a ∈ l, f a = some b ∧ ∀ other ∈ l, rank other < rank a → f other = none := by
  constructor
  · intro h
    obtain ⟨before, a, after, rfl, found, fails⟩ := List.findSome?_eq_some_iff.mp h
    refine ⟨a, by simp, found, fun other mem less => ?_⟩
    have later : ∀ other ∈ after, rank a < rank other := fun _ mem =>
      List.rel_of_pairwise_cons (List.pairwise_append.mp ordered).2.1 mem
    rcases List.mem_append.mp mem with front | back
    · exact fails other front
    · rcases List.mem_cons.mp back with rfl | back
      · exact absurd less (lt_irrefl _)
      · exact absurd less (lt_asymm (later other back))
  · rintro ⟨a, mem, found, fails⟩
    obtain ⟨before, after, rfl⟩ := List.append_of_mem mem
    refine List.findSome?_eq_some_iff.mpr ⟨before, a, after, rfl, found, fun other front => ?_⟩
    exact fails other (List.mem_append_left _ front)
      ((List.pairwise_append.mp ordered).2.2 other front a List.mem_cons_self)

theorem ofText?_eq_findSome?_all : ofText? text = Kind.all.findSome? fun k =>
    findFirst? k.read? text := by
  rw [ofText?_eq_findSome?, Kind.forms_eq_map_read?, List.findSome?_map]
  rfl

/-- A text is recognized as the predicate of the occurrence that is chosen in it. -/
theorem ofText?_eq_some_iff :
    ofText? text = some p ↔ ∃ o : Occurrence text, o.IsChosen ∧ o.predicate = p := by
  rw [ofText?_eq_findSome?_all, findSome?_eq_some_iff_of_pairwise Kind.pairwise_rank]
  simp only [findFirst?_read?_eq_some_iff, findFirst?_read?_eq_none_iff, Kind.mem_all, true_and,
    forall_const]
  constructor
  · rintro ⟨_, ⟨o, rfl, rfl, first, complete⟩, fails⟩
    refine ⟨o, ⟨fun other => ?_, first, complete⟩, rfl⟩
    by_contra less
    exact fails _ (not_le.mp less) other rfl
  · rintro ⟨o, chosen, rfl⟩
    refine ⟨o.predicate.kind, ⟨o, rfl, rfl, chosen.length_le, chosen.complete⟩, ?_⟩
    rintro _ less other rfl
    exact not_le.mpr less (chosen.rank_le other)

theorem ofText?_eq_none_iff : ofText? text = none ↔ IsEmpty (Occurrence text) := by
  simp only [ofText?_eq_findSome?_all, List.findSome?_eq_none_iff, findFirst?_read?_eq_none_iff]
  constructor
  · intro absent
    exact ⟨fun o => absent o.predicate.kind (Kind.mem_all _) o rfl⟩
  · intro empty k _ o
    exact empty.elim o

end Occurrences

end Predicate

namespace Condition

open Predicate

variable {s : List Char}

theorem read_true_eq_ok_iff {c : Condition} : read true s = .ok c ↔
    c = ofText s ∧ ∀ part ∈ partTexts s, (Predicate.ofText? part).isSome := by
  rw [read, firstUnrecognized?_ofText]
  cases found : (partTexts s).find? fun part => (Predicate.ofText? part).isNone with
  | none =>
    have all : ∀ part ∈ partTexts s, (Predicate.ofText? part).isSome := fun part mem => by
      simpa [Option.isSome_iff_ne_none] using List.find?_eq_none.mp found part mem
    exact ⟨fun h => ⟨(Except.ok.inj h).symm, all⟩, fun h => congrArg Except.ok h.1.symm⟩
  | some part =>
    have unfit := List.find?_some found
    have mem := List.mem_of_find?_eq_some found
    simp only [Option.map_some, if_true, reduceCtorEq, false_iff, not_and]
    intro _ all
    have fit := all part mem
    rw [Option.isNone_iff_eq_none.mp unfit] at fit
    cases fit

theorem read_true_eq_error_iff {e : Error} : read true s = .error e ↔
    ∃ part, (partTexts s).find? (fun part => (Predicate.ofText? part).isNone) = some part ∧
      e = .unsupportedPredicate (String.ofList part) := by
  rw [read, firstUnrecognized?_ofText]
  cases (partTexts s).find? fun part => (Predicate.ofText? part).isNone with
  | none => simp
  | some part => simp [eq_comm]

theorem forall₂_eq_and_iff {α β : Type} {f : α → β} {P : α → Prop} {l : List α} {m : List β} :
    List.Forall₂ (fun a b => b = f a ∧ P a) l m ↔ m = l.map f ∧ ∀ a ∈ l, P a := by
  induction l generalizing m with
  | nil => simp
  | cons a l ih =>
    cases m with
    | nil => simp
    | cons b m =>
      rw [List.forall₂_cons, ih, List.map_cons, List.cons.injEq, List.forall_mem_cons]
      tauto

/-- What a condition records of one of its parts. -/
def Records (text : List Char) (part : String × Option Predicate) : Prop :=
  part.1 = String.ofList text ∧ ∃ o : Occurrence text, o.IsChosen ∧ part.2 = some o.predicate

theorem records_iff {text : List Char} {part : String × Option Predicate} : Records text part ↔
    part = (String.ofList text, Predicate.ofText? text) ∧ (Predicate.ofText? text).isSome := by
  rw [Records, Option.isSome_iff_exists, Prod.ext_iff]
  constructor
  · rintro ⟨name, o, chosen, taken⟩
    have found := ofText?_eq_some_iff.mpr ⟨o, chosen, rfl⟩
    exact ⟨⟨name, taken.trans found.symm⟩, o.predicate, found⟩
  · rintro ⟨⟨name, taken⟩, p, found⟩
    obtain ⟨o, chosen, rfl⟩ := ofText?_eq_some_iff.mp found
    exact ⟨name, o, chosen, taken.trans found⟩

/-- Strict evaluation accepts a condition if a form occurs in each of its parts, whatever stands
around it, and otherwise names the first part in which none occurs. -/
theorem read_strict (s : List Char) :
    (∀ c, read true s = .ok c ↔ List.Forall₂ Records (partTexts s) c.parts) ∧
    ∀ e, read true s = .error e ↔ ∃ before part after, partTexts s = before ++ part :: after ∧
      (∀ earlier ∈ before, Nonempty (Occurrence earlier)) ∧ IsEmpty (Occurrence part) ∧
      e = .unsupportedPredicate (String.ofList part) := by
  have recognized (text : List Char) :
      (Predicate.ofText? text).isNone = false ↔ Nonempty (Occurrence text) := by
    rw [← not_isEmpty_iff, ← ofText?_eq_none_iff, Option.isNone_eq_false_iff,
      Option.isSome_iff_ne_none]
  constructor
  · intro c
    have parts : c = ofText s ↔ c.parts =
        (partTexts s).map fun part => (String.ofList part, Predicate.ofText? part) := by
      cases c
      simp [ofText]
    rw [read_true_eq_ok_iff, parts, ← forall₂_eq_and_iff]
    exact ⟨.imp fun _ _ => records_iff.mpr, .imp fun _ _ => records_iff.mp⟩
  · intro e
    simp only [read_true_eq_error_iff, List.find?_eq_some_iff_append]
    constructor
    · rintro ⟨part, ⟨unfit, before, after, cut, fit⟩, rfl⟩
      refine ⟨before, part, after, cut, fun earlier mem => ?_, ?_, rfl⟩
      · exact (recognized earlier).mp (by simpa using fit earlier mem)
      · exact ofText?_eq_none_iff.mp (Option.isNone_iff_eq_none.mp unfit)
    · rintro ⟨before, part, after, cut, fit, unfit, rfl⟩
      refine ⟨part, ⟨?_, before, after, cut, fun earlier mem => ?_⟩, rfl⟩
      · rw [ofText?_eq_none_iff.mpr unfit, Option.isNone_none]
      · rw [(recognized earlier).mpr (fit earlier mem), Bool.not_false]

/-- The part is a form, but for the table that may qualify its column. -/
def InFull (part : List Char) : Prop :=
  ∃ (p : Predicate) (qualifier form : List Char), part = qualifier ++ form ∧ Spelled p form ∧
    (qualifier = [] ∨ ∃ table, IsRun isWordChar table ∧ qualifier = table ++ ['.'])

theorem InFull.point_behind_word {part : List Char} (h : InFull part) (quotes : '\'' ∉ part)
    (point : '.' ∈ part) : ∃ table rest, word? part = some (table, '.' :: rest) := by
  obtain ⟨p, qualifier, form, rfl, spelled, rfl | ⟨table, htable, rfl⟩⟩ := h
  · exact absurd point ((quote_mem_or_point_notMem spelled).resolve_left quotes)
  · refine ⟨table, form, run?_eq_some_iff.mpr ⟨htable, stops_cons rfl form, ?_⟩⟩
    rw [List.append_assoc, List.singleton_append]

/-- A number is accepted up to its decimal point. -/
theorem not_forall_inFull : ¬ ∀ (s : List Char) (c : Condition), read true s = .ok c →
    ∀ part ∈ partTexts s, InFull part := by
  intro h
  have accepted : read true "total = 99.99".toList = .ok (ofText "total = 99.99".toList) :=
    read_true_eq_ok_iff.mpr ⟨rfl, by decide +kernel⟩
  have whole := h _ _ accepted "total = 99.99".toList (by decide +kernel)
  obtain ⟨table, rest, found⟩ := whole.point_behind_word (by decide) (by decide)
  have first : word? "total = 99.99".toList = some ("total".toList, " = 99.99".toList) := by
    decide +kernel
  rw [first] at found
  nomatch found

end Condition

end SqlTutor.Query

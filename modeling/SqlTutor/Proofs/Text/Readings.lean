import SqlTutor.Proofs.Text.Keywords

/-!
What readers take. A reader succeeds on the texts that begin with a piece of its kind; for a run and
for white space there is no more of the kind behind it. A search finds what is read at the first
place where anything is read.
-/
namespace SqlTutor.Text

theorem keyword?_eq_some_iff {key s t : List Char} :
    keyword? key s = some t ↔ ∃ w, w.map foldCase = key ∧ s = w ++ t := by
  induction key generalizing s with
  | nil =>
    rw [keyword?, Option.some_inj]
    constructor
    · rintro rfl
      exact ⟨[], rfl, rfl⟩
    · rintro ⟨w, hw, rfl⟩
      rw [List.map_eq_nil_iff.mp hw, List.nil_append]
  | cons k key ih =>
    cases s with
    | nil =>
      simp only [keyword?, false_iff, reduceCtorEq]
      rintro ⟨w, hw, empty⟩
      rw [(List.append_eq_nil_iff.mp empty.symm).1] at hw
      exact List.cons_ne_nil k key hw.symm
    | cons c s =>
      rw [keyword?]
      constructor
      · intro h
        split at h
        · rename_i hc
          obtain ⟨w, hw, rfl⟩ := ih.mp h
          exact ⟨c :: w, by rw [List.map_cons, hc, hw], rfl⟩
        · cases h
      · rintro ⟨w, hw, eq⟩
        obtain ⟨d, v, rfl, hd, hv⟩ := List.map_eq_cons_iff.mp hw
        obtain ⟨rfl, rfl⟩ := List.cons.inj eq
        rw [if_pos hd]
        exact ih.mpr ⟨v, hv, rfl⟩

theorem exactly?_eq_some_iff {symbol s t : List Char} :
    exactly? symbol s = some t ↔ s = symbol ++ t := by
  constructor
  · exact eq_append_of_exactly?
  · rintro rfl
    exact exactly?_append symbol t

theorem stops_dropWhile (p : Char → Bool) (s : List Char) : Stops p (s.dropWhile p) := by
  intro c hc
  have first := List.head?_dropWhile_not p s
  rwa [Option.mem_def.mp hc] at first

/-- A text of characters of a class, and not empty. -/
def IsRun (p : Char → Bool) (s : List Char) : Prop := s ≠ [] ∧ ∀ c ∈ s, p c

instance (p : Char → Bool) (s : List Char) : Decidable (IsRun p s) :=
  inferInstanceAs (Decidable (_ ∧ _))

theorem IsRun.append {p : Char → Bool} {s t : List Char} (hs : IsRun p s)
    (ht : ∀ c ∈ t, p c) : IsRun p (s ++ t) :=
  ⟨fun empty => hs.1 (List.append_eq_nil_iff.mp empty).1,
    List.forall_mem_append.mpr ⟨hs.2, ht⟩⟩

theorem IsRun.notMem {p : Char → Bool} {s : List Char} (hs : IsRun p s) {c : Char}
    (hc : p c = false) : c ∉ s := by
  intro mem
  rw [hs.2 c mem] at hc
  nomatch hc

/-- No character of the run belongs to a class that is disjoint from the class of the run. -/
theorem IsRun.stops {p q : Char → Bool} {s : List Char} (hs : IsRun p s)
    (disjoint : ∀ c, p c → q c = false) (t : List Char) : Stops q (s ++ t) := by
  obtain ⟨c, s, rfl⟩ := List.exists_cons_of_ne_nil hs.1
  exact stops_cons (disjoint c (hs.2 c List.mem_cons_self)) _

theorem run?_eq_some_iff {p : Char → Bool} {s w t : List Char} :
    run? p s = some (w, t) ↔ IsRun p w ∧ Stops p t ∧ s = w ++ t := by
  constructor
  · intro h
    unfold run? at h
    split at h
    · cases h
    · rename_i c cs taken
      obtain ⟨rfl, rfl⟩ := Prod.mk.inj (Option.some.inj h)
      refine ⟨⟨List.cons_ne_nil c cs, ?_⟩, stops_dropWhile p s, ?_⟩
      · rw [← taken]
        exact fun d hd => List.mem_takeWhile_imp hd
      · rw [← taken, List.takeWhile_append_dropWhile]
  · rintro ⟨hw, stops, rfl⟩
    exact run?_append hw.1 hw.2 stops

theorem blanks?_eq_some_iff {s t : List Char} : blanks? s = some t ↔
    ∃ gap, IsRun isBlank gap ∧ Stops isBlank t ∧ s = gap ++ t := by
  simp only [blanks?, Option.map_eq_some_iff, Prod.exists, run?_eq_some_iff]
  constructor
  · rintro ⟨gap, t, h, rfl⟩
    exact ⟨gap, h⟩
  · rintro ⟨gap, h⟩
    exact ⟨gap, t, h, rfl⟩

theorem trimStart_eq_iff {s t : List Char} : trimStart s = t ↔
    ∃ gap, (∀ c ∈ gap, isBlank c) ∧ Stops isBlank t ∧ s = gap ++ t := by
  constructor
  · rintro rfl
    exact ⟨s.takeWhile isBlank, fun c hc => List.mem_takeWhile_imp hc, stops_dropWhile isBlank s,
      List.takeWhile_append_dropWhile.symm⟩
  · rintro ⟨gap, blank, stops, rfl⟩
    rw [trimStart, List.dropWhile_append_of_pos blank]
    exact trimStart_eq_self stops

variable {α : Type} {read : List Char → Option α} {s : List Char}

theorem findFirst?_eq_none_iff :
    findFirst? read s = none ↔ ∀ before rest, s = before ++ rest → read rest = none := by
  constructor
  · intro h before rest eq
    subst eq
    induction before with
    | nil =>
      cases rest with
      | nil => exact h
      | cons c rest => exact (Option.or_eq_none_iff.mp h).1
    | cons c before ih => exact ih (Option.or_eq_none_iff.mp h).2
  · intro h
    refine findFirst?_eq_none fun r hr => ?_
    obtain ⟨before, eq⟩ := hr
    exact h before r eq.symm

theorem findFirst?_eq_some_iff {a : α} :
    findFirst? read s = some a ↔ ∃ before rest, s = before ++ rest ∧ read rest = some a ∧
      ∀ earlier later, s = earlier ++ later → earlier.length < before.length →
        read later = none := by
  constructor
  · intro h
    induction s with
    | nil => exact ⟨[], [], rfl, h, fun _ _ _ less => absurd less (Nat.not_lt_zero _)⟩
    | cons c s ih =>
      rw [findFirst?] at h
      cases here : read (c :: s) with
      | some b =>
        rw [here, Option.some_or] at h
        exact ⟨[], c :: s, rfl, here.trans h, fun _ _ _ less => absurd less (Nat.not_lt_zero _)⟩
      | none =>
        rw [here, Option.none_or] at h
        obtain ⟨before, rest, eq, found, fails⟩ := ih h
        refine ⟨c :: before, rest, by rw [eq, List.cons_append], found, ?_⟩
        intro earlier later cut less
        cases earlier with
        | nil => rwa [← show c :: s = later from cut]
        | cons d earlier =>
          exact fails earlier later (List.cons.inj cut).2 (Nat.lt_of_succ_lt_succ less)
  · rintro ⟨before, rest, rfl, found, fails⟩
    induction before with
    | nil => exact findFirst?_eq_some found
    | cons c before ih =>
      have here : read (c :: (before ++ rest)) = none :=
        fails [] (c :: (before ++ rest)) rfl (Nat.zero_lt_succ _)
      rw [List.cons_append, findFirst?, here, Option.none_or]
      refine ih fun earlier later cut less => ?_
      exact fails (c :: earlier) later (by rw [List.cons_append, cut, List.cons_append])
        (Nat.succ_lt_succ less)

end SqlTutor.Text

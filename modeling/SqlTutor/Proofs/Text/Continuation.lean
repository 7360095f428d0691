import SqlTutor.Proofs.Text.Framing

/-!
Texts that go on behind a space. A text is sealed if it ends neither in white space nor in a keyword
that needs something behind it. Readers are put together from a few kinds of steps, and for each
kind it is shown when a reader does not see that a sealed text goes on. A search then finds first
what it finds in the sealed text, and otherwise what it finds behind it.
-/
namespace SqlTutor.Text

/-- The text ends neither in white space nor in one of the keywords. -/
structure Sealed (keys : List (List Char)) (s : List Char) : Prop where
  last : EndsSolid s
  not_endsIn : ∀ key ∈ keys, ¬ EndsIn key s

/-- The function is the same of a sealed text and of one that goes on behind it. -/
def Framed {β : Type} (keys : List (List Char)) (t : List Char) (f : List Char → β) : Prop :=
  ∀ s, Sealed keys s → f (s ++ ' ' :: t) = f s

/-- The same of sealed texts that are not empty. -/
def FramedInside {β : Type} (keys : List (List Char)) (t : List Char) (f : List Char → β) : Prop :=
  ∀ s, s ≠ [] → Sealed keys s → f (s ++ ' ' :: t) = f s

variable {keys : List (List Char)} {t : List Char} {α β : Type}

theorem Sealed.suffix {s r : List Char} (h : Sealed keys s) (hr : r <:+ s) : Sealed keys r where
  last := h.last.suffix hr
  not_endsIn key hkey ends := h.not_endsIn key hkey (ends.of_suffix hr)

theorem Framed.inside {f : List Char → β} (h : Framed keys t f) : FramedInside keys t f :=
  fun s _ hs => h s hs

theorem framed_const (b : β) : Framed keys t fun _ => b := fun _ _ => rfl

/-- Whether a text is sealed is up to its last word. -/
theorem sealed_append_space {s w : List Char} (hw : Solid w)
    (h : ∀ key ∈ keys, IsKeyword key ∧ ¬ EndsIn key w) : Sealed keys (s ++ ' ' :: w) where
  last c hc := by
    rw [List.getLast?_append, List.getLast?_cons_of_ne_nil hw.1,
      List.getLast?_eq_some_getLast hw.1, Option.some_or, Option.mem_some_iff] at hc
    exact hw.2 c (hc ▸ List.getLast_mem hw.1)
  not_endsIn key hkey ends :=
    (h key hkey).2 ((endsIn_append_cons_iff (h key hkey).1 (by decide)).mp ends)

theorem sealed_spread {pieces : List (List Char)} (hkeys : ∀ key ∈ keys, IsKeyword key)
    (solid : ∀ w ∈ pieces, Solid w) (h : ∀ w ∈ pieces.getLast?, ∀ key ∈ keys, ¬ EndsIn key w) :
    Sealed keys (spread pieces) := by
  by_cases empty : pieces = []
  · subst empty
    refine ⟨by simp [EndsSolid], fun key hkey ends => ?_⟩
    exact (hkeys key hkey).1 (List.suffix_nil.mp ends)
  · have last := h _ (List.getLast?_eq_some_getLast empty)
    rw [← List.dropLast_concat_getLast empty, spread_append, spread_cons, spread_nil,
      List.append_nil]
    exact sealed_append_space (solid _ (List.getLast_mem empty)) fun key hkey =>
      ⟨hkeys key hkey, last key hkey⟩

section Steps

variable {next : List Char → Option α}

theorem suffix_of_keyword? {key s r : List Char} (h : keyword? key s = some r) : r <:+ s := by
  rw [(keyword?_eq_some h).1]
  exact List.drop_suffix _ _

theorem suffix_of_blanks? {s r : List Char} (h : blanks? s = some r) : r <:+ s := by
  obtain ⟨gap, c, -, rfl⟩ := exists_blank_of_blanks? h
  exact List.suffix_append_of_suffix (List.suffix_cons c r)

theorem suffix_of_run? {p : Char → Bool} {s w r : List Char} (h : run? p s = some (w, r)) :
    r <:+ s := by
  unfold run? at h
  split at h
  · exact absurd h (by simp)
  · obtain ⟨-, rfl⟩ := Prod.mk.inj (Option.some.inj h)
    exact List.dropWhile_suffix p

theorem suffix_of_exactly? {symbol s r : List Char} (h : exactly? symbol s = some r) : r <:+ s :=
  ⟨symbol, (eq_append_of_exactly? h).symm⟩

theorem Framed.keyword {key : List Char} (hkey : IsKeyword key) (h : Framed keys t next) :
    Framed keys t fun s => (keyword? key s).bind next := by
  intro s hs
  simp only [keyword?_append_cons (foreign_blank hkey (c := ' ') rfl), Option.bind_map]
  cases hr : keyword? key s with
  | none => rfl
  | some r => exact h r (hs.suffix (suffix_of_keyword? hr))

/-- Behind a keyword that a sealed text does not end in there is always something left. -/
theorem FramedInside.keyword {key : List Char} (hmem : key ∈ keys) (hkey : IsKeyword key)
    (hother : 's' ∉ key ∧ 'k' ∉ key) (h : FramedInside keys t next) :
    Framed keys t fun s => (keyword? key s).bind next := by
  intro s hs
  simp only [keyword?_append_cons (foreign_blank hkey (c := ' ') rfl), Option.bind_map]
  cases hr : keyword? key s with
  | none => rfl
  | some r =>
    have some : r ≠ [] := by
      rintro rfl
      exact hs.not_endsIn key hmem ((spells_of_keyword? hother hr).endsIn List.suffix_rfl)
    exact h r some (hs.suffix (suffix_of_keyword? hr))

theorem FramedInside.blanks (h : FramedInside keys t next) :
    FramedInside keys t fun s => (blanks? s).bind next := by
  intro s some hs
  simp only [blanks?_append some hs.last, Option.bind_map]
  cases hr : blanks? s with
  | none => rfl
  | some r =>
    obtain ⟨gap, c, hc, rfl⟩ := exists_blank_of_blanks? hr
    have suffix : c :: r <:+ gap ++ c :: r := List.suffix_append _ _
    have rest : r ≠ [] := (hs.last.suffix suffix).ne_nil hc
    exact h r rest (hs.suffix (suffix_of_blanks? hr))

/-- If nothing is left white space is read on, so what comes next must fail there. -/
theorem FramedInside.blanks_of_none (ht : Stops isBlank t) (hnone : next t = none)
    (h : FramedInside keys t next) : Framed keys t fun s => (blanks? s).bind next := by
  intro s hs
  cases s with
  | nil =>
    simp only [List.nil_append, blanks?_space ht, Option.bind_some, hnone]
    rfl
  | cons c s => exact h.blanks (c :: s) (List.cons_ne_nil c s) hs

theorem Framed.run {p : Char → Bool} (hp : p ' ' = false)
    {next : List Char × List Char → Option α} (h : ∀ w, Framed keys t fun s => next (w, s)) :
    Framed keys t fun s => (run? p s).bind next := by
  intro s hs
  simp only [run?_append_cons hp, Option.bind_map]
  cases hr : run? p s with
  | none => rfl
  | some part => exact h part.1 part.2 (hs.suffix (suffix_of_run? hr))

theorem Framed.exactly {symbol : List Char} (hsymbol : ' ' ∉ symbol) (h : Framed keys t next) :
    Framed keys t fun s => (exactly? symbol s).bind next := by
  intro s hs
  simp only [exactly?_append_cons hsymbol, Option.bind_map]
  cases hr : exactly? symbol s with
  | none => rfl
  | some r => exact h r (hs.suffix (suffix_of_exactly? hr))

theorem trimStart_ne_nil {s : List Char} (hs : s ≠ []) (hlast : EndsSolid s) :
    trimStart s ≠ [] := by
  intro empty
  have blank := List.dropWhile_eq_nil_iff.mp empty
  have solid := hlast (s.getLast hs) (List.getLast?_eq_some_getLast hs)
  rw [blank _ (List.getLast_mem hs)] at solid
  exact Bool.false_ne_true solid.symm

/-- White space that may be missing is skipped unseen if it makes no difference at the end. -/
theorem FramedInside.trimStart {f : List Char → β} (ht : Stops isBlank t) (hnil : f t = f [])
    (h : FramedInside keys t f) : Framed keys t fun s => f (trimStart s) := by
  intro s hs
  by_cases empty : s = []
  · subst empty
    simp only [List.nil_append, trimStart_space ht]
    exact hnil
  · have suffix : Text.trimStart s <:+ s := List.dropWhile_suffix _
    simp only [trimStart_append empty hs.last]
    exact h _ (trimStart_ne_nil empty hs.last) (hs.suffix suffix)

end Steps

section Enclosure

variable {e : Enclosure}

theorem closesAt_append_space (hkeys : ∀ key ∈ e.closing, IsKeyword key) (s : List Char) :
    e.closesAt (s ++ ' ' :: t) = e.closesAt s := by
  have same : ∀ key ∈ e.closing,
      (keyword? key (s ++ ' ' :: t)).isSome = (keyword? key s).isSome := by
    intro key hkey
    rw [keyword?_append_cons (foreign_blank (hkeys key hkey) rfl), Option.isSome_map]
  rw [Bool.eq_iff_iff, Enclosure.closesAt, Enclosure.closesAt, List.any_eq_true, List.any_eq_true]
  exact exists_congr fun key => and_congr_right fun hkey => by rw [same key hkey]

theorem gapAt_append_space (hkeys : ∀ key ∈ e.closing, IsKeyword key) {s : List Char}
    (hs : s ≠ []) (hlast : EndsSolid s) : e.gapAt (s ++ ' ' :: t) = e.gapAt s := by
  induction s with
  | nil => exact absurd rfl hs
  | cons c s ih =>
    by_cases hc : isBlank c
    · have rest := ih (hlast.ne_nil hc) (hlast.suffix (List.suffix_cons c s))
      rw [List.cons_append, Enclosure.gapAt, Enclosure.gapAt, rest, closesAt_append_space hkeys]
    · rw [Bool.not_eq_true] at hc
      rw [List.cons_append, Enclosure.gapAt, Enclosure.gapAt, hc, Bool.false_and, Bool.false_and]

/-- A text that the end of all text closes is closed in the same place by what follows. -/
theorem framedInside_textBefore? (hkeys : ∀ key ∈ e.closing, IsKeyword key)
    (hend : e.endCloses) (ht : e.closesAt t) :
    FramedInside keys t (textBefore? e.endsAt) := by
  intro s some hs
  induction s with
  | nil => exact absurd rfl some
  | cons c s ih =>
    have closed : e.endsAt (s ++ ' ' :: t) = e.endsAt s := by
      by_cases empty : s = []
      · have blank : isBlank ' ' := rfl
        simp [empty, Enclosure.endsAt, Enclosure.gapAt, blank, hend, ht]
      · have last := hs.last.suffix (List.suffix_cons c s)
        have more : (s ++ ' ' :: t).isEmpty = false :=
          List.isEmpty_eq_false_iff.mpr (List.append_ne_nil_of_left_ne_nil empty _)
        rw [Enclosure.endsAt, Enclosure.endsAt, gapAt_append_space hkeys empty last, more,
          List.isEmpty_eq_false_iff.mpr empty]
    rw [List.cons_append, textBefore?, textBefore?, closed]
    by_cases empty : s = []
    · have ends : e.endsAt s := by simp [empty, Enclosure.endsAt, hend]
      rw [if_pos ends, if_pos ends]
    · rw [ih empty (hs.suffix (List.suffix_cons c s))]

theorem FramedInside.afterBlanks {read : List Char → Option α} (h : FramedInside keys t read) :
    FramedInside keys t (afterBlanks? read) := by
  intro s some hs
  induction s with
  | nil => exact absurd rfl some
  | cons c s ih =>
    rw [List.cons_append, afterBlanks?, afterBlanks?]
    split
    · have rest := hs.last.ne_nil ‹_›
      have behind := hs.suffix (List.suffix_cons c s)
      rw [ih rest behind, h s rest behind]
    · rfl

theorem framed_read? (hmem : e.opening ∈ keys) (hopening : IsKeyword e.opening)
    (hother : 's' ∉ e.opening ∧ 'k' ∉ e.opening) (hkeys : ∀ key ∈ e.closing, IsKeyword key)
    (hend : e.endCloses) (ht : e.closesAt t) : Framed keys t e.read? :=
  ((framedInside_textBefore? hkeys hend ht).afterBlanks).keyword hmem hopening hother

theorem gapAt_of_lacks {s : List Char} (h : ∀ key ∈ e.closing, Lacks key s) :
    e.gapAt s = false := by
  induction s with
  | nil => rfl
  | cons c s ih =>
    have rest : ∀ key ∈ e.closing, Lacks key s := fun key hkey =>
      (h key hkey).suffix (List.suffix_cons c s)
    have closed : e.closesAt s = false := by
      rw [Enclosure.closesAt, List.any_eq_false]
      intro key hkey
      rw [rest key hkey s List.suffix_rfl]
      exact Bool.false_ne_true
    rw [Enclosure.gapAt, closed, ih rest, Bool.or_false, Bool.and_false]

theorem textBefore?_of_lacks (hend : e.endCloses = false) {s : List Char}
    (h : ∀ key ∈ e.closing, Lacks key s) : textBefore? e.endsAt s = none := by
  induction s with
  | nil => rfl
  | cons c s ih =>
    have rest : ∀ key ∈ e.closing, Lacks key s := fun key hkey =>
      (h key hkey).suffix (List.suffix_cons c s)
    have ends : e.endsAt s = false := by
      rw [Enclosure.endsAt, hend, gapAt_of_lacks rest, Bool.false_and, Bool.or_false]
    rw [textBefore?, ends, if_neg Bool.false_ne_true, ih rest, Option.map_none, ite_self]

theorem afterBlanks?_of_lacks (hend : e.endCloses = false) {s : List Char}
    (h : ∀ key ∈ e.closing, Lacks key s) : afterBlanks? (textBefore? e.endsAt) s = none := by
  induction s with
  | nil => rfl
  | cons c s ih =>
    have rest : ∀ key ∈ e.closing, Lacks key s := fun key hkey =>
      (h key hkey).suffix (List.suffix_cons c s)
    rw [afterBlanks?, ih rest, textBefore?_of_lacks hend rest, Option.none_or, ite_self]

theorem findFirst?_read?_of_lacks (hend : e.endCloses = false) {s : List Char}
    (h : ∀ key ∈ e.closing, Lacks key s) : findFirst? e.read? s = none := by
  have fails : ∀ r, r <:+ s → e.read? r = none := by
    intro r hr
    rw [Enclosure.read?, Option.bind_eq_none_iff]
    intro behind found
    exact afterBlanks?_of_lacks hend fun key hkey =>
      (h key hkey).suffix ((suffix_of_keyword? found).trans hr)
  exact findFirst?_eq_none fails

section Lacking

variable (hend : e.endCloses = false) (hkeys : ∀ key ∈ e.closing, IsKeyword key)
  (ht : ∀ key ∈ e.closing, Lacks key (' ' :: t))

include hkeys ht

theorem gapAt_append_of_lacks (s : List Char) : e.gapAt (s ++ ' ' :: t) = e.gapAt s := by
  induction s with
  | nil => exact gapAt_of_lacks ht
  | cons c s ih =>
    rw [List.cons_append, Enclosure.gapAt, Enclosure.gapAt, ih, closesAt_append_space hkeys]

include hend

/-- If the end of all text does not close and nothing behind it does, what follows is not seen. -/
theorem textBefore?_append_of_lacks (s : List Char) :
    textBefore? e.endsAt (s ++ ' ' :: t) = textBefore? e.endsAt s := by
  induction s with
  | nil => exact textBefore?_of_lacks hend ht
  | cons c s ih =>
    have closed : e.endsAt (s ++ ' ' :: t) = e.endsAt s := by
      rw [Enclosure.endsAt, Enclosure.endsAt, hend, gapAt_append_of_lacks hkeys ht,
        Bool.false_and, Bool.false_and]
    rw [List.cons_append, textBefore?, textBefore?, closed, ih]

theorem afterBlanks?_append_of_lacks (s : List Char) :
    afterBlanks? (textBefore? e.endsAt) (s ++ ' ' :: t) =
      afterBlanks? (textBefore? e.endsAt) s := by
  induction s with
  | nil => exact afterBlanks?_of_lacks hend ht
  | cons c s ih =>
    rw [List.cons_append, afterBlanks?, afterBlanks?, ih,
      textBefore?_append_of_lacks hend hkeys ht]

theorem framed_read?_of_lacks (hopening : IsKeyword e.opening) : Framed keys t e.read? := by
  have behind : Framed keys t (afterBlanks? (textBefore? e.endsAt)) := fun s _ =>
    afterBlanks?_append_of_lacks hend hkeys ht s
  exact behind.keyword hopening

end Lacking

end Enclosure

/-- What is first found in a sealed text is also found first when the text goes on. -/
theorem Framed.findFirst?_append {key s : List Char} {read : List Char → Option α}
    (h : Framed keys t read) (led : LedBy key read) (hs : Sealed keys s) :
    findFirst? read (s ++ ' ' :: t) = (findFirst? read s).or (findFirst? read t) := by
  have same : ∀ r, r <:+ s → r ≠ [] → read (r ++ ' ' :: t) = read r :=
    fun r hr _ => h r (hs.suffix hr)
  rw [findFirst?_append_cons led.nil same,
    findFirst?_cons_of_foreign led (foreign_blank led.isKeyword rfl)]

end SqlTutor.Text

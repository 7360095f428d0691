import SqlTutor.Proofs.Text.Keywords

/-!
Keywords at the ends of words. Clauses begin with a keyword that has white space behind it, so
inside a word their keyword counts only where the word ends. The search for a clause passes over a
word, whatever is in it, unless the word ends in the keyword and the clause can be read on from
there.
-/
namespace SqlTutor.Text

variable {key : List Char}

/-- The text ends in the keyword, in some letter case. -/
def EndsIn (key s : List Char) : Prop := key <:+ lowerAscii s

/-- The text begins with the keyword, in some letter case. -/
def BeginsWith (key s : List Char) : Prop := key <+: lowerAscii s

instance (key s : List Char) : Decidable (EndsIn key s) := inferInstanceAs (Decidable (_ <:+ _))

instance (key s : List Char) : Decidable (BeginsWith key s) := inferInstanceAs (Decidable (_ <+: _))

theorem EndsIn.of_suffix {r s : List Char} (h : EndsIn key r) (hr : r <:+ s) : EndsIn key s :=
  h.trans (hr.map _)

theorem Spells.endsIn {r s : List Char} (h : Spells key r) (hr : r <:+ s) : EndsIn key s := by
  have whole : lowerAscii r = key := h
  rw [EndsIn, ← whole]
  exact hr.map _

/-- No keyword ends in a character that is no small letter. -/
theorem not_endsIn_concat (hkey : IsKeyword key) {c : Char} (hc : c.toLower.isLower = false)
    (s : List Char) : ¬ EndsIn key (s ++ [c]) := by
  intro ends
  rw [EndsIn, lowerAscii, List.map_append, List.map_singleton] at ends
  obtain empty | ⟨front, rfl, -⟩ := List.suffix_concat_iff.mp ends
  · exact hkey.1 empty
  · exact hkey.notMem hc (List.mem_append_right _ (List.mem_singleton_self _))

/-- What stands up to such a character does not matter to how a text ends. -/
theorem endsIn_append_cons_iff (hkey : IsKeyword key) {c : Char} (hc : c.toLower.isLower = false)
    {s t : List Char} : EndsIn key (s ++ c :: t) ↔ EndsIn key t := by
  constructor
  · intro ends
    have behind : lowerAscii (c :: t) <:+ lowerAscii (s ++ c :: t) :=
      (List.suffix_append s (c :: t)).map Char.toLower
    rcases List.suffix_or_suffix_of_suffix ends behind with inside | longer
    · rcases List.suffix_cons_iff.mp inside with whole | later
      · exact absurd (whole ▸ List.mem_cons_self) (hkey.notMem hc)
      · exact later
    · exact absurd (longer.subset List.mem_cons_self) (hkey.notMem hc)
  · exact fun ends => ends.of_suffix (List.suffix_append_of_suffix (List.suffix_cons c t))

/-- What such a character and more behind a text does not matter to how it begins. -/
theorem BeginsWith.of_append_cons (hkey : IsKeyword key) {c : Char} (hc : c.toLower.isLower = false)
    {s t : List Char} (h : BeginsWith key (s ++ c :: t)) : BeginsWith key s := by
  have front : key <+: lowerAscii s ++ c.toLower :: lowerAscii t := by
    rwa [BeginsWith, lowerAscii, List.map_append, List.map_cons] at h
  by_cases short : key.length ≤ (lowerAscii s).length
  · exact List.prefix_of_prefix_length_le front (List.prefix_append _ _) short
  · have whole : lowerAscii s ++ [c.toLower] <+: lowerAscii s ++ c.toLower :: lowerAscii t :=
      (List.prefix_append_right_inj _).mpr ⟨lowerAscii t, rfl⟩
    have inside : lowerAscii s ++ [c.toLower] <+: key := by
      refine List.prefix_of_prefix_length_le whole front ?_
      rw [List.length_append, List.length_singleton]
      omega
    exact absurd (inside.subset (List.mem_append_right _ List.mem_cons_self)) (hkey.notMem hc)

theorem not_spells_of_mem (hkey : IsKeyword key) {c : Char} (hc : c.toLower.isLower = false)
    {w : List Char} (mem : c ∈ w) : ¬ Spells key w := by
  intro spells
  exact hkey.notMem hc ((show lowerAscii w = key from spells) ▸ List.mem_map_of_mem mem)

theorem spells_of_keyword? (hkey : 's' ∉ key ∧ 'k' ∉ key) {r : List Char}
    (h : keyword? key r = some []) : Spells key r := by
  have front : key <+: lowerAscii r := prefix_of_keyword? hkey h
  obtain ⟨rest, length⟩ := keyword?_eq_some h
  refine (front.eq_of_length_le ?_).symm
  rw [lowerAscii, List.length_map]
  exact List.drop_eq_nil_iff.mp rest.symm

theorem toLower_eq_self {c : Char} (h : c.isUpper = false) : c.toLower = c := by
  have outside : ¬ (c.val ≥ 'A'.val ∧ c.val ≤ 'Z'.val) := of_decide_eq_false h
  exact dif_neg outside

theorem isUpper_eq_false {c : Char} (h : c.isLower) : c.isUpper = false := by
  have small : (decide ('a'.val ≤ c.val) && decide (c.val ≤ 'z'.val)) = true := h
  rw [Bool.and_eq_true, decide_eq_true_eq] at small
  refine decide_eq_false fun large => ?_
  have reversed : 'a'.val ≤ 'Z'.val := UInt32.le_trans small.1 large.2
  exact absurd reversed (by decide)

/-- Without capital letters a text is its own small spelling. -/
theorem lowerAscii_eq_self {s : List Char} (h : ∀ c ∈ s, c.isUpper = false) : lowerAscii s = s := by
  have same : ∀ c ∈ s, c.toLower = id c := fun c hc => toLower_eq_self (h c hc)
  rw [lowerAscii, List.map_congr_left same, List.map_id]

theorem spells_self (hkey : ∀ k ∈ key, k.isLower) : Spells key key :=
  lowerAscii_eq_self fun k hk => isUpper_eq_false (hkey k hk)

theorem apart_space (hkey : IsKeyword key) (t : List Char) : Apart key (' ' :: t) := by
  intro c hc
  obtain rfl : ' ' = c := by simpa using hc
  exact foreign_blank hkey rfl

section Enclosure

variable {e : Enclosure}

theorem closesAt_append (hkeys : ∀ key ∈ e.closing, IsKeyword key ∧ 's' ∉ key ∧ 'k' ∉ key)
    {w t : List Char} (hw : ∀ key ∈ e.closing, ¬ BeginsWith key w)
    (ht : ∀ key ∈ e.closing, Apart key t) : e.closesAt (w ++ t) = false := by
  rw [Enclosure.closesAt, List.any_eq_false]
  intro key hkey
  rw [keyword?_append (ht key hkey)]
  cases found : keyword? key w with
  | none => simp
  | some r => exact absurd (prefix_of_keyword? (hkeys key hkey).2 found) (hw key hkey)

theorem closesAt_of_beginsWith (hkeys : ∀ key ∈ e.closing, IsKeyword key)
    (hmem : key ∈ e.closing) {w : List Char} (hw : BeginsWith key w) : e.closesAt w := by
  obtain ⟨rest, cut⟩ := hw
  obtain ⟨v, r, rfl, spelled, -⟩ := List.map_eq_append_iff.mp cut.symm
  rw [Enclosure.closesAt, List.any_eq_true]
  exact ⟨key, hmem, by rw [keyword?_spelling (hkeys key hmem).2 spelled]; rfl⟩

theorem closesAt_cons_of_foreign {c : Char}
    (h : ∀ key ∈ e.closing, IsKeyword key ∧ Foreign key c) (s : List Char) :
    e.closesAt (c :: s) = false := by
  rw [Enclosure.closesAt, List.any_eq_false]
  intro key hkey
  obtain ⟨isKeyword, foreign⟩ := h key hkey
  obtain ⟨k, ks, rfl⟩ := List.exists_cons_of_ne_nil isKeyword.1
  rw [keyword?, if_neg (foreign k List.mem_cons_self)]
  simp

theorem Enclosure.open_solid {w : List Char} (hw : ∀ c ∈ w, isBlank c = false) (t : List Char) :
    e.Open w t := by
  intro c r hr hc
  rw [hw c (hr.subset List.mem_cons_self)] at hc
  exact absurd hc Bool.false_ne_true

/-- Where there is no white space nothing closes. -/
theorem Enclosure.Open.solid_append {w p t : List Char} (h : e.Open p t)
    (hw : ∀ c ∈ w, isBlank c = false) : e.Open (w ++ p) t := by
  induction w with
  | nil => exact h
  | cons d w ih =>
    intro c r hr hc
    rcases List.suffix_cons_iff.mp hr with whole | later
    · obtain ⟨rfl, -⟩ := List.cons.inj whole
      rw [hw c List.mem_cons_self] at hc
      exact absurd hc Bool.false_ne_true
    · exact ih (fun d hd => hw d (List.mem_cons_of_mem _ hd)) c r later hc

theorem Enclosure.Open.space_cons {p t : List Char} (h : e.Open p t)
    (hp : e.closesAt (p ++ t) = false) : e.Open (' ' :: p) t := by
  intro c r hr hc
  rcases List.suffix_cons_iff.mp hr with whole | later
  · obtain ⟨-, rfl⟩ := List.cons.inj whole
    exact hp
  · exact h c r later hc

theorem Enclosure.Open.solid_space {w p t : List Char} (h : e.Open p t)
    (hw : ∀ c ∈ w, isBlank c = false) (hp : e.closesAt (p ++ t) = false) :
    e.Open (w ++ ' ' :: p) t := (h.space_cons hp).solid_append hw

/-- Words of which none begins with a closing keyword stay open. -/
theorem Enclosure.open_spread (hkeys : ∀ key ∈ e.closing, IsKeyword key ∧ 's' ∉ key ∧ 'k' ∉ key)
    {pieces : List (List Char)}
    (h : ∀ w ∈ pieces, (∀ c ∈ w, isBlank c = false) ∧ ∀ key ∈ e.closing, ¬ BeginsWith key w)
    {t : List Char} (ht : ∀ key ∈ e.closing, Apart key t) : e.Open (spread pieces) t := by
  induction pieces with
  | nil => exact fun c r hr => absurd (List.suffix_nil.mp hr) (List.cons_ne_nil c r)
  | cons w rest ih =>
    obtain ⟨solid, begins⟩ := h w List.mem_cons_self
    have behind := ih fun v hv => h v (List.mem_cons_of_mem w hv)
    refine (behind.solid_append solid).space_cons ?_
    rw [List.append_assoc]
    refine closesAt_append hkeys begins fun key hkey => ?_
    cases rest with
    | nil => exact ht key hkey
    | cons v rest => exact apart_space (hkeys key hkey).1 _

end Enclosure

/-- A keyword within a word is the whole word or has no white space behind it. -/
theorem blanks?_of_keyword? {w t r : List Char} (hw : ∀ c ∈ w, isBlank c = false)
    (ht : Apart key t) (h : keyword? key (w ++ t) = some r) : blanks? r = none ∨ r = t := by
  rw [keyword?_append ht] at h
  obtain ⟨q, hq, rfl⟩ := Option.map_eq_some_iff.mp h
  cases q with
  | nil => exact Or.inr rfl
  | cons d q =>
    have inside : d :: q <:+ w := by
      rw [(keyword?_eq_some hq).1]
      exact List.drop_suffix _ _
    have solid := hw d (inside.subset List.mem_cons_self)
    exact Or.inl (blanks?_of_stops (stops_cons solid _))

/-- The reader fails unless white space stands behind the keyword, and it does not matter to it
how the keyword is spelled. -/
structure Opened {α : Type} (key : List Char) (read : List Char → Option α) : Prop
    extends LedBy key read where
  none_of_stops : ∀ s t, keyword? key s = some t → Stops isBlank t → read s = none
  congr : ∀ s t, keyword? key s = some t → read s = read (key ++ t)

/-- A keyword alone is not enough for the reader. -/
theorem Opened.read_keyword {α : Type} {key : List Char} {read : List Char → Option α}
    (h : Opened key read) : read (key ++ []) = none :=
  h.none_of_stops _ [] (keyword?_spelling h.isKeyword.2 (spells_self h.isKeyword.2) [])
    (by simp [Stops])

theorem opened_of_bind {α : Type} (hkey : IsKeyword key) {read next : List Char → Option α}
    (eq : ∀ s, read s = (keyword? key s).bind fun t => (blanks? t).bind next) :
    Opened key read where
  isKeyword := hkey
  none_of_none s h := by rw [eq, h, Option.bind_none]
  none_of_stops s t h stops := by
    rw [eq, h, Option.bind_some, blanks?_of_stops stops, Option.bind_none]
  congr s t h := by
    rw [eq, eq, h, keyword?_spelling hkey.2 (spells_self hkey.2)]

theorem Enclosure.opened_read? (e : Enclosure) (hopening : IsKeyword e.opening) :
    Opened e.opening e.read? where
  toLedBy := e.ledBy_read? hopening
  none_of_stops s t h stops := by
    rw [read?, h, Option.bind_some]
    cases t with
    | nil => rfl
    | cons c t => rw [afterBlanks?, stops c rfl, if_neg Bool.false_ne_true]
  congr s t h := by
    rw [read?, read?, h, keyword?_spelling hopening.2 (spells_self hopening.2)]

section Search

variable {α : Type} {read : List Char → Option α}

/-- In a word the reader succeeds at most where the keyword ends the word. -/
theorem read_solid_append (h : Opened key read) (hkey : 's' ∉ key ∧ 'k' ∉ key) {w t : List Char}
    (hw : ∀ c ∈ w, isBlank c = false) (ht : Apart key t) (hword : ¬ Spells key w) :
    read (w ++ t) = none := by
  have cut := keyword?_append ht w
  cases hread : keyword? key w with
  | none =>
    rw [hread, Option.map_none] at cut
    exact h.none_of_none _ cut
  | some q =>
    cases q with
    | nil => exact absurd (spells_of_keyword? hkey hread) hword
    | cons d q =>
      have inside : d :: q <:+ w := by
        rw [(keyword?_eq_some hread).1]
        exact List.drop_suffix _ _
      rw [hread, Option.map_some] at cut
      exact h.none_of_stops _ _ cut (stops_cons (hw d (inside.subset List.mem_cons_self)) _)

/-- A word adds to a search what is read behind the keyword at its end. -/
theorem findFirst?_solid_append (h : Opened key read) (hkey : 's' ∉ key ∧ 'k' ∉ key)
    {w t : List Char} (hw : ∀ c ∈ w, isBlank c = false) (ht : Apart key t) :
    findFirst? read (w ++ t) =
      (if EndsIn key w then read (key ++ t) else none).or (findFirst? read t) := by
  induction w with
  | nil =>
    have empty : ¬ EndsIn key [] := fun ends => h.isKeyword.1 (List.suffix_nil.mp ends)
    rw [if_neg empty, Option.none_or, List.nil_append]
  | cons c w ih =>
    have rest := ih fun d hd => hw d (List.mem_cons_of_mem c hd)
    rw [List.cons_append, findFirst?, ← List.cons_append, rest]
    by_cases hword : Spells key (c :: w)
    · have shorter : ¬ EndsIn key w := by
        intro ends
        have length := ends.length_le
        rw [← show lowerAscii (c :: w) = key from hword] at length
        simp only [lowerAscii, List.length_map, List.length_cons] at length
        omega
      have read_key : keyword? key (c :: w ++ t) = some t :=
        keyword?_spelling h.isKeyword.2 hword t
      rw [if_pos (hword.endsIn List.suffix_rfl), if_neg shorter, Option.none_or,
        h.congr _ _ read_key]
    · have same : EndsIn key (c :: w) ↔ EndsIn key w := by
        refine ⟨fun ends => ?_, fun ends => ends.of_suffix (List.suffix_cons c w)⟩
        rcases List.suffix_cons_iff.mp ends with whole | later
        · exact absurd whole.symm hword
        · exact later
      rw [read_solid_append h hkey hw ht hword, Option.none_or]
      simp only [same]

/-- A word is passed over if the reader fails behind it. -/
theorem findFirst?_solid_of_fails (h : Opened key read) (hkey : 's' ∉ key ∧ 'k' ∉ key)
    {w t : List Char} (hw : ∀ c ∈ w, isBlank c = false) (ht : Apart key t)
    (hread : EndsIn key w → read (key ++ t) = none) :
    findFirst? read (w ++ t) = findFirst? read t := by
  rw [findFirst?_solid_append h hkey hw ht]
  split
  · rename_i ends
    rw [hread ends, Option.none_or]
  · rw [Option.none_or]

/-- The same of the first of some words. -/
theorem findFirst?_spread_of_fails (h : Opened key read) (hkey : 's' ∉ key ∧ 'k' ∉ key)
    {w : List Char} (hw : ∀ c ∈ w, isBlank c = false) {rest : List (List Char)}
    (hread : EndsIn key w → read (key ++ spread rest) = none) :
    findFirst? read (spread (w :: rest)) = findFirst? read (spread rest) := by
  rw [spread_cons, findFirst?_cons_of_foreign h.toLedBy (foreign_blank h.isKeyword rfl),
    findFirst?_solid_of_fails h hkey hw (apart_spread h.isKeyword rest) hread]

theorem findFirst?_spread_cons (h : Opened key read) (hkey : 's' ∉ key ∧ 'k' ∉ key)
    {w : List Char} (hw : ∀ c ∈ w, isBlank c = false) (rest : List (List Char)) :
    findFirst? read (spread (w :: rest)) =
      (if EndsIn key w then read (key ++ spread rest) else none).or
        (findFirst? read (spread rest)) := by
  rw [spread_cons, findFirst?_cons_of_foreign h.toLedBy (foreign_blank h.isKeyword rfl),
    findFirst?_solid_append h hkey hw (apart_spread h.isKeyword rest)]

/-- Words that do not end in the keyword are passed over. -/
theorem findFirst?_spread_solid (h : Opened key read) (hkey : 's' ∉ key ∧ 'k' ∉ key)
    {pieces : List (List Char)}
    (hp : ∀ w ∈ pieces, (∀ c ∈ w, isBlank c = false) ∧ ¬ EndsIn key w)
    (more : List (List Char)) :
    findFirst? read (spread (pieces ++ more)) = findFirst? read (spread more) := by
  induction pieces with
  | nil => rfl
  | cons w rest ih =>
    obtain ⟨solid, ends⟩ := hp w List.mem_cons_self
    rw [List.cons_append, findFirst?_spread_of_fails h hkey solid fun found => absurd found ends,
      ih fun v hv => hp v (List.mem_cons_of_mem w hv)]

/-- A word at the end of the text is passed over. -/
theorem findFirst?_solid (h : Opened key read) (hkey : 's' ∉ key ∧ 'k' ∉ key)
    {w : List Char} (hw : ∀ c ∈ w, isBlank c = false) : findFirst? read w = none := by
  have skip := findFirst?_solid_of_fails h hkey hw (t := []) (by simp [Apart])
    fun _ => h.read_keyword
  rw [List.append_nil] at skip
  rw [skip, findFirst?, h.nil]

theorem findFirst?_lacks_space (led : LedBy key read) {w : List Char} (hw : Lacks key w)
    (t : List Char) : findFirst? read (w ++ ' ' :: t) = findFirst? read t := by
  rw [findFirst?_append led hw (apart_space led.isKeyword t),
    findFirst?_cons_of_foreign led (foreign_blank led.isKeyword rfl)]

theorem findFirst?_solid_space (h : Opened key read) (hkey : 's' ∉ key ∧ 'k' ∉ key)
    {w : List Char} (hw : ∀ c ∈ w, isBlank c = false) {t : List Char}
    (hread : read (key ++ ' ' :: t) = none) :
    findFirst? read (w ++ ' ' :: t) = findFirst? read t := by
  rw [findFirst?_solid_of_fails h hkey hw (apart_space h.isKeyword t) fun _ => hread,
    findFirst?_cons_of_foreign h.toLedBy (foreign_blank h.isKeyword rfl)]

end Search

end SqlTutor.Text

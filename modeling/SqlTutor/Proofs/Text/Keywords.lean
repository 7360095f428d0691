import SqlTutor.Proofs.Text.Gaps
import SqlTutor.Text.Enclosed

/-!
Where keywords are found. A reader led by a keyword passes over every piece of text in which the
keyword does not occur, and pieces are told apart by characters that no letter stands for. What is
enclosed by keywords is then read as it stands.
-/
namespace SqlTutor.Text

/-- Keywords are given in small letters of ASCII. -/
def IsKeyword (key : List Char) : Prop := key ≠ [] ∧ ∀ k ∈ key, k.isLower

instance (key : List Char) : Decidable (IsKeyword key) := inferInstanceAs (Decidable (_ ∧ _))

theorem IsKeyword.notMem {key : List Char} (hkey : IsKeyword key) {c : Char}
    (hc : c.isLower = false) : c ∉ key :=
  fun mem => Bool.eq_false_iff.mp hc (hkey.2 c mem)

/-- No letter of the keyword stands for the character. -/
def Foreign (key : List Char) (c : Char) : Prop := ∀ k ∈ key, foldCase c ≠ k

theorem foreign_of_not_isLower {key : List Char} (hkey : IsKeyword key) {c : Char}
    (hc : (foldCase c).isLower = false) : Foreign key c := by
  rintro k hk rfl
  exact hkey.notMem hc hk

theorem foreign_blank {key : List Char} (hkey : IsKeyword key) {c : Char} (hc : isBlank c) :
    Foreign key c := foreign_of_not_isLower hkey (isLower_foldCase_blank hc)

/-- A keyword that is read ends before a foreign character. -/
theorem keyword?_append_cons {key : List Char} {c : Char} (hc : Foreign key c)
    (s t : List Char) : keyword? key (s ++ c :: t) = (keyword? key s).map (· ++ c :: t) := by
  induction key generalizing s with
  | nil => simp [keyword?]
  | cons k ks ih =>
    have hks : Foreign ks c := fun j hj => hc j (List.mem_cons_of_mem _ hj)
    cases s with
    | nil => simp [keyword?, hc k List.mem_cons_self]
    | cons d s =>
      rw [List.cons_append, keyword?, keyword?]
      split
      · exact ih hks s
      · rfl

/-- The character behind a piece, if there is one, is foreign to the keyword. -/
def Apart (key t : List Char) : Prop := ∀ c ∈ t.head?, Foreign key c

theorem keyword?_append {key t : List Char} (ht : Apart key t) (s : List Char) :
    keyword? key (s ++ t) = (keyword? key s).map (· ++ t) := by
  cases t with
  | nil => simp
  | cons c t => exact keyword?_append_cons (ht c rfl) s t

theorem apart_spread {key : List Char} (hkey : IsKeyword key) (pieces : List (List Char)) :
    Apart key (spread pieces) := by
  cases pieces with
  | nil => simp [Apart]
  | cons w rest =>
    intro c hc
    rw [spread_cons, List.head?_cons, Option.mem_some_iff] at hc
    exact hc ▸ foreign_blank hkey rfl

/-- The keyword stands at no place of the text. -/
def Lacks (key s : List Char) : Prop := ∀ r, r <:+ s → keyword? key r = none

theorem Lacks.suffix {key s r : List Char} (h : Lacks key s) (hr : r <:+ s) : Lacks key r :=
  fun _ hq => h _ (hq.trans hr)

theorem Lacks.append_cons {key s t : List Char} {c : Char} (hkey : IsKeyword key)
    (hc : Foreign key c) (hs : Lacks key s) (ht : Lacks key t) : Lacks key (s ++ c :: t) := by
  induction s with
  | nil =>
    intro r hr
    rcases List.suffix_cons_iff.mp hr with rfl | later
    · obtain ⟨k, ks, rfl⟩ := List.exists_cons_of_ne_nil hkey.1
      simp [keyword?, hc k List.mem_cons_self]
    · exact ht r later
  | cons d s ih =>
    intro r hr
    rcases List.suffix_cons_iff.mp hr with rfl | later
    · have whole := keyword?_append_cons hc (d :: s) t
      rwa [hs _ List.suffix_rfl, Option.map_none] at whole
    · exact ih (hs.suffix (List.suffix_cons d s)) r later

theorem Lacks.append_spread {key w : List Char} (hkey : IsKeyword key) (hw : Lacks key w)
    {pieces : List (List Char)} (h : Lacks key (spread pieces)) :
    Lacks key (w ++ spread pieces) := by
  cases pieces with
  | nil => rwa [spread_nil, List.append_nil]
  | cons v pieces =>
    rw [spread_cons] at h ⊢
    exact hw.append_cons hkey (foreign_blank hkey rfl) (h.suffix (List.suffix_cons _ _))

theorem lacks_spread {key : List Char} (hkey : IsKeyword key) {pieces : List (List Char)}
    (h : ∀ w ∈ pieces, Lacks key w) : Lacks key (spread pieces) := by
  have empty : Lacks key [] := by
    intro r hr
    obtain ⟨k, ks, rfl⟩ := List.exists_cons_of_ne_nil hkey.1
    rw [List.suffix_nil.mp hr, keyword?]
  induction pieces with
  | nil => exact empty
  | cons w pieces ih =>
    have rest := ih fun v hv => h v (List.mem_cons_of_mem w hv)
    have behind := (h w List.mem_cons_self).append_spread hkey rest
    exact empty.append_cons hkey (foreign_blank hkey rfl) behind

/-- The reader fails wherever the keyword does not stand. -/
structure LedBy {α : Type} (key : List Char) (read : List Char → Option α) : Prop where
  isKeyword : IsKeyword key
  none_of_none : ∀ s, keyword? key s = none → read s = none

theorem findFirst?_eq_some {α : Type} {read : List Char → Option α} {s : List Char} {a : α}
    (h : read s = some a) : findFirst? read s = some a := by
  cases s with
  | nil => exact h
  | cons c s => rw [findFirst?, h, Option.some_or]

theorem findFirst?_eq_none {α : Type} {read : List Char → Option α} {s : List Char}
    (h : ∀ r, r <:+ s → read r = none) : findFirst? read s = none := by
  induction s with
  | nil => exact h [] List.suffix_rfl
  | cons c s ih =>
    rw [findFirst?, h _ List.suffix_rfl, Option.none_or]
    exact ih fun r hr => h r (hr.trans (List.suffix_cons c s))

section Search

variable {α : Type} {key : List Char} {read : List Char → Option α}

theorem LedBy.nil (h : LedBy key read) : read [] = none := by
  obtain ⟨k, ks, hk⟩ := List.exists_cons_of_ne_nil h.isKeyword.1
  exact h.none_of_none [] (by rw [hk, keyword?])

theorem LedBy.cons_of_foreign (h : LedBy key read) {c : Char} (hc : Foreign key c)
    (s : List Char) : read (c :: s) = none := by
  obtain ⟨k, ks, hk⟩ := List.exists_cons_of_ne_nil h.isKeyword.1
  refine h.none_of_none _ ?_
  rw [hk, keyword?, if_neg (hc k (hk ▸ List.mem_cons_self))]

theorem findFirst?_append (h : LedBy key read) {w t : List Char} (hw : Lacks key w)
    (ht : Apart key t) : findFirst? read (w ++ t) = findFirst? read t := by
  induction w with
  | nil => rfl
  | cons d w ih =>
    have here : read (d :: w ++ t) = none := by
      apply h.none_of_none
      rw [keyword?_append ht, hw _ List.suffix_rfl, Option.map_none]
    rw [List.cons_append, findFirst?, ← List.cons_append, here, Option.none_or,
      ih (hw.suffix (List.suffix_cons d w))]

theorem findFirst?_cons_of_foreign (h : LedBy key read) {c : Char} (hc : Foreign key c)
    (s : List Char) : findFirst? read (c :: s) = findFirst? read s := by
  rw [findFirst?, h.cons_of_foreign hc, Option.none_or]

/-- Pieces without the keyword are passed over. -/
theorem findFirst?_spread_append (h : LedBy key read) {pieces : List (List Char)}
    (hp : ∀ w ∈ pieces, Lacks key w) (more : List (List Char)) :
    findFirst? read (spread (pieces ++ more)) = findFirst? read (spread more) := by
  induction pieces with
  | nil => rfl
  | cons w rest ih =>
    rw [List.cons_append, spread_cons, findFirst?_cons_of_foreign h (foreign_blank h.isKeyword rfl),
      findFirst?_append h (hp w List.mem_cons_self) (apart_spread h.isKeyword _),
      ih fun v hv => hp v (List.mem_cons_of_mem _ hv)]

/-- What is read behind a space is found there. -/
theorem findFirst?_of_read (h : LedBy key read) {s : List Char} {a : α} (hs : read s = some a) :
    findFirst? read (' ' :: s) = some a := by
  rw [findFirst?_cons_of_foreign h (foreign_blank h.isKeyword rfl), findFirst?_eq_some hs]

end Search

/-- The keyword in some letter case. -/
def Spells (key w : List Char) : Prop := lowerAscii w = key

instance (key w : List Char) : Decidable (Spells key w) := inferInstanceAs (Decidable (_ = _))

theorem foldCase_of_toLower {c k : Char} (h : c.toLower = k) (hk : k.isLower) : foldCase c = k := by
  unfold foldCase
  split
  · rename_i long
    rw [beq_iff_eq] at long
    subst long h
    revert hk
    decide
  · split
    · rename_i kelvin
      rw [beq_iff_eq] at kelvin
      subst kelvin h
      revert hk
      decide
    · exact h

theorem Spells.solid {key w : List Char} (hkey : IsKeyword key) (h : Spells key w) : Solid w := by
  constructor
  · rintro rfl
    exact hkey.1 h.symm
  · intro c hc
    by_contra blank
    rw [Bool.not_eq_false] at blank
    have sign := of_isBlank blank (fun c => c.toLower.isLower = false) (by decide)
    exact hkey.notMem sign (h ▸ List.mem_map_of_mem hc)

/-- Beyond ASCII only `s` and `k` have characters that stand for them. -/
theorem toLower_of_foldCase {c k : Char} (h : foldCase c = k) (hs : k ≠ 's') (hk : k ≠ 'k') :
    c.toLower = k := by
  unfold foldCase at h
  split at h
  · exact absurd h.symm hs
  · split at h
    · exact absurd h.symm hk
    · exact h

theorem prefix_of_keyword? {key s r : List Char} (hkey : 's' ∉ key ∧ 'k' ∉ key)
    (h : keyword? key s = some r) : key <+: lowerAscii s := by
  induction key generalizing s with
  | nil => exact List.nil_prefix
  | cons k ks ih =>
    obtain ⟨⟨hs, hss⟩, ⟨hk, hks⟩⟩ : ('s' ≠ k ∧ 's' ∉ ks) ∧ ('k' ≠ k ∧ 'k' ∉ ks) := by
      simpa [not_or] using hkey
    cases s with
    | nil => simp [keyword?] at h
    | cons c s =>
      rw [keyword?] at h
      split at h
      · rename_i same
        have letter : k = c.toLower := (toLower_of_foldCase same hs.symm hk.symm).symm
        exact List.cons_prefix_cons.mpr ⟨letter, ih ⟨hss, hks⟩ h⟩
      · exact absurd h (by simp)

/-- A keyword without those letters stands where the text has it in some letter case of ASCII. -/
theorem lacks_of_not_isInfix {key s : List Char} (hkey : 's' ∉ key ∧ 'k' ∉ key)
    (h : ¬ key <:+: lowerAscii s) : Lacks key s := by
  intro r hr
  cases found : keyword? key r with
  | none => rfl
  | some t =>
    have front : key <+: lowerAscii r := prefix_of_keyword? hkey found
    have back : lowerAscii r <:+ lowerAscii s := hr.map _
    exact absurd (front.isInfix.trans back.isInfix) h

theorem keyword?_spelling {key w : List Char} (hkey : ∀ k ∈ key, k.isLower) (h : Spells key w)
    (t : List Char) : keyword? key (w ++ t) = some t := by
  induction w generalizing key with
  | nil =>
    obtain rfl : [] = key := h
    rfl
  | cons c w ih =>
    obtain rfl : c.toLower :: lowerAscii w = key := h
    rw [List.cons_append, keyword?, if_pos (foldCase_of_toLower rfl (hkey _ List.mem_cons_self))]
    exact ih (fun k hk => hkey k (List.mem_cons_of_mem _ hk)) rfl

theorem run?_append {p : Char → Bool} {w t : List Char} (hw : w ≠ []) (hp : ∀ c ∈ w, p c)
    (ht : Stops p t) : run? p (w ++ t) = some (w, t) := by
  have stop : t.takeWhile p = [] ∧ t.dropWhile p = t := by
    cases t with
    | nil => simp
    | cons c t => simp [ht c rfl]
  have taken : (w ++ t).takeWhile p = w := by
    rw [List.takeWhile_append_of_pos hp, stop.1, List.append_nil]
  have dropped : (w ++ t).dropWhile p = t := by
    rw [List.dropWhile_append_of_pos hp, stop.2]
  obtain ⟨c, w, rfl⟩ := List.exists_cons_of_ne_nil hw
  simp only [run?, taken, dropped]

/-- A keyword is not taken for one that begins with another letter. -/
theorem keyword?_other {key word w : List Char} (hkey : key ≠ []) (hword : IsKeyword word)
    (hw : Spells word w) (hne : key.head? ≠ word.head?) (t : List Char) :
    keyword? key (w ++ t) = none := by
  obtain ⟨k, ks, rfl⟩ := List.exists_cons_of_ne_nil hkey
  cases w with
  | nil => exact absurd hw.symm hword.1
  | cons c w =>
    obtain rfl : c.toLower :: lowerAscii w = word := hw
    have letter : foldCase c = c.toLower := foldCase_of_toLower rfl (hword.2 _ List.mem_cons_self)
    rw [List.cons_append, keyword?, if_neg]
    rintro rfl
    exact hne (by rw [letter]; rfl)

theorem blanks?_cons {c : Char} (hc : isBlank c) (s : List Char) :
    blanks? (c :: s) = some (trimStart s) := by
  simp [blanks?, run?, trimStart, hc]

theorem blanks?_of_stops {s : List Char} (h : Stops isBlank s) : blanks? s = none := by
  cases s with
  | nil => rfl
  | cons c s => simp [blanks?, run?, h c rfl]

theorem blanks?_gap {gap t : List Char} (hgap : gap ≠ []) (hblank : ∀ c ∈ gap, isBlank c)
    (ht : Stops isBlank t) : blanks? (gap ++ t) = some t := by
  rw [blanks?, run?_append hgap hblank ht, Option.map_some]

theorem blanks?_space {t : List Char} (ht : Stops isBlank t) : blanks? (' ' :: t) = some t := by
  have blank : ∀ c ∈ [' '], isBlank c := by decide
  exact blanks?_gap (List.cons_ne_nil _ _) blank ht

theorem exactly?_append (key t : List Char) : exactly? key (key ++ t) = some t := by
  induction key with
  | nil => rfl
  | cons k ks ih => rw [List.cons_append, exactly?, if_pos rfl, ih]

theorem eq_append_of_exactly? {key s r : List Char} (h : exactly? key s = some r) :
    s = key ++ r := by
  induction key generalizing s with
  | nil => exact Option.some.inj h
  | cons k key ih =>
    cases s with
    | nil => exact absurd h (by simp [exactly?])
    | cons c s =>
      rw [exactly?] at h
      split at h
      · rename_i same
        rw [same, ih h]
        rfl
      · exact absurd h (by simp)

theorem toNat_lt_of_isDigit {c : Char} (h : c.isDigit) : c.toNat < 128 :=
  Nat.lt_of_le_of_lt (Char.isDigit_iff_toNat.mp h).2 (by decide)

/-- What holds of the ten digits among the first characters holds of all digits. -/
theorem of_isDigit {c : Char} (hc : c.isDigit) (P : Char → Prop)
    (h : ∀ n < 128, (Char.ofNat n).isDigit → P (Char.ofNat n)) : P c := by
  have small := toNat_lt_of_isDigit hc
  rw [← Char.ofNat_toNat c] at hc ⊢
  exact h _ small hc

theorem isDigit_of_mem_toDigits {n : Nat} {c : Char} (h : c ∈ Nat.toDigits 10 n) : c.isDigit :=
  Nat.isDigit_of_mem_toDigits (by omega) (by omega) h

theorem isWordChar_of_mem_toDigits {n : Nat} {c : Char} (h : c ∈ Nat.toDigits 10 n) :
    isWordChar c := by
  have digit := isDigit_of_mem_toDigits h
  rw [isWordChar, if_pos (toNat_lt_of_isDigit digit), Char.isAlphanum, digit]
  simp

theorem notMem_toDigits {c : Char} (hc : isWordChar c = false) (n : Nat) :
    c ∉ Nat.toDigits 10 n := by
  intro mem
  rw [isWordChar_of_mem_toDigits mem] at hc
  nomatch hc

theorem solid_toDigits (n : Nat) : Solid (Nat.toDigits 10 n) :=
  ⟨Nat.toDigits_ne_nil, fun _ h => isBlank_eq_false (isWordChar_of_mem_toDigits h)⟩

theorem digits?_toDigits_append (n : Nat) {t : List Char} (ht : Stops isDecimalDigit t) :
    digits? (Nat.toDigits 10 n ++ t) = some (Nat.toDigits 10 n, t) := by
  refine run?_append Nat.toDigits_ne_nil (fun c hc => ?_) ht
  have digit := isDigit_of_mem_toDigits hc
  rwa [isDecimalDigit, if_pos (toNat_lt_of_isDigit digit)]

theorem digits?_toDigits (n : Nat) :
    digits? (Nat.toDigits 10 n) = some (Nat.toDigits 10 n, []) := by
  simpa using digits?_toDigits_append n (t := []) (by simp [Stops])

theorem stops_toDigits (n : Nat) : Stops isBlank (Nat.toDigits 10 n) := by
  intro c hc
  exact isBlank_eq_false (isWordChar_of_mem_toDigits (List.mem_of_mem_head? hc))

namespace Enclosure

variable {e : Enclosure}

theorem ledBy_read? (e : Enclosure) (hopening : IsKeyword e.opening) : LedBy e.opening e.read? where
  isKeyword := hopening
  none_of_none s h := by
    rw [read?, h]
    rfl

/-- In front of what follows, no closing keyword stands behind white space of the text. -/
def Open (e : Enclosure) (p t : List Char) : Prop :=
  ∀ c r, c :: r <:+ p → isBlank c → e.closesAt (r ++ t) = false

theorem Open.suffix {p r t : List Char} (h : e.Open p t) (hr : r <:+ p) : e.Open r t :=
  fun c q hq => h c q (hq.trans hr)

theorem open_of_lacks {p t : List Char} (h : ∀ key ∈ e.closing, Lacks key p ∧ Apart key t) :
    e.Open p t := by
  intro c r hr _
  rw [closesAt, List.any_eq_false]
  intro key hkey
  obtain ⟨lacks, apart⟩ := h key hkey
  rw [keyword?_append apart, lacks r ((List.suffix_cons c r).trans hr)]
  simp

theorem gapAt_append {p t : List Char} (hlast : EndsSolid p) (hopen : e.Open p t) (hp : p ≠ []) :
    e.gapAt (p ++ t) = false := by
  induction p with
  | nil => exact absurd rfl hp
  | cons c p ih =>
    have suffix : p <:+ c :: p := List.suffix_cons c p
    by_cases hc : isBlank c
    · have closed : e.closesAt (p ++ t) = false := hopen c p List.suffix_rfl hc
      have rest := ih (hlast.suffix suffix) (hopen.suffix suffix) (hlast.ne_nil hc)
      rw [List.cons_append, gapAt, closed, Bool.false_or, rest, Bool.and_false]
    · rw [Bool.not_eq_true] at hc
      rw [List.cons_append, gapAt, hc, Bool.false_and]

theorem textBefore?_append {p t : List Char} (hp : p ≠ []) (hline : '\n' ∉ p)
    (hlast : EndsSolid p) (hopen : e.Open p t) (hend : e.endsAt t) :
    textBefore? e.endsAt (p ++ t) = some p := by
  induction p with
  | nil => exact absurd rfl hp
  | cons c p ih =>
    have suffix : p <:+ c :: p := List.suffix_cons c p
    have first : c ≠ '\n' := fun same => hline (same ▸ List.mem_cons_self)
    rw [List.cons_append, textBefore?, if_neg first]
    by_cases more : p = []
    · subst more
      rw [List.nil_append, if_pos hend]
    · have last := hlast.suffix suffix
      have inside : e.endsAt (p ++ t) = false := by
        simp [endsAt, gapAt_append last (hopen.suffix suffix) more, more]
      rw [inside, if_neg Bool.false_ne_true,
        ih more (fun mem => hline (List.mem_cons_of_mem _ mem)) last (hopen.suffix suffix),
        Option.map_some]

/-- A tidy text between the keywords is read as it stands. -/
theorem read?_enclosed {k p t : List Char} (hopening : IsKeyword e.opening)
    (hk : Spells e.opening k) (hp : Tidy p)
    (hopen : e.Open p t) (hend : e.endsAt t) : e.read? (k ++ ' ' :: (p ++ t)) = some p := by
  have text := textBefore?_append hp.ne_nil hp.line hp.last hopen hend
  obtain ⟨c, rest, hcons⟩ := List.exists_cons_of_ne_nil hp.ne_nil
  have solid : isBlank c = false := hp.stops c (by rw [hcons]; rfl)
  have stuck : afterBlanks? (textBefore? e.endsAt) (p ++ t) = none := by
    rw [hcons, List.cons_append, afterBlanks?, solid, if_neg Bool.false_ne_true]
  have blank : isBlank ' ' := rfl
  rw [read?, keyword?_spelling hopening.2 hk, Option.bind_some, afterBlanks?, if_pos blank, stuck,
    Option.none_or, text]

theorem endsAt_space {key w : List Char} (hkey : key ∈ e.closing) (hlower : IsKeyword key)
    (hw : Spells key w) (t : List Char) : e.endsAt (' ' :: (w ++ t)) := by
  have closed : e.closesAt (w ++ t) := by
    rw [closesAt, List.any_eq_true]
    exact ⟨key, hkey, by rw [keyword?_spelling hlower.2 hw]; rfl⟩
  have blank : isBlank ' ' := rfl
  simp [endsAt, gapAt, closed, blank]

theorem endsAt_spread {key w : List Char} (hkey : key ∈ e.closing) (hlower : IsKeyword key)
    (hw : Spells key w) (more : List (List Char)) : e.endsAt (spread (w :: more)) :=
  endsAt_space hkey hlower hw (spread more)

end Enclosure

end SqlTutor.Text

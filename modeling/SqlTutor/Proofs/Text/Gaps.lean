import SqlTutor.Text.LowerCase
import SqlTutor.Text.Scan
import SqlTutor.Text.Words
import Mathlib.Data.List.TakeWhile
import Mathlib.Tactic.Common

/-!
Gaps of white space and the words between them. White space is never part of a word or of a keyword,
has no letter case, and decides by itself where a word ends. So the words of a text are those before
a gap and those behind it, and a text is lower-cased word by word.
-/
namespace SqlTutor.Text

-- Finite as they are, characters must not be gone through one by one.
instance (priority := high) decidableAllChars {p : Char → Prop} [DecidablePred p] (s : List Char) :
    Decidable (∀ c ∈ s, p c) := List.decidableBAll p s

instance (priority := high) decidableOptionalChar {p : Char → Prop} [DecidablePred p]
    (o : Option Char) : Decidable (∀ c ∈ o, p c) := Option.decidableForallMem o

theorem exists_range_of_inRanges {n : Nat} {ranges : List (Nat × Nat)} (h : inRanges n ranges) :
    ∃ r ∈ ranges, r.1 ≤ n ∧ n ≤ r.2 := by
  induction ranges with
  | nil => simp [inRanges] at h
  | cons r rest ih =>
    rw [inRanges] at h
    split at h
    · simp at h
    · rcases Bool.or_eq_true_iff.mp h with last | later
      · exact ⟨r, List.mem_cons_self, by omega, by simpa using last⟩
      · obtain ⟨q, hq, bounds⟩ := ih later
        exact ⟨q, List.mem_cons_of_mem _ hq, bounds⟩

/-- The numbers of the white-space characters. -/
def blankNumbers : List Nat :=
  [0x9, 0xa, 0xb, 0xc, 0xd, 0x20, 0x85, 0xa0, 0x1680, 0x2000, 0x2001, 0x2002, 0x2003, 0x2004,
   0x2005, 0x2006, 0x2007, 0x2008, 0x2009, 0x200a, 0x2028, 0x2029, 0x202f, 0x205f, 0x3000]

theorem toNat_mem_blankNumbers {c : Char} (h : isBlank c) : c.toNat ∈ blankNumbers := by
  obtain ⟨r, hr, bounds⟩ := exists_range_of_inRanges h
  simp only [List.mem_cons, List.not_mem_nil, or_false] at hr
  simp only [blankNumbers, List.mem_cons, List.not_mem_nil, or_false]
  rcases hr with rfl | rfl | rfl | rfl | rfl | rfl | rfl | rfl | rfl | rfl <;>
    dsimp only at bounds <;> omega

/-- What holds of the few white-space characters holds of all white space. -/
theorem of_isBlank {c : Char} (hc : isBlank c) (P : Char → Prop)
    (h : ∀ n ∈ blankNumbers, P (Char.ofNat n)) : P c := by
  rw [← Char.ofNat_toNat c]
  exact h _ (toNat_mem_blankNumbers hc)

theorem isWordChar_eq_false {c : Char} (h : isBlank c) : isWordChar c = false :=
  of_isBlank h (isWordChar · = false) (by decide +kernel)

theorem isBlank_eq_false {c : Char} (h : isWordChar c) : isBlank c = false := by
  by_contra hc
  rw [Bool.not_eq_false] at hc
  simp [isWordChar_eq_false hc] at h

/-- No letter of a keyword stands for white space. -/
theorem isLower_foldCase_blank {c : Char} (h : isBlank c) : (foldCase c).isLower = false :=
  of_isBlank h (fun c => (foldCase c).isLower = false) (by decide)

/-- White space has no letter case and ends the context in which a sigma is looked at. -/
theorem lower_blank_data {c : Char} (h : isBlank c) :
    isCased c = false ∧ isCaseIgnorable c = false ∧ c ≠ 'Σ' ∧ lowerChar c = [c] :=
  of_isBlank h
    (fun c => isCased c = false ∧ isCaseIgnorable c = false ∧ c ≠ 'Σ' ∧ lowerChar c = [c])
    (by decide +kernel)

/-- A text that is not empty and free of white space. -/
def Solid (w : List Char) : Prop := w ≠ [] ∧ ∀ c ∈ w, isBlank c = false

instance (w : List Char) : Decidable (Solid w) := inferInstanceAs (Decidable (_ ∧ _))

theorem words_nil : words [] = [] := by simp [words]

theorem words_append_cons (s t : List Char) {c : Char} (hc : isBlank c) :
    words (s ++ c :: t) = words s ++ words t := by
  simp only [words, List.splitOnP_append_cons s t hc, List.filter_append]

theorem words_blank_cons (s : List Char) {c : Char} (hc : isBlank c) :
    words (c :: s) = words s := by
  simpa [words_nil] using words_append_cons [] s hc

theorem words_solid {w : List Char} (hw : Solid w) : words w = [w] := by
  simp [words, List.splitOnP_eq_singleton hw.2, hw.1]

/-- A first word ends at the end of the text or before white space. -/
theorem words_append {w t : List Char} (hw : Solid w) (ht : ∀ c ∈ t.head?, isBlank c) :
    words (w ++ t) = w :: words t := by
  cases t with
  | nil => simp [words_solid hw, words_nil]
  | cons c t =>
    rw [words_append_cons w t (ht c rfl), words_solid hw, words_blank_cons t (ht c rfl)]
    rfl

/-- A text is free of white space or falls apart at one of its white-space characters. -/
theorem blank_induction {P : List Char → Prop} (solid : ∀ s, (∀ c ∈ s, isBlank c = false) → P s)
    (gap : ∀ s c t, isBlank c → P s → P t → P (s ++ c :: t)) (s : List Char) : P s := by
  induction hn : s.length using Nat.strongRecOn generalizing s with
  | ind n ih =>
    by_cases hs : ∀ c ∈ s, isBlank c = false
    · exact solid s hs
    · push Not at hs
      obtain ⟨c, hc, hblank⟩ := hs
      obtain ⟨a, b, rfl⟩ := List.append_of_mem hc
      simp only [List.length_append, List.length_cons] at hn
      exact gap a c b (by simpa using hblank) (ih a.length (by omega) a rfl)
        (ih b.length (by omega) b rfl)

theorem solid_of_mem_words {s w : List Char} (hw : w ∈ words s) : Solid w := by
  induction s using blank_induction with
  | solid s hs =>
    by_cases empty : s = []
    · simp [empty, words_nil] at hw
    · rw [words_solid ⟨empty, hs⟩, List.mem_singleton] at hw
      exact hw ▸ ⟨empty, hs⟩
  | gap s c t hc ihs iht =>
    rw [words_append_cons s t hc, List.mem_append] at hw
    exact hw.elim ihs iht

/-- The pieces in order, each with a space in front of it. -/
def spread (pieces : List (List Char)) : List Char := pieces.flatMap (' ' :: ·)

@[simp] theorem spread_nil : spread [] = [] := rfl

theorem spread_cons (piece : List Char) (pieces : List (List Char)) :
    spread (piece :: pieces) = ' ' :: (piece ++ spread pieces) := rfl

theorem spread_append (pieces more : List (List Char)) :
    spread (pieces ++ more) = spread pieces ++ spread more := List.flatMap_append

theorem cons_intercalate {pieces : List (List Char)} (h : pieces ≠ []) :
    ' ' :: [' '].intercalate pieces = spread pieces := by
  induction pieces with
  | nil => exact absurd rfl h
  | cons piece rest ih =>
    cases rest with
    | nil => simp [spread]
    | cons next rest =>
      rw [List.intercalate_cons_cons, spread_cons, ← ih (by simp)]
      simp

/-- A collapsed text with a space in front is its words spread out. -/
theorem cons_collapse {s : List Char} (h : words s ≠ []) :
    ' ' :: collapse s = spread (words s) := cons_intercalate h

theorem words_append_spread (s : List Char) {pieces : List (List Char)}
    (h : ∀ w ∈ pieces, Solid w) : words (s ++ spread pieces) = words s ++ pieces := by
  induction pieces generalizing s with
  | nil => simp
  | cons w rest ih =>
    rw [spread_cons, words_append_cons s _ rfl, ih w fun v hv => h v (List.mem_cons_of_mem _ hv),
      words_solid (h w List.mem_cons_self)]
    simp

theorem words_collapse (s : List Char) : words (collapse s) = words s := by
  by_cases h : words s = []
  · simp [collapse, h, words_nil]
  · rw [← words_blank_cons (collapse s) (c := ' ') rfl, cons_collapse h]
    simpa [words_nil] using words_append_spread [] fun w hw => solid_of_mem_words hw

/-- A run of the class does not go on into the text. -/
def Stops (p : Char → Bool) (t : List Char) : Prop := ∀ c ∈ t.head?, p c = false

theorem stops_cons {p : Char → Bool} {c : Char} (hc : p c = false) (t : List Char) :
    Stops p (c :: t) := by
  intro d hd
  obtain rfl : c = d := by simpa using hd
  exact hc

theorem stops_spread {p : Char → Bool} (hp : p ' ' = false) (pieces : List (List Char)) :
    Stops p (spread pieces) := by
  cases pieces with
  | nil => simp [Stops]
  | cons w rest => exact stops_cons hp _

theorem stops_append {p : Char → Bool} {w : List Char} (hw : w ≠ []) (h : Stops p w)
    (t : List Char) : Stops p (w ++ t) := by
  obtain ⟨c, w, rfl⟩ := List.exists_cons_of_ne_nil hw
  exact h

/-- The last character of the text, if there is one, is not white space. -/
def EndsSolid (s : List Char) : Prop := ∀ c ∈ s.getLast?, isBlank c = false

theorem EndsSolid.suffix {s r : List Char} (h : EndsSolid s) (hr : r <:+ s) : EndsSolid r := by
  intro c hc
  obtain ⟨front, rfl⟩ := hr
  refine h c ?_
  rw [List.getLast?_append, Option.mem_def.mp hc]
  rfl

/-- White space in front does not end the text. -/
theorem EndsSolid.ne_nil {c : Char} {s : List Char} (h : EndsSolid (c :: s)) (hc : isBlank c) :
    s ≠ [] := by
  rintro rfl
  rw [h c rfl] at hc
  exact Bool.false_ne_true hc

theorem EndsSolid.append {t : List Char} (h : EndsSolid t) (ht : t ≠ []) (s : List Char) :
    EndsSolid (s ++ t) := by
  intro c hc
  rw [List.getLast?_append, List.getLast?_eq_some_getLast ht, Option.some_or] at hc
  exact h c (by rwa [List.getLast?_eq_some_getLast ht])

theorem trimStart_eq_self {s : List Char} (h : Stops isBlank s) : trimStart s = s := by
  cases s with
  | nil => rfl
  | cons c s =>
    have solid : ¬ isBlank c := by
      rw [h c rfl]
      exact Bool.false_ne_true
    rw [trimStart, List.dropWhile_cons_of_neg solid]

theorem trimStart_space {t : List Char} (ht : Stops isBlank t) : trimStart (' ' :: t) = t := by
  have blank : isBlank ' ' := rfl
  rw [trimStart, List.dropWhile_cons_of_pos blank]
  exact trimStart_eq_self ht

theorem trim_eq_self {s : List Char} (hfirst : Stops isBlank s) (hlast : EndsSolid s) :
    trim s = s := by
  have stop : Stops isBlank s.reverse := by
    intro c hc
    rw [List.head?_reverse] at hc
    exact hlast c hc
  have back : s.reverse.dropWhile isBlank = s.reverse := trimStart_eq_self stop
  rw [trim, trimStart_eq_self hfirst, trimEnd, back, List.reverse_reverse]

/-- Trimming takes off the white space on both sides and nothing more. -/
theorem trim_append {before s after : List Char} (hbefore : ∀ c ∈ before, isBlank c)
    (hafter : ∀ c ∈ after, isBlank c) (hs : s ≠ []) (hfirst : Stops isBlank s)
    (hlast : EndsSolid s) : trim (before ++ (s ++ after)) = s := by
  have front : trimStart (before ++ (s ++ after)) = s ++ after := by
    rw [trimStart, List.dropWhile_append_of_pos hbefore]
    exact trimStart_eq_self (stops_append hs hfirst after)
  have back : (s ++ after).reverse.dropWhile isBlank = s.reverse.dropWhile isBlank := by
    rw [List.reverse_append]
    exact List.dropWhile_append_of_pos fun c hc => hafter c (List.mem_reverse.mp hc)
  have whole := trim_eq_self hfirst hlast
  rw [trim, trimStart_eq_self hfirst, trimEnd] at whole
  rw [trim, front, trimEnd, back, whole]

/-- A text without white space at its ends and with no gaps in it but single spaces. -/
structure Tidy (p : List Char) : Prop where
  ne_nil : p ≠ []
  collapse_eq : collapse p = p

namespace Tidy

variable {p : List Char}

theorem words_ne_nil (h : Tidy p) : words p ≠ [] := by
  intro empty
  have collapsed := h.collapse_eq
  rw [collapse, empty, List.intercalate_nil] at collapsed
  exact h.ne_nil collapsed.symm

theorem cons_eq (h : Tidy p) : ' ' :: p = spread (words p) := by
  rw [← cons_collapse h.words_ne_nil, h.collapse_eq]

theorem eq_space (h : Tidy p) {c : Char} (hc : c ∈ p) (hblank : isBlank c) : c = ' ' := by
  have mem : c ∈ spread (words p) := h.cons_eq ▸ List.mem_cons_of_mem _ hc
  obtain ⟨w, hw, hcw⟩ := List.mem_flatMap.mp mem
  rcases List.mem_cons.mp hcw with space | inside
  · exact space
  · rw [(solid_of_mem_words hw).2 c inside] at hblank
    exact absurd hblank Bool.false_ne_true

theorem line (h : Tidy p) : '\n' ∉ p := by
  intro mem
  exact absurd (h.eq_space mem rfl) (by decide)

theorem stops (h : Tidy p) : Stops isBlank p := by
  obtain ⟨w, rest, hw⟩ := List.exists_cons_of_ne_nil h.words_ne_nil
  have solid : Solid w := solid_of_mem_words (s := p) (hw ▸ List.mem_cons_self)
  have text := h.cons_eq
  rw [hw, spread_cons, List.cons.injEq] at text
  rw [text.2]
  obtain ⟨d, v, rfl⟩ := List.exists_cons_of_ne_nil solid.1
  intro c hc
  obtain rfl : d = c := by simpa using hc
  exact solid.2 d List.mem_cons_self

theorem last (h : Tidy p) : EndsSolid p := by
  intro c hc
  have solid : Solid ((words p).getLast h.words_ne_nil) :=
    solid_of_mem_words (s := p) (List.getLast_mem h.words_ne_nil)
  have text := h.cons_eq
  rw [← List.dropLast_concat_getLast h.words_ne_nil, spread_append, spread_cons, spread_nil,
    List.append_nil] at text
  have ends := congrArg List.getLast? text
  rw [List.getLast?_cons_of_ne_nil h.ne_nil, List.getLast?_append,
    List.getLast?_cons_of_ne_nil solid.1, List.getLast?_eq_some_getLast solid.1,
    Option.some_or] at ends
  rw [ends, Option.mem_some_iff] at hc
  exact solid.2 c (hc ▸ List.getLast_mem solid.1)

end Tidy

theorem tidy_of_solid {w : List Char} (hw : Solid w) : Tidy w :=
  ⟨hw.1, by rw [collapse, words_solid hw, List.intercalate_singleton]⟩

/-- Tidy texts with a space between them are a tidy text. -/
theorem Tidy.append_space {p q : List Char} (hp : Tidy p) (hq : Tidy q) : Tidy (p ++ ' ' :: q) := by
  have blank : isBlank ' ' := rfl
  have cut : words (p ++ ' ' :: q) = words p ++ words q := words_append_cons p q blank
  have some : words (p ++ ' ' :: q) ≠ [] := by
    rw [cut]
    exact List.append_ne_nil_of_left_ne_nil hp.words_ne_nil _
  have spaced : ' ' :: collapse (p ++ ' ' :: q) = ' ' :: (p ++ ' ' :: q) := by
    rw [cons_collapse some, cut, spread_append, ← hp.cons_eq, ← hq.cons_eq, List.cons_append]
  exact ⟨List.append_ne_nil_of_left_ne_nil hp.ne_nil _, (List.cons.inj spaced).2⟩

/-- A word and further words behind it, a space in front of each. -/
theorem tidy_append_spread {w : List Char} (hw : Solid w) {pieces : List (List Char)}
    (h : ∀ v ∈ pieces, Solid v) : Tidy (w ++ spread pieces) := by
  have cut : words (w ++ spread pieces) = w :: pieces := by
    rw [words_append_spread w h, words_solid hw, List.singleton_append]
  have spaced : ' ' :: collapse (w ++ spread pieces) = spread (w :: pieces) := by
    rw [cons_collapse (by rw [cut]; exact List.cons_ne_nil w pieces), cut]
  rw [spread_cons] at spaced
  exact ⟨List.append_ne_nil_of_left_ne_nil hw.1 _, (List.cons.inj spaced).2⟩

theorem Tidy.exists_words {p : List Char} (h : Tidy p) :
    ∃ w pieces, Solid w ∧ (∀ v ∈ pieces, Solid v) ∧ p = w ++ spread pieces := by
  obtain ⟨w, pieces, cut⟩ := List.exists_cons_of_ne_nil h.words_ne_nil
  have solid : ∀ v ∈ w :: pieces, Solid v := fun v hv =>
    solid_of_mem_words (s := p) (cut ▸ hv)
  have spaced := h.cons_eq
  rw [cut, spread_cons] at spaced
  exact ⟨w, pieces, solid w List.mem_cons_self, fun v hv => solid v (List.mem_cons_of_mem w hv),
    (List.cons.inj spaced).2⟩

theorem Solid.prepend {u w : List Char} (hu : ∀ c ∈ u, isBlank c = false) (hw : Solid w) :
    Solid (u ++ w) := by
  refine ⟨List.append_ne_nil_of_right_ne_nil u hw.1, fun c hc => ?_⟩
  exact (List.mem_append.mp hc).elim (hu c) (hw.2 c)

theorem Solid.append {w v : List Char} (hw : Solid w) (hv : ∀ c ∈ v, isBlank c = false) :
    Solid (w ++ v) := by
  refine ⟨List.append_ne_nil_of_left_ne_nil hw.1 v, fun c hc => ?_⟩
  exact (List.mem_append.mp hc).elim (hw.2 c) (hv c)

/-- What is free of white space may stand around a tidy text. -/
theorem Tidy.around {p u v : List Char} (h : Tidy p) (hu : ∀ c ∈ u, isBlank c = false)
    (hv : ∀ c ∈ v, isBlank c = false) : Tidy (u ++ (p ++ v)) := by
  obtain ⟨w, pieces, hw, hpieces, rfl⟩ := h.exists_words
  rcases List.eq_nil_or_concat pieces with rfl | ⟨front, last, rfl⟩
  · rw [spread_nil, List.append_nil]
    exact tidy_of_solid (.prepend hu (hw.append hv))
  · rw [List.concat_eq_append] at hpieces ⊢
    have text : u ++ (w ++ spread (front ++ [last]) ++ v) =
        (u ++ w) ++ spread (front ++ [last ++ v]) := by
      simp [spread_append, spread_cons]
    rw [text]
    refine tidy_append_spread (.prepend hu hw) fun x hx => ?_
    rcases List.mem_append.mp hx with inside | ends
    · exact hpieces x (List.mem_append_left _ inside)
    · rw [List.mem_singleton.mp ends]
      exact (hpieces last (List.mem_append_right _ List.mem_cons_self)).append hv

/-- Pieces of text in order, with some white space between each two of them. -/
inductive Spaced : List (List Char) → List Char → Prop
  | one (piece : List Char) : Spaced [piece] piece
  | cons {piece s : List Char} {pieces : List (List Char)} (gap : List Char) (hgap : gap ≠ [])
      (hblank : ∀ c ∈ gap, isBlank c) (h : Spaced pieces s) :
      Spaced (piece :: pieces) (piece ++ gap ++ s)

theorem words_gap_append {gap : List Char} (hblank : ∀ c ∈ gap, isBlank c) (t : List Char) :
    words (gap ++ t) = words t := by
  induction gap with
  | nil => rfl
  | cons c gap ih =>
    rw [List.cons_append, words_blank_cons _ (hblank c List.mem_cons_self),
      ih fun d hd => hblank d (List.mem_cons_of_mem _ hd)]

theorem words_append_gap (s t : List Char) {gap : List Char} (hgap : gap ≠ [])
    (hblank : ∀ c ∈ gap, isBlank c) : words (s ++ gap ++ t) = words s ++ words t := by
  obtain ⟨c, rest, rfl⟩ := List.exists_cons_of_ne_nil hgap
  rw [List.append_assoc, List.cons_append, words_append_cons s _ (hblank c List.mem_cons_self),
    words_gap_append fun d hd => hblank d (List.mem_cons_of_mem _ hd)]

theorem Spaced.words_eq {pieces : List (List Char)} {s : List Char} (h : Spaced pieces s) :
    words s = pieces.flatMap words := by
  induction h with
  | one piece => simp
  | cons gap hgap hblank _ ih =>
    rw [words_append_gap _ _ hgap hblank, ih, List.flatMap_cons]

/-- Collapsing leaves one space between tidy pieces. -/
theorem Spaced.cons_collapse {pieces : List (List Char)} {s : List Char} (h : Spaced pieces s)
    (htidy : ∀ p ∈ pieces, Tidy p) : ' ' :: collapse s = spread pieces := by
  have spelled : spread (words s) = spread pieces := by
    rw [h.words_eq]
    clear h
    induction pieces with
    | nil => rfl
    | cons p rest ih =>
      rw [List.flatMap_cons, spread_append, ← (htidy p List.mem_cons_self).cons_eq,
        ih fun q hq => htidy q (List.mem_cons_of_mem _ hq), spread_cons, List.cons_append]
  have some : words s ≠ [] := by
    intro empty
    rw [empty, spread_nil] at spelled
    cases h with
    | one => simp [spread] at spelled
    | cons => simp [spread] at spelled
  rw [Text.cons_collapse some, spelled]

theorem nextIsCased_append_cons (s t : List Char) {c : Char} (hc : isBlank c) :
    nextIsCased (s ++ c :: t) = nextIsCased s := by
  obtain ⟨uncased, kept, -⟩ := lower_blank_data hc
  induction s with
  | nil => simp [nextIsCased, uncased, kept]
  | cons d s ih =>
    by_cases hd : isCaseIgnorable d
    · simpa [nextIsCased, hd] using ih
    · simp [nextIsCased, hd]

theorem lowerFrom_append_cons (afterCased : Bool) (s t : List Char) {c : Char} (hc : isBlank c) :
    lowerFrom afterCased (s ++ c :: t) = lowerFrom afterCased s ++ c :: lower t := by
  induction s generalizing afterCased with
  | nil =>
    obtain ⟨uncased, kept, other, itself⟩ := lower_blank_data hc
    simp [lowerFrom, uncased, kept, other, itself, lower]
  | cons d s ih =>
    simp only [List.cons_append, lowerFrom, ih, nextIsCased_append_cons s t hc, List.append_assoc]

theorem lower_append_cons (s t : List Char) {c : Char} (hc : isBlank c) :
    lower (s ++ c :: t) = lower s ++ c :: lower t := lowerFrom_append_cons false s t hc

/-- Letters of ASCII have their small forms whatever stands around them. -/
theorem lower_eq_lowerAscii {s : List Char} (h : ∀ c ∈ s, c.toNat < 128) :
    lower s = lowerAscii s := by
  have from_ : ∀ afterCased, lowerFrom afterCased s = lowerAscii s := by
    induction s with
    | nil => intro _; rfl
    | cons c s ih =>
      intro afterCased
      have hc : c.toNat < 128 := h c List.mem_cons_self
      have other : (c == 'Σ') = false := by
        rw [beq_eq_false_iff_ne]
        rintro rfl
        revert hc
        decide
      simp only [lowerFrom, other, lowerChar, hc, if_true, Bool.false_eq_true, if_false,
        ih (fun d hd => h d (List.mem_cons_of_mem _ hd))]
      rfl
  exact from_ false

theorem isPrefixOf_append_cons {needle : List Char} {c : Char} (hc : c ∉ needle)
    (s t : List Char) : needle.isPrefixOf (s ++ c :: t) = needle.isPrefixOf s := by
  induction needle generalizing s with
  | nil => simp
  | cons n needle ih =>
    simp only [List.mem_cons, not_or] at hc
    cases s with
    | nil => simp [List.isPrefixOf, beq_false_of_ne (Ne.symm hc.1)]
    | cons d s => simp [List.isPrefixOf, ih hc.2 s]

/-- A text without white space occurs before a gap or behind it. -/
theorem occursIn_append_cons {needle : List Char} {c : Char} (hn : needle ≠ []) (hc : c ∉ needle)
    (s t : List Char) :
    occursIn needle (s ++ c :: t) = (occursIn needle s || occursIn needle t) := by
  induction s with
  | nil =>
    have absent : needle.isPrefixOf (c :: t) = false := by
      rw [← List.nil_append (c :: t), isPrefixOf_append_cons hc]
      cases needle with
      | nil => exact absurd rfl hn
      | cons => rfl
    simp [occursIn, absent, hn]
  | cons d s ih =>
    have same := isPrefixOf_append_cons hc (d :: s) t
    rw [List.cons_append] at same
    simp only [List.cons_append, occursIn, ih, same, Bool.or_assoc]

end SqlTutor.Text

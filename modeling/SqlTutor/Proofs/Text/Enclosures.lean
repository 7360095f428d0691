import SqlTutor.Proofs.Text.Readings
import Mathlib.Data.Nat.Find

/-!
What keywords enclose in a text without needless white space. There each gap is one space with more
text behind it, so nothing is left to be tried at the gaps. An enclosed text is read just where its
opening keyword stands with a space behind it, and it is the shortest text there that ends before a
space and a closing keyword, or with all text.
-/
namespace SqlTutor.Text

/-- Each gap is a single space, and text follows it. -/
def Collapsed (s : List Char) : Prop :=
  ∀ c rest, c :: rest <:+ s → isBlank c → c = ' ' ∧ rest ≠ [] ∧ Stops isBlank rest

theorem Collapsed.suffix {s r : List Char} (h : Collapsed s) (hr : r <:+ s) : Collapsed r :=
  fun c rest hc => h c rest (hc.trans hr)

theorem collapsed_spread {pieces : List (List Char)} (h : ∀ w ∈ pieces, Solid w) :
    Collapsed (spread pieces) := by
  induction pieces with
  | nil =>
    intro c rest suffix
    exact absurd suffix (by simp)
  | cons w pieces ih =>
    obtain ⟨solid, others⟩ := List.forall_mem_cons.mp h
    intro c rest suffix blank
    rw [spread_cons] at suffix
    rcases List.suffix_cons_iff.mp suffix with whole | inside
    · obtain ⟨rfl, rfl⟩ := List.cons.inj whole
      refine ⟨rfl, List.append_ne_nil_of_left_ne_nil solid.1 _, stops_append solid.1 ?_ _⟩
      exact fun d hd => solid.2 d (List.mem_of_mem_head? hd)
    · obtain ⟨front, cut⟩ := inside
      rcases List.append_eq_append_iff.mp cut with ⟨v, within, here⟩ | ⟨v, -, later⟩
      · cases v with
        | nil => exact ih others c rest (here ▸ List.suffix_rfl) blank
        | cons d v =>
          obtain ⟨rfl, -⟩ := List.cons.inj here
          have inside := solid.2 c (within ▸ List.mem_append_right front List.mem_cons_self)
          exact absurd (blank.symm.trans inside) (by decide)
      · exact ih others c rest ⟨v, later.symm⟩ blank

theorem collapsed_of_collapse_eq {s : List Char} (h : collapse s = s) : Collapsed s := by
  by_cases nonempty : s = []
  · subst nonempty
    intro c rest suffix
    exact absurd suffix (by simp)
  · have tidy : Tidy s := ⟨nonempty, h⟩
    have spread := collapsed_spread fun w (hw : w ∈ words s) => solid_of_mem_words hw
    rw [← tidy.cons_eq] at spread
    exact spread.suffix (List.suffix_cons ' ' s)

theorem Collapsed.line {s : List Char} (h : Collapsed s) : '\n' ∉ s := by
  intro mem
  obtain ⟨u, v, rfl⟩ := List.append_of_mem mem
  have space := (h '\n' v (List.suffix_append u _) rfl).1
  exact absurd space (by decide)

theorem afterBlanks?_of_stops {α : Type} (read : List Char → Option α) {s : List Char}
    (h : Stops isBlank s) : afterBlanks? read s = none := by
  cases s with
  | nil => rfl
  | cons c s => rw [afterBlanks?, h c rfl, if_neg Bool.false_ne_true]

theorem afterBlanks?_eq_some_iff {α : Type} {read : List Char → Option α} {s : List Char} {a : α}
    (h : Collapsed s) :
    afterBlanks? read s = some a ↔ ∃ tail, s = ' ' :: tail ∧ read tail = some a := by
  have space (tail : List Char) (htail : Stops isBlank tail) :
      afterBlanks? read (' ' :: tail) = read tail := by
    have blank : isBlank ' ' := rfl
    rw [afterBlanks?, if_pos blank, afterBlanks?_of_stops read htail, Option.none_or]
  constructor
  · intro found
    cases s with
    | nil => cases found
    | cons c s =>
      by_cases blank : isBlank c
      · obtain ⟨rfl, -, stops⟩ := h c s List.suffix_rfl blank
        exact ⟨s, rfl, (space s stops).symm.trans found⟩
      · rw [afterBlanks?, if_neg blank] at found
        cases found
  · rintro ⟨tail, rfl, found⟩
    exact (space tail (h ' ' tail List.suffix_rfl rfl).2.2).trans found

/-- The text before the first place, other than its own, where `stop` holds. -/
theorem textBefore?_eq_some_iff {stop : List Char → Bool} {s text : List Char} (line : '\n' ∉ s) :
    textBefore? stop s = some text ↔ text ≠ [] ∧ (∃ rest, s = text ++ rest ∧ stop rest) ∧
      ∀ front rest, s = front ++ rest → front ≠ [] → stop rest → text.length ≤ front.length := by
  induction s generalizing text with
  | nil =>
    refine iff_of_false (fun found => nomatch found) ?_
    rintro ⟨nonempty, ⟨rest, empty, -⟩, -⟩
    exact nonempty (List.append_eq_nil_iff.mp empty.symm).1
  | cons c s ih =>
    obtain ⟨first, others⟩ := not_or.mp (List.mem_cons.not.mp line)
    rw [textBefore?, if_neg (Ne.symm first)]
    by_cases here : stop s
    · rw [if_pos here]
      constructor
      · rintro ⟨⟩
        refine ⟨List.cons_ne_nil c [], ⟨s, rfl, here⟩, fun front rest _ nonempty _ => ?_⟩
        exact List.length_pos_iff.mpr nonempty
      · rintro ⟨nonempty, ⟨rest, cut, -⟩, shortest⟩
        have short := shortest [c] s rfl (List.cons_ne_nil c []) here
        obtain ⟨d, text, rfl⟩ := List.exists_cons_of_ne_nil nonempty
        obtain rfl : text = [] := List.eq_nil_of_length_eq_zero (Nat.le_zero.mp
          (Nat.le_of_succ_le_succ short))
        rw [(List.cons.inj cut).1]
    · rw [if_neg here, Option.map_eq_some_iff]
      constructor
      · rintro ⟨text, found, rfl⟩
        obtain ⟨-, ⟨rest, cut, stops⟩, shortest⟩ := (ih others).mp found
        refine ⟨List.cons_ne_nil c text, ⟨rest, by rw [cut, List.cons_append], stops⟩, ?_⟩
        intro front behind cut' nonempty stops'
        obtain ⟨d, front, rfl⟩ := List.exists_cons_of_ne_nil nonempty
        obtain ⟨-, later⟩ := List.cons.inj cut'
        refine Nat.succ_le_succ (shortest front behind later ?_ stops')
        rintro rfl
        exact here (later ▸ stops')
      · rintro ⟨nonempty, ⟨rest, cut, stops⟩, shortest⟩
        obtain ⟨d, text, rfl⟩ := List.exists_cons_of_ne_nil nonempty
        obtain ⟨rfl, later⟩ := List.cons.inj cut
        have more : text ≠ [] := by
          rintro rfl
          exact here (later ▸ stops)
        refine ⟨text, (ih others).mpr ⟨more, ⟨rest, later, stops⟩, ?_⟩, rfl⟩
        intro front behind cut' _ stops'
        exact Nat.le_of_succ_le_succ (shortest (c :: front) behind
          (by rw [cut', List.cons_append]) (List.cons_ne_nil c front) stops')

/-- Without the two letters that have forms beyond ASCII, a keyword is read in any letter case and
nowhere else. -/
theorem keyword?_eq_some_iff_spells {key s t : List Char} (hkey : IsKeyword key)
    (letters : 's' ∉ key ∧ 'k' ∉ key) :
    keyword? key s = some t ↔ ∃ w, Spells key w ∧ s = w ++ t := by
  constructor
  · intro found
    obtain ⟨w, rfl, cut⟩ := keyword?_eq_some_iff.mp found
    refine ⟨w, List.map_congr_left fun c hc => ?_, cut⟩
    have mem : foldCase c ∈ w.map foldCase := List.mem_map_of_mem hc
    refine toLower_of_foldCase rfl ?_ ?_
    · exact fun same => letters.1 (same ▸ mem)
    · exact fun same => letters.2 (same ▸ mem)
  · rintro ⟨w, hw, rfl⟩
    exact keyword?_spelling hkey.2 hw t

/-- A space, and behind it one of some keywords, in any letter case. -/
def BeginsWithGap (keys : List (List Char)) (s : List Char) : Prop :=
  ∃ key ∈ keys, ∃ w rest, Spells key w ∧ s = ' ' :: (w ++ rest)

namespace Enclosure

variable {e : Enclosure} {s text : List Char}

/-- The keywords have letters that stand in texts as they are or as capitals only. -/
def Readable (e : Enclosure) : Prop :=
  ∀ key ∈ e.opening :: e.closing, IsKeyword key ∧ 's' ∉ key ∧ 'k' ∉ key

/-- Where the enclosed text may end. -/
def Ends (e : Enclosure) (rest : List Char) : Prop :=
  e.endCloses = true ∧ rest = [] ∨ BeginsWithGap e.closing rest

/-- The shortest text that ends where it may. -/
def Encloses (e : Enclosure) (s text : List Char) : Prop :=
  text ≠ [] ∧ (∃ rest, s = text ++ rest ∧ e.Ends rest) ∧
    ∀ front rest, s = front ++ rest → front ≠ [] → e.Ends rest → text.length ≤ front.length

section Collapsed

variable (he : e.Readable) (h : Collapsed s)

include he h

theorem gapAt_iff : e.gapAt s ↔ BeginsWithGap e.closing s := by
  have spelled (key : List Char) (hkey : key ∈ e.closing) (t : List Char) :
      (keyword? key t).isSome ↔ ∃ w rest, Spells key w ∧ t = w ++ rest := by
    obtain ⟨keyword, letters⟩ := he key (List.mem_cons_of_mem _ hkey)
    simp only [Option.isSome_iff_exists, keyword?_eq_some_iff_spells keyword letters]
    exact exists_comm
  cases s with
  | nil =>
    refine iff_of_false Bool.false_ne_true ?_
    rintro ⟨key, -, w, rest, -, empty⟩
    nomatch empty
  | cons c s =>
    have stuck (stops : Stops isBlank s) : e.gapAt s = false := by
      cases s with
      | nil => rfl
      | cons d s => rw [gapAt, stops d rfl, Bool.false_and]
    constructor
    · intro gap
      obtain ⟨blank, either⟩ := Bool.and_eq_true_iff.mp gap
      obtain ⟨rfl, -, stops⟩ := h c s List.suffix_rfl blank
      rw [stuck stops, Bool.or_false, closesAt, List.any_eq_true] at either
      obtain ⟨key, hkey, found⟩ := either
      obtain ⟨w, rest, hw, rfl⟩ := (spelled key hkey s).mp found
      exact ⟨key, hkey, w, rest, hw, rfl⟩
    · rintro ⟨key, hkey, w, rest, hw, cut⟩
      obtain ⟨rfl, rfl⟩ := List.cons.inj cut
      have closed : e.closesAt (w ++ rest) := by
        rw [closesAt, List.any_eq_true]
        exact ⟨key, hkey, (spelled key hkey _).mpr ⟨w, rest, hw, rfl⟩⟩
      have blank : isBlank ' ' := rfl
      rw [gapAt, blank, closed, Bool.true_or, Bool.and_self]

theorem endsAt_iff : e.endsAt s ↔ e.Ends s := by
  rw [endsAt, Bool.or_eq_true, Bool.and_eq_true, List.isEmpty_iff, gapAt_iff he h, Ends]

theorem textBefore?_eq_some_iff_encloses :
    textBefore? e.endsAt s = some text ↔ e.Encloses s text := by
  have ends : ∀ front rest, s = front ++ rest → (e.endsAt rest ↔ e.Ends rest) := by
    rintro front rest rfl
    exact endsAt_iff he (h.suffix (List.suffix_append front rest))
  rw [textBefore?_eq_some_iff h.line, Encloses]
  refine and_congr_right fun _ => and_congr ?_ ?_
  · exact exists_congr fun rest => and_congr_right fun cut => ends text rest cut
  · refine forall_congr' fun front => forall_congr' fun rest => forall_congr' fun cut => ?_
    rw [ends front rest cut]

/-- An enclosed text is read behind its opening keyword and a space. -/
theorem read?_eq_some_iff : e.read? s = some text ↔
    ∃ w tail, Spells e.opening w ∧ s = w ++ ' ' :: tail ∧ e.Encloses tail text := by
  obtain ⟨keyword, letters⟩ := he e.opening List.mem_cons_self
  rw [read?, Option.bind_eq_some_iff]
  constructor
  · rintro ⟨t, found, behind⟩
    obtain ⟨w, hw, rfl⟩ := (keyword?_eq_some_iff_spells keyword letters).mp found
    have collapsed : Collapsed t := h.suffix (List.suffix_append w t)
    obtain ⟨tail, rfl, inside⟩ := (afterBlanks?_eq_some_iff collapsed).mp behind
    have last : Collapsed tail := collapsed.suffix (List.suffix_cons ' ' tail)
    exact ⟨w, tail, hw, rfl, (textBefore?_eq_some_iff_encloses he last).mp inside⟩
  · rintro ⟨w, tail, hw, rfl, encloses⟩
    have collapsed : Collapsed (' ' :: tail) := h.suffix (List.suffix_append w _)
    have last : Collapsed tail := collapsed.suffix (List.suffix_cons ' ' tail)
    have inside := (textBefore?_eq_some_iff_encloses he last).mpr encloses
    exact ⟨' ' :: tail, keyword?_spelling keyword.2 hw _,
      (afterBlanks?_eq_some_iff collapsed).mpr ⟨tail, rfl, inside⟩⟩

end Collapsed

/-- If the end of all text closes, too, a text is always enclosed. -/
theorem exists_encloses (last : e.endCloses = true) (nonempty : s ≠ []) :
    ∃ text, e.Encloses s text := by
  classical
  have some : ∃ n front rest, s = front ++ rest ∧ front ≠ [] ∧ e.Ends rest ∧ front.length = n :=
    ⟨s.length, s, [], (List.append_nil s).symm, nonempty, Or.inl ⟨last, rfl⟩, rfl⟩
  obtain ⟨text, rest, cut, more, ends, length⟩ := Nat.find_spec some
  refine ⟨text, more, ⟨rest, cut, ends⟩, fun front behind cut' more' ends' => ?_⟩
  rw [length]
  exact Nat.find_min' some ⟨front, behind, cut', more', ends', rfl⟩

section Encloses

variable (h : Collapsed (' ' :: s)) (inside : e.Encloses s text)

include h inside

theorem Encloses.stops : Stops isBlank text := by
  obtain ⟨-, -, first⟩ := h ' ' s List.suffix_rfl rfl
  obtain ⟨nonempty, ⟨rest, rfl, -⟩, -⟩ := inside
  obtain ⟨c, text, rfl⟩ := List.exists_cons_of_ne_nil nonempty
  exact stops_cons (first c rfl) text

/-- The text does not end with a gap, since another one would follow or nothing at all. -/
theorem Encloses.endsSolid : EndsSolid text := by
  obtain ⟨nonempty, ⟨rest, rfl, ends⟩, -⟩ := inside
  intro c hc
  obtain ⟨front, rfl⟩ := List.getLast?_eq_some_iff.mp hc
  by_contra blank
  rw [Bool.not_eq_false] at blank
  have suffix : c :: rest <:+ ' ' :: (front ++ [c] ++ rest) :=
    ⟨' ' :: front, by simp⟩
  obtain ⟨-, more, stops⟩ := h c rest suffix blank
  rcases ends with ⟨-, empty⟩ | ⟨key, -, w, behind, -, rfl⟩
  · exact more empty
  · exact absurd (stops ' ' rfl) (by decide)

theorem Encloses.trim_eq : trim text = text :=
  trim_eq_self (inside.stops h) (inside.endsSolid h)

/-- No closing keyword stands behind a space in the text. -/
theorem Encloses.not_beginsWithGap {front rest : List Char} (cut : text = front ++ rest) :
    ¬ BeginsWithGap e.closing rest := by
  rintro ⟨key, hkey, w, behind, hw, rfl⟩
  have first := inside.stops h
  obtain ⟨-, ⟨later, rfl, -⟩, shortest⟩ := inside
  have more : front ≠ [] := by
    rintro rfl
    rw [cut] at first
    exact absurd (first ' ' rfl) (by decide)
  have bound := shortest front (' ' :: (w ++ (behind ++ later))) (by simp [cut]) more
    (Or.inr ⟨key, hkey, w, behind ++ later, hw, rfl⟩)
  rw [cut, List.length_append, List.length_cons] at bound
  omega

end Encloses

end Enclosure

end SqlTutor.Text

import SqlTutor.Proofs.Text.Keywords

/-!
Texts joined by a keyword with white space around it. A joined text is cut at the separator that was
written, provided that none can begin before it, and a text in which no separator occurs stays
whole.
-/
namespace SqlTutor.Text

/-- The last character that is skipped is white space. -/
theorem exists_blank_of_blanks? {s t : List Char} (h : blanks? s = some t) :
    ∃ gap c, isBlank c ∧ s = gap ++ c :: t := by
  have cut : s.takeWhile isBlank ++ s.dropWhile isBlank = s := List.takeWhile_append_dropWhile
  unfold blanks? run? at h
  cases hgap : s.takeWhile isBlank with
  | nil => simp [hgap] at h
  | cons d gap =>
    rw [hgap] at h
    obtain rfl : s.dropWhile isBlank = t := Option.some.inj h
    have nonempty : d :: gap ≠ [] := List.cons_ne_nil d gap
    have last : isBlank ((d :: gap).getLast nonempty) := by
      have mem : (d :: gap).getLast nonempty ∈ s.takeWhile isBlank := by
        rw [hgap]
        exact List.getLast_mem nonempty
      exact List.mem_takeWhile_imp mem
    refine ⟨(d :: gap).dropLast, (d :: gap).getLast nonempty, last, ?_⟩
    rw [hgap, ← List.dropLast_concat_getLast nonempty, List.append_assoc] at cut
    exact cut.symm

/-- White space that does not fill a text is the same when the text goes on. -/
theorem trimStart_append {s : List Char} (hs : s ≠ []) (hlast : EndsSolid s) (t : List Char) :
    trimStart (s ++ t) = trimStart s ++ t := by
  induction s with
  | nil => exact absurd rfl hs
  | cons c s ih =>
    by_cases hc : isBlank c
    · have rest := ih (hlast.ne_nil hc) (hlast.suffix (List.suffix_cons c s))
      simpa [trimStart, hc] using rest
    · simp [trimStart, hc]

theorem blanks?_append {s : List Char} (hs : s ≠ []) (hlast : EndsSolid s) (t : List Char) :
    blanks? (s ++ t) = (blanks? s).map (· ++ t) := by
  cases s with
  | nil => exact absurd rfl hs
  | cons c s =>
    by_cases hc : isBlank c
    · have more := hlast.ne_nil hc
      rw [List.cons_append, blanks?_cons hc, blanks?_cons hc,
        trimStart_append more (hlast.suffix (List.suffix_cons c s)), Option.map_some]
    · rw [Bool.not_eq_true] at hc
      rw [List.cons_append, blanks?_of_stops (stops_cons hc _), blanks?_of_stops (stops_cons hc _),
        Option.map_none]

/-- The text does not end within white space or within a separator. -/
structure Closed (key s : List Char) : Prop where
  last : EndsSolid s
  no_separator : ∀ c r, c :: r <:+ s → isBlank c → keyword? key r ≠ some []

variable {key : List Char}

theorem Closed.suffix {s r : List Char} (h : Closed key s) (hr : r <:+ s) : Closed key r where
  last := h.last.suffix hr
  no_separator c q hq := h.no_separator c q (hq.trans hr)

theorem map_foldCase_of_keyword? {s : List Char} (h : keyword? key s = some []) :
    s.map foldCase = key := by
  induction key generalizing s with
  | nil => rw [Option.some.inj h, List.map_nil]
  | cons k ks ih =>
    cases s with
    | nil => simp [keyword?] at h
    | cons c s =>
      rw [keyword?] at h
      split at h
      · rename_i same
        rw [List.map_cons, same, ih h]
      · simp at h

/-- A text is closed if its last character is neither white space nor the last of the keyword. -/
theorem closed_of_last {s : List Char}
    (h : ∀ c ∈ s.getLast?, isBlank c = false ∧ key.getLast? ≠ some (foldCase c)) :
    Closed key s where
  last c hc := (h c hc).1
  no_separator c r hr hc hword := by
    obtain ⟨front, rfl⟩ := hr
    cases hlast : r.getLast? with
    | none =>
      obtain rfl := List.getLast?_eq_none_iff.mp hlast
      rw [(h c (by simp)).1] at hc
      exact Bool.false_ne_true hc
    | some d =>
      have last : (front ++ c :: r).getLast? = some d := by
        rw [List.getLast?_append, List.getLast?_cons, hlast]
        rfl
      have letter := (h d last).2
      rw [← map_foldCase_of_keyword? hword, List.getLast?_map, hlast] at letter
      exact letter rfl

/-- Behind a closed text white space begins no earlier separator and ends none that has begun. -/
theorem separator?_append (hkey : IsKeyword key) {s t : List Char} (hs : s ≠ [])
    (h : Closed key s) {c : Char} (hc : isBlank c) :
    separator? key (s ++ c :: t) = (separator? key s).map (· ++ c :: t) := by
  unfold separator?
  rw [blanks?_append hs h.last]
  cases hgap : blanks? s with
  | none => rfl
  | some r =>
    obtain ⟨gap, d, hd, rfl⟩ := exists_blank_of_blanks? hgap
    have suffix : d :: r <:+ gap ++ d :: r := List.suffix_append _ _
    simp only [bind, Option.map_some, Option.bind_some]
    rw [keyword?_append_cons (foreign_blank hkey hc)]
    cases hrest : keyword? key r with
    | none => rfl
    | some q =>
      have more : q ≠ [] := by
        rintro rfl
        exact h.no_separator d r suffix hd hrest
      have behind : q <:+ r := by
        rw [(keyword?_eq_some hrest).1]
        exact List.drop_suffix _ _
      have tail : q <:+ gap ++ d :: r := behind.trans ((List.suffix_cons d r).trans suffix)
      simp only [Option.map_some, Option.bind_some]
      exact blanks?_append more (h.last.suffix tail) _

theorem splitOnWord_ne_nil (key s : List Char) : splitOnWord key s ≠ [] := by
  cases s with
  | nil => simp [splitOnWord_nil]
  | cons c s =>
    rw [splitOnWord_cons]
    split
    · simp
    · cases splitOnWord key s <;> simp [consFirst]

theorem consFirst_append (c : Char) {pieces : List (List Char)} (h : pieces ≠ [])
    (more : List (List Char)) : consFirst c (pieces ++ more) = consFirst c pieces ++ more := by
  cases pieces with
  | nil => exact absurd rfl h
  | cons piece rest => rfl

theorem suffix_of_separator? {s t : List Char} (h : separator? key s = some t) : t <:+ s := by
  simp only [separator?, Option.bind_eq_bind, Option.bind_eq_some_iff] at h
  obtain ⟨r, hgap, q, hword, hrest⟩ := h
  obtain ⟨gap, c, -, rfl⟩ := exists_blank_of_blanks? hgap
  have behind : q <:+ r := by
    rw [(keyword?_eq_some hword).1]
    exact List.drop_suffix _ _
  obtain ⟨more, d, -, rfl⟩ := exists_blank_of_blanks? hrest
  exact ((List.suffix_append_of_suffix (List.suffix_cons d t)).trans behind).trans
    (List.suffix_append_of_suffix (List.suffix_cons c r))

/-- White space, the keyword in some letter case, and white space. -/
inductive Separator (key : List Char) : List Char → Prop
  | mk (gap word gap' : List Char) (hgap : gap ≠ []) (hblank : ∀ c ∈ gap, isBlank c)
      (hword : Spells key word) (hgap' : gap' ≠ []) (hblank' : ∀ c ∈ gap', isBlank c) :
      Separator key (gap ++ (word ++ gap'))

theorem Separator.exists_cons {sep : List Char} (h : Separator key sep) :
    ∃ c rest, isBlank c ∧ sep = c :: rest := by
  obtain ⟨gap, -, -, hgap, hblank, -, -, -⟩ := h
  obtain ⟨c, gap, rfl⟩ := List.exists_cons_of_ne_nil hgap
  exact ⟨c, _, hblank c List.mem_cons_self, rfl⟩

theorem Separator.separator?_append (hkey : IsKeyword key) {sep : List Char}
    (h : Separator key sep) {t : List Char} (ht : Stops isBlank t) :
    separator? key (sep ++ t) = some t := by
  obtain ⟨gap, word, gap', hgap, hblank, hword, hgap', hblank'⟩ := h
  have solid := hword.solid hkey
  have stops : Stops isBlank (word ++ (gap' ++ t)) :=
    stops_append solid.1 (tidy_of_solid solid).stops _
  rw [List.append_assoc, List.append_assoc, separator?, blanks?_gap hgap hblank stops]
  simp only [bind, Option.bind_some, keyword?_spelling hkey.2 hword]
  exact blanks?_gap hgap' hblank' ht

/-- A text is cut at a separator that stands behind a closed text. -/
theorem splitOnWord_append (hkey : IsKeyword key) {s sep t : List Char} (hs : Closed key s)
    (hsep : Separator key sep) (ht : Stops isBlank t) :
    splitOnWord key (s ++ (sep ++ t)) = splitOnWord key s ++ splitOnWord key t := by
  obtain ⟨d, rest, hd, hcons⟩ := hsep.exists_cons
  induction hn : s.length using Nat.strongRecOn generalizing s with
  | ind n ih =>
    cases s with
    | nil =>
      have read := hsep.separator?_append hkey ht
      rw [hcons, List.cons_append] at read
      rw [List.nil_append, hcons, List.cons_append, splitOnWord_cons, read, splitOnWord_nil,
        List.singleton_append]
    | cons c s =>
      have read := separator?_append hkey (List.cons_ne_nil c s) hs hd (t := rest ++ t)
      rw [List.cons_append, ← List.cons_append (a := d), ← hcons] at read
      rw [List.cons_append, splitOnWord_cons, splitOnWord_cons key c s, read]
      cases hsplit : separator? key (c :: s) with
      | some r =>
        have shorter := separator?_length_lt hsplit
        have cut := ih r.length (by omega) (hs.suffix (suffix_of_separator? hsplit)) rfl
        simp only [Option.map_some]
        rw [cut, List.cons_append]
      | none =>
        have cut := ih s.length (by simp [← hn]) (hs.suffix (List.suffix_cons c s)) rfl
        simp only [Option.map_none]
        rw [cut, consFirst_append c (splitOnWord_ne_nil key s)]

/-- The keyword does not occur with white space on both sides. -/
def Clear (key s : List Char) : Prop :=
  ∀ c word d, isBlank c → Spells key word → isBlank d → ¬ c :: (word ++ [d]) <:+: s

theorem separator?_eq_none (hkey : 's' ∉ key ∧ 'k' ∉ key) {s r : List Char} (h : Clear key s)
    (hr : r <:+ s) : separator? key r = none := by
  cases hsplit : separator? key r with
  | none => rfl
  | some t =>
    simp only [separator?, Option.bind_eq_bind, Option.bind_eq_some_iff] at hsplit
    obtain ⟨q, hgap, u, hword, hrest⟩ := hsplit
    obtain ⟨gap, c, hc, rfl⟩ := exists_blank_of_blanks? hgap
    obtain ⟨rfl, hlength⟩ := keyword?_eq_some hword
    have spells : Spells key (q.take key.length) := by
      have front := prefix_of_keyword? hkey hword
      rw [Spells, lowerAscii, List.map_take]
      exact (List.prefix_iff_eq_take.mp front).symm
    cases hu : q.drop key.length with
    | nil => simp [hu, blanks?, run?] at hrest
    | cons d u =>
      have hd : isBlank d := by
        by_contra hd
        rw [hu, blanks?_of_stops (by simpa [Stops] using hd)] at hrest
        simp at hrest
      refine absurd ?_ (h c (q.take key.length) d hc spells hd)
      refine List.IsInfix.trans ⟨gap, u, ?_⟩ hr.isInfix
      have whole : q.take key.length ++ (d :: u) = q := by
        rw [← hu, List.take_append_drop]
      conv_rhs => rw [← whole]
      simp

theorem splitOnWord_of_clear (hkey : 's' ∉ key ∧ 'k' ∉ key) {s : List Char} (h : Clear key s) :
    splitOnWord key s = [s] := by
  induction s with
  | nil => exact splitOnWord_nil key
  | cons c s ih =>
    have behind : Clear key s := fun a word b ha hword hb found =>
      h a word b ha hword hb (found.trans (List.suffix_cons c s).isInfix)
    rw [splitOnWord_cons, separator?_eq_none hkey h List.suffix_rfl, ih behind]
    rfl

/-- The pieces in order, with a separator between each two of them. -/
inductive Joined (key : List Char) : List (List Char) → List Char → Prop
  | one (piece : List Char) : Joined key [piece] piece
  | cons {piece sep s : List Char} {pieces : List (List Char)} (hsep : Separator key sep)
      (h : Joined key pieces s) : Joined key (piece :: pieces) (piece ++ (sep ++ s))

/-- Closed and clear pieces are told apart again. -/
theorem Joined.splitOnWord_eq (hkey : IsKeyword key) (hother : 's' ∉ key ∧ 'k' ∉ key)
    {pieces : List (List Char)} {s : List Char} (h : Joined key pieces s)
    (hpieces : ∀ p ∈ pieces, p ≠ [] ∧ Stops isBlank p ∧ Closed key p ∧ Clear key p) :
    splitOnWord key s = pieces := by
  induction h with
  | one piece => exact splitOnWord_of_clear hother (hpieces piece List.mem_cons_self).2.2.2
  | cons hsep hrest ih =>
    rename_i piece sep s pieces
    obtain ⟨-, -, closed, clear⟩ := hpieces piece List.mem_cons_self
    have rest := fun p hp => hpieces p (List.mem_cons_of_mem piece hp)
    have stops : Stops isBlank s := by
      cases hrest with
      | one =>
        obtain ⟨-, stops, -, -⟩ := rest s List.mem_cons_self
        exact stops
      | cons _ _ =>
        obtain ⟨nonempty, stops, -, -⟩ := rest _ List.mem_cons_self
        exact stops_append nonempty stops _
    rw [splitOnWord_append hkey closed hsep stops, splitOnWord_of_clear hother clear, ih rest,
      List.singleton_append]

/-- Behind no white space of the text does the keyword stand, so no part of a separator does. -/
def Uncut (key s : List Char) : Prop :=
  ∀ c r, c :: r <:+ s → isBlank c → keyword? key r = none

theorem uncut_of_solid {s : List Char} (hs : ∀ c ∈ s, isBlank c = false) : Uncut key s := by
  intro c r hr hc
  have solid := hs c (hr.subset List.mem_cons_self)
  exact absurd (hc.symm.trans solid) (by decide)

theorem Lacks.uncut {s : List Char} (h : Lacks key s) : Uncut key s :=
  fun c r hr _ => h r ((List.suffix_cons c r).trans hr)

namespace Uncut

variable {s : List Char} (h : Uncut key s)

include h

theorem closed (last : EndsSolid s) : Closed key s where
  last := last
  no_separator c r hr hc found := by
    rw [h c r hr hc] at found
    nomatch found

theorem separator?_eq_none {r : List Char} (hr : r <:+ s) : separator? key r = none := by
  cases hgap : blanks? r with
  | none =>
    rw [separator?, hgap]
    rfl
  | some q =>
    obtain ⟨gap, c, hc, rfl⟩ := exists_blank_of_blanks? hgap
    have stuck := h c q ((List.suffix_append gap _).trans hr) hc
    simp only [separator?, hgap, bind, Option.bind_some, stuck, Option.bind_none]

theorem splitOnWord_eq : splitOnWord key s = [s] := by
  induction s with
  | nil => exact splitOnWord_nil key
  | cons c s ih =>
    have behind : Uncut key s := fun d r hr => h d r (hr.trans (List.suffix_cons c s))
    rw [splitOnWord_cons, h.separator?_eq_none List.suffix_rfl, ih behind]
    rfl

end Uncut

theorem clear_of_length {s : List Char} (h : s.length < key.length + 2) : Clear key s := by
  intro c word d _ hword _ found
  have long := found.length_le
  have same : word.length = key.length := by
    rw [← show lowerAscii word = key from hword, lowerAscii, List.length_map]
  simp only [List.length_cons, List.length_append, List.length_nil] at long
  omega

/-- A character that cannot stand in a separator keeps the texts around it apart. -/
theorem Clear.append_cons {s t : List Char} {q : Char} (hq : isBlank q = false)
    (hletter : q.toLower ∉ key) (hs : Clear key s) (ht : Clear key t) :
    Clear key (s ++ q :: t) := by
  intro c word d hc hword hd found
  have foreign : q ∉ c :: (word ++ [d]) := by
    intro mem
    rcases List.mem_cons.mp mem with rfl | mem
    · rw [hq] at hc
      exact Bool.false_ne_true hc
    · rcases List.mem_append.mp mem with mem | mem
      · have letter : q.toLower ∈ lowerAscii word := List.mem_map_of_mem mem
        rw [show lowerAscii word = key from hword] at letter
        exact hletter letter
      · rw [← List.mem_singleton.mp mem, hq] at hd
        exact Bool.false_ne_true hd
  rcases List.infix_append_iff_ne_nil.mp found with before | behind | ⟨l, r, -, hr, cut, -, front⟩
  · exact hs c word d hc hword hd before
  · rcases List.infix_cons_iff.mp behind with front | behind
    · obtain ⟨rfl, -⟩ := List.cons_prefix_cons.mp front
      exact foreign List.mem_cons_self
    · exact ht c word d hc hword hd behind
  · obtain ⟨e, r, rfl⟩ := List.exists_cons_of_ne_nil hr
    obtain ⟨rfl, -⟩ := List.cons_prefix_cons.mp front
    rw [cut] at foreign
    exact foreign (List.mem_append_right l List.mem_cons_self)

theorem words_ne_nil_of_mem {s : List Char} {c : Char} (hc : c ∈ s) (hsolid : isBlank c = false) :
    words s ≠ [] := by
  induction s using blank_induction with
  | solid s hs =>
    rw [words_solid ⟨List.ne_nil_of_mem hc, hs⟩]
    exact List.cons_ne_nil _ _
  | gap s d t hd ihs iht =>
    rw [words_append_cons s t hd]
    intro empty
    obtain ⟨left, right⟩ := List.append_eq_nil_iff.mp empty
    rcases List.mem_append.mp hc with inside | inside
    · exact ihs inside left
    · rcases List.mem_cons.mp inside with rfl | inside
      · rw [hsolid] at hd
        exact Bool.false_ne_true hd
      · exact iht inside right

/-- A separator makes its keyword a word of the text, and never the first one. -/
theorem clear_of_words (hkey : IsKeyword key) {s : List Char} (hs : Stops isBlank s)
    (h : ∀ w ∈ (words s).tail, ¬ Spells key w) : Clear key s := by
  rintro c word d hc hword hd ⟨before, after, rfl⟩
  cases before with
  | nil =>
    rw [List.nil_append, List.cons_append] at hs
    rw [hs c rfl] at hc
    exact Bool.false_ne_true hc
  | cons b before =>
    have first : words (b :: before) ≠ [] :=
      words_ne_nil_of_mem List.mem_cons_self (hs b rfl)
    have cut : words (b :: before ++ c :: (word ++ [d]) ++ after) =
        words (b :: before) ++ (word :: words after) := by
      have behind : b :: before ++ c :: (word ++ [d]) ++ after =
          b :: before ++ c :: (word ++ d :: after) := by simp
      rw [behind, words_append_cons _ _ hc, words_append_cons _ _ hd,
        words_solid (hword.solid hkey), List.singleton_append]
    obtain ⟨w, ws, hws⟩ := List.exists_cons_of_ne_nil first
    rw [cut, hws, List.cons_append, List.tail_cons] at h
    exact h word (List.mem_append_right ws List.mem_cons_self) hword

/-- A word in front of a clear text leaves it clear, unless a separator begins behind the word. -/
theorem Clear.solid_space (hkey : IsKeyword key) {w s : List Char}
    (hw : ∀ c ∈ w, isBlank c = false) (h : Clear key s)
    (hs : ∀ v ∈ (words s).head?, ¬ Spells key v) : Clear key (w ++ ' ' :: s) := by
  induction w with
  | nil =>
    intro c word d hc hword hd found
    rcases List.infix_cons_iff.mp found with front | behind
    · obtain ⟨t, rfl⟩ := (List.cons_prefix_cons.mp front).2
      have blank : ∀ c ∈ (d :: t).head?, isBlank c := by
        intro c hc
        obtain rfl : d = c := by simpa using hc
        exact hd
      have first := words_append (hword.solid hkey) blank
      rw [List.append_assoc, List.singleton_append, first] at hs
      exact hs word rfl hword
    · exact h c word d hc hword hd behind
  | cons e w ih =>
    intro c word d hc hword hd found
    rcases List.infix_cons_iff.mp found with front | behind
    · obtain ⟨rfl, -⟩ := List.cons_prefix_cons.mp front
      rw [hw c List.mem_cons_self] at hc
      exact Bool.false_ne_true hc
    · exact ih (fun d hd => hw d (List.mem_cons_of_mem e hd)) c word d hc hword hd behind

end SqlTutor.Text

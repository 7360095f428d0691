import SqlTutor.Proofs.Text.Separators
import SqlTutor.Proofs.Text.Endings

/-!
What a reader makes of a text that goes on. Readers of words, symbols and keywords stop before a
character that none of them takes, and then read the same in a longer text. If a reader does not see
how a text goes on, the first success in the longer text is the first one in the text or, if there
is none, the first one behind it.
-/
namespace SqlTutor.Text

section Foreign

variable {c : Char}

theorem takeWhile_append_cons {p : Char → Bool} (hc : p c = false) (s t : List Char) :
    (s ++ c :: t).takeWhile p = s.takeWhile p := by
  induction s with
  | nil => simp [hc]
  | cons d s ih => simp only [List.cons_append, List.takeWhile_cons, ih]

theorem dropWhile_append_cons {p : Char → Bool} (hc : p c = false) (s t : List Char) :
    (s ++ c :: t).dropWhile p = s.dropWhile p ++ c :: t := by
  induction s with
  | nil => simp [hc]
  | cons d s ih =>
    by_cases hd : p d
    · simpa [hd] using ih
    · simp [hd]

theorem run?_append_cons {p : Char → Bool} (hc : p c = false) (s t : List Char) :
    run? p (s ++ c :: t) = (run? p s).map fun part => (part.1, part.2 ++ c :: t) := by
  unfold run?
  rw [takeWhile_append_cons hc, dropWhile_append_cons hc]
  cases s.takeWhile p <;> rfl

theorem word?_append_cons (hc : isWordChar c = false) (s t : List Char) :
    word? (s ++ c :: t) = (word? s).map fun part => (part.1, part.2 ++ c :: t) :=
  run?_append_cons hc s t

theorem digits?_append_cons (hc : isDecimalDigit c = false) (s t : List Char) :
    digits? (s ++ c :: t) = (digits? s).map fun part => (part.1, part.2 ++ c :: t) :=
  run?_append_cons hc s t

theorem blanks?_append_cons (hc : isBlank c = false) (s t : List Char) :
    blanks? (s ++ c :: t) = (blanks? s).map (· ++ c :: t) := by
  rw [blanks?, run?_append_cons hc, Option.map_map, blanks?, Option.map_map]
  rfl

theorem trimStart_append_cons (hc : isBlank c = false) (s t : List Char) :
    trimStart (s ++ c :: t) = trimStart s ++ c :: t := dropWhile_append_cons hc s t

theorem exactly?_append_cons {symbol : List Char} (hc : c ∉ symbol) (s t : List Char) :
    exactly? symbol (s ++ c :: t) = (exactly? symbol s).map (· ++ c :: t) := by
  induction symbol generalizing s with
  | nil => rfl
  | cons k symbol ih =>
    obtain ⟨first, later⟩ := not_or.mp (List.mem_cons.not.mp hc)
    cases s with
    | nil => exact if_neg first
    | cons d s =>
      rw [List.cons_append, exactly?, exactly?]
      split
      · exact ih later s
      · rfl

end Foreign

/-- A reader that does not see how the text goes on finds first what it finds in the text. -/
theorem findFirst?_append_cons {α : Type} {read : List Char → Option α} {s t : List Char}
    {c : Char} (hnil : read [] = none)
    (h : ∀ r, r <:+ s → r ≠ [] → read (r ++ c :: t) = read r) :
    findFirst? read (s ++ c :: t) = (findFirst? read s).or (findFirst? read (c :: t)) := by
  induction s with
  | nil => rw [List.nil_append, findFirst?, findFirst?, hnil, Option.none_or]
  | cons d s ih =>
    have rest := ih fun r hr hne => h r (hr.trans (List.suffix_cons d s)) hne
    have here := h (d :: s) List.suffix_rfl (List.cons_ne_nil d s)
    have step : findFirst? read (d :: s ++ c :: t) =
        (read (d :: s ++ c :: t)).or (findFirst? read (s ++ c :: t)) := rfl
    have step' : findFirst? read (d :: s) = (read (d :: s)).or (findFirst? read s) := rfl
    rw [step, here, rest, step', Option.or_assoc]

end SqlTutor.Text

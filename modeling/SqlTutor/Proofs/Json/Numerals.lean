import SqlTutor.Json.Number
import SqlTutor.Proofs.Text.Endings
import Mathlib.Algebra.Group.Nat.Defs
import Mathlib.Algebra.Ring.Int.Defs

/-!
Numbers of JSON texts as they are written: a minus or not, a whole part without leading zeros, and
possibly a fraction and an exponent. The reader takes exactly such a number off the front of a text,
and the number ends where no character behind it can belong to it.
-/
namespace SqlTutor.Json

open Text Numeral

/-- The exponent of a number: the letter, a sign or none, and digits. -/
structure WrittenExponent where
  letter : Char
  sign : List Char
  digits : List Char
  letter_mem : letter ∈ ['e', 'E']
  sign_mem : sign ∈ [[], ['+'], ['-']]
  ne_nil : digits ≠ []
  isDigit : ∀ d ∈ digits, d.isDigit

/-- A number, whose fraction is empty if it has no point. -/
structure WrittenNumber where
  negative : Bool
  whole : List Char
  fraction : List Char
  exponent : Option WrittenExponent
  ne_nil : whole ≠ []
  no_zero : whole.head? = some '0' → whole = ['0']
  whole_isDigit : ∀ d ∈ whole, d.isDigit
  fraction_isDigit : ∀ d ∈ fraction, d.isDigit

namespace WrittenExponent

def text (e : WrittenExponent) : List Char := e.letter :: (e.sign ++ e.digits)

def value (e : WrittenExponent) : Int :=
  if e.sign = ['-'] then -Nat.ofDigitChars 10 e.digits 0 else Nat.ofDigitChars 10 e.digits 0

end WrittenExponent

/-- The point and the digits behind it, if there are any. -/
def fractionText (digits : List Char) : List Char := if digits = [] then [] else '.' :: digits

def exponentText (e : Option WrittenExponent) : List Char := (e.map WrittenExponent.text).getD []

def exponentValue (e : Option WrittenExponent) : Int := (e.map WrittenExponent.value).getD 0

namespace WrittenNumber

def minusText (n : WrittenNumber) : List Char := if n.negative then ['-'] else []

def text (n : WrittenNumber) : List Char :=
  n.minusText ++ (n.whole ++ (fractionText n.fraction ++ exponentText n.exponent))

/-- There is neither a fraction nor an exponent. -/
def isWhole (n : WrittenNumber) : Bool := n.fraction.isEmpty && n.exponent.isNone

def numeral (n : WrittenNumber) : Numeral :=
  ⟨n.negative, n.whole, n.fraction, exponentValue n.exponent, n.isWhole⟩

/-- A character that the number would go on with if it stood behind it. -/
def GoesOn (n : WrittenNumber) (c : Char) : Prop :=
  c.isDigit ∨ (c = '.' ∧ n.isWhole) ∨ (c.toLower = 'e' ∧ n.exponent = none)

/-- The text behind the number is no part of it. -/
def EndsAt (n : WrittenNumber) (rest : List Char) : Prop := ∀ c ∈ rest.head?, ¬ n.GoesOn c

end WrittenNumber

theorem readDigits_append {w t : List Char} (hw : ∀ d ∈ w, d.isDigit) (ht : Stops Char.isDigit t) :
    readDigits (w ++ t) = (w, t) := by
  have stop : t.takeWhile Char.isDigit = [] ∧ t.dropWhile Char.isDigit = t := by
    cases t with
    | nil => exact ⟨rfl, rfl⟩
    | cons c t =>
      have no := ht c rfl
      exact ⟨List.takeWhile_cons_of_neg (by simp [no]), List.dropWhile_cons_of_neg (by simp [no])⟩
  rw [readDigits, List.takeWhile_append_of_pos hw, List.dropWhile_append_of_pos hw, stop.1, stop.2,
    List.append_nil]

/-- The digits that are read, and a text in front of which no digit stands. -/
theorem exists_of_readDigits (s : List Char) :
    s = (readDigits s).1 ++ (readDigits s).2 ∧ (∀ d ∈ (readDigits s).1, d.isDigit) ∧
      Stops Char.isDigit (readDigits s).2 := by
  refine ⟨List.takeWhile_append_dropWhile.symm, fun d hd => List.mem_takeWhile_imp hd, ?_⟩
  intro c hc
  have stop := List.head?_dropWhile_not Char.isDigit s
  change c ∈ (s.dropWhile Char.isDigit).head? at hc
  rwa [Option.mem_def.mp hc] at stop

theorem isWholePart_iff {w : List Char} :
    isWholePart w ↔ w ≠ [] ∧ (w.head? = some '0' → w = ['0']) := by
  cases w with
  | nil => simp [isWholePart]
  | cons c w =>
    by_cases zero : c = '0' <;> simp [isWholePart, zero]

namespace WrittenExponent

variable (e : WrittenExponent)

theorem toLower_letter : e.letter.toLower = 'e' :=
  (by decide : ∀ c ∈ ['e', 'E'], c.toLower = 'e') _ e.letter_mem

theorem readSign_append {t : List Char} :
    readSign (e.sign ++ (e.digits ++ t)) = (decide (e.sign = ['-']), e.digits ++ t) := by
  obtain ⟨d, digits, cons⟩ := List.exists_cons_of_ne_nil e.ne_nil
  have digit : d.isDigit := e.isDigit d (cons ▸ List.mem_cons_self)
  have signs := e.sign_mem
  simp only [List.mem_cons, List.not_mem_nil, or_false] at signs
  rcases signs with sign | sign | sign
  · have plain : d ≠ '-' ∧ d ≠ '+' :=
      ⟨fun same => absurd (same ▸ digit) (by decide), fun same => absurd (same ▸ digit) (by decide)⟩
    rw [sign, cons, List.nil_append, List.cons_append, readSign]
    · rfl
    · rintro rest ⟨⟩
      exact plain.1 rfl
    · rintro rest ⟨⟩
      exact plain.2 rfl
  · rw [sign]
    rfl
  · rw [sign]
    rfl

theorem readExponent?_append {t : List Char} (ht : Stops Char.isDigit t) :
    readExponent? (e.text ++ t) = some (e.value, t) := by
  have letter := e.toLower_letter
  have some : e.digits.isEmpty = false := List.isEmpty_eq_false_iff.mpr e.ne_nil
  rw [text, List.cons_append, readExponent?, List.append_assoc, readSign_append]
  simp only [letter, if_true, readDigits_append e.isDigit ht, some, Bool.false_eq_true, if_false,
    decide_eq_true_eq, value]

end WrittenExponent

theorem letter_of_toLower {c : Char} (h : c.toLower = 'e') : c ∈ ['e', 'E'] := by
  by_cases upper : c.isUpper
  · have capital : c.val ≤ 'Z'.val := (of_decide_eq_true upper).2
    have small : c.toNat < 128 := Nat.lt_of_le_of_lt (UInt32.le_iff_toNat_le.mp capital) (by decide)
    have table : ∀ n < 128, (Char.ofNat n).toLower = 'e' → Char.ofNat n ∈ ['e', 'E'] := by decide
    rw [← Char.ofNat_toNat c] at h ⊢
    exact table _ small h
  · rw [toLower_eq_self (Bool.eq_false_iff.mpr upper)] at h
    exact h ▸ List.mem_cons_self

theorem readExponent?_of_not_letter {t : List Char} (ht : ∀ c ∈ t.head?, c.toLower ≠ 'e') :
    readExponent? t = some (0, t) := by
  cases t with
  | nil => rfl
  | cons c t => rw [readExponent?, if_neg (ht c rfl)]

theorem exists_of_readSign (s : List Char) :
    ∃ sign ∈ [[], ['+'], ['-']], s = sign ++ (readSign s).2 ∧
      (readSign s).1 = decide (sign = ['-']) := by
  unfold readSign
  split
  · exact ⟨['-'], by decide, rfl, rfl⟩
  · exact ⟨['+'], by decide, rfl, rfl⟩
  · exact ⟨[], by decide, rfl, rfl⟩

theorem exists_of_readExponent? {s rest : List Char} {value : Int}
    (h : readExponent? s = some (value, rest)) :
    ∃ e, s = exponentText e ++ rest ∧ value = exponentValue e ∧
      (e = none → ∀ c ∈ rest.head?, c.toLower ≠ 'e') ∧ (e ≠ none → Stops Char.isDigit rest) := by
  cases s with
  | nil =>
    obtain ⟨rfl, rfl⟩ := Prod.mk.inj (Option.some.inj h)
    exact ⟨none, rfl, rfl, by simp, fun some => absurd rfl some⟩
  | cons c s =>
    rw [readExponent?] at h
    split at h
    · rename_i letter
      obtain ⟨sign, mem, signed, minus⟩ := exists_of_readSign s
      obtain ⟨cut, digits, stops⟩ := exists_of_readDigits (readSign s).2
      simp only [minus] at h
      split at h
      · exact absurd h (by simp)
      · rename_i nonempty
        obtain ⟨rfl, rfl⟩ := Prod.mk.inj (Option.some.inj h)
        refine ⟨some ⟨c, sign, _, letter_of_toLower letter, mem, by simpa using nonempty, digits⟩,
          ?_, ?_, by simp, fun _ => stops⟩
        · rw [exponentText, Option.map_some, Option.getD_some, WrittenExponent.text,
            List.cons_append, List.append_assoc, ← cut, ← signed]
        · simp only [exponentValue, Option.map_some, Option.getD_some, WrittenExponent.value,
            decide_eq_true_eq]
    · rename_i other
      obtain ⟨rfl, rfl⟩ := Prod.mk.inj (Option.some.inj h)
      refine ⟨none, rfl, rfl, fun _ d hd => ?_, fun some => absurd rfl some⟩
      obtain rfl : c = d := by simpa using hd
      exact other

theorem readFraction?_append {digits t : List Char} (nonempty : digits ≠ [])
    (hdigits : ∀ d ∈ digits, d.isDigit) (ht : Stops Char.isDigit t) :
    readFraction? ('.' :: (digits ++ t)) = some (digits, t) := by
  unfold readFraction?
  simp only [readDigits_append hdigits ht]
  exact if_neg (by simpa using nonempty)

theorem readFraction?_of_not_point {t : List Char} (ht : t.head? ≠ some '.') :
    readFraction? t = some ([], t) := by
  unfold readFraction?
  split
  · exact absurd rfl ht
  · rfl

theorem exists_of_readFraction? {s digits rest : List Char}
    (h : readFraction? s = some (digits, rest)) :
    s = fractionText digits ++ rest ∧ (∀ d ∈ digits, d.isDigit) ∧
      (digits = [] → rest.head? ≠ some '.') ∧ (digits ≠ [] → Stops Char.isDigit rest) := by
  unfold readFraction? at h
  split at h
  · rename_i tail
    obtain ⟨cut, isDigit, stops⟩ := exists_of_readDigits tail
    simp only at h
    split at h
    · exact absurd h (by simp)
    · rename_i nonempty
      obtain ⟨rfl, rfl⟩ := Prod.mk.inj (Option.some.inj h)
      have some : (readDigits tail).1 ≠ [] := by simpa using nonempty
      refine ⟨?_, isDigit, fun empty => absurd empty some, fun _ => stops⟩
      rw [fractionText, if_neg some, List.cons_append, ← cut]
  · rename_i other
    obtain ⟨rfl, rfl⟩ := Prod.mk.inj (Option.some.inj h)
    refine ⟨rfl, by simp, fun _ point => ?_, fun some => absurd rfl some⟩
    cases s with
    | nil => exact absurd point (by simp)
    | cons c s =>
      obtain rfl : c = '.' := by simpa using point
      exact other s rfl

namespace WrittenNumber

variable {n : WrittenNumber} {rest : List Char}

theorem stops_of_endsAt (h : n.EndsAt rest) : Stops Char.isDigit rest := by
  intro c hc
  have ends := h c hc
  simp only [GoesOn, not_or, Bool.not_eq_true] at ends
  exact ends.1

/-- Behind the fraction the exponent is read, or its absence. -/
theorem readExponent?_exponentText (h : n.EndsAt rest) :
    Numeral.readExponent? (exponentText n.exponent ++ rest) =
      some (exponentValue n.exponent, rest) := by
  cases exponent : n.exponent with
  | none =>
    refine readExponent?_of_not_letter fun c hc letter => h c hc ?_
    exact Or.inr (Or.inr ⟨letter, exponent⟩)
  | some e => exact e.readExponent?_append (stops_of_endsAt h)

theorem stops_exponentText (h : n.EndsAt rest) :
    Stops Char.isDigit (exponentText n.exponent ++ rest) := by
  cases n.exponent with
  | none => exact stops_of_endsAt h
  | some e =>
    exact stops_cons ((by decide : ∀ c ∈ ['e', 'E'], c.isDigit = false) _ e.letter_mem) _

theorem point_exponentText (h : n.EndsAt rest) (empty : n.fraction = []) :
    (exponentText n.exponent ++ rest).head? ≠ some '.' := by
  cases exponent : n.exponent with
  | none =>
    intro point
    refine h '.' point (Or.inr (Or.inl ⟨rfl, ?_⟩))
    rw [isWhole, empty, exponent]
    rfl
  | some e =>
    intro point
    have letter : e.letter = '.' := Option.some.inj point
    exact absurd (letter ▸ e.letter_mem) (by decide)

theorem readFraction?_fractionText (h : n.EndsAt rest) :
    Numeral.readFraction? (fractionText n.fraction ++ (exponentText n.exponent ++ rest)) =
      some (n.fraction, exponentText n.exponent ++ rest) := by
  by_cases empty : n.fraction = []
  · rw [empty]
    exact readFraction?_of_not_point (point_exponentText h empty)
  · rw [fractionText, if_neg empty]
    exact readFraction?_append empty n.fraction_isDigit (stops_exponentText h)

theorem stops_fractionText (h : n.EndsAt rest) :
    Stops Char.isDigit (fractionText n.fraction ++ (exponentText n.exponent ++ rest)) := by
  unfold fractionText
  split
  · exact stops_exponentText h
  · exact stops_cons rfl _

/-- The number is whole if neither a point nor the letter of an exponent comes next. -/
theorem endsWhole_fractionText (h : n.EndsAt rest) :
    Numeral.endsWhole (fractionText n.fraction ++ (exponentText n.exponent ++ rest)) =
      n.isWhole := by
  by_cases empty : n.fraction = []
  · cases exponent : n.exponent with
    | none =>
      have whole : n.isWhole := by
        rw [isWhole, empty, exponent]
        rfl
      rw [whole, empty]
      cases rest with
      | nil => rfl
      | cons c rest =>
        have ends := h c rfl
        simp only [GoesOn, not_or] at ends
        have point : c ≠ '.' := fun same => ends.2.1 ⟨same, whole⟩
        have letter : c.toLower ≠ 'e' := fun same => ends.2.2 ⟨same, exponent⟩
        simp [fractionText, exponentText, Numeral.endsWhole, point, letter]
    | some e =>
      have notWhole : n.isWhole = false := by
        rw [isWhole, exponent]
        exact Bool.and_false _
      simp [notWhole, empty, fractionText, exponentText, WrittenExponent.text, Numeral.endsWhole,
        e.toLower_letter]
  · rw [isWhole, List.isEmpty_eq_false_iff.mpr empty, fractionText, if_neg empty]
    rfl

theorem readMinus_minusText {t : List Char} (ht : t.head? ≠ some '-') :
    Numeral.readMinus (n.minusText ++ t) = (n.negative, t) := by
  unfold minusText
  cases n.negative with
  | true => rfl
  | false =>
    cases t with
    | nil => rfl
    | cons c t =>
      have other : c ≠ '-' := by simpa using ht
      simp [Numeral.readMinus, other]

theorem read?_append (h : n.EndsAt rest) :
    Numeral.read? (n.text ++ rest) = some (n.numeral, rest) := by
  have wholePart : Numeral.isWholePart n.whole := isWholePart_iff.mpr ⟨n.ne_nil, n.no_zero⟩
  have minus : (n.whole ++ (fractionText n.fraction ++ (exponentText n.exponent ++ rest))).head? ≠
      some '-' := by
    obtain ⟨d, digits, cons⟩ := List.exists_cons_of_ne_nil n.ne_nil
    have digit : d.isDigit := n.whole_isDigit d (cons ▸ List.mem_cons_self)
    rw [cons, List.cons_append, List.head?_cons]
    rintro ⟨⟩
    exact absurd digit (by decide)
  rw [text, List.append_assoc, List.append_assoc, List.append_assoc, Numeral.read?,
    readMinus_minusText minus]
  simp only [readDigits_append n.whole_isDigit (stops_fractionText h), wholePart, if_true,
    readFraction?_fractionText h, Option.bind_some, readExponent?_exponentText h,
    Option.map_some, endsWhole_fractionText h, numeral]

theorem eq_minus_of_readMinus (s : List Char) :
    s = (if (Numeral.readMinus s).1 then ['-'] else []) ++ (Numeral.readMinus s).2 := by
  unfold Numeral.readMinus
  split <;> rfl

theorem exists_of_read? {s : List Char} {m : Numeral} (h : Numeral.read? s = some (m, rest)) :
    ∃ n : WrittenNumber, s = n.text ++ rest ∧ n.numeral = m ∧ n.EndsAt rest := by
  have minus := eq_minus_of_readMinus s
  obtain ⟨cutWhole, digits, stopsWhole⟩ := exists_of_readDigits (Numeral.readMinus s).2
  simp only [Numeral.read?] at h
  split at h
  · rename_i wholePart
    obtain ⟨nonempty, noZero⟩ := isWholePart_iff.mp wholePart
    simp only [Option.bind_eq_some_iff, Option.map_eq_some_iff, Prod.mk.injEq] at h
    obtain ⟨⟨fraction, behind⟩, readFraction, ⟨value, last⟩, readExponent, rfl, rfl⟩ := h
    generalize (readDigits (Numeral.readMinus s).2).2 = afterWhole at *
    generalize (readDigits (Numeral.readMinus s).2).1 = whole at *
    obtain ⟨cutFraction, digitsFraction, noPoint, stops⟩ := exists_of_readFraction? readFraction
    obtain ⟨e, cutExponent, rfl, noLetter, stopsLast⟩ := exists_of_readExponent? readExponent
    let n : WrittenNumber := ⟨(Numeral.readMinus s).1, whole, fraction, e, nonempty, noZero, digits,
      digitsFraction⟩
    have noDigit : ∀ c ∈ last.head?, c.isDigit = false := by
      by_cases empty : e = none
      · subst empty
        obtain rfl : behind = last := cutExponent
        by_cases empty : fraction = []
        · subst empty
          obtain rfl : afterWhole = behind := cutFraction
          exact stopsWhole
        · exact stops empty
      · exact stopsLast empty
    have ends : n.EndsAt last := by
      rintro c hc (digit | ⟨rfl, isWhole⟩ | ⟨letter, empty⟩)
      · exact absurd digit (Bool.eq_false_iff.mp (noDigit c hc))
      · rw [WrittenNumber.isWhole, Bool.and_eq_true, List.isEmpty_iff,
          Option.isNone_iff_eq_none] at isWhole
        obtain rfl : e = none := isWhole.2
        obtain rfl : behind = last := cutExponent
        exact noPoint isWhole.1 hc
      · exact noLetter empty c hc letter
    refine ⟨n, ?_, ?_, ends⟩
    · rw [text, List.append_assoc, List.append_assoc, List.append_assoc]
      change s = (if (Numeral.readMinus s).1 then ['-'] else []) ++
        (whole ++ (fractionText fraction ++ (exponentText e ++ last)))
      rw [← cutExponent, ← cutFraction, ← cutWhole, ← minus]
    · rw [numeral, ← endsWhole_fractionText ends]
      change Numeral.mk _ _ _ _
        (Numeral.endsWhole (fractionText fraction ++ (exponentText e ++ last))) = _
      rw [← cutExponent, ← cutFraction]
  · exact absurd h (by simp)

def wholeValue (n : WrittenNumber) : Nat := Nat.ofDigitChars 10 n.whole 0

/-- The whole number that is written; -0 is none. -/
def integer? (n : WrittenNumber) : Option Int :=
  if n.isWhole = false ∨ n.negative ∧ n.wholeValue = 0 then none
  else some (if n.negative then -n.wholeValue else n.wholeValue)

theorem toNumber?_eq (n : WrittenNumber) : n.numeral.toNumber? =
    if n.isWhole && !n.negative && n.wholeValue ≤ 2 ^ 64 - 1 then some (.int n.wholeValue)
    else if n.isWhole && n.negative && 0 < n.wholeValue && n.wholeValue ≤ 2 ^ 63 then
      some (.int (-n.wholeValue))
    else n.numeral.toDouble?.map .float := by
  have limit : significandLimit = 2 ^ 64 - 1 := by decide
  have power : twoTo 63 = 2 ^ 63 := by decide
  rw [← limit, ← power]
  rfl

/-- Whole numbers of 64 bits, with a sign or without one, stay whole. -/
theorem toNumber?_of_integer? {k : Int} (h : n.integer? = some k) (least : -2 ^ 63 ≤ k)
    (greatest : k < 2 ^ 64) : n.numeral.toNumber? = some (.int k) := by
  unfold integer? at h
  split at h
  · exact absurd h (by simp)
  · rename_i whole
    rw [not_or, Bool.not_eq_false] at whole
    obtain rfl := Option.some.inj h
    rw [toNumber?_eq]
    cases sign : n.negative with
    | false =>
      have small : n.wholeValue ≤ 2 ^ 64 - 1 := by
        simp only [sign, Bool.false_eq_true, if_false] at greatest
        omega
      simp only [whole.1, small, Bool.not_false, Bool.and_self, decide_true, if_true,
        Bool.false_eq_true, if_false]
    | true =>
      have positive : 0 < n.wholeValue := Nat.pos_of_ne_zero fun zero => whole.2 ⟨sign, zero⟩
      have small : n.wholeValue ≤ 2 ^ 63 := by
        simp only [sign, if_true] at least
        omega
      simp only [whole.1, small, positive, Bool.not_true, Bool.and_false, Bool.false_and,
        Bool.false_eq_true, if_false, Bool.and_self, decide_true, if_true]

/-- All other numbers become doubles. -/
theorem toNumber?_of_not_integer? (h : ∀ k, n.integer? = some k → k < -2 ^ 63 ∨ 2 ^ 64 ≤ k) :
    n.numeral.toNumber? = n.numeral.toDouble?.map .float := by
  unfold integer? at h
  rw [toNumber?_eq]
  cases whole : n.isWhole with
  | false => simp
  | true =>
    cases sign : n.negative with
    | false =>
      have large := h n.wholeValue (by simp [whole, sign])
      have beyond : ¬ n.wholeValue ≤ 2 ^ 64 - 1 := by omega
      simp only [beyond, decide_false, Bool.and_false, Bool.not_false, Bool.false_and,
        Bool.false_eq_true, if_false]
    | true =>
      by_cases zero : n.wholeValue = 0
      · simp [zero]
      · have large := h (-n.wholeValue) (by simp [whole, sign, zero])
        have beyond : ¬ n.wholeValue ≤ 2 ^ 63 := by omega
        simp only [beyond, decide_false, Bool.and_false, Bool.not_true, Bool.false_and,
          Bool.false_eq_true, if_false]

end WrittenNumber

end SqlTutor.Json

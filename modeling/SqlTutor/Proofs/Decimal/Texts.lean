import SqlTutor.Proofs.Decimal.Values
import SqlTutor.Proofs.Json.Numerals
import SqlTutor.Proofs.Value.Agreement

/-!
Numbers that are shown, and read back from what is shown. Without an exponent the text of a decimal
writes out its number, with zeros at either end where the digits do not reach the point. Every value
with a number is read back as that number, integers and infinities included; only what is not a
number is left out.
-/
namespace SqlTutor

open Text

namespace Decimal

theorem readDigits_all {digits : List Char} (h : ∀ c ∈ digits, c.isDigit) :
    readDigits digits = (digits, []) := by
  have nothing : Stops Char.isDigit [] := by simp [Stops]
  simpa using Json.readDigits_append h nothing

theorem ofText?_digits {whole : List Char} (h : ∀ c ∈ whole, c.isDigit) (nonempty : whole ≠ []) :
    ofText? whole = some ⟨Nat.ofDigitChars 10 whole 0, 0⟩ := by
  simp [ofText?, readDigits_all h, nonempty, readExponent?]

theorem ofText?_point {whole fraction : List Char} (hw : ∀ c ∈ whole, c.isDigit)
    (hf : ∀ c ∈ fraction, c.isDigit) (nonempty : whole ≠ []) :
    ofText? (whole ++ '.' :: fraction) =
      some ⟨Nat.ofDigitChars 10 (whole ++ fraction) 0, -fraction.length⟩ := by
  have point : Stops Char.isDigit ('.' :: fraction) := stops_cons (by decide) fraction
  simp [ofText?, Json.readDigits_append hw point, readDigits_all hf, nonempty, readExponent?]

theorem isDigit_of_mem_zeros {n : Nat} {c : Char} (h : c ∈ List.replicate n '0') : c.isDigit := by
  rw [List.eq_of_mem_replicate h]
  decide

section PlainText

variable (d : Decimal)

theorem isDigit_of_mem_digits {c : Char} (h : c ∈ d.digits) : c.isDigit := isDigit_of_mem_toDigits h

theorem ofDigitChars_digits : Nat.ofDigitChars 10 d.digits 0 = d.significand :=
  Nat.ofDigitChars_ten_toDigits

/-- Zeros follow the digits of a multiple of a power of ten. -/
theorem exists_ofText?_whole (h : 0 ≤ d.exponent) :
    ∃ e, ofText? (d.digits ++ List.replicate d.exponent.toNat '0') = some e ∧
      e.value = d.value := by
  have digits : ∀ c ∈ d.digits ++ List.replicate d.exponent.toNat '0', c.isDigit :=
    List.forall_mem_append.mpr ⟨fun c => isDigit_of_mem_digits d, fun c => isDigit_of_mem_zeros⟩
  refine ⟨_, ofText?_digits digits (List.append_ne_nil_of_left_ne_nil Nat.toDigits_ne_nil _), ?_⟩
  rw [value, value, ofDigitChars_append_zeros, ofDigitChars_digits, Nat.cast_mul, tenTo_toNat h,
    zpow_zero, mul_one]

/-- Zeros come before the digits of a fraction, as many as its point needs. -/
theorem exists_ofText?_fraction {padded : List Char} {places : Nat} (h : d.exponent = -places)
    (hpadded : padded = List.replicate (places + 1 - d.digits.length) '0' ++ d.digits) :
    ∃ e, ofText? (padded.take (padded.length - places) ++
        '.' :: padded.drop (padded.length - places)) = some e ∧ e.value = d.value := by
  have digits : ∀ c ∈ padded, c.isDigit := by
    rw [hpadded]
    exact List.forall_mem_append.mpr
      ⟨fun c => isDigit_of_mem_zeros, fun c => isDigit_of_mem_digits d⟩
  have long : places < padded.length := by
    rw [hpadded, List.length_append, List.length_replicate]
    omega
  have whole : padded.take (padded.length - places) ≠ [] := by
    refine List.ne_nil_of_length_pos ?_
    rw [List.length_take]
    omega
  have number : Nat.ofDigitChars 10 padded 0 = d.significand := by
    rw [hpadded, Nat.ofDigitChars_append, Nat.ofDigitChars_replicate_zero, Nat.mul_zero,
      ofDigitChars_digits]
  have behind : (padded.drop (padded.length - places)).length = places := by
    rw [List.length_drop]
    omega
  refine ⟨_, ofText?_point (fun c hc => digits c (List.mem_of_mem_take hc))
    (fun c hc => digits c (List.mem_of_mem_drop hc)) whole, ?_⟩
  rw [List.take_append_drop, number, behind, value, value, h]

/-- The text without an exponent writes out the number. -/
theorem exists_ofText?_plainText :
    ∃ e, ofText? (d.plainText false) = some e ∧ e.value = d.value := by
  unfold plainText
  dsimp only
  split
  · rename_i nonneg
    simpa using exists_ofText?_whole d nonneg
  · rename_i negative
    exact exists_ofText?_fraction d (by omega) rfl

end PlainText

/-- A decimal begins with a digit or with its point. -/
theorem exists_cons_of_ofText? {s : List Char} {d : Decimal} (h : ofText? s = some d) :
    ∃ c rest, s = c :: rest ∧ (c.isDigit ∨ c = '.') := by
  cases s with
  | nil => exact absurd h (by simp [ofText?, readDigits])
  | cons c rest =>
    refine ⟨c, rest, rfl, ?_⟩
    by_contra other
    rw [not_or, Bool.not_eq_true] at other
    simp [ofText?, readDigits, other] at h

end Decimal

namespace Double

/-- A decimal has neither a sign nor a name, so it is read as a number with any sign before it. -/
theorem ofText?_of_decimal {s : List Char} {d : Decimal} (h : Decimal.ofText? s = some d)
    (negative : Bool) :
    ofText? ((if negative then ['-'] else []) ++ s) = some (d.toDouble negative) := by
  obtain ⟨c, rest, rfl, first⟩ := Decimal.exists_cons_of_ofText? h
  obtain ⟨minus, plus, letter⟩ : c ≠ '-' ∧ c ≠ '+' ∧ ∀ k ∈ ['i', 'n'], c.toLower ≠ k := by
    rcases first with digit | rfl
    · exact of_isDigit digit (fun c => c ≠ '-' ∧ c ≠ '+' ∧ ∀ k ∈ ['i', 'n'], c.toLower ≠ k)
        (by decide)
    · decide
  have sign : readSign ((if negative then ['-'] else []) ++ c :: rest) = (negative, c :: rest) := by
    cases negative with
    | true => rfl
    | false => simp [readSign, minus, plus]
  have noName : ∀ k ∈ ['i', 'n'], ∀ name, lowerAscii (c :: rest) ≠ k :: name :=
    fun k hk _ same => letter k hk (List.cons.inj same).1
  have finite : ¬ (lowerAscii (c :: rest) = "inf".toList ∨
      lowerAscii (c :: rest) = "infinity".toList) :=
    not_or.mpr ⟨noName 'i' (by decide) _, noName 'i' (by decide) _⟩
  have number : lowerAscii (c :: rest) ≠ "nan".toList := noName 'n' (by decide) _
  unfold ofText?
  simp only [sign]
  rw [if_neg finite, if_neg number, h, Option.map_some]

theorem ofText?_text_shownLayout {x : Double} (h : x.isFinite) :
    ofText? (shownLayout.text x) = some x := by
  obtain ⟨d, hd, index⟩ : ∃ d, d = (if x.index = 0 then ⟨0, 0⟩
      else Decimal.shortest shownLayout.tie x.index) ∧ d.nearestIndex = x.index := by
    refine ⟨_, rfl, ?_⟩
    split
    · rename_i zero
      rw [zero]
      decide
    · exact Decimal.nearestIndex_shortest _ (of_decide_eq_true h)
  obtain ⟨e, read, same⟩ := d.exists_ofText?_plainText
  have text : shownLayout.text x = (if x.negative then ['-'] else []) ++ d.plainText false := by
    rw [Layout.text, ← hd]
    rfl
  have number : e.toDouble x.negative = x := by
    refine eq_of_negative_of_index rfl ?_
    exact (Decimal.nearestIndex_eq_of_value_eq same).trans index
  rw [text, ofText?_of_decimal read, number]

theorem ofText?_shown {x : Double} (h : x.isNaN = false) : ofText? x.shown = some x := by
  unfold shown
  by_cases finite : x.isFinite
  · rw [if_pos finite]
    exact ofText?_text_shownLayout finite
  · have infinite : x.index = infinityIndex := by
      have upper : ¬ infinityIndex < x.index := of_decide_eq_false h
      have lower : ¬ x.index < infinityIndex := fun less => finite (decide_eq_true less)
      omega
    rw [if_neg finite, h, if_neg Bool.false_ne_true]
    cases sign : x.negative with
    | true => exact congrArg some (eq_of_negative_of_index sign infinite).symm
    | false => exact congrArg some (eq_of_negative_of_index sign infinite).symm

theorem ofText?_integerText (n : Int) : ofText? (integerText n) = some (ofInt n) := by
  have digits : ∀ c ∈ Nat.toDigits 10 n.natAbs, c.isDigit := fun c => isDigit_of_mem_toDigits
  have read := Decimal.ofText?_digits digits Nat.toDigits_ne_nil
  have sign : (if n < 0 then ['-'] else []) = if decide (n < 0) then ['-'] else [] := by simp
  rw [integerText, sign, ofText?_of_decimal read, Nat.ofDigitChars_ten_toDigits]
  have magnitude : (Decimal.toDouble false ⟨n.natAbs, 0⟩).index = (ofNat n.natAbs).index :=
    congrArg index (Decimal.toDouble_ofNat n.natAbs)
  exact congrArg some (eq_of_negative_of_index rfl magnitude)

end Double

namespace Value

/-- The shown text of a number reads as that number. -/
theorem ofText?_shown_number {v : Value} {x : Double} (h : v.number? = some x)
    (number : x.isNaN = false) : Double.ofText? v.shown = some x := by
  cases v with
  | int n =>
    obtain rfl := Option.some.inj h
    exact Double.ofText?_integerText n.toInt
  | float y =>
    obtain rfl := Option.some.inj h
    exact Double.ofText?_shown number
  | null | bool | text => nomatch h

end Value

end SqlTutor

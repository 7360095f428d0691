import SqlTutor.Json.Token

/-!
Reading numbers of JSON texts. Whole numbers stay whole while 64 bits hold them. Every other
number is read in two roundings: the leading digits that fit 64 bits make a significand, rounded
to a double, which is then multiplied or divided by a power of ten, itself rounded to a double.
The result can differ from the nearest double in its last place.
-/
namespace SqlTutor.Json

/-- The greatest significand. -/
def significandLimit : Nat := twoTo 64 - 1

/-- Takes digits up as long as the significand stays within 64 bits; also gives the digits left. -/
def takeUp (significand : Nat) : List Char → Nat × List Char
  | [] => (significand, [])
  | c :: rest =>
    if significand * 10 + (c.toNat - 48) ≤ significandLimit then
      takeUp (significand * 10 + (c.toNat - 48)) rest
    else (significand, c :: rest)

def powerOfTen (n : Nat) : Double := Double.ofNat (tenTo n)

/-- The double times a power of ten; nothing when that is out of range. Steps of 308 places go
down at a time, until nothing is left. -/
def scale (x : Double) (exponent : Int) : Option Double :=
  if x.index = 0 then some x
  else if 0 ≤ exponent then
    if 308 < exponent then none
    else
      let y := x.product (powerOfTen exponent.toNat)
      if y.isFinite then some y else none
  else if -308 ≤ exponent then some (x.quotient (powerOfTen exponent.natAbs))
  else scale (x.quotient (powerOfTen 308)) (exponent + 308)
termination_by exponent.natAbs

/-- The digits of a number, its point and exponent read off. -/
structure Numeral where
  negative : Bool
  whole : List Char
  fraction : List Char
  exponent : Int
  /-- Whether there is neither a fraction nor an exponent. -/
  isWhole : Bool

namespace Numeral

/-- Digits before the point that do not fit count as places, those behind it are dropped. -/
def toDouble? (n : Numeral) : Option Double :=
  let (leading, places) := takeUp 0 n.whole
  let (significand, dropped) := takeUp leading n.fraction
  let exponent := n.exponent + places.length - (n.fraction.length - dropped.length : Nat)
  (scale (Double.ofNat significand) exponent).map fun x => ⟨n.negative, x.index, x.index_lt⟩

/-- Whole numbers from -2^63 up to 2^64 - 1 stay whole, but -0 does not. -/
def toNumber? (n : Numeral) : Option Number :=
  let value := Nat.ofDigitChars 10 n.whole 0
  if n.isWhole && !n.negative && value ≤ significandLimit then some (.int value)
  else if n.isWhole && n.negative && 0 < value && value ≤ twoTo 63 then some (.int (-value))
  else n.toDouble?.map .float

/-- A point and at least one digit, or nothing. -/
def readFraction? (s : List Char) : Option (List Char × List Char) :=
  match s with
  | '.' :: rest =>
    let (digits, rest) := readDigits rest
    if digits.isEmpty then none else some (digits, rest)
  | _ => some ([], s)

/-- The letter, a sign if any and at least one digit, or nothing. -/
def readExponent? (s : List Char) : Option (Int × List Char) :=
  match s with
  | [] => some (0, s)
  | c :: rest =>
    if c.toLower = 'e' then
      let (negative, rest) := readSign rest
      let (digits, rest) := readDigits rest
      let n := Nat.ofDigitChars 10 digits 0
      if digits.isEmpty then none else some (if negative then -n else n, rest)
    else some (0, s)

def readMinus (s : List Char) : Bool × List Char :=
  match s with
  | '-' :: rest => (true, rest)
  | _ => (false, s)

/-- At least one digit, and no zero before another one. -/
def isWholePart (digits : List Char) : Bool :=
  !digits.isEmpty && (digits.head? != some '0' || digits.length == 1)

/-- Whether the number ends behind its whole part. -/
def endsWhole (s : List Char) : Bool :=
  match s with
  | [] => true
  | c :: _ => c != '.' && c.toLower != 'e'

/-- Reads a number off the front of a text. -/
def read? (s : List Char) : Option (Numeral × List Char) :=
  let (negative, s) := readMinus s
  let (whole, s) := readDigits s
  if isWholePart whole then
    (readFraction? s).bind fun (fraction, afterFraction) =>
      (readExponent? afterFraction).map fun (exponent, rest) =>
        (⟨negative, whole, fraction, exponent, endsWhole s⟩, rest)
  else none

theorem readDigits_length_le (s : List Char) : (readDigits s).2.length ≤ s.length :=
  (List.dropWhile_sublist _).length_le

theorem readFraction?_length_le {s rest : List Char} {digits : List Char}
    (h : readFraction? s = some (digits, rest)) : rest.length ≤ s.length := by
  unfold readFraction? at h
  split at h
  · rename_i tail
    have := readDigits_length_le tail
    simp only at h
    split at h
    · simp at h
    · simp only [Option.some.injEq, Prod.mk.injEq] at h
      simp only [← h.2, List.length_cons]
      omega
  · simp only [Option.some.injEq, Prod.mk.injEq] at h
    simp [← h.2]

theorem readSign_length_le (s : List Char) : (readSign s).2.length ≤ s.length := by
  unfold readSign
  split <;> simp

theorem readExponent?_length_le {s rest : List Char} {exponent : Int}
    (h : readExponent? s = some (exponent, rest)) : rest.length ≤ s.length := by
  unfold readExponent? at h
  split at h
  · simp_all
  · rename_i c tail
    have h₁ := readSign_length_le tail
    have h₂ := readDigits_length_le (readSign tail).2
    split at h
    · simp only at h
      split at h
      · simp at h
      · simp only [Option.some.injEq, Prod.mk.injEq] at h
        simp only [← h.2, List.length_cons]
        omega
    · simp only [Option.some.injEq, Prod.mk.injEq] at h
      simp [← h.2]

theorem readDigits_length_lt {s : List Char} (h : (readDigits s).1.isEmpty = false) :
    (readDigits s).2.length < s.length := by
  have hs := congrArg List.length (List.takeWhile_append_dropWhile (p := Char.isDigit) (l := s))
  rw [List.length_append] at hs
  have : 0 < (s.takeWhile Char.isDigit).length := by
    cases hd : s.takeWhile Char.isDigit with
    | nil => simp [readDigits, hd] at h
    | cons => simp
  simp only [readDigits]
  omega

theorem readMinus_length_le (s : List Char) : (readMinus s).2.length ≤ s.length := by
  unfold readMinus
  split <;> simp

theorem read?_length_lt {s rest : List Char} {numeral : Numeral}
    (h : read? s = some (numeral, rest)) : rest.length < s.length := by
  simp only [read?] at h
  split at h
  · rename_i hwhole
    simp only [isWholePart, Bool.and_eq_true, Bool.not_eq_true'] at hwhole
    have h₀ := readMinus_length_le s
    have h₁ := readDigits_length_lt hwhole.1
    simp only [Option.bind_eq_some_iff, Option.map_eq_some_iff] at h
    obtain ⟨⟨fraction, middle⟩, hf, ⟨exponent, last⟩, he, h⟩ := h
    have h₂ := readFraction?_length_le hf
    have h₃ := readExponent?_length_le he
    simp only [Prod.mk.injEq] at h h₃
    rw [← h.2]
    omega
  · simp at h

end Numeral

end SqlTutor.Json

import SqlTutor.Json.Number
import SqlTutor.Text.Scan

/-!
JSON texts cut into tokens. The first place that no token fits gives `bad` and ends them.
-/
namespace SqlTutor.Json

def isSpace (c : Char) : Bool := c == ' ' || c == '\n' || c == '\t' || c == '\r'

def hexDigit? (c : Char) : Option Nat :=
  if c.isDigit then some (c.toNat - 48)
  else if 'a' ≤ c.toLower ∧ c.toLower ≤ 'f' then some (c.toLower.toNat - 87)
  else none

/-- The code unit that four hexadecimal digits write. -/
def codeUnit? (s : List Char) : Option (Nat × List Char) :=
  match s with
  | a :: b :: c :: d :: rest => do
    let a ← hexDigit? a
    let b ← hexDigit? b
    let c ← hexDigit? c
    let d ← hexDigit? d
    some (((a * 16 + b) * 16 + c) * 16 + d, rest)
  | _ => none

/-- The character of one code unit, or of a pair of surrogates; a surrogate alone is refused. -/
def unicodeEscape? (s : List Char) : Option (Char × List Char) := do
  let (unit, rest) ← codeUnit? s
  if 0xdc00 ≤ unit ∧ unit ≤ 0xdfff then none
  else if 0xd800 ≤ unit ∧ unit ≤ 0xdbff then
    match rest with
    | '\\' :: 'u' :: rest => do
      let (low, rest) ← codeUnit? rest
      if 0xdc00 ≤ low ∧ low ≤ 0xdfff then
        some (Char.ofNat (0x10000 + (unit - 0xd800) * 0x400 + (low - 0xdc00)), rest)
      else none
    | _ => none
  else some (Char.ofNat unit, rest)

/-- The character that a letter behind a backslash stands for. -/
def simpleEscape? (c : Char) : Option Char :=
  if c == '"' || c == '\\' || c == '/' then some c
  else if c == 'b' then some '\x08'
  else if c == 'f' then some '\x0c'
  else if c == 'n' then some '\n'
  else if c == 'r' then some '\r'
  else if c == 't' then some '\t'
  else none

/-- The character that an escape stands for, the backslash read already. -/
def escape? (s : List Char) : Option (Char × List Char) :=
  match s with
  | [] => none
  | c :: rest =>
    match simpleEscape? c with
    | some e => some (e, rest)
    | none => if c == 'u' then unicodeEscape? rest else none

theorem codeUnit?_length_le {s rest : List Char} {unit : Nat}
    (h : codeUnit? s = some (unit, rest)) : rest.length ≤ s.length := by
  unfold codeUnit? at h
  split at h
  · simp only [Option.bind_eq_bind, Option.bind_eq_some_iff] at h
    obtain ⟨_, _, _, _, _, _, _, _, h⟩ := h
    simp only [Option.some.injEq, Prod.mk.injEq] at h
    simp only [← h.2, List.length_cons]
    omega
  · simp at h

theorem unicodeEscape?_length_le {s rest : List Char} {c : Char}
    (h : unicodeEscape? s = some (c, rest)) : rest.length ≤ s.length := by
  simp only [unicodeEscape?, Option.bind_eq_bind, Option.bind_eq_some_iff] at h
  obtain ⟨⟨unit, middle⟩, hu, h⟩ := h
  have hm := codeUnit?_length_le hu
  simp only at h
  split at h
  · simp at h
  · split at h
    · split at h
      · simp only [Option.bind_eq_some_iff] at h
        obtain ⟨⟨low, rest'⟩, hl, h⟩ := h
        have := codeUnit?_length_le hl
        simp only at h
        split at h
        · simp only [Option.some.injEq, Prod.mk.injEq] at h
          simp only [List.length_cons] at hm
          rw [← h.2]
          omega
        · simp at h
      · simp at h
    · simp only [Option.some.injEq, Prod.mk.injEq] at h
      rw [← h.2]
      exact hm

theorem escape?_length_lt {s rest : List Char} {c : Char}
    (h : escape? s = some (c, rest)) : rest.length < s.length := by
  unfold escape? at h
  split at h
  · simp at h
  · split at h
    · cases h
      exact Nat.lt_succ_self _
    · split at h
      · exact Nat.lt_succ_of_le (unicodeEscape?_length_le h)
      · simp at h

/-- The characters up to the closing quote. Control characters have to be escaped. -/
def readString? : List Char → Option (List Char × List Char)
  | [] => none
  | c :: rest =>
    if c == '"' then some ([], rest)
    else if c == '\\' then
      match _ : escape? rest with
      | some (e, rest) => (readString? rest).map fun (s, rest) => (e :: s, rest)
      | none => none
    else if c.toNat < 0x20 then none
    else (readString? rest).map fun (s, rest) => (c :: s, rest)
termination_by s => s.length
decreasing_by
  · exact Nat.lt_succ_of_lt (escape?_length_lt ‹_›)
  · exact Nat.lt_succ_self _

theorem readString?_length_lt {s rest t : List Char} (h : readString? s = some (t, rest)) :
    rest.length < s.length := by
  fun_induction readString? s generalizing t with
  | case1 => simp at h
  | case2 c tail hc =>
    simp only [Option.some.injEq, Prod.mk.injEq] at h
    simp [← h.2]
  | case3 c tail hq hb e after hesc ih =>
    simp only [Option.map_eq_some_iff, Prod.mk.injEq] at h
    obtain ⟨⟨u, last⟩, hu, -, rfl⟩ := h
    exact Nat.lt_succ_of_lt (Nat.lt_trans (ih hu) (escape?_length_lt hesc))
  | case4 c tail hq hb hesc => simp at h
  | case5 c tail hq hb hc => simp at h
  | case6 c tail hq hb hc ih =>
    simp only [Option.map_eq_some_iff, Prod.mk.injEq] at h
    obtain ⟨⟨u, last⟩, hu, -, rfl⟩ := h
    exact Nat.lt_succ_of_lt (ih hu)

def punctuation? (c : Char) : Option Token :=
  if c == '\x7b' then some .openObject
  else if c == '\x7d' then some .closeObject
  else if c == '[' then some .openArray
  else if c == ']' then some .closeArray
  else if c == ',' then some .comma
  else if c == ':' then some .colon
  else none

def readNumber? (s : List Char) : Option (Token × List Char) :=
  (Numeral.read? s).bind fun (numeral, rest) =>
    numeral.toNumber?.map fun number => (.number number, rest)

/-- Reads one of the three words. -/
def readName? (s : List Char) : Option (Token × List Char) :=
  match Text.exactly? "null".toList s with
  | some rest => some (.null, rest)
  | none =>
    match Text.exactly? "true".toList s with
    | some rest => some (.bool true, rest)
    | none => (Text.exactly? "false".toList s).map fun rest => (.bool false, rest)

/-- Reads the token at the front of a text that starts with no space. -/
def Token.read? (s : List Char) : Option (Token × List Char) :=
  match s with
  | [] => none
  | c :: rest =>
    match punctuation? c with
    | some token => some (token, rest)
    | none =>
      if c == '"' then (readString? rest).map fun (s, rest) => (.string (String.ofList s), rest)
      else if c.isAlpha then readName? s
      else readNumber? s

theorem exactly?_length_lt {c : Char} {key s rest : List Char}
    (h : Text.exactly? (c :: key) s = some rest) : rest.length < s.length := by
  cases s with
  | nil => simp [Text.exactly?] at h
  | cons d s =>
    simp only [Text.exactly?] at h
    split at h
    · exact Nat.lt_succ_of_le (Text.exactly?_length_le h)
    · simp at h

theorem readName?_length_lt {s rest : List Char} {token : Token}
    (h : readName? s = some (token, rest)) : rest.length < s.length := by
  unfold readName? at h
  split at h
  · rename_i hs
    cases h
    exact exactly?_length_lt hs
  · split at h
    · rename_i hs
      cases h
      exact exactly?_length_lt hs
    · obtain ⟨last, hs, h⟩ := Option.map_eq_some_iff.mp h
      cases h
      exact exactly?_length_lt hs

theorem Token.read?_length_lt {s rest : List Char} {token : Token}
    (h : Token.read? s = some (token, rest)) : rest.length < s.length := by
  unfold Token.read? at h
  split at h
  · simp at h
  · rename_i c tail
    split at h
    · cases h
      exact Nat.lt_succ_self _
    · split at h
      · obtain ⟨⟨u, last⟩, hs, h⟩ := Option.map_eq_some_iff.mp h
        cases h
        exact Nat.lt_succ_of_lt (readString?_length_lt hs)
      · split at h
        · exact readName?_length_lt h
        · obtain ⟨⟨numeral, last⟩, hs, h⟩ := Option.bind_eq_some_iff.mp h
          obtain ⟨number, -, h⟩ := Option.map_eq_some_iff.mp h
          cases h
          exact Numeral.read?_length_lt hs

/-- The tokens of a text. -/
def lex (s : List Char) : List Token :=
  match s with
  | [] => []
  | c :: rest =>
    if isSpace c then lex rest
    else
      match _ : Token.read? (c :: rest) with
      | none => [.bad]
      | some (token, after) => token :: lex after
termination_by s.length
decreasing_by
  · exact Nat.lt_succ_self _
  · exact Token.read?_length_lt ‹_›

end SqlTutor.Json

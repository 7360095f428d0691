import SqlTutor.Json.Lexer
import SqlTutor.Proofs.Text.Gaps

/-!
Strings of JSON texts as they are written between quotes. Control characters, quotes and backslashes
are escaped, and code units of surrogates come in pairs. The reader takes exactly such a string off
the front of a text, and the printer writes strings so.
-/
namespace SqlTutor.Json

/-- Four hexadecimal digits and the code unit that they write. -/
def WritesUnit (digits : List Char) (unit : Nat) : Prop :=
  ∃ a b c d, digits.map hexDigit? = [some a, some b, some c, some d] ∧
    unit = ((a * 16 + b) * 16 + c) * 16 + d

/-- What stands behind a backslash and the character that it stands for. -/
inductive Escape : List Char → Char → Prop
  | simple {letter c : Char} (h : simpleEscape? letter = some c) : Escape [letter] c
  | unit {digits : List Char} {unit : Nat} (h : WritesUnit digits unit)
      (alone : ¬ (0xd800 ≤ unit ∧ unit ≤ 0xdfff)) : Escape ('u' :: digits) (Char.ofNat unit)
  | pair {digits lowDigits : List Char} {unit low : Nat} (h : WritesUnit digits unit)
      (high : 0xd800 ≤ unit ∧ unit ≤ 0xdbff) (hlow : WritesUnit lowDigits low)
      (range : 0xdc00 ≤ low ∧ low ≤ 0xdfff) :
      Escape ('u' :: (digits ++ '\\' :: 'u' :: lowDigits))
        (Char.ofNat (0x10000 + (unit - 0xd800) * 0x400 + (low - 0xdc00)))

/-- The text between two quotes and the characters that it stands for. -/
inductive StringBody : List Char → List Char → Prop
  | nil : StringBody [] []
  | plain {c : Char} {body s : List Char} (quote : c ≠ '"') (backslash : c ≠ '\\')
      (control : 0x20 ≤ c.toNat) (more : StringBody body s) : StringBody (c :: body) (c :: s)
  | escaped {text body s : List Char} {c : Char} (h : Escape text c) (more : StringBody body s) :
      StringBody ('\\' :: (text ++ body)) (c :: s)

theorem codeUnit?_eq_some_iff {s rest : List Char} {unit : Nat} :
    codeUnit? s = some (unit, rest) ↔ ∃ digits, s = digits ++ rest ∧ WritesUnit digits unit := by
  constructor
  · intro h
    unfold codeUnit? at h
    split at h
    · rename_i a b c d tail
      simp only [Option.bind_eq_bind, Option.bind_eq_some_iff, Option.some.injEq,
        Prod.mk.injEq] at h
      obtain ⟨_, ha, _, hb, _, hc, _, hd, same, rfl⟩ := h
      refine ⟨[a, b, c, d], rfl, _, _, _, _, ?_, same.symm⟩
      rw [List.map_cons, List.map_cons, List.map_cons, List.map_cons, ha, hb, hc, hd, List.map_nil]
    · exact absurd h (by simp)
  · rintro ⟨digits, rfl, a, b, c, d, four, rfl⟩
    have count := congrArg List.length four
    match digits, count with
    | [w, x, y, z], _ =>
      simp only [List.map_cons, List.map_nil, List.cons.injEq, and_true] at four
      obtain ⟨hw, hx, hy, hz⟩ := four
      simp [codeUnit?, hw, hx, hy, hz]

/-- Four digits are read as their code unit, whatever stands behind them. -/
theorem codeUnit?_append {digits : List Char} {unit : Nat} (h : WritesUnit digits unit)
    (rest : List Char) : codeUnit? (digits ++ rest) = some (unit, rest) :=
  codeUnit?_eq_some_iff.mpr ⟨digits, rfl, h⟩

theorem unicodeEscape?_eq_some_iff {s rest : List Char} {c : Char} :
    unicodeEscape? s = some (c, rest) ↔ ∃ text, s = text ++ rest ∧ Escape ('u' :: text) c := by
  constructor
  · intro h
    simp only [unicodeEscape?, Option.bind_eq_bind, Option.bind_eq_some_iff] at h
    obtain ⟨⟨unit, behind⟩, readUnit, h⟩ := h
    obtain ⟨digits, rfl, hunit⟩ := codeUnit?_eq_some_iff.mp readUnit
    simp only at h
    split at h
    · exact absurd h (by simp)
    · rename_i notLow
      split at h
      · rename_i high
        split at h
        · rename_i tail
          simp only [Option.bind_eq_some_iff] at h
          obtain ⟨⟨low, last⟩, readLow, h⟩ := h
          obtain ⟨lowDigits, rfl, hlow⟩ := codeUnit?_eq_some_iff.mp readLow
          simp only at h
          split at h
          · rename_i range
            obtain ⟨rfl, rfl⟩ := Prod.mk.inj (Option.some.inj h)
            refine ⟨digits ++ '\\' :: 'u' :: lowDigits, ?_, .pair hunit high hlow range⟩
            rw [List.append_assoc, List.cons_append, List.cons_append]
          · exact absurd h (by simp)
        · exact absurd h (by simp)
      · rename_i notHigh
        obtain ⟨rfl, rfl⟩ := Prod.mk.inj (Option.some.inj h)
        exact ⟨digits, rfl, .unit hunit (by omega)⟩
  · rintro ⟨text, rfl, escape⟩
    cases escape with
    | simple h =>
      have none : simpleEscape? 'u' = none := by decide
      exact absurd (none.symm.trans h) (by simp)
    | @unit _ unit h alone =>
      have notLow : ¬ (0xdc00 ≤ unit ∧ unit ≤ 0xdfff) := by omega
      have notHigh : ¬ (0xd800 ≤ unit ∧ unit ≤ 0xdbff) := by omega
      simp [unicodeEscape?, codeUnit?_append h, notLow, notHigh]
    | @pair _ _ unit low h high hlow range =>
      have notLow : ¬ (0xdc00 ≤ unit ∧ unit ≤ 0xdfff) := by omega
      simp [unicodeEscape?, codeUnit?_append h, codeUnit?_append hlow, notLow, high, range]

theorem escape?_eq_some_iff {s rest : List Char} {c : Char} :
    escape? s = some (c, rest) ↔ ∃ text, s = text ++ rest ∧ Escape text c := by
  constructor
  · intro h
    unfold escape? at h
    split at h
    · exact absurd h (by simp)
    · rename_i letter tail
      split at h
      · rename_i simple
        obtain ⟨rfl, rfl⟩ := Prod.mk.inj (Option.some.inj h)
        exact ⟨[letter], rfl, .simple simple⟩
      · split at h
        · rename_i isU
          obtain rfl : letter = 'u' := by simpa using isU
          obtain ⟨text, rfl, escape⟩ := unicodeEscape?_eq_some_iff.mp h
          exact ⟨'u' :: text, rfl, escape⟩
        · exact absurd h (by simp)
  · have unicode : ∀ text c, Escape ('u' :: text) c → escape? ('u' :: text ++ rest) =
        some (c, rest) := fun text c escape =>
      unicodeEscape?_eq_some_iff.mpr ⟨text, rfl, escape⟩
    rintro ⟨text, rfl, escape⟩
    cases escape with
    | simple h => simp [escape?, h]
    | unit h alone => exact unicode _ _ (.unit h alone)
    | pair h high hlow range => exact unicode _ _ (.pair h high hlow range)

theorem readString?_escape {s after : List Char} {c : Char} (h : escape? s = some (c, after)) :
    readString? ('\\' :: s) = (readString? after).map fun r => (c :: r.1, r.2) := by
  have quote : ('\\' == '"') = false := rfl
  rw [readString?]
  simp only [quote, beq_self_eq_true, Bool.false_eq_true, if_false, if_true]
  split
  · rename_i read
    obtain ⟨rfl, rfl⟩ := Prod.mk.inj (Option.some.inj (h.symm.trans read))
    rfl
  · rename_i read
    exact absurd (h.symm.trans read) (by simp)

theorem readString?_append {body s : List Char} (h : StringBody body s) (rest : List Char) :
    readString? (body ++ '"' :: rest) = some (s, rest) := by
  induction h with
  | nil => simp [readString?]
  | plain quote backslash control more ih =>
    rw [List.cons_append, readString?]
    simp [quote, backslash, ih, Nat.not_lt.mpr control]
  | @escaped text body s c h more ih =>
    have read : escape? (text ++ (body ++ '"' :: rest)) = some (c, body ++ '"' :: rest) :=
      escape?_eq_some_iff.mpr ⟨text, rfl, h⟩
    rw [List.cons_append, List.append_assoc, readString?_escape read, ih, Option.map_some]

theorem exists_of_readString? {s content rest : List Char}
    (h : readString? s = some (content, rest)) :
    ∃ body, StringBody body content ∧ s = body ++ '"' :: rest := by
  fun_induction readString? s generalizing content with
  | case1 => exact absurd h (by simp)
  | case2 c tail quote =>
    obtain ⟨rfl, rfl⟩ := Prod.mk.inj (Option.some.inj h)
    exact ⟨[], .nil, by simpa using quote⟩
  | case3 c tail quote backslash e after read ih =>
    obtain ⟨⟨more, last⟩, readMore, same⟩ := Option.map_eq_some_iff.mp h
    obtain ⟨rfl, rfl⟩ := Prod.mk.inj same
    obtain ⟨text, rfl, escape⟩ := escape?_eq_some_iff.mp read
    obtain ⟨body, hbody, rfl⟩ := ih readMore
    obtain rfl : c = '\\' := by simpa using backslash
    refine ⟨'\\' :: (text ++ body), .escaped escape hbody, ?_⟩
    rw [List.cons_append, List.append_assoc]
  | case4 => exact absurd h (by simp)
  | case5 => exact absurd h (by simp)
  | case6 c tail quote backslash control ih =>
    obtain ⟨⟨more, last⟩, readMore, same⟩ := Option.map_eq_some_iff.mp h
    obtain ⟨rfl, rfl⟩ := Prod.mk.inj same
    obtain ⟨body, hbody, rfl⟩ := ih readMore
    exact ⟨c :: body, .plain (by simpa using quote) (by simpa using backslash)
      (Nat.not_lt.mp control) hbody, rfl⟩

/-- Control characters are written as escapes. -/
theorem exists_escape_of_control {c : Char} (h : c.toNat < 0x20) :
    ∃ text, escapedChar c = '\\' :: text ∧ Escape text c := by
  have table : ∀ n < 0x20, (escapedChar (Char.ofNat n)).head? = some '\\' ∧
      escape? (escapedChar (Char.ofNat n)).tail = some (Char.ofNat n, []) := by decide
  have entry := table _ h
  rw [Char.ofNat_toNat] at entry
  obtain ⟨tail, cons⟩ := List.head?_eq_some_iff.mp entry.1
  rw [cons, List.tail_cons] at entry
  obtain ⟨text, rfl, escape⟩ := escape?_eq_some_iff.mp entry.2
  exact ⟨text, by rw [cons, List.append_nil], escape⟩

theorem stringBody_escapedChar (s : List Char) : StringBody (s.flatMap escapedChar) s := by
  induction s with
  | nil => exact .nil
  | cons c s ih =>
    rw [List.flatMap_cons]
    by_cases control : c.toNat < 0x20
    · obtain ⟨text, written, escape⟩ := exists_escape_of_control control
      rw [written]
      exact .escaped escape ih
    · by_cases quoted : c = '"' ∨ c = '\\'
      · rcases quoted with rfl | rfl
        · exact .escaped (.simple rfl) ih
        · exact .escaped (.simple rfl) ih
      · rw [not_or] at quoted
        have apart : ∀ d : Char, d.toNat < 0x20 → c ≠ d := fun d hd same => control (same ▸ hd)
        have plain : escapedChar c = [c] := by
          simp [escapedChar, quoted, control, apart '\x08' (by decide), apart '\t' (by decide),
            apart '\n' (by decide), apart '\x0c' (by decide), apart '\r' (by decide)]
        rw [plain]
        exact .plain quoted.1 quoted.2 (Nat.not_lt.mp control) ih

end SqlTutor.Json

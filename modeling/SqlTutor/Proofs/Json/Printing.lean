import SqlTutor.Proofs.Json.Range
import SqlTutor.Proofs.Json.Formats

/-!
Printed documents. The compact text of a document consists of the texts of its tokens, and the
indented one of the same with white space between them, so readers take both for the same. Either
writes the document if each of its numbers is read back. This holds of whole numbers of 64 bits, and
of a double if its digits are read as the double itself.
-/
namespace SqlTutor.Json

/-- The text of the double is a number, and read as one it is the same double. -/
def ReadsBack (x : Double) : Prop :=
  ((Numeral.read? (numberLayout.text x)).bind fun r =>
    if r.2 = [] then r.1.toDouble? else none) = some x

instance (x : Double) : Decidable (ReadsBack x) := inferInstanceAs (Decidable (_ = _))

/-- Numbers are read in two roundings, which take some doubles to their neighbours. -/
example : ¬ ReadsBack (Double.ofNat (3 * tenTo 23)) := by decide +kernel

theorem point_mem_plainText (d : Decimal) : '.' ∈ d.plainText true := by
  unfold Decimal.plainText
  split <;> simp

theorem letter_mem_exponentText (d : Decimal) : 'e' ∈ d.exponentText := by
  simp [Decimal.exponentText]

/-- Doubles are written with a point or an exponent. -/
theorem exists_mark (x : Double) : '.' ∈ numberLayout.text x ∨ 'e' ∈ numberLayout.text x := by
  unfold Layout.text
  generalize (if x.index = 0 then (⟨0, 0⟩ : Decimal)
    else Decimal.shortest numberLayout.tie x.index) = d
  by_cases plain : numberLayout.isPlain d.leadingExponent
  · left
    simp only [plain, if_true]
    exact List.mem_append_right _ (point_mem_plainText d)
  · right
    simp only [plain]
    exact List.mem_append_right _ (letter_mem_exponentText d)

theorem WrittenNumber.mem_text_of_isWhole (n : WrittenNumber) (whole : n.isWhole) {c : Char}
    (h : c ∈ n.text) : c = '-' ∨ c.isDigit := by
  rw [isWhole, Bool.and_eq_true, List.isEmpty_iff, Option.isNone_iff_eq_none] at whole
  have nothing : fractionText n.fraction ++ exponentText n.exponent = [] := by
    rw [whole.1, whole.2]
    rfl
  rw [text, nothing, List.append_nil, minusText, List.mem_append] at h
  rcases h with minus | digit
  · split at minus
    · exact Or.inl (List.mem_singleton.mp minus)
    · exact absurd minus (by simp)
  · exact Or.inr (n.whole_isDigit c digit)

theorem leads_float {x : Double} (h : ReadsBack x) :
    (Token.number (.float x)).Leads (Number.text (.float x)) [] := by
  obtain ⟨⟨m, rest⟩, read, value⟩ := Option.bind_eq_some_iff.mp h
  dsimp only at value
  split at value
  · rename_i last
    subst last
    obtain ⟨n, cut, rfl, ends⟩ := WrittenNumber.exists_of_read? read
    rw [List.append_nil] at cut
    have broken : n.isWhole = false := by
      by_contra whole
      rw [Bool.not_eq_false] at whole
      have only : ∀ c ∈ numberLayout.text x, c = '-' ∨ c.isDigit := fun c hc =>
        n.mem_text_of_isWhole whole (cut ▸ hc)
      rcases exists_mark x with point | letter
      · exact absurd (only _ point) (by decide)
      · exact absurd (only _ letter) (by decide)
    have number : n.numeral.toNumber? = some (.float x) := by
      rw [WrittenNumber.toNumber?_of_not_integer?, value, Option.map_some]
      simp [WrittenNumber.integer?, broken]
    have leads := Token.Leads.number number ends
    rwa [List.append_nil, ← cut] at leads
  · exact absurd value (by simp)

theorem head?_toDigits {n : Nat} (h : 0 < n) : (Nat.toDigits 10 n).head? ≠ some '0' := by
  induction n using Nat.strong_induction_on with
  | _ n ih =>
    by_cases small : n < 10
    · rw [Nat.toDigits_of_lt_base small]
      have table : ∀ n < 10, 0 < n → [n.digitChar].head? ≠ some '0' := by decide
      exact table n small h
    · have front := ih (n / 10) (by omega) (by omega)
      rw [Nat.toDigits_of_base_le (by omega) (Nat.not_lt.mp small), List.head?_append]
      obtain ⟨c, rest, digits⟩ :=
        List.exists_cons_of_ne_nil (Nat.toDigits_ne_nil (b := 10) (n := n / 10))
      rw [digits] at front ⊢
      exact front

/-- Digits do not begin with a zero, unless this is all. -/
theorem toDigits_eq_zero (n : Nat) (h : (Nat.toDigits 10 n).head? = some '0') :
    Nat.toDigits 10 n = ['0'] := by
  by_cases zero : n = 0
  · rw [zero]
    rfl
  · exact absurd h (head?_toDigits (Nat.pos_of_ne_zero zero))

/-- A whole number as it is written. -/
def WrittenNumber.ofInt (k : Int) : WrittenNumber where
  negative := k < 0
  whole := Nat.toDigits 10 k.natAbs
  fraction := []
  exponent := none
  ne_nil := Nat.toDigits_ne_nil
  no_zero := toDigits_eq_zero _
  whole_isDigit _ hd := Text.isDigit_of_mem_toDigits hd
  fraction_isDigit := by simp

theorem WrittenNumber.text_ofInt (k : Int) : (ofInt k).text = integerText k := by
  rw [text, minusText, integerText]
  simp [ofInt, fractionText, exponentText]

theorem WrittenNumber.integer?_ofInt (k : Int) : (ofInt k).integer? = some k := by
  have value : (ofInt k).wholeValue = k.natAbs := Nat.ofDigitChars_ten_toDigits
  have whole : (ofInt k).isWhole = true := rfl
  have sign : (ofInt k).negative = decide (k < 0) := rfl
  have back : (if k < 0 then -(k.natAbs : Int) else k.natAbs) = k := by
    split <;> omega
  have positive : ¬ (k < 0 ∧ k.natAbs = 0) := by omega
  rw [integer?, value, whole, sign]
  simp only [decide_eq_true_eq, positive, or_false, Bool.true_eq_false, if_false, back]

theorem leads_int {k : Int} (least : -2 ^ 63 ≤ k) (greatest : k < 2 ^ 64) :
    (Token.number (.int k)).Leads (Number.text (.int k)) [] := by
  have number := WrittenNumber.toNumber?_of_integer? (WrittenNumber.integer?_ofInt k) least greatest
  have nothing : (WrittenNumber.ofInt k).EndsAt [] := by simp [WrittenNumber.EndsAt]
  have leads := Token.Leads.number number nothing
  rwa [List.append_nil, WrittenNumber.text_ofInt] at leads

theorem leads_string (s : String) : (Token.string s).Leads (stringText s) [] := by
  have leads := Token.Leads.string (stringBody_escapedChar s.toList) []
  rwa [String.ofList_toList] at leads

/-- The text consists of the texts of the tokens in order, and of white space around them. -/
inductive Padded : List Token → List Char → Prop
  | nil : Padded [] []
  | space {c : Char} (hc : isSpace c) {ts : List Token} {s : List Char} (more : Padded ts s) :
      Padded ts (c :: s)
  | token (t : Token) {ts : List Token} {s : List Char} (more : Padded ts s) :
      Padded (t :: ts) (t.text ++ s)

namespace Padded

variable {ts us : List Token} {s t : List Char}

theorem append (h : Padded ts s) (h' : Padded us t) : Padded (ts ++ us) (s ++ t) := by
  induction h with
  | nil => exact h'
  | space hc _ ih => exact .space hc ih
  | token t _ ih =>
    rw [List.append_assoc]
    exact .token t ih

theorem single (t : Token) : Padded [t] t.text := by
  have last := token t nil
  rwa [List.append_nil] at last

theorem tokens (ts : List Token) : Padded ts (ts.flatMap Token.text) := by
  induction ts with
  | nil => exact nil
  | cons t ts ih => exact token t ih

theorem newLine (depth : Nat) : Padded [] (Json.newLine depth) := by
  have spaces : ∀ n, Padded [] (List.replicate n ' ') := by
    intro n
    induction n with
    | zero => exact nil
    | succ n ih => exact space rfl ih
  exact space rfl (spaces _)

theorem cut (h : Padded ts s) (good : ∀ t ∈ ts, t.Leads t.text []) : Cut ts s := by
  induction h with
  | nil => exact .nil (List.forall_mem_nil _)
  | space hc _ ih => exact (ih good).space hc
  | token t _ ih =>
    obtain ⟨first, others⟩ := List.forall_mem_cons.mp good
    exact .cons (List.forall_mem_nil _) first (ih others)

/-- What is written for a member, with a space behind the colon. -/
theorem member (name : String) (h : Padded ts s) :
    Padded (.string name :: .colon :: ts) (stringText name ++ ':' :: ' ' :: s) :=
  token (.string name) (token .colon (space rfl h))

end Padded

mutual

theorem padded_prettyAt (depth : Nat) (j : Json) : Padded j.tokens (Json.prettyAt depth j) := by
  match j with
  | .null | .bool b | .number n | .string s =>
    rw [Json.tokens, Json.prettyAt]
    exact .single _
  | .array [] => exact (Padded.single .openArray).append (.single .closeArray)
  | .array (item :: rest) =>
    have inside := (padded_prettyItems (depth + 1) (item :: rest)).append (.newLine depth)
    have closed := Padded.token .openArray (inside.append (.single .closeArray))
    simpa [Json.tokens, Json.prettyAt, Token.text] using closed
  | .object [] => exact (Padded.single .openObject).append (.single .closeObject)
  | .object (member :: rest) =>
    have inside := (padded_prettyMembers (depth + 1) (member :: rest)).append (.newLine depth)
    have closed := Padded.token .openObject (inside.append (.single .closeObject))
    simpa [Json.tokens, Json.prettyAt, Token.text] using closed

theorem padded_prettyItems (depth : Nat) (items : List Json) :
    Padded (Json.itemTokens items) (Json.prettyItems depth items) := by
  match items with
  | [] => exact .nil
  | [item] => exact (Padded.newLine depth).append (padded_prettyAt depth item)
  | item :: next :: rest =>
    have first := (Padded.newLine depth).append (padded_prettyAt depth item)
    have behind := Padded.token .comma (padded_prettyItems depth (next :: rest))
    simpa [Json.itemTokens, Json.prettyItems, Token.text] using first.append behind

theorem padded_prettyMembers (depth : Nat) (members : List (String × Json)) :
    Padded (Json.memberTokens members) (Json.prettyMembers depth members) := by
  match members with
  | [] => exact .nil
  | [(name, value)] =>
    have member := (Padded.newLine depth).append (.member name (padded_prettyAt depth value))
    simpa [Json.memberTokens, Json.prettyMembers] using member
  | (name, value) :: next :: rest =>
    have member := (Padded.newLine depth).append (.member name (padded_prettyAt depth value))
    have behind := Padded.token .comma (padded_prettyMembers depth (next :: rest))
    simpa [Json.memberTokens, Json.prettyMembers, Token.text] using member.append behind

end

theorem padded_compact (j : Json) : Padded j.tokens j.compact.toList := by
  rw [Json.compact, String.toList_ofList]
  exact .tokens j.tokens

/-- The indented text has the tokens of the compact one, and white space around them. -/
theorem padded_pretty (j : Json) : Padded j.tokens j.pretty.toList := by
  rw [Json.pretty, String.toList_ofList]
  exact padded_prettyAt 0 j

theorem isText_compact {j : Json} (h : ∀ t ∈ j.tokens, t.Leads t.text []) :
    IsText j j.compact.toList := (padded_compact j).cut h

theorem isText_pretty {j : Json} (h : ∀ t ∈ j.tokens, t.Leads t.text []) :
    IsText j j.pretty.toList := (padded_pretty j).cut h

/-- Readers do not tell the two forms apart. -/
theorem Reader.run_pretty {α : Type} (read : Reader α) {j : Json}
    (h : ∀ t ∈ j.tokens, t.Leads t.text []) : read.run j.pretty = read.run j.compact := by
  rw [Reader.run_eq, Reader.run_eq, lex_eq_tokens_iff.mpr (isText_pretty h),
    lex_eq_tokens_iff.mpr (isText_compact h)]

/-- What holds of the tokens of all pieces, and of commas, holds of all tokens. -/
theorem forall_mem_separated {P : Type} {tokensOf : P → List Token} {good : Token → Prop}
    (comma : good .comma) {pieces : List P} (h : ∀ p ∈ pieces, ∀ t ∈ tokensOf p, good t) :
    ∀ t ∈ separated tokensOf pieces, good t := by
  induction pieces with
  | nil => exact List.forall_mem_nil _
  | cons p pieces ih =>
    obtain ⟨first, others⟩ := List.forall_mem_cons.mp h
    by_cases last : pieces = []
    · subst last
      exact first
    · rw [separated_cons p last]
      intro t ht
      rcases List.mem_append.mp ht with here | behind
      · exact first t here
      · rcases List.mem_cons.mp behind with rfl | later
        · exact comma
        · exact ih others t later

section Documents

variable {good : Token → Prop} (marks : ∀ t ∈ punctuation, good t)

include marks

theorem forall_mem_tokens_array {items : List Json} (h : ∀ j ∈ items, ∀ t ∈ j.tokens, good t) :
    ∀ t ∈ (Json.array items).tokens, good t := by
  have inside := forall_mem_separated (marks .comma (by simp [punctuation])) h
  rw [Json.tokens, itemTokens_eq]
  simp only [List.cons_append, List.forall_mem_cons, List.forall_mem_append]
  refine ⟨marks _ (by simp [punctuation]), inside, marks _ (by simp [punctuation]), ?_⟩
  exact List.forall_mem_nil _

theorem forall_mem_tokens_object {members : List (String × Json)}
    (names : ∀ m ∈ members, good (.string m.1))
    (h : ∀ m ∈ members, ∀ t ∈ m.2.tokens, good t) :
    ∀ t ∈ (Json.object members).tokens, good t := by
  have member : ∀ m ∈ members, ∀ t ∈ namedTokens Json.tokens m, good t := by
    intro m hm
    simp only [namedTokens, List.forall_mem_cons]
    exact ⟨names m hm, marks _ (by simp [punctuation]), h m hm⟩
  have inside := forall_mem_separated (marks .comma (by simp [punctuation])) member
  rw [Json.tokens, memberTokens_eq]
  simp only [List.cons_append, List.forall_mem_cons, List.forall_mem_append]
  refine ⟨marks _ (by simp [punctuation]), inside, marks _ (by simp [punctuation]), ?_⟩
  exact List.forall_mem_nil _

end Documents

theorem leads_punctuation {t : Token} (h : t ∈ punctuation) : t.Leads t.text [] := by
  simp only [punctuation, List.mem_cons, List.not_mem_nil, or_false] at h
  rcases h with rfl | rfl | rfl | rfl | rfl | rfl <;> exact .punctuation rfl []

end SqlTutor.Json

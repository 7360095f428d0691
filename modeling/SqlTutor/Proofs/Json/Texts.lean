import SqlTutor.Json.Basic
import SqlTutor.Proofs.Json.Numerals
import SqlTutor.Proofs.Json.Strings
import SqlTutor.Proofs.Text.Keywords

/-!
Texts consist of tokens with white space between them. A number is a token only if it does not go on
behind it; the tokens of a document are never two numbers in a row, so for them this says nothing.
The lexer finds some tokens at the front of a text exactly if they stand there.
-/
namespace SqlTutor.Json

open Text

/-- The token stands at the front of the text, with the rest behind it. -/
inductive Token.Leads : Token → List Char → List Char → Prop
  | punctuation {c : Char} {t : Token} (h : punctuation? c = some t) (rest : List Char) :
      Leads t (c :: rest) rest
  | nullWord (rest : List Char) : Leads .null ("null".toList ++ rest) rest
  | trueWord (rest : List Char) : Leads (.bool true) ("true".toList ++ rest) rest
  | falseWord (rest : List Char) : Leads (.bool false) ("false".toList ++ rest) rest
  | number {n : WrittenNumber} {x : Number} (h : n.numeral.toNumber? = some x) {rest : List Char}
      (ends : n.EndsAt rest) : Leads (.number x) (n.text ++ rest) rest
  | string {body s : List Char} (h : StringBody body s) (rest : List Char) :
      Leads (.string (String.ofList s)) ('"' :: (body ++ '"' :: rest)) rest

theorem mem_of_punctuation? {c : Char} {t : Token} (h : punctuation? c = some t) :
    c ∈ ['\x7b', '\x7d', '[', ']', ',', ':'] := by
  by_contra other
  simp only [List.mem_cons, List.not_mem_nil, or_false, not_or] at other
  simp [punctuation?, other] at h

/-- The first character of a number is a minus or a digit. -/
theorem WrittenNumber.exists_cons (n : WrittenNumber) :
    ∃ c s, n.text = c :: s ∧ (c = '-' ∨ c.isDigit) := by
  obtain ⟨d, digits, cons⟩ := List.exists_cons_of_ne_nil n.ne_nil
  have digit : d.isDigit := n.whole_isDigit d (cons ▸ List.mem_cons_self)
  rw [text, minusText, cons]
  cases n.negative with
  | true => exact ⟨'-', _, rfl, Or.inl rfl⟩
  | false => exact ⟨d, _, rfl, Or.inr digit⟩

/-- What the first character of a number is not. -/
theorem start_of_number {c : Char} (h : c = '-' ∨ c.isDigit) :
    isSpace c = false ∧ punctuation? c = none ∧ c ≠ '"' ∧ c.isAlpha = false := by
  rcases h with rfl | digit
  · decide
  · exact of_isDigit digit
      (fun c => isSpace c = false ∧ punctuation? c = none ∧ c ≠ '"' ∧ c.isAlpha = false) (by decide)

namespace Token.Leads

variable {t : Token} {s rest : List Char}

theorem exists_cons (h : t.Leads s rest) : ∃ c s', s = c :: s' ∧ isSpace c = false := by
  cases h with
  | punctuation h =>
    have table : ∀ c ∈ ['\x7b', '\x7d', '[', ']', ',', ':'], isSpace c = false := by decide
    exact ⟨_, _, rfl, table _ (mem_of_punctuation? h)⟩
  | nullWord => exact ⟨_, _, rfl, rfl⟩
  | trueWord => exact ⟨_, _, rfl, rfl⟩
  | falseWord => exact ⟨_, _, rfl, rfl⟩
  | @number n x h _ ends =>
    obtain ⟨c, s', cons, start⟩ := n.exists_cons
    rw [cons]
    exact ⟨c, _, rfl, (start_of_number start).1⟩
  | string h => exact ⟨_, _, rfl, rfl⟩

theorem read?_eq (h : t.Leads s rest) : Token.read? s = some (t, rest) := by
  cases h with
  | punctuation h => simp [read?, h]
  | nullWord => rfl
  | trueWord => rfl
  | falseWord => rfl
  | @number n x h _ ends =>
    obtain ⟨c, s', cons, start⟩ := n.exists_cons
    obtain ⟨-, other, quote, letter⟩ := start_of_number start
    have reads : readNumber? (n.text ++ rest) = some (.number x, rest) := by
      rw [readNumber?, WrittenNumber.read?_append ends, Option.bind_some]
      exact congrArg (Option.map _) h
    rw [cons] at reads ⊢
    simpa [read?, other, quote, letter] using reads
  | @string body s h =>
    have other : punctuation? '"' = none := rfl
    simp [read?, other, readString?_append h]

theorem of_readName? (h : readName? s = some (t, rest)) : t.Leads s rest := by
  unfold readName? at h
  split at h
  · rename_i isNull
    obtain ⟨rfl, rfl⟩ := Prod.mk.inj (Option.some.inj h)
    rw [eq_append_of_exactly? isNull]
    exact .nullWord _
  · split at h
    · rename_i isTrue
      obtain ⟨rfl, rfl⟩ := Prod.mk.inj (Option.some.inj h)
      rw [eq_append_of_exactly? isTrue]
      exact .trueWord _
    · obtain ⟨last, isFalse, same⟩ := Option.map_eq_some_iff.mp h
      obtain ⟨rfl, rfl⟩ := Prod.mk.inj same
      rw [eq_append_of_exactly? isFalse]
      exact .falseWord _

theorem of_read? (h : Token.read? s = some (t, rest)) : t.Leads s rest := by
  unfold read? at h
  split at h
  · exact absurd h (by simp)
  · rename_i c tail
    split at h
    · rename_i other
      obtain ⟨rfl, rfl⟩ := Prod.mk.inj (Option.some.inj h)
      exact .punctuation other _
    · split at h
      · rename_i quote
        obtain rfl : c = '"' := by simpa using quote
        obtain ⟨⟨content, last⟩, readContent, same⟩ := Option.map_eq_some_iff.mp h
        obtain ⟨rfl, rfl⟩ := Prod.mk.inj same
        obtain ⟨body, hbody, rfl⟩ := exists_of_readString? readContent
        exact .string hbody _
      · split at h
        · exact of_readName? h
        · obtain ⟨⟨numeral, last⟩, readNumeral, h⟩ := Option.bind_eq_some_iff.mp h
          obtain ⟨x, number, same⟩ := Option.map_eq_some_iff.mp h
          obtain ⟨rfl, rfl⟩ := Prod.mk.inj same
          obtain ⟨n, cut, rfl, ends⟩ := WrittenNumber.exists_of_read? readNumeral
          rw [cut]
          exact .number number ends

end Token.Leads

/-- The tokens stand at the front of a text, with white space in front of each, and the rest is
behind them. -/
inductive Begins : List Token → List Char → List Char → Prop
  | nil (s : List Char) : Begins [] s s
  | cons {gap s rest after : List Char} {t : Token} {ts : List Token}
      (hgap : ∀ c ∈ gap, isSpace c) (h : t.Leads s rest) (more : Begins ts rest after) :
      Begins (t :: ts) (gap ++ s) after

theorem lex_gap {gap : List Char} (hgap : ∀ c ∈ gap, isSpace c) (s : List Char) :
    lex (gap ++ s) = lex s := by
  induction gap with
  | nil => rfl
  | cons c gap ih =>
    rw [List.cons_append, lex, if_pos (hgap c List.mem_cons_self)]
    exact ih fun d hd => hgap d (List.mem_cons_of_mem _ hd)

theorem lex_of_leads {t : Token} {s rest : List Char} (h : t.Leads s rest) :
    lex s = t :: lex rest := by
  obtain ⟨c, s', rfl, solid⟩ := h.exists_cons
  rw [lex]
  simp only [solid, Bool.false_eq_true, if_false]
  split
  · rename_i read
    exact absurd (h.read?_eq.symm.trans read) (by simp)
  · rename_i read
    obtain ⟨rfl, rfl⟩ := Prod.mk.inj (Option.some.inj (h.read?_eq.symm.trans read))
    rfl

theorem Begins.lex_eq {ts : List Token} {s after : List Char} (h : Begins ts s after) :
    lex s = ts ++ lex after := by
  induction h with
  | nil => rfl
  | cons hgap h more ih => rw [lex_gap hgap, lex_of_leads h, ih, List.cons_append]

/-- What the lexer finds first stands behind some white space. -/
theorem exists_leads_of_lex {s : List Char} {t : Token} {more : List Token}
    (h : lex s = t :: more) (good : t ≠ .bad) :
    ∃ gap s' rest, s = gap ++ s' ∧ (∀ c ∈ gap, isSpace c) ∧ t.Leads s' rest ∧ lex rest = more := by
  induction s with
  | nil => simp [lex] at h
  | cons c s ih =>
    rw [lex] at h
    split at h
    · rename_i blank
      obtain ⟨gap, s', rest, rfl, hgap, leads, behind⟩ := ih h
      refine ⟨c :: gap, s', rest, rfl, ?_, leads, behind⟩
      exact List.forall_mem_cons.mpr ⟨blank, hgap⟩
    · split at h
      · exact absurd (List.cons.inj h).1.symm good
      · rename_i read
        obtain ⟨rfl, rfl⟩ := List.cons.inj h
        exact ⟨[], c :: s, _, rfl, by simp, .of_read? read, rfl⟩

theorem begins_of_lex {ts more : List Token} {s : List Char} (h : lex s = ts ++ more)
    (good : .bad ∉ ts) : ∃ after, Begins ts s after ∧ lex after = more := by
  induction ts generalizing s with
  | nil => exact ⟨s, .nil s, h⟩
  | cons t ts ih =>
    rw [List.cons_append] at h
    rw [List.mem_cons, not_or] at good
    obtain ⟨gap, s', rest, rfl, hgap, leads, behind⟩ := exists_leads_of_lex h (Ne.symm good.1)
    obtain ⟨after, begins, last⟩ := ih behind good.2
    exact ⟨after, .cons hgap leads begins, last⟩

theorem lex_eq_nil_iff {s : List Char} : lex s = [] ↔ ∀ c ∈ s, isSpace c := by
  induction s with
  | nil => simp [lex]
  | cons c s ih =>
    rw [lex]
    split
    · rename_i blank
      rw [ih, List.forall_mem_cons]
      exact (and_iff_right blank).symm
    · rename_i solid
      have first : ¬ ∀ d ∈ c :: s, isSpace d := fun all => solid (all c List.mem_cons_self)
      split <;> exact iff_of_false (List.cons_ne_nil _ _) first

/-- The text consists of the tokens, with white space in front of each and behind the last. -/
inductive Cut : List Token → List Char → Prop
  | nil {gap : List Char} (hgap : ∀ c ∈ gap, isSpace c) : Cut [] gap
  | cons {gap lexeme rest : List Char} {t : Token} {ts : List Token}
      (hgap : ∀ c ∈ gap, isSpace c) (h : t.Leads lexeme []) (more : Cut ts rest) :
      Cut (t :: ts) (gap ++ (lexeme ++ rest))

theorem Cut.space {c : Char} (hc : isSpace c) {ts : List Token} {s : List Char} (h : Cut ts s) :
    Cut ts (c :: s) := by
  cases h with
  | nil hgap => exact .nil (List.forall_mem_cons.mpr ⟨hc, hgap⟩)
  | cons hgap first more => exact .cons (List.forall_mem_cons.mpr ⟨hc, hgap⟩) first more

def punctuation : List Token := [.openObject, .closeObject, .openArray, .closeArray, .comma, .colon]

/-- No number stands right in front of another token than punctuation. -/
def Apart : List Token → Prop
  | [] => True
  | t :: ts => ((∃ x, t = .number x) → ∀ next ∈ ts.head?, next ∈ punctuation) ∧ Apart ts

theorem apart_cons {t : Token} (other : ∀ x, t ≠ .number x) {ts : List Token} (h : Apart ts) :
    Apart (t :: ts) := ⟨fun ⟨x, same⟩ => absurd same (other x), h⟩

theorem Token.Leads.exists_lexeme {t : Token} {s rest : List Char} (h : t.Leads s rest) :
    ∃ lexeme, s = lexeme ++ rest ∧ t.Leads lexeme [] := by
  cases h with
  | punctuation h => exact ⟨[_], rfl, .punctuation h []⟩
  | nullWord => exact ⟨_, rfl, .nullWord []⟩
  | trueWord => exact ⟨_, rfl, .trueWord []⟩
  | falseWord => exact ⟨_, rfl, .falseWord []⟩
  | @number n x h _ ends =>
    refine ⟨n.text, rfl, ?_⟩
    have nothing : n.EndsAt [] := by simp [WrittenNumber.EndsAt]
    simpa using Token.Leads.number h nothing
  | @string body s h =>
    refine ⟨'"' :: (body ++ ['"']), ?_, .string h []⟩
    rw [List.cons_append, List.append_assoc, List.singleton_append]

/-- Characters that no number goes on with. -/
def endings : List Char := [' ', '\n', '\t', '\r', '\x7b', '\x7d', '[', ']', ',', ':']

theorem mem_endings_of_isSpace {c : Char} (h : isSpace c) : c ∈ endings := by
  simp only [isSpace, Bool.or_eq_true, beq_iff_eq] at h
  simp only [endings, List.mem_cons]
  tauto

theorem WrittenNumber.endsAt_of_endings (n : WrittenNumber) {rest : List Char}
    (h : ∀ c ∈ rest.head?, c ∈ endings) : n.EndsAt rest := by
  have table : ∀ c ∈ endings, c.isDigit = false ∧ c ≠ '.' ∧ c.toLower ≠ 'e' := by decide
  rintro c hc (digit | ⟨point, -⟩ | ⟨letter, -⟩)
  · exact absurd digit (Bool.eq_false_iff.mp (table c (h c hc)).1)
  · exact (table c (h c hc)).2.1 point
  · exact (table c (h c hc)).2.2 letter

theorem Token.Leads.append {t : Token} {lexeme : List Char} (h : t.Leads lexeme [])
    {rest : List Char} (hrest : (∃ x, t = .number x) → ∀ c ∈ rest.head?, c ∈ endings) :
    t.Leads (lexeme ++ rest) rest := by
  cases h with
  | punctuation h => exact .punctuation h rest
  | nullWord => exact .nullWord rest
  | trueWord => exact .trueWord rest
  | falseWord => exact .falseWord rest
  | @number n x h _ ends =>
    rw [List.append_nil]
    exact .number h (n.endsAt_of_endings (hrest ⟨x, rfl⟩))
  | @string body s h =>
    rw [List.cons_append, List.append_assoc, List.singleton_append]
    exact .string h rest

theorem head_of_leads_punctuation {t : Token} {lexeme rest : List Char} (h : t.Leads lexeme rest)
    (ht : t ∈ punctuation) : ∀ c ∈ lexeme.head?, c ∈ endings := by
  cases h with
  | punctuation h =>
    intro c hc
    obtain rfl := Option.some.inj hc
    have table : ∀ c ∈ ['\x7b', '\x7d', '[', ']', ',', ':'], c ∈ endings := by decide
    exact table _ (mem_of_punctuation? h)
  | nullWord | trueWord | falseWord => exact absurd ht (by decide)
  | number | string => exact absurd ht (by simp [punctuation])

/-- A text begins in white space or with its first token. -/
theorem Cut.head_mem_endings {ts : List Token} {s : List Char} (h : Cut ts s)
    (hts : ∀ t ∈ ts.head?, t ∈ punctuation) : ∀ c ∈ s.head?, c ∈ endings := by
  have space : ∀ gap : List Char, (∀ c ∈ gap, isSpace c) → ∀ c ∈ gap.head?, c ∈ endings :=
    fun gap hgap c hc => mem_endings_of_isSpace (hgap c (List.mem_of_mem_head? hc))
  cases h with
  | nil hgap => exact space _ hgap
  | @cons gap lexeme rest t ts hgap leads more =>
    cases gap with
    | cons c gap => exact space (c :: gap) hgap
    | nil =>
      obtain ⟨c, lexeme, rfl, -⟩ := leads.exists_cons
      exact fun d hd => head_of_leads_punctuation leads (hts t rfl) d hd

theorem Cut.begins {ts : List Token} {s : List Char} (h : Cut ts s) (hts : Apart ts) :
    ∃ gap, Begins ts s gap ∧ ∀ c ∈ gap, isSpace c := by
  induction h with
  | nil hgap => exact ⟨_, .nil _, hgap⟩
  | cons hgap leads more ih =>
    obtain ⟨gap, begins, last⟩ := ih hts.2
    exact ⟨gap, .cons hgap (leads.append fun number => more.head_mem_endings (hts.1 number)) begins,
      last⟩

theorem Begins.cut {ts : List Token} {s gap : List Char} (h : Begins ts s gap)
    (hgap : ∀ c ∈ gap, isSpace c) : Cut ts s := by
  induction h with
  | nil => exact .nil hgap
  | cons before leads more ih =>
    obtain ⟨lexeme, rfl, single⟩ := leads.exists_lexeme
    exact .cons before single (ih hgap)

/-- The lexer finds some tokens in a text exactly if it consists of them. -/
theorem lex_eq_iff_cut {ts : List Token} (apart : Apart ts) (good : .bad ∉ ts) {s : List Char} :
    lex s = ts ↔ Cut ts s := by
  constructor
  · intro h
    obtain ⟨gap, begins, nothing⟩ := begins_of_lex ((List.append_nil ts).symm ▸ h) good
    exact begins.cut (lex_eq_nil_iff.mp nothing)
  · intro h
    obtain ⟨gap, begins, spaces⟩ := h.begins apart
    rw [begins.lex_eq, lex_eq_nil_iff.mpr spaces, List.append_nil]

mutual

/-- The tokens of a document keep numbers apart, if punctuation follows. -/
theorem apart_tokens (j : Json) (ts : List Token) (hts : ∀ t ∈ ts.head?, t ∈ punctuation)
    (h : Apart ts) : Apart (j.tokens ++ ts) := by
  match j with
  | .null => exact apart_cons (by simp) h
  | .bool b => exact apart_cons (by simp) h
  | .number n => exact ⟨fun _ => hts, h⟩
  | .string s => exact apart_cons (by simp) h
  | .array items =>
    have inside := apart_itemTokens items (.closeArray :: ts) (by simp [punctuation])
      (apart_cons (by simp) h)
    rw [Json.tokens, List.cons_append, List.cons_append, List.append_assoc, List.singleton_append]
    exact apart_cons (by simp) inside
  | .object members =>
    have inside := apart_memberTokens members (.closeObject :: ts) (by simp [punctuation])
      (apart_cons (by simp) h)
    rw [Json.tokens, List.cons_append, List.cons_append, List.append_assoc, List.singleton_append]
    exact apart_cons (by simp) inside

theorem apart_itemTokens (items : List Json) (ts : List Token)
    (hts : ∀ t ∈ ts.head?, t ∈ punctuation) (h : Apart ts) :
    Apart (Json.itemTokens items ++ ts) := by
  match items with
  | [] => exact h
  | [item] => exact apart_tokens item ts hts h
  | item :: next :: rest =>
    have behind := apart_itemTokens (next :: rest) ts hts h
    rw [Json.itemTokens, List.append_assoc, List.cons_append]
    · exact apart_tokens item _ (by simp [punctuation]) (apart_cons (by simp) behind)
    · simp

theorem apart_memberTokens (members : List (String × Json)) (ts : List Token)
    (hts : ∀ t ∈ ts.head?, t ∈ punctuation) (h : Apart ts) :
    Apart (Json.memberTokens members ++ ts) := by
  match members with
  | [] => exact h
  | [(name, value)] =>
    exact apart_cons (by simp) (apart_cons (by simp) (apart_tokens value ts hts h))
  | (name, value) :: next :: rest =>
    have behind := apart_memberTokens (next :: rest) ts hts h
    have first := apart_tokens value (.comma :: (Json.memberTokens (next :: rest) ++ ts))
      (by simp [punctuation]) (apart_cons (by simp) behind)
    rw [Json.memberTokens, List.cons_append, List.cons_append, List.append_assoc, List.cons_append]
    · exact apart_cons (by simp) (apart_cons (by simp) first)
    · simp

end

mutual

theorem bad_notMem_tokens (j : Json) : Token.bad ∉ j.tokens := by
  match j with
  | .null | .bool b | .number n | .string s => simp [Json.tokens]
  | .array items => simp [Json.tokens, bad_notMem_itemTokens items]
  | .object members => simp [Json.tokens, bad_notMem_memberTokens members]

theorem bad_notMem_itemTokens (items : List Json) : Token.bad ∉ Json.itemTokens items := by
  match items with
  | [] => simp [Json.itemTokens]
  | [item] => simp [Json.itemTokens, bad_notMem_tokens item]
  | item :: next :: rest =>
    simp [Json.itemTokens, bad_notMem_tokens item, bad_notMem_itemTokens (next :: rest)]

theorem bad_notMem_memberTokens (members : List (String × Json)) :
    Token.bad ∉ Json.memberTokens members := by
  match members with
  | [] => simp [Json.memberTokens]
  | [(name, value)] => simp [Json.memberTokens, bad_notMem_tokens value]
  | (name, value) :: next :: rest =>
    simp [Json.memberTokens, bad_notMem_tokens value, bad_notMem_memberTokens (next :: rest)]

end

/-- The text writes the document: it consists of its tokens. -/
def IsText (j : Json) (s : List Char) : Prop := Cut j.tokens s

theorem lex_eq_tokens_iff {j : Json} {s : List Char} : lex s = j.tokens ↔ IsText j s := by
  have apart : Apart j.tokens := by
    have := apart_tokens j [] (by simp) trivial
    rwa [List.append_nil] at this
  exact lex_eq_iff_cut apart (bad_notMem_tokens j)

end SqlTutor.Json

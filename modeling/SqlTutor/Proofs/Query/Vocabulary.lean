import SqlTutor.Proofs.Text.Keywords
import SqlTutor.Query.Clauses
import Mathlib.Data.List.Infix

/-!
The words that statements are made of: names, phrases, numbers, and the keywords around them.
Clauses are found by six of the keywords, inside longer words as well, so what is written between
keywords is plain if none of the six occurs in it. The search for a clause passes over every plain
piece, and over every keyword but its own.
-/
namespace SqlTutor.Query

open Text

/-- The keywords by which clauses are found. -/
def clauseWords : List (List Char) :=
  ["from".toList, "where".toList, "join".toList, "order".toList, "group".toList, "limit".toList]

/-- The other keywords of statements. -/
def fillerWords : List (List Char) :=
  ["select".toList, "on".toList, "by".toList, "asc".toList, "desc".toList]

/-- No clause is found in the text, whatever its letter case. -/
def Plain (s : List Char) : Prop := ∀ key ∈ clauseWords, ¬ key <:+: lowerAscii s

instance (s : List Char) : Decidable (Plain s) := inferInstanceAs (Decidable (∀ key ∈ _, _))

/-- Letters of ASCII, digits and the underscore. -/
def isNameChar (c : Char) : Bool := c.isAlphanum || c == '_'

/-- A table or a column as statements write it. -/
structure Name where
  text : List Char
  ne_nil : text ≠ []
  chars : ∀ c ∈ text, isNameChar c
  plain : Plain text

/-- A condition or a projection list as statements write it. -/
structure Phrase where
  text : List Char
  tidy : Tidy text
  plain : Plain text

theorem toNat_lt_of_isNameChar {c : Char} (h : isNameChar c) : c.toNat < 128 := by
  rw [isNameChar, Bool.or_eq_true, beq_iff_eq] at h
  rcases h with alphanumeric | rfl
  · have kinds : ((c.isUpper || c.isLower) || c.isDigit) = true := alphanumeric
    rw [Bool.or_eq_true, Bool.or_eq_true] at kinds
    rcases kinds with (upper | lower) | digit
    · have bounds : 'A'.val ≤ c.val ∧ c.val ≤ 'Z'.val := of_decide_eq_true upper
      have last : c.toNat ≤ 'Z'.toNat := UInt32.le_iff_toNat_le.mp bounds.2
      exact Nat.lt_of_le_of_lt last (by decide)
    · have bounds : (decide ('a'.val ≤ c.val) && decide (c.val ≤ 'z'.val)) = true := lower
      rw [Bool.and_eq_true, decide_eq_true_eq, decide_eq_true_eq] at bounds
      have last : c.toNat ≤ 'z'.toNat := UInt32.le_iff_toNat_le.mp bounds.2
      exact Nat.lt_of_le_of_lt last (by decide)
    · exact toNat_lt_of_isDigit digit
  · decide

theorem isWordChar_of_isNameChar {c : Char} (h : isNameChar c) : isWordChar c := by
  rwa [isWordChar, if_pos (toNat_lt_of_isNameChar h)]

namespace Name

theorem isWordChar (n : Name) : ∀ c ∈ n.text, isWordChar c := fun c hc =>
  isWordChar_of_isNameChar (n.chars c hc)

theorem solid (n : Name) : Solid n.text :=
  ⟨n.ne_nil, fun c hc => isBlank_eq_false (n.isWordChar c hc)⟩

theorem lowerText_eq (n : Name) : lowerText n.text = String.ofList (lowerAscii n.text) := by
  rw [lowerText, lower_eq_lowerAscii fun c hc => toNat_lt_of_isNameChar (n.chars c hc)]

theorem word?_append (n : Name) {t : List Char} (ht : Stops Text.isWordChar t) :
    word? (n.text ++ t) = some (n.text, t) := run?_append n.ne_nil n.isWordChar ht

end Name

theorem isKeyword_of_mem {key : List Char} (h : key ∈ clauseWords) :
    IsKeyword key ∧ 's' ∉ key ∧ 'k' ∉ key :=
  (by decide : ∀ key ∈ clauseWords, IsKeyword key ∧ 's' ∉ key ∧ 'k' ∉ key) key h

theorem Plain.lacks {s key : List Char} (h : Plain s) (hkey : key ∈ clauseWords) : Lacks key s :=
  lacks_of_not_isInfix (isKeyword_of_mem hkey).2 (h key hkey)

/-- A keyword is passed over by the search for any other one. -/
theorem lacks_spelling {key word w : List Char} (hkey : key ∈ clauseWords)
    (hword : word ∈ clauseWords ++ fillerWords) (hw : Spells word w) (hne : key ≠ word) :
    Lacks key w := by
  have apart : ∀ word ∈ clauseWords ++ fillerWords, ∀ key ∈ clauseWords,
      key ≠ word → ¬ key <:+: word := by decide
  refine lacks_of_not_isInfix (isKeyword_of_mem hkey).2 ?_
  rw [show lowerAscii w = word from hw]
  exact apart word hword key hkey hne

theorem plain_toDigits (n : Nat) : Plain (Nat.toDigits 10 n) := by
  intro key hkey found
  obtain ⟨k, ks, rfl⟩ := List.exists_cons_of_ne_nil (isKeyword_of_mem hkey).1.1
  have letter : k.isLower := (isKeyword_of_mem hkey).1.2 k List.mem_cons_self
  obtain ⟨c, hc, rfl⟩ := List.mem_map.mp (found.subset List.mem_cons_self)
  exact of_isDigit (isDigit_of_mem_toDigits hc) (¬ ·.toLower.isLower) (by decide) letter

/-- A keyword in some letter case. -/
structure Keyword (key : List Char) where
  text : List Char
  isKeyword : IsKeyword key := by decide
  spells : Spells key text := by decide

/-- A column with the table in front of it. -/
structure QualifiedName where
  table : Name
  column : Name

def QualifiedName.text (q : QualifiedName) : List Char := q.table.text ++ '.' :: q.column.text

/-- What statements put white space between. -/
inductive Piece where
  | keyword {key : List Char} (hkey : key ∈ clauseWords ++ fillerWords) (word : Keyword key)
  | name (n : Name)
  | qualified (q : QualifiedName)
  | phrase (p : Phrase)
  | number (n : Nat)
  | equals

namespace Piece

def text : Piece → List Char
  | keyword _ word => word.text
  | name n => n.text
  | qualified q => q.text
  | phrase p => p.text
  | number n => Nat.toDigits 10 n
  | equals => ['=']

/-- The keyword that a piece is. -/
def key? : Piece → Option (List Char)
  | @keyword key _ _ => some key
  | _ => none

theorem tidy (p : Piece) : Tidy p.text := by
  cases p with
  | keyword _ word =>
    exact tidy_of_solid (word.spells.solid word.isKeyword)
  | name n => exact tidy_of_solid n.solid
  | qualified q =>
    refine tidy_of_solid ⟨by simp [text, QualifiedName.text], fun c hc => ?_⟩
    rw [text, QualifiedName.text, List.mem_append, List.mem_cons] at hc
    rcases hc with table | rfl | column
    · exact q.table.solid.2 c table
    · rfl
    · exact q.column.solid.2 c column
  | phrase p => exact p.tidy
  | number n =>
    refine tidy_of_solid ⟨Nat.toDigits_ne_nil, fun c hc => ?_⟩
    exact isBlank_eq_false (isWordChar_of_mem_toDigits hc)
  | equals => exact tidy_of_solid (by decide)

/-- Only the keyword itself stops the search for it. -/
theorem lacks {key : List Char} (hkey : key ∈ clauseWords) {p : Piece} (hp : p.key? ≠ some key) :
    Lacks key p.text := by
  cases p with
  | keyword hword word =>
    exact lacks_spelling hkey hword word.spells fun same => hp (congrArg some same.symm)
  | name n => exact n.plain.lacks hkey
  | qualified q =>
    have point : Foreign key '.' :=
      foreign_of_not_isLower (isKeyword_of_mem hkey).1 (by decide)
    exact (q.table.plain.lacks hkey).append_cons (isKeyword_of_mem hkey).1 point
      (q.column.plain.lacks hkey)
  | phrase p => exact p.plain.lacks hkey
  | number n => exact (plain_toDigits n).lacks hkey
  | equals =>
    exact lacks_of_not_isInfix (isKeyword_of_mem hkey).2
      ((by decide : ∀ key ∈ clauseWords, ¬ key <:+: lowerAscii ['=']) key hkey)

end Piece

/-- The text of some pieces with a space in front of each. -/
def textOf (pieces : List Piece) : List Char := spread (pieces.map Piece.text)

theorem textOf_cons (p : Piece) (pieces : List Piece) :
    textOf (p :: pieces) = ' ' :: (p.text ++ textOf pieces) := by
  rw [textOf, List.map_cons, spread_cons, textOf]

theorem stops_textOf {p : Char → Bool} (hp : p ' ' = false) (pieces : List Piece) :
    Stops p (textOf pieces) := stops_spread hp _

/-- The keyword is none of the pieces. -/
def Free (key : List Char) (pieces : List Piece) : Prop := key ∉ pieces.filterMap Piece.key?

theorem Free.key?_ne {key : List Char} {pieces : List Piece} (h : Free key pieces) {p : Piece}
    (hp : p ∈ pieces) : p.key? ≠ some key := fun found =>
  h (List.mem_filterMap.mpr ⟨p, hp, found⟩)

theorem Free.nil {key : List Char} : Free key [] := List.not_mem_nil

theorem Free.append {key : List Char} {pieces more : List Piece} (h : Free key pieces)
    (hmore : Free key more) : Free key (pieces ++ more) := by
  rw [Free, List.filterMap_append, List.mem_append, not_or]
  exact ⟨h, hmore⟩

section Find

variable {α β : Type} {key : List Char} {read : List Char → Option α}

theorem findFirst?_textOf_append (led : LedBy key read) (hkey : key ∈ clauseWords)
    {before : List Piece} (hbefore : Free key before) (more : List Piece) :
    findFirst? read (textOf (before ++ more)) = findFirst? read (textOf more) := by
  rw [textOf, List.map_append, findFirst?_spread_append led, textOf]
  intro w hw
  obtain ⟨p, hp, rfl⟩ := List.mem_map.mp hw
  exact Piece.lacks hkey (hbefore.key?_ne hp)

theorem findFirst?_textOf_eq_none (led : LedBy key read) (hkey : key ∈ clauseWords)
    {pieces : List Piece} (hpieces : Free key pieces) :
    findFirst? read (textOf pieces) = none := by
  have skip := findFirst?_textOf_append led hkey hpieces []
  rw [List.append_nil] at skip
  rw [skip, textOf, List.map_nil, spread_nil, findFirst?, led.nil]

/-- What the search finds among pieces of which one part, if there, begins with the keyword. -/
theorem findFirst?_part (led : LedBy key read) (hkey : key ∈ clauseWords)
    {before after : List Piece} (hbefore : Free key before) (hafter : Free key after)
    {pieces : β → List Piece} {value : β → α} (part : Option β)
    (hread : ∀ b, ∃ p rest, pieces b = p :: rest ∧
      read (p.text ++ textOf (rest ++ after)) = some (value b)) :
    findFirst? read (textOf (before ++ (part.toList.flatMap pieces ++ after))) =
      part.map value := by
  rw [findFirst?_textOf_append led hkey hbefore]
  cases part with
  | none => exact findFirst?_textOf_eq_none led hkey hafter
  | some b =>
    obtain ⟨p, rest, hpieces, found⟩ := hread b
    rw [Option.toList_some, List.flatMap_singleton, hpieces, List.cons_append, textOf_cons,
      findFirst?_of_read led found, Option.map_some]

end Find

end SqlTutor.Query

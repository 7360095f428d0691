import SqlTutor.Text.Ranges.Word

/-!
Classes of characters that statements are read by: white space, characters of words, decimal
digits. Each is that of the Unicode standard, so words may be of any script.
-/
namespace SqlTutor.Text

/-- Whether a number lies in one of some ascending ranges. -/
def inRanges (n : Nat) : List (Nat × Nat) → Bool
  | [] => false
  | (first, last) :: rest => if n < first then false else n ≤ last || inRanges n rest

/-- White space of every kind, line and paragraph ends included. -/
def isBlank (c : Char) : Bool :=
  inRanges c.toNat
    [(0x9, 0xd), (0x20, 0x20), (0x85, 0x85), (0xa0, 0xa0), (0x1680, 0x1680), (0x2000, 0x200a),
     (0x2028, 0x2029), (0x202f, 0x202f), (0x205f, 0x205f), (0x3000, 0x3000)]

/-- Letters and their marks, decimal digits, connecting punctuation such as `_`, and joiners. -/
def isWordChar (c : Char) : Bool :=
  if c.toNat < 128 then c.isAlphanum || c == '_' else inRanges c.toNat Ranges.word

def isDecimalDigit (c : Char) : Bool :=
  if c.toNat < 128 then c.isDigit else inRanges c.toNat Ranges.digit

end SqlTutor.Text

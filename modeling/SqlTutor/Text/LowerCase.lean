import SqlTutor.Text.Classes
import SqlTutor.Text.Ranges.Case

/-!
Lower-casing of whole texts. A character has one lower-case form, except that a capital sigma
at the end of a word becomes the final sigma, and a dotted capital I becomes two characters.
-/
namespace SqlTutor.Text

def isCased (c : Char) : Bool :=
  if c.toNat < 128 then c.isAlpha else inRanges c.toNat Ranges.cased

/-- Characters passed over when the letters around a sigma are looked at. -/
def isCaseIgnorable (c : Char) : Bool :=
  if c.toNat < 128 then [0x27, 0x2e, 0x3a, 0x5e, 0x60].contains c.toNat
  else inRanges c.toNat Ranges.caseIgnorable

/-- The partner in the first run that holds the number. -/
def partner? (n : Nat) : List Ranges.CaseRun → Option Nat
  | [] => none
  | run :: rest =>
    if n < run.first then none
    else if n ≤ run.last && (n - run.first) % run.step == 0 then
      some (run.partner + (n - run.first))
    else partner? n rest

/-- The lower-case form that does not depend on the characters around. -/
def lowerChar (c : Char) : List Char :=
  if c.toNat < 128 then [c.toLower]
  else if c == '\u0130' then ['i', '\u0307']
  else [((partner? c.toNat Ranges.lowerCase).map Char.ofNat).getD c]

/-- Whether a letter with case comes next, case-ignorable characters aside. -/
def nextIsCased (s : List Char) : Bool :=
  match s.dropWhile isCaseIgnorable with
  | [] => false
  | c :: _ => isCased c

/-- Lower-cases the rest of a text; `afterCased` tells whether a letter with case came last,
case-ignorable characters aside. -/
def lowerFrom (afterCased : Bool) : List Char → List Char
  | [] => []
  | c :: s =>
    (if c == 'Σ' then [if afterCased && !nextIsCased s then 'ς' else 'σ'] else lowerChar c) ++
      lowerFrom (if isCaseIgnorable c then afterCased else isCased c) s

def lower (s : List Char) : List Char := lowerFrom false s

/-- Letters of ASCII made small, all other characters kept. -/
def lowerAscii (s : List Char) : List Char := s.map Char.toLower

end SqlTutor.Text

import SqlTutor.Text.Classes
import SqlTutor.Text.Ranges.Hidden

/-!
Texts in double quotes for a reader of messages: what has no shape of its own is shown by its
number.
-/
namespace SqlTutor.Text

/-- Characters shown by number. -/
def isHidden (c : Char) : Bool := inRanges c.toNat Ranges.hidden

def quotedChar (c : Char) : List Char :=
  if c == '\x00' then ['\\', '0']
  else if c == '\t' then ['\\', 't']
  else if c == '\n' then ['\\', 'n']
  else if c == '\r' then ['\\', 'r']
  else if c == '"' || c == '\\' then ['\\', c]
  else if isHidden c then
    ['\\', 'u', '\x7b'] ++ Nat.toDigits 16 c.toNat ++ ['\x7d']
  else [c]

def quoted (s : List Char) : List Char := '"' :: s.flatMap quotedChar ++ ['"']

end SqlTutor.Text

import SqlTutor.Text.Classes

/-!
A text as a sequence of words with white space between them. Collapsing keeps the words and
makes every gap one space.
-/
namespace SqlTutor.Text

def trimStart (s : List Char) : List Char := s.dropWhile isBlank

def trimEnd (s : List Char) : List Char := (s.reverse.dropWhile isBlank).reverse

def trim (s : List Char) : List Char := trimEnd (trimStart s)

/-- The longest pieces free of white space, in order. -/
def words (s : List Char) : List (List Char) :=
  (s.splitOnP isBlank).filter (fun w => !w.isEmpty)

def collapse (s : List Char) : List Char := [' '].intercalate (words s)

/-- All white space taken out. -/
def compact (s : List Char) : List Char := s.filter (fun c => !isBlank c)

end SqlTutor.Text

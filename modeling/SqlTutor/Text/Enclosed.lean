import SqlTutor.Text.Scan

/-!
Texts on one line between an opening keyword, with white space behind it, and a closing keyword,
with white space before it. Of a text in which several are found the first opening keyword
counts, then the white space that is taken as long as it goes, and then the nearest closing one.

`Enclosure.find?` goes through a text once, from its end. Its law, `find?_eq_findFirst?`, says
that it finds what trying every place finds.
-/
namespace SqlTutor.Text

/-- Tries a reader behind all the white space at hand, then behind less and less of it, but never
behind none. -/
def afterBlanks? {α : Type} (read : List Char → Option α) : List Char → Option α
  | [] => none
  | c :: s => if isBlank c then (afterBlanks? read s).or (read s) else none

/-- The shortest text on the line before a place where `stop` holds, and not empty. -/
def textBefore? (stop : List Char → Bool) : List Char → Option (List Char)
  | [] => none
  | c :: s =>
    if c = '\n' then none
    else if stop s then some [c]
    else (textBefore? stop s).map (c :: ·)

/-- The keywords around a text. -/
structure Enclosure where
  opening : List Char
  closing : List (List Char)
  /-- Whether the end of all text closes, too. -/
  endCloses : Bool

namespace Enclosure

def closesAt (e : Enclosure) (s : List Char) : Bool :=
  e.closing.any fun key => (keyword? key s).isSome

/-- White space, and then a closing keyword. -/
def gapAt (e : Enclosure) : List Char → Bool
  | [] => false
  | c :: s => isBlank c && (e.closesAt s || e.gapAt s)

def endsAt (e : Enclosure) (s : List Char) : Bool := (e.endCloses && s.isEmpty) || e.gapAt s

/-- The enclosed text whose opening keyword stands at the front. -/
def read? (e : Enclosure) (s : List Char) : Option (List Char) :=
  (keyword? e.opening s).bind (afterBlanks? (textBefore? e.endsAt))

/-- What is known of the rest of a text. -/
structure Ahead where
  rest : List Char
  gap : Bool
  text : Option (List Char)
  /-- What is read behind white space, at this place and at each later one. -/
  behind : List (Option (List Char))
  found : Option (List Char)

def step (e : Enclosure) (c : Char) (a : Ahead) : Ahead :=
  let behind := (if isBlank c then (a.behind.head?.join).or a.text else none) :: a.behind
  let here := (keyword? e.opening (c :: a.rest)).bind fun _ => behind[e.opening.length]?.join
  { rest := c :: a.rest
    gap := isBlank c && (e.closesAt a.rest || a.gap)
    text :=
      if c = '\n' then none
      else if (e.endCloses && a.rest.isEmpty) || a.gap then some [c]
      else a.text.map (c :: ·)
    behind := behind
    found := here.or a.found }

def ahead (e : Enclosure) (s : List Char) : Ahead := s.foldr e.step ⟨[], false, none, [none], none⟩

/-- The first enclosed text. -/
def find? (e : Enclosure) (s : List Char) : Option (List Char) := (e.ahead s).found

theorem ahead_cons (e : Enclosure) (c : Char) (s : List Char) :
    e.ahead (c :: s) = e.step c (e.ahead s) := rfl

theorem rest_ahead (e : Enclosure) (s : List Char) : (e.ahead s).rest = s := by
  induction s with
  | nil => rfl
  | cons c s ih => simp [ahead_cons, step, ih]

theorem gap_ahead (e : Enclosure) (s : List Char) : (e.ahead s).gap = e.gapAt s := by
  induction s with
  | nil => rfl
  | cons c s ih => simp [ahead_cons, step, rest_ahead, gapAt, ih]

theorem text_ahead (e : Enclosure) (s : List Char) :
    (e.ahead s).text = textBefore? e.endsAt s := by
  induction s with
  | nil => rfl
  | cons c s ih => simp [ahead_cons, step, rest_ahead, gap_ahead, textBefore?, endsAt, ih]

theorem getElem?_behind_ahead (e : Enclosure) (s : List Char) {n : Nat} (h : n ≤ s.length) :
    (e.ahead s).behind[n]? = some (afterBlanks? (textBefore? e.endsAt) (s.drop n)) := by
  induction s generalizing n with
  | nil =>
    obtain rfl : n = 0 := by simpa using h
    rfl
  | cons c s ih =>
    cases n with
    | succ n => simpa [ahead_cons, step] using ih (Nat.le_of_succ_le_succ h)
    | zero =>
      have here := ih (Nat.zero_le s.length)
      simp only [List.drop_zero, ← List.head?_eq_getElem?] at here
      simp [ahead_cons, step, here, text_ahead, afterBlanks?]

theorem find?_eq_findFirst? (e : Enclosure) (s : List Char) :
    e.find? s = findFirst? e.read? s := by
  induction s with
  | nil => cases h : e.opening <;> simp [find?, ahead, findFirst?, read?, keyword?, afterBlanks?, h]
  | cons c s ih =>
    have here : (keyword? e.opening (c :: (e.ahead s).rest)).bind (fun _ =>
        (e.ahead (c :: s)).behind[e.opening.length]?.join) = e.read? (c :: s) := by
      rw [rest_ahead, read?]
      cases h : keyword? e.opening (c :: s) with
      | none => rfl
      | some r =>
        obtain ⟨hr, hn⟩ := keyword?_eq_some h
        simp [getElem?_behind_ahead e _ hn, hr]
    rw [findFirst?, ← ih, ← here]
    rfl

end Enclosure

end SqlTutor.Text

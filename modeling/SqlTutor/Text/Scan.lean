import SqlTutor.Text.Classes

/-!
Readers that take a piece off the front of a text and give what is left, and the search for the
first place where a reader succeeds. Runs are always taken as long as they go. Keywords are read
without regard to letter case.
-/
namespace SqlTutor.Text

/-- The small letter that a character stands for when letter case is ignored. Beyond ASCII only
the long s and the kelvin sign stand for letters of ASCII. -/
def foldCase (c : Char) : Char :=
  if c == '\u017f' then 's' else if c == '\u212a' then 'k' else c.toLower

/-- Reads a keyword, given in small letters. -/
def keyword? : List Char → List Char → Option (List Char)
  | [], s => some s
  | _ :: _, [] => none
  | k :: ks, c :: s => if foldCase c = k then keyword? ks s else none

/-- Reads exactly the given text. -/
def exactly? : List Char → List Char → Option (List Char)
  | [], s => some s
  | _ :: _, [] => none
  | k :: ks, c :: s => if c = k then exactly? ks s else none

/-- Reads the longest run of a class; an empty run is refused. -/
def run? (p : Char → Bool) (s : List Char) : Option (List Char × List Char) :=
  match s.takeWhile p with
  | [] => none
  | c :: cs => some (c :: cs, s.dropWhile p)

def word? (s : List Char) : Option (List Char × List Char) := run? isWordChar s

def digits? (s : List Char) : Option (List Char × List Char) := run? isDecimalDigit s

/-- Skips white space, of which there has to be some. -/
def blanks? (s : List Char) : Option (List Char) := (run? isBlank s).map Prod.snd

/-- The first success of a reader over all places of a text, its end included. -/
def findFirst? {α : Type} (read : List Char → Option α) : List Char → Option α
  | [] => read []
  | c :: s => (read (c :: s)).or (findFirst? read s)

/-- The first success of a reader over the beginnings of words; `inside` tells whether the text
goes on from within a word. -/
def findFromWord? {α : Type} (read : List Char → Option α) (inside : Bool) :
    List Char → Option α
  | [] => none
  | c :: s =>
    if isWordChar c then (if inside then none else read (c :: s)).or (findFromWord? read true s)
    else findFromWord? read false s

def findWord? {α : Type} (read : List Char → Option α) (s : List Char) : Option α :=
  findFromWord? read false s

/-- A reader that takes whole words, and so fails inside a word where it fails at its beginning,
needs to be tried at the beginnings of words only. -/
theorem findWord?_eq_findFirst? {α : Type} {read : List Char → Option α}
    (starts : ∀ s, read s ≠ none → ∃ c r, s = c :: r ∧ isWordChar c)
    (whole : ∀ c d s, isWordChar c → isWordChar d → read (c :: d :: s) = none →
      read (d :: s) = none)
    (s : List Char) : findWord? read s = findFirst? read s := by
  have outside : ∀ c r, ¬ isWordChar c → read (c :: r) = none := by
    intro c r hc
    by_cases h : read (c :: r) = none
    · exact h
    · obtain ⟨d, t, ht, hd⟩ := starts _ h
      rw [List.cons.injEq] at ht
      exact absurd (ht.1 ▸ hd) hc
  have empty : read [] = none := by
    by_cases h : read [] = none
    · exact h
    · obtain ⟨d, t, ht, _⟩ := starts _ h
      simp at ht
  have passed : ∀ r inside,
      (inside = true → ∀ c t, r = c :: t → isWordChar c → read r = none) →
      findFromWord? read inside r = findFirst? read r := by
    intro r
    induction r with
    | nil => intro inside _; simp [findFromWord?, findFirst?, empty]
    | cons c t ih =>
      intro inside hr
      by_cases hc : isWordChar c
      · have first : (if inside then none else read (c :: t)) = read (c :: t) := by
          cases inside with
          | false => rfl
          | true => simp [hr rfl c t rfl hc]
        rw [findFromWord?, if_pos hc, findFirst?, first]
        cases h : read (c :: t) with
        | some a => rfl
        | none =>
          simp only [Option.none_or]
          refine ih true fun _ d u hu hd => ?_
          subst hu
          exact whole c d u hc hd h
      · rw [findFromWord?, if_neg hc, findFirst?, outside c t hc, Option.none_or]
        exact ih false (by simp)
  exact passed s false (by simp)

theorem word?_cons {c : Char} {s : List Char} (h : isWordChar c) :
    word? (c :: s) = some (c :: s.takeWhile isWordChar, s.dropWhile isWordChar) := by
  simp [word?, run?, h]

theorem exists_cons_of_word? {s : List Char} (h : word? s ≠ none) :
    ∃ c r, s = c :: r ∧ isWordChar c := by
  cases s with
  | nil => simp [word?, run?] at h
  | cons c r =>
    by_cases hc : isWordChar c
    · exact ⟨c, r, rfl, hc⟩
    · simp [word?, run?, hc] at h

/-- A reader that begins with a word, and fails or not by what follows it, takes whole words. -/
theorem findWord?_eq_of_bind {α : Type} {read : List Char → Option α}
    {next : List Char × List Char → Option α} (begins : ∀ s, read s = (word? s).bind next)
    (byRest : ∀ w v r, next (w, r) = none → next (v, r) = none) (s : List Char) :
    findWord? read s = findFirst? read s := by
  refine findWord?_eq_findFirst? (fun s h => exists_cons_of_word? fun none => h ?_)
    (fun c d r hc hd h => ?_) s
  · rw [begins, none, Option.bind_none]
  · rw [begins, word?_cons hc, List.takeWhile_cons_of_pos hd, List.dropWhile_cons_of_pos hd,
      Option.bind_some] at h
    rw [begins, word?_cons hd, Option.bind_some]
    exact byRest _ _ _ h

/-- Whether a text occurs in another one. -/
def occursIn (needle : List Char) : List Char → Bool
  | [] => needle.isEmpty
  | c :: s => needle.isPrefixOf (c :: s) || occursIn needle s

/-- Reads a keyword together with the white space that must stand on both sides of it. -/
def separator? (key : List Char) (s : List Char) : Option (List Char) := do
  blanks? (← keyword? key (← blanks? s))

/-- A keyword takes as many characters off a text as it has itself. -/
theorem keyword?_eq_some {key s rest : List Char} (h : keyword? key s = some rest) :
    rest = s.drop key.length ∧ key.length ≤ s.length := by
  induction key generalizing s with
  | nil => simp_all [keyword?]
  | cons k ks ih =>
    cases s with
    | nil => simp [keyword?] at h
    | cons c s =>
      simp only [keyword?] at h
      split at h
      · simpa using ih h
      · simp at h

theorem keyword?_length_le {key s rest : List Char} (h : keyword? key s = some rest) :
    rest.length ≤ s.length := by
  simp [(keyword?_eq_some h).1]

theorem exactly?_length_le {key s rest : List Char} (h : exactly? key s = some rest) :
    rest.length ≤ s.length := by
  induction key generalizing s with
  | nil => simp_all [exactly?]
  | cons k ks ih =>
    cases s with
    | nil => simp [exactly?] at h
    | cons c s =>
      simp only [exactly?] at h
      split at h
      · exact Nat.le_succ_of_le (ih h)
      · simp at h

theorem blanks?_length_lt {s rest : List Char} (h : blanks? s = some rest) :
    rest.length < s.length := by
  simp only [blanks?, run?] at h
  split at h
  · simp at h
  · rename_i hne
    simp only [Option.map_some, Option.some.injEq] at h
    subst h
    have := congrArg List.length (List.takeWhile_append_dropWhile (p := isBlank) (l := s))
    rw [List.length_append] at this
    have : 0 < (s.takeWhile isBlank).length := by simp [hne]
    omega

theorem separator?_length_lt {key s rest : List Char} (h : separator? key s = some rest) :
    rest.length < s.length := by
  simp only [separator?, Option.bind_eq_bind, Option.bind_eq_some_iff] at h
  obtain ⟨a, ha, b, hb, hr⟩ := h
  have := blanks?_length_lt ha
  have := keyword?_length_le hb
  have := blanks?_length_lt hr
  omega

/-- Puts a character in front of the first of some pieces. -/
def consFirst (c : Char) : List (List Char) → List (List Char)
  | [] => [[c]]
  | piece :: rest => (c :: piece) :: rest

/-- Cuts a text at each occurrence of a separating keyword, taken from the left. `tried` tells
whether the white space just passed was tried in vain; then what is left of it needs no trial. -/
def splitOnWordFrom (key : List Char) (tried : Bool) : List Char → List (List Char)
  | [] => [[]]
  | c :: s =>
    if tried && isBlank c then consFirst c (splitOnWordFrom key true s)
    else
      match _ : separator? key (c :: s) with
      | some rest => [] :: splitOnWordFrom key false rest
      | none => consFirst c (splitOnWordFrom key (isBlank c) s)
termination_by s => s.length
decreasing_by
  · exact Nat.lt_succ_self _
  · exact separator?_length_lt ‹_›
  · exact Nat.lt_succ_self _

def splitOnWord (key : List Char) (s : List Char) : List (List Char) := splitOnWordFrom key false s

theorem separator?_cons_cons {key s : List Char} {c d : Char} (hc : isBlank c) (hd : isBlank d) :
    separator? key (c :: d :: s) = separator? key (d :: s) := by
  simp [separator?, blanks?, run?, hc, hd]

theorem splitOnWordFrom_cons (key : List Char) (tried : Bool) (c : Char) (s : List Char) :
    splitOnWordFrom key tried (c :: s) =
      if tried && isBlank c then consFirst c (splitOnWordFrom key true s)
      else
        match separator? key (c :: s) with
        | some rest => [] :: splitOnWordFrom key false rest
        | none => consFirst c (splitOnWordFrom key (isBlank c) s) := by
  rw [splitOnWordFrom]
  split
  · rfl
  · split <;> simp_all

theorem splitOnWordFrom_true {key s : List Char}
    (h : ∀ c r, s = c :: r → isBlank c → separator? key s = none) :
    splitOnWordFrom key true s = splitOnWordFrom key false s := by
  cases s with
  | nil => simp [splitOnWordFrom]
  | cons c r =>
    rw [splitOnWordFrom_cons, splitOnWordFrom_cons]
    by_cases hc : isBlank c
    · simp [hc, h c r rfl hc]
    · simp [hc]

theorem splitOnWord_nil (key : List Char) : splitOnWord key [] = [[]] := by
  rw [splitOnWord, splitOnWordFrom]

/-- Every place is a trial, all in all. -/
theorem splitOnWord_cons (key : List Char) (c : Char) (s : List Char) :
    splitOnWord key (c :: s) =
      match separator? key (c :: s) with
      | some rest => [] :: splitOnWord key rest
      | none => consFirst c (splitOnWord key s) := by
  rw [splitOnWord, splitOnWordFrom_cons, Bool.false_and, if_neg Bool.false_ne_true]
  cases h : separator? key (c :: s) with
  | some rest => rfl
  | none =>
    by_cases hc : isBlank c
    · have same : splitOnWordFrom key true s = splitOnWordFrom key false s := by
        refine splitOnWordFrom_true fun d r hr hd => ?_
        subst hr
        rw [← separator?_cons_cons hc hd, h]
      simp only [hc, same, splitOnWord]
    · simp only [hc, splitOnWord]

end SqlTutor.Text

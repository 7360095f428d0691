import SqlTutor.Proofs.Text.Keywords
import SqlTutor.Query.Sandbox
import Mathlib.Data.List.Induction

/-!
A statement counts only as the sequence of its words, whatever stands between them: statements with
the same words are of one kind and have one answer, on every dataset and under all options. Queries
are collapsed before they are read; writes are not, so it is shown of what they look for that
collapsing would change nothing.
-/
namespace SqlTutor.Text

/-- The solid beginning of a text, and the later words with one space in front of each. -/
def narrow (s : List Char) : List Char :=
  s.takeWhile (!isBlank ·) ++ spread (words (s.dropWhile (!isBlank ·)))

theorem narrow_nil : narrow [] = [] := by simp [narrow, words_nil]

theorem narrow_cons_solid {c : Char} (hc : isBlank c = false) (s : List Char) :
    narrow (c :: s) = c :: narrow s := by simp [narrow, hc]

theorem narrow_cons_blank {c : Char} (hc : isBlank c) (s : List Char) :
    narrow (c :: s) = spread (words s) := by simp [narrow, hc, words_blank_cons]

theorem words_trimStart (s : List Char) : words (trimStart s) = words s := by
  induction s with
  | nil => rfl
  | cons c s ih =>
    by_cases hc : isBlank c
    · simpa [trimStart, hc, words_blank_cons] using ih
    · simp [trimStart, hc]

theorem words_trimEnd (s : List Char) : words (trimEnd s) = words s := by
  induction s using List.reverseRecOn with
  | nil => rfl
  | append_singleton s c ih =>
    unfold trimEnd at ih ⊢
    rw [List.reverse_concat]
    by_cases hc : isBlank c
    · rw [List.dropWhile_cons_of_pos hc, ih, words_append_cons s [] hc, words_nil, List.append_nil]
    · rw [List.dropWhile_cons_of_neg hc, List.reverse_cons, List.reverse_reverse]

theorem words_trim (s : List Char) : words (trim s) = words s := by
  rw [trim, words_trimEnd, words_trimStart]

theorem stops_trimStart (s : List Char) : Stops isBlank (trimStart s) := by
  intro c hc
  have stop := List.head?_dropWhile_not isBlank s
  rw [← trimStart, Option.mem_def.mp hc] at stop
  simpa using stop

theorem spread_words_of_solid {c : Char} (hc : isBlank c = false) (s : List Char) :
    spread (words (c :: s)) = ' ' :: narrow (c :: s) := by
  have first : Solid ((c :: s).takeWhile (!isBlank ·)) :=
    ⟨by simp [hc], fun d hd => by simpa using List.mem_takeWhile_imp hd⟩
  have behind : ∀ d ∈ ((c :: s).dropWhile (!isBlank ·)).head?, isBlank d := by
    intro d hd
    have stop := List.head?_dropWhile_not (!isBlank ·) (c :: s)
    rw [Option.mem_def.mp hd] at stop
    simpa using stop
  have cut := words_append first behind
  rw [List.takeWhile_append_dropWhile] at cut
  rw [cut, spread_cons, narrow]

/-- Either no word is left, or a text goes on behind its white space with the next one. -/
theorem spread_words (s : List Char) :
    (trimStart s = [] ∧ spread (words s) = []) ∨
      spread (words s) = ' ' :: narrow (trimStart s) := by
  have stop := stops_trimStart s
  rw [← words_trimStart]
  cases hs : trimStart s with
  | nil => exact Or.inl ⟨rfl, by rw [words_nil, spread_nil]⟩
  | cons c t =>
    rw [hs] at stop
    exact Or.inr (spread_words_of_solid (stop c rfl) t)

theorem takeWhile_narrow {p : Char → Bool} (hp : ∀ c, isBlank c → p c = false) (s : List Char) :
    (narrow s).takeWhile p = s.takeWhile p := by
  induction s with
  | nil => rw [narrow_nil]
  | cons c s ih =>
    by_cases hc : isBlank c
    · rw [narrow_cons_blank hc]
      cases words s with
      | nil => simp [hp c hc]
      | cons w rest => simp [spread_cons, hp c hc, hp ' ' rfl]
    · rw [Bool.not_eq_true] at hc
      rw [narrow_cons_solid hc, List.takeWhile_cons, List.takeWhile_cons, ih]

theorem keyword?_blank {key : List Char} (hkey : IsKeyword key) {c : Char} (hc : isBlank c)
    (s : List Char) : keyword? key (c :: s) = none := by
  obtain ⟨k, ks, rfl⟩ := List.exists_cons_of_ne_nil hkey.1
  rw [keyword?, if_neg (foreign_blank hkey hc k List.mem_cons_self)]

theorem keyword?_narrow {key : List Char} (hkey : ∀ k ∈ key, k.isLower) (s : List Char) :
    keyword? key (narrow s) = (keyword? key s).map narrow := by
  induction key generalizing s with
  | nil => rfl
  | cons k ks ih =>
    have whole : IsKeyword (k :: ks) := ⟨by simp, hkey⟩
    cases s with
    | nil => simp [narrow_nil, keyword?]
    | cons c s =>
      by_cases hc : isBlank c
      · rw [narrow_cons_blank hc, keyword?_blank whole hc]
        cases words s with
        | nil => rfl
        | cons w rest => exact keyword?_blank whole (c := ' ') rfl _
      · rw [Bool.not_eq_true] at hc
        rw [narrow_cons_solid hc, keyword?, keyword?]
        split
        · exact ih (fun j hj => hkey j (List.mem_cons_of_mem _ hj)) s
        · rfl

/-- A reader for which a text is as good as its narrow form. -/
def Blind {α : Type} (read : List Char → Option α) : Prop := ∀ s, read (narrow s) = read s

section Blind

variable {α : Type} {next : List Char → Option α}

theorem Blind.keyword {key : List Char} (hkey : IsKeyword key) (h : Blind next) :
    Blind fun s => (keyword? key s).bind next := by
  intro s
  simp only [keyword?_narrow hkey.2, Option.bind_map]
  cases keyword? key s with
  | none => rfl
  | some r => exact h r

/-- White space at the end of a text is lost when gaps are made narrow; so what comes next must
not be satisfied with nothing. -/
theorem Blind.blanks (h : Blind next) (hnil : next [] = none) :
    Blind fun s => (blanks? s).bind next := by
  intro s
  cases s with
  | nil => rw [narrow_nil]
  | cons c s =>
    by_cases hc : isBlank c
    · simp only [narrow_cons_blank hc, blanks?_cons hc, Option.bind_some]
      rcases spread_words s with ⟨empty, none⟩ | more
      · rw [empty, none, hnil]
        rfl
      · have stop : Stops isBlank (narrow (trimStart s)) := by
          have front := stops_trimStart s
          cases hs : trimStart s with
          | nil => simp [narrow_nil, Stops]
          | cons d t =>
            rw [hs] at front
            rw [narrow_cons_solid (front d rfl)]
            exact front
        rw [more, blanks?_space stop, Option.bind_some, h]
    · rw [Bool.not_eq_true] at hc
      simp [narrow_cons_solid hc, blanks?, run?, hc]

theorem blind_word : Blind fun s => (word? s).map Prod.fst := by
  intro s
  have same : ∀ t, (word? t).map Prod.fst =
      if t.takeWhile isWordChar = [] then none else some (t.takeWhile isWordChar) := by
    intro t
    simp only [word?, run?]
    cases t.takeWhile isWordChar <;> simp
  simp only [same, takeWhile_narrow fun c hc => isWordChar_eq_false hc]

/-- The first success of a blind reader is the same in the collapsed text. -/
theorem findFirst?_collapse {key : List Char} (h : Blind next) (led : LedBy key next)
    (s : List Char) : findFirst? next (collapse s) = findFirst? next s := by
  have passed : ∀ c t, isBlank c → findFirst? next (c :: t) = findFirst? next t := fun c t hc =>
    findFirst?_cons_of_foreign led (foreign_blank led.isKeyword hc) t
  -- The words spread out and the narrow form differ at most by a space in front.
  have spaced : ∀ t, findFirst? next (spread (words t)) = findFirst? next (narrow t) := by
    intro t
    cases t with
    | nil => rw [words_nil, spread_nil, narrow_nil]
    | cons c t =>
      by_cases hc : isBlank c
      · rw [narrow_cons_blank hc, words_blank_cons t hc]
      · rw [Bool.not_eq_true] at hc
        rw [spread_words_of_solid hc, passed ' ' _ rfl]
  have narrowed : ∀ t, findFirst? next (narrow t) = findFirst? next t := by
    intro t
    induction t with
    | nil => rw [narrow_nil]
    | cons c t ih =>
      by_cases hc : isBlank c
      · rw [narrow_cons_blank hc, spaced, ih, passed c t hc]
      · rw [Bool.not_eq_true] at hc
        have here := h (c :: t)
        rw [narrow_cons_solid hc] at here ⊢
        rw [findFirst?, findFirst?, here, ih]
  rw [← narrowed s, ← spaced s]
  by_cases empty : words s = []
  · simp [collapse, empty]
  · rw [← cons_collapse empty, passed ' ' _ rfl]

end Blind

end SqlTutor.Text

namespace SqlTutor.Query

open Text

theorem blind_readInsert? : Blind readInsert? := by
  have insert : IsKeyword "insert".toList := by decide
  have into : IsKeyword "into".toList := by decide
  have pieces := (((blind_word.blanks rfl).keyword into).blanks rfl).keyword insert
  intro s
  have here := pieces s
  simpa [readInsert?, Option.map_eq_bind, Function.comp_def] using here

theorem ledBy_readInsert? : LedBy "insert".toList readInsert? where
  isKeyword := by decide
  none_of_none s h := by
    rw [readInsert?, h]
    rfl

theorem insertTable?_collapse (s : List Char) : insertTable? (collapse s) = insertTable? s := by
  rw [insertTable?, findFirst?_collapse blind_readInsert? ledBy_readInsert?, insertTable?]

/-- RETURNING is asked for within a single word. -/
theorem hasReturning_eq_any (s : List Char) :
    hasReturning s = (words s).any fun w => occursIn "returning".toList (lower w) := by
  induction s using blank_induction with
  | solid s hs =>
    by_cases empty : s = []
    · subst empty
      rw [words_nil]
      rfl
    · rw [words_solid ⟨empty, hs⟩, List.any_cons, List.any_nil, Bool.or_false, hasReturning]
  | gap s c t hc ihs iht =>
    have letters : c ∉ "returning".toList := of_isBlank hc (· ∉ "returning".toList) (by decide)
    rw [hasReturning, lower_append_cons s t hc, occursIn_append_cons (by decide) letters,
      words_append_cons s t hc, List.any_append, ← ihs, ← iht, hasReturning, hasReturning]

theorem hasReturning_collapse (s : List Char) : hasReturning (collapse s) = hasReturning s := by
  rw [hasReturning_eq_any, words_collapse, ← hasReturning_eq_any]

theorem Sandbox.execute?_collapse (sandbox : Sandbox) (s : List Char) :
    sandbox.execute? (String.ofList (collapse s)) = sandbox.execute? (String.ofList s) := by
  have again : collapse (collapse s) = collapse s := by rw [collapse, words_collapse, ← collapse]
  simp only [Sandbox.execute?, StatementKind.ofText?, select, insert, update, delete, change,
    String.toList_ofList, again, insertTable?_collapse, hasReturning_collapse]

/-- Statements with the same words are of one kind and are answered alike. -/
theorem execute?_eq_of_words_eq (sandbox : Sandbox) {s t : String}
    (h : words s.toList = words t.toList) :
    StatementKind.ofText? s = StatementKind.ofText? t ∧
      sandbox.execute? s = sandbox.execute? t := by
  have collapsed : collapse s.toList = collapse t.toList := by rw [collapse, collapse, h]
  have kind : StatementKind.ofText? s = StatementKind.ofText? t := by
    simp only [StatementKind.ofText?, collapsed]
  have returning : hasReturning s.toList = hasReturning t.toList := by
    rw [← hasReturning_collapse, collapsed, hasReturning_collapse]
  have table : insertTable? s.toList = insertTable? t.toList := by
    rw [← insertTable?_collapse, collapsed, insertTable?_collapse]
  refine ⟨kind, ?_⟩
  simp only [Sandbox.execute?, kind, select, insert, update, delete, change, collapsed, table,
    returning]

/-- No-break spaces, line ends and a tab between the words of an INSERT change nothing. -/
theorem execute?_eq_of_words_eq_insert :
    words "INSERT INTO users (name) VALUES ('ΟΔΟΣ') RETURNING id".toList =
        words "\n INSERT\tINTO\u00a0users\n(name) VALUES ('ΟΔΟΣ')\u3000RETURNING id ".toList ∧
      StatementKind.ofText? "INSERT INTO users (name) VALUES ('ΟΔΟΣ') RETURNING id" =
        StatementKind.ofText?
          "\n INSERT\tINTO\u00a0users\n(name) VALUES ('ΟΔΟΣ')\u3000RETURNING id " ∧
      Sandbox.execute? ⟨Dataset.sample, { today := ⟨2024, 6, 1⟩ }⟩
          "INSERT INTO users (name) VALUES ('ΟΔΟΣ') RETURNING id" =
        Sandbox.execute? ⟨Dataset.sample, { today := ⟨2024, 6, 1⟩ }⟩
          "\n INSERT\tINTO\u00a0users\n(name) VALUES ('ΟΔΟΣ')\u3000RETURNING id " :=
  have same : words "INSERT INTO users (name) VALUES ('ΟΔΟΣ') RETURNING id".toList =
      words "\n INSERT\tINTO\u00a0users\n(name) VALUES ('ΟΔΟΣ')\u3000RETURNING id ".toList := by
    decide +kernel
  ⟨same, execute?_eq_of_words_eq _ same⟩

end SqlTutor.Query

import SqlTutor.Proofs.Query.Counting

/-!
Clauses behind a query. A query may go on with any number of ORDER BY, LIMIT and GROUP BY, and of
each kind the first one counts, if the query has none itself. It answers the same in whatever order
one clause of each kind stands behind it, and a limit behind it keeps the first rows of what it
answers.
-/
namespace SqlTutor.Query

open Text

def Direction.written : Direction → List Char
  | .ascending => "ASC".toList
  | .descending => "DESC".toList

/-- A clause as it is written behind a query. -/
inductive TrailingClause where
  | orderBy (column : Column) (direction : Option Direction)
  | limit (n : Nat)
  | groupBy (column : Column)

/-- Words that may stand behind the column of a clause. -/
def breakWords : List (List Char) := clauseOpenings ++ ["ASC".toList, "DESC".toList]

theorem Direction.written_mem_breakWords (d : Direction) : d.written ∈ breakWords := by
  cases d <;> decide

namespace TrailingClause

def opening : TrailingClause → List Char
  | orderBy _ _ => "ORDER".toList
  | limit _ => "LIMIT".toList
  | groupBy _ => "GROUP".toList

/-- The words behind the opening one. -/
def arguments : TrailingClause → List (List Char)
  | orderBy column direction =>
    "BY".toList :: column.text :: direction.toList.map Direction.written
  | limit n => [Nat.toDigits 10 n]
  | groupBy column => ["BY".toList, column.text]

def words (c : TrailingClause) : List (List Char) := c.opening :: c.arguments

def orderBy? : TrailingClause → Option OrderBy
  | orderBy column direction => some ⟨String.ofList column.text, direction.getD .ascending⟩
  | _ => none

def limit? : TrailingClause → Option Nat
  | limit n => some (min n maxLimit)
  | _ => none

def groupBy? : TrailingClause → Option (List Char)
  | groupBy column => some column.text
  | _ => none

theorem opening_mem (c : TrailingClause) : c.opening ∈ clauseOpenings := by
  cases c with
  | orderBy => exact (by decide : "ORDER".toList ∈ clauseOpenings)
  | limit => exact (by decide : "LIMIT".toList ∈ clauseOpenings)
  | groupBy => exact (by decide : "GROUP".toList ∈ clauseOpenings)

/-- All words of clauses are words in the sense of the readers. -/
theorem isWordChar_of_mem_words {c : TrailingClause} {w : List Char} (hw : w ∈ c.words) :
    w ≠ [] ∧ ∀ d ∈ w, isWordChar d := by
  have letters : ∀ v ∈ "BY".toList :: breakWords, v ≠ [] ∧ ∀ d ∈ v, isWordChar d := by decide
  rcases List.mem_cons.mp hw with rfl | behind
  · exact letters _ (List.mem_cons_of_mem _ (List.mem_append_left _ c.opening_mem))
  · cases c with
    | orderBy column direction =>
      simp only [arguments, List.mem_cons, List.mem_map] at behind
      rcases behind with rfl | rfl | ⟨d, -, rfl⟩
      · exact letters _ List.mem_cons_self
      · exact ⟨column.ne_nil, column.chars⟩
      · exact letters _ (List.mem_cons_of_mem _ d.written_mem_breakWords)
    | limit n =>
      obtain rfl := List.mem_singleton.mp behind
      exact ⟨Nat.toDigits_ne_nil, fun d hd => isWordChar_of_mem_toDigits hd⟩
    | groupBy column =>
      simp only [arguments, List.mem_cons, List.not_mem_nil, or_false] at behind
      rcases behind with rfl | rfl
      · exact letters _ List.mem_cons_self
      · exact ⟨column.ne_nil, column.chars⟩

theorem solid_of_mem_words {c : TrailingClause} {w : List Char} (hw : w ∈ c.words) : Solid w :=
  ⟨(isWordChar_of_mem_words hw).1, fun d hd =>
    isBlank_eq_false ((isWordChar_of_mem_words hw).2 d hd)⟩

/-- What stands behind the opening word does not begin the condition of a join. -/
theorem exists_arguments (c : TrailingClause) :
    ∃ w more, c.arguments = w :: more ∧ ∀ t, keyword? "on".toList (w ++ t) = none := by
  cases c with
  | orderBy | groupBy => exact ⟨_, _, rfl, fun _ => rfl⟩
  | limit n =>
    refine ⟨_, [], rfl, fun t => ?_⟩
    obtain ⟨d, rest, digits⟩ := List.exists_cons_of_ne_nil (Nat.toDigits_ne_nil (b := 10) (n := n))
    have digit : d.isDigit := isDigit_of_mem_toDigits (digits ▸ List.mem_cons_self)
    have foreign : foldCase d ≠ 'o' := of_isDigit digit (fun d => foldCase d ≠ 'o') (by decide)
    rw [digits, List.cons_append]
    exact if_neg foreign

end TrailingClause

/-- The words of some clauses, in order. -/
def tailWords (tail : List TrailingClause) : List (List Char) :=
  tail.flatMap TrailingClause.words

/-- The query with the clauses behind it. -/
def followedBy (query : List Char) (tail : List TrailingClause) : List Char :=
  query ++ spread (tailWords tail)

/-- Nothing stands behind a clause, or another clause. -/
def Follows (rest : List (List Char)) : Prop := ∀ v ∈ rest.head?, v ∈ clauseOpenings

theorem follows_tailWords (tail : List TrailingClause) : Follows (tailWords tail) := by
  cases tail with
  | nil => simp [Follows, tailWords]
  | cons c tail =>
    intro v hv
    obtain rfl : c.opening = v := by simpa [tailWords, TrailingClause.words] using hv
    exact c.opening_mem

/-- The reader takes none of these words for what it looks for behind its keyword. -/
def Breaks {α : Type} (key : List Char) (read : List Char → Option α) : Prop :=
  ∀ v ∈ breakWords, ∀ t, read (key ++ ' ' :: (v ++ t)) = none

section Search

variable {α : Type} {key : List Char} {read : List Char → Option α}

theorem Breaks.fails (h : Opened key read) (breaks : Breaks key read) {rest : List (List Char)}
    (hrest : ∀ v ∈ rest.head?, v ∈ breakWords) : read (key ++ spread rest) = none := by
  cases rest with
  | nil => exact h.read_keyword
  | cons v rest => exact breaks v (hrest v rfl) (spread rest)

theorem Direction.breaks (hkey : key ∈ clauseWords) (direction : Option Direction) :
    ∀ v ∈ direction.toList.map Direction.written, v ∈ breakWords ∧ ¬ EndsIn key v := by
  have apart : ∀ key ∈ clauseWords, ∀ d : Direction, ¬ EndsIn key d.written := by
    intro key hkey d
    cases d
    · exact (by decide : ∀ key ∈ clauseWords, ¬ EndsIn key "ASC".toList) key hkey
    · exact (by decide : ∀ key ∈ clauseWords, ¬ EndsIn key "DESC".toList) key hkey
  intro v hv
  obtain ⟨d, -, rfl⟩ := List.mem_map.mp hv
  exact ⟨d.written_mem_breakWords, apart key hkey d⟩

/-- A clause is passed over if its keywords are those of another kind. What it says may end in any
keyword, since a word that breaks it off stands behind. -/
theorem findFirst?_clause (h : Opened key read) (hkey : key ∈ clauseWords)
    (breaks : Breaks key read) {front rest : List (List Char)} {w : List Char}
    (more : List (List Char))
    (hfront : ∀ v ∈ front, (∀ c ∈ v, isBlank c = false) ∧ ¬ EndsIn key v)
    (hw : ∀ c ∈ w, isBlank c = false)
    (hmore : ∀ v ∈ more, v ∈ breakWords ∧ ¬ EndsIn key v) (hrest : Follows rest) :
    findFirst? read (spread (front ++ w :: (more ++ rest))) = findFirst? read (spread rest) := by
  have plain := (isKeyword_of_mem hkey).2
  have behind : ∀ v ∈ (more ++ rest).head?, v ∈ breakWords := by
    cases more with
    | nil => exact fun v hv => List.mem_append_left _ (hrest v hv)
    | cons w more =>
      intro v hv
      obtain rfl : w = v := by simpa using hv
      exact (hmore w List.mem_cons_self).1
  have letters : ∀ v ∈ breakWords, Solid v := by decide
  rw [findFirst?_spread_solid h plain hfront,
    findFirst?_spread_of_fails h plain hw fun _ => breaks.fails h behind]
  exact findFirst?_spread_solid h plain
    (fun v hv => ⟨(letters v (hmore v hv).1).2, (hmore v hv).2⟩) rest

/-- The opening words of ORDER BY and GROUP BY end in no other keyword. -/
theorem apart_by (hkey : key ∈ clauseWords) {opening : List Char}
    (hopening : (∀ d ∈ opening, isBlank d = false) ∧ ¬ EndsIn key opening) :
    ∀ v ∈ [opening, "BY".toList], (∀ d ∈ v, isBlank d = false) ∧ ¬ EndsIn key v := by
  have byWord : ∀ key ∈ clauseWords, ¬ EndsIn key "BY".toList := by decide
  exact List.forall_mem_cons.mpr ⟨hopening,
    List.forall_mem_singleton.mpr ⟨by decide, byWord key hkey⟩⟩

/-- A clause of another kind is passed over. -/
theorem findFirst?_other (h : Opened key read) (hkey : key ∈ clauseWords)
    (breaks : Breaks key read) {c : TrailingClause} (hother : ¬ EndsIn key c.opening)
    {rest : List (List Char)} (hrest : Follows rest) :
    findFirst? read (spread (c.words ++ rest)) = findFirst? read (spread rest) := by
  have openings : ∀ v ∈ clauseOpenings, Solid v := by decide
  have opening : (∀ d ∈ c.opening, isBlank d = false) ∧ ¬ EndsIn key c.opening :=
    ⟨(openings _ c.opening_mem).2, hother⟩
  cases c with
  | orderBy column direction =>
    exact findFirst?_clause h hkey breaks _ (apart_by hkey opening) column.solid.2
      (Direction.breaks hkey direction) hrest
  | limit n =>
    exact findFirst?_clause h hkey breaks [] (List.forall_mem_singleton.mpr opening)
      (solid_toDigits n).2 (List.forall_mem_nil _) hrest
  | groupBy column =>
    exact findFirst?_clause h hkey breaks [] (apart_by hkey opening) column.solid.2
      (List.forall_mem_nil _) hrest

/-- Behind its keyword the reader takes the clauses of one kind, and no others are of its kind. -/
structure Takes {α : Type} (key : List Char) (read : List Char → Option α)
    (value? : TrailingClause → Option α) : Prop where
  breaks : Breaks key read
  own : ∀ c a, value? c = some a → ∀ rest, Follows rest →
    read (c.opening ++ spread (c.arguments ++ rest)) = some a
  other : ∀ c, value? c = none → ¬ EndsIn key c.opening

/-- Of the clauses of one kind the first one is found. -/
theorem findFirst?_tailWords (h : Opened key read) (hkey : key ∈ clauseWords)
    {value? : TrailingClause → Option α} (takes : Takes key read value?)
    (tail : List TrailingClause) :
    findFirst? read (spread (tailWords tail)) = tail.findSome? value? := by
  induction tail with
  | nil => exact h.nil
  | cons c tail ih =>
    have rest := follows_tailWords tail
    rw [tailWords, List.flatMap_cons, ← tailWords, List.findSome?_cons]
    cases hc : value? c with
    | none => rw [findFirst?_other h hkey takes.breaks (takes.other c hc) rest, ih]
    | some a => exact findFirst?_of_read h.toLedBy (takes.own c a hc _ rest)

end Search

theorem word?_spread (column : Column) (rest : List (List Char)) :
    word? (column.text ++ spread rest) = some (column.text, spread rest) :=
  run?_append column.ne_nil column.chars (stops_spread rfl rest)

theorem blanks?_spread {w : List Char} (hw : Solid w) (rest : List (List Char)) :
    blanks? (spread (w :: rest)) = some (w ++ spread rest) :=
  blanks?_space (stops_append hw.1 (tidy_of_solid hw).stops _)

theorem readDirection_spread (direction : Option Direction) {rest : List (List Char)}
    (hrest : Follows rest) :
    readDirection (spread (direction.toList.map Direction.written ++ rest)) =
      direction.getD .ascending := by
  rcases direction with _ | _ | _
  · cases rest with
    | nil => rfl
    | cons v rest =>
      have opening := hrest v rfl
      simp only [clauseOpenings, List.mem_cons, List.not_mem_nil, or_false] at opening
      rcases opening with rfl | rfl | rfl <;> rfl
  · rfl
  · rfl

/-- The words that may break a clause off, one by one. -/
theorem breaks_of_openings {α : Type} {key : List Char} {read : List Char → Option α}
    (h : ∀ t, read (key ++ ' ' :: ("ORDER".toList ++ t)) = none ∧
      read (key ++ ' ' :: ("GROUP".toList ++ t)) = none ∧
      read (key ++ ' ' :: ("LIMIT".toList ++ t)) = none ∧
      read (key ++ ' ' :: ("ASC".toList ++ t)) = none ∧
      read (key ++ ' ' :: ("DESC".toList ++ t)) = none) : Breaks key read := by
  intro v hv t
  obtain ⟨order, group, limit, asc, desc⟩ := h t
  simp only [breakWords, clauseOpenings, List.cons_append, List.nil_append, List.mem_cons,
    List.not_mem_nil, or_false] at hv
  rcases hv with rfl | rfl | rfl | rfl | rfl
  · exact order
  · exact group
  · exact limit
  · exact asc
  · exact desc

section By

variable {w name behind : List Char} {rest : List (List Char)}

/-- ORDER BY takes the first word behind it. -/
theorem readOrderBy?_spread (hw : Solid w) (word : word? (w ++ spread rest) = some (name, behind)) :
    readOrderBy? ("ORDER".toList ++ spread ("BY".toList :: w :: rest)) =
      some ⟨String.ofList name, readDirection behind⟩ := by
  have orderWord : ∀ s, keyword? "order".toList ("ORDER".toList ++ s) = some s := fun _ => rfl
  have byWord : ∀ s, keyword? "by".toList ("BY".toList ++ s) = some s := fun _ => rfl
  have solid : Solid "BY".toList := by decide
  simp only [readOrderBy?, orderWord, blanks?_spread solid, byWord, blanks?_spread hw, word, bind,
    Option.bind_some, pure]

theorem readGroupBy?_spread (hw : Solid w) (word : word? (w ++ spread rest) = some (name, behind)) :
    readGroupBy? ("GROUP".toList ++ spread ("BY".toList :: w :: rest)) = some name := by
  have groupWord : ∀ s, keyword? "group".toList ("GROUP".toList ++ s) = some s := fun _ => rfl
  have byWord : ∀ s, keyword? "by".toList ("BY".toList ++ s) = some s := fun _ => rfl
  have solid : Solid "BY".toList := by decide
  simp only [readGroupBy?, groupWord, blanks?_spread solid, byWord, blanks?_spread hw, word, bind,
    Option.bind_some, pure]

end By

theorem takes_readOrderBy? : Takes "order".toList readOrderBy? TrailingClause.orderBy? where
  breaks := breaks_of_openings fun _ => ⟨rfl, rfl, rfl, rfl, rfl⟩
  own c order hc rest hrest := by
    cases c with
    | orderBy column direction =>
      obtain rfl := Option.some.inj hc
      have word := word?_spread column (direction.toList.map Direction.written ++ rest)
      refine (readOrderBy?_spread column.solid word).trans ?_
      rw [readDirection_spread direction hrest]
    | limit | groupBy => exact absurd hc (by simp [TrailingClause.orderBy?])
  other c hc := by
    cases c with
    | orderBy => exact absurd hc (by simp [TrailingClause.orderBy?])
    | limit => exact (by decide : ¬ EndsIn "order".toList "LIMIT".toList)
    | groupBy => exact (by decide : ¬ EndsIn "order".toList "GROUP".toList)

theorem takes_readGroupBy? : Takes "group".toList readGroupBy? TrailingClause.groupBy? where
  breaks := breaks_of_openings fun _ => ⟨rfl, rfl, rfl, rfl, rfl⟩
  own c column hc rest _ := by
    cases c with
    | groupBy column =>
      obtain rfl := Option.some.inj hc
      exact readGroupBy?_spread column.solid (word?_spread column rest)
    | limit | orderBy => exact absurd hc (by simp [TrailingClause.groupBy?])
  other c hc := by
    cases c with
    | groupBy => exact absurd hc (by simp [TrailingClause.groupBy?])
    | limit => exact (by decide : ¬ EndsIn "group".toList "LIMIT".toList)
    | orderBy => exact (by decide : ¬ EndsIn "group".toList "ORDER".toList)

theorem takes_readLimit? : Takes "limit".toList readLimit? TrailingClause.limit? where
  breaks := breaks_of_openings fun _ => ⟨rfl, rfl, rfl, rfl, rfl⟩
  own c n hc rest _ := by
    cases c with
    | limit n =>
      obtain rfl := Option.some.inj hc
      have limitWord : ∀ s, keyword? "limit".toList ("LIMIT".toList ++ s) = some s := fun _ => rfl
      have digits := digits?_toDigits_append n (stops_spread rfl rest)
      change readLimit? ("LIMIT".toList ++ spread (Nat.toDigits 10 n :: rest)) = some _
      simp only [readLimit?, limitWord, blanks?_spread (solid_toDigits n), digits, bind,
        Option.bind_some, pure, limitOf_toDigits]
    | orderBy | groupBy => exact absurd hc (by simp [TrailingClause.limit?])
  other c hc := by
    cases c with
    | limit => exact absurd hc (by simp [TrailingClause.limit?])
    | orderBy => exact (by decide : ¬ EndsIn "limit".toList "ORDER".toList)
    | groupBy => exact (by decide : ¬ EndsIn "limit".toList "GROUP".toList)

/-- What some clauses say: of each kind the first one. -/
def tailClauses (tail : List TrailingClause) : Clauses where
  fromTable := none
  join := none
  condition := none
  orderBy := tail.findSome? TrailingClause.orderBy?
  limit := tail.findSome? TrailingClause.limit?
  groupBy := (tail.findSome? TrailingClause.groupBy?).map String.ofList
  projection := none

/-- The column holds neither of the words by which tables and conditions are found. -/
def Column.Unled (c : Column) : Prop :=
  ∀ key ∈ ["from".toList, "where".toList], ¬ key <:+: lowerAscii c.text

instance (c : Column) : Decidable c.Unled := inferInstanceAs (Decidable (∀ key ∈ _, _))

namespace TrailingClause

/-- Neither a table nor a condition is found in the clause. -/
def Unled : TrailingClause → Prop
  | orderBy column _ => column.Unled
  | limit _ => True
  | groupBy column => column.Unled

theorem Unled.lacks {c : TrailingClause} (h : c.Unled) {key : List Char}
    (hkey : key ∈ ["from".toList, "where".toList]) {w : List Char} (hw : w ∈ c.words) :
    Lacks key w := by
  have clause : ∀ key ∈ ["from".toList, "where".toList], key ∈ clauseWords := by decide
  have plain := (isKeyword_of_mem (clause key hkey)).2
  have letters : ∀ key ∈ ["from".toList, "where".toList], ∀ v ∈ "BY".toList :: breakWords,
      ¬ key <:+: lowerAscii v := by decide
  have lacksLetters : ∀ v ∈ "BY".toList :: breakWords, Lacks key v := fun v hv =>
    lacks_of_not_isInfix plain (letters key hkey v hv)
  rcases List.mem_cons.mp hw with rfl | behind
  · exact lacksLetters _ (List.mem_cons_of_mem _ (List.mem_append_left _ c.opening_mem))
  · cases c with
    | orderBy column direction =>
      simp only [arguments, List.mem_cons, List.mem_map] at behind
      rcases behind with rfl | rfl | ⟨d, -, rfl⟩
      · exact lacksLetters _ List.mem_cons_self
      · exact lacks_of_not_isInfix plain (h key hkey)
      · exact lacksLetters _ (List.mem_cons_of_mem _ d.written_mem_breakWords)
    | limit n =>
      obtain rfl := List.mem_singleton.mp behind
      exact (plain_toDigits n).lacks (clause key hkey)
    | groupBy column =>
      simp only [arguments, List.mem_cons, List.not_mem_nil, or_false] at behind
      rcases behind with rfl | rfl
      · exact lacksLetters _ List.mem_cons_self
      · exact lacks_of_not_isInfix plain (h key hkey)

end TrailingClause

theorem suffix_of_readColumn? {s r : List Char} {ref : ColumnRef}
    (h : readColumn? s = some (ref, r)) : r <:+ s := by
  simp only [readColumn?, bind, Option.bind_eq_some_iff] at h
  obtain ⟨⟨table, behindTable⟩, readTable, behindPoint, readPoint, ⟨column, rest⟩, readName,
    same⟩ := h
  obtain ⟨-, rfl⟩ := Prod.mk.inj (Option.some.inj same)
  exact ((suffix_of_run? readName).trans (suffix_of_exactly? readPoint)).trans
    (suffix_of_run? readTable)

/-- A join is not found without an equals sign. -/
theorem findFirst?_readJoin?_eq_none {s : List Char} (h : '=' ∉ s) :
    findFirst? readJoin? s = none := by
  refine findFirst?_eq_none fun r hr => ?_
  have noEquals : ∀ t, t <:+ r → exactly? ['='] (trimStart t) = none := by
    intro t ht
    refine Predicate.exactly?_eq_none List.mem_cons_self fun mem => h ?_
    exact hr.subset (ht.subset ((List.dropWhile_suffix _).subset mem))
  have equals : ∀ table left t, t <:+ r → joinEquals? table left t = none := by
    intro table left t ht
    rw [joinEquals?, noEquals t ht, Option.bind_none]
  simp only [readJoin?_eq, joinTable?, joinOn?, joinLeft?, Option.bind_eq_none_iff]
  intro s₁ h₁ s₂ h₂ table h₃ s₃ h₄ s₄ h₅ s₅ h₆ left h₇
  refine equals _ _ _ ((suffix_of_readColumn? h₇).trans ?_)
  exact (suffix_of_blanks? h₆).trans <| (suffix_of_keyword? h₅).trans <|
    (suffix_of_blanks? h₄).trans <| (suffix_of_run? h₃).trans <|
    (suffix_of_blanks? h₂).trans (suffix_of_keyword? h₁)

section Tail

variable {tail : List TrailingClause}

theorem notMem_spread_tailWords : '=' ∉ spread (tailWords tail) := by
  intro mem
  obtain ⟨w, hw, inside⟩ := List.mem_flatMap.mp mem
  obtain ⟨c, -, hc⟩ := List.mem_flatMap.mp hw
  rcases List.mem_cons.mp inside with space | letter
  · exact absurd space (by decide)
  · exact absurd ((TrailingClause.isWordChar_of_mem_words hc).2 _ letter) (by decide)

variable (unled : ∀ c ∈ tail, c.Unled)
include unled

theorem lacks_spread_tailWords {key : List Char} (hkey : key ∈ ["from".toList, "where".toList]) :
    Lacks key (spread (tailWords tail)) := by
  have isKeyword : ∀ key ∈ ["from".toList, "where".toList], IsKeyword key := by decide
  refine lacks_spread (isKeyword key hkey) fun w hw => ?_
  obtain ⟨c, hmem, hc⟩ := List.mem_flatMap.mp hw
  exact (unled c hmem).lacks hkey hc

theorem ofText_tailWords : Clauses.ofText (spread (tailWords tail)) = tailClauses tail := by
  have none : ∀ {α : Type} {key : List Char} {read : List Char → Option α}, LedBy key read →
      key ∈ ["from".toList, "where".toList] → findFirst? read (spread (tailWords tail)) = none := by
    intro α key read led hkey
    refine findFirst?_eq_none fun r hr => led.none_of_none r ?_
    exact lacks_spread_tailWords unled hkey r hr
  have closed : ∀ key ∈ projectionPlace.closing, Lacks key (spread (tailWords tail)) := by
    intro key hkey
    obtain rfl := List.mem_singleton.mp hkey
    exact lacks_spread_tailWords unled List.mem_cons_self
  simp only [Clauses.ofText, fromTable?, joinClause?, condition?, orderBy?, limit?, groupBy?,
    projection?, Enclosure.find?_eq_findFirst?]
  rw [none ledBy_readFrom? (by decide), none ledBy_condition (by decide),
    findFirst?_readJoin?_eq_none notMem_spread_tailWords,
    findFirst?_read?_of_lacks rfl closed,
    findFirst?_tailWords opened_readOrderBy? (by decide) takes_readOrderBy?,
    findFirst?_tailWords opened_readGroupBy? (by decide) takes_readGroupBy?,
    findFirst?_tailWords opened_readLimit? (by decide) takes_readLimit?]
  rfl

end Tail

/-- A space in front of a text makes no difference. -/
theorem ofText_space (s : List Char) : Clauses.ofText (' ' :: s) = Clauses.ofText s := by
  have space : ∀ {α : Type} {key : List Char} {read : List Char → Option α}, LedBy key read →
      findFirst? read (' ' :: s) = findFirst? read s := fun led =>
    findFirst?_cons_of_foreign led (foreign_blank led.isKeyword (c := ' ') rfl) s
  have projection : projection? (' ' :: s) = projection? s := by
    rw [projection?, projection?, Enclosure.find?_eq_findFirst?, Enclosure.find?_eq_findFirst?,
      space ledBy_projection]
  rw [ofText_congr fun led _ => space led, projection]
  rfl

theorem ofText_collapse (s : List Char) :
    Clauses.ofText (collapse s) = Clauses.ofText (spread (words s)) := by
  by_cases empty : words s = []
  · rw [collapse, empty]
    rfl
  · rw [← cons_collapse empty, ofText_space]

theorem clauseAhead_tailWords (c : TrailingClause) (tail : List TrailingClause) :
    ClauseAhead (c.opening ++ spread (c.arguments ++ tailWords tail)) := by
  obtain ⟨w, more, arguments, noOn⟩ := c.exists_arguments
  have solid : Solid w := TrailingClause.solid_of_mem_words (c := c)
    (List.mem_cons_of_mem _ (arguments ▸ List.mem_cons_self))
  rw [arguments, List.cons_append, spread_cons]
  exact clauseAhead c.opening_mem (stops_append solid.1 (tidy_of_solid solid).stops _) (noOn _)

theorem projection?_append_tailWords {s : List Char} (hs : Sealed sealingWords s)
    {tail : List TrailingClause} (unled : ∀ c ∈ tail, c.Unled) :
    projection? (s ++ spread (tailWords tail)) = projection? s := by
  have closed : ∀ key ∈ projectionPlace.closing, Lacks key (spread (tailWords tail)) := by
    intro key hkey
    obtain rfl := List.mem_singleton.mp hkey
    exact lacks_spread_tailWords unled List.mem_cons_self
  cases htail : tailWords tail with
  | nil => rw [spread_nil, List.append_nil]
  | cons w rest =>
    rw [htail, spread_cons] at closed
    have behind : findFirst? projectionPlace.read? (w ++ spread rest) = none :=
      findFirst?_read?_of_lacks rfl fun key hkey => (closed key hkey).suffix (List.suffix_cons _ _)
    have framed : Framed sealingWords (w ++ spread rest) projectionPlace.read? :=
      framed_read?_of_lacks rfl (by decide) closed (by decide)
    rw [projection?, projection?, Enclosure.find?_eq_findFirst?, Enclosure.find?_eq_findFirst?,
      spread_cons, framed.findFirst?_append ledBy_projection hs, behind, Option.or_none]

/-- Behind a query that is sealed clauses say what the query leaves open. -/
theorem ofText_followedBy {query : List Char} (hquery : EndsSealed query)
    {tail : List TrailingClause} (unled : ∀ c ∈ tail, c.Unled) :
    Clauses.ofText (collapse (followedBy query tail)) =
      (Clauses.ofText (collapse query)).or (tailClauses tail) := by
  have solid : ∀ w ∈ tailWords tail, Solid w := by
    intro w hw
    obtain ⟨c, -, hc⟩ := List.mem_flatMap.mp hw
    exact TrailingClause.solid_of_mem_words hc
  have hs : Sealed sealingWords (spread (words query)) :=
    sealed_spread (by decide) (fun w hw => solid_of_mem_words hw) hquery
  have projection := projection?_append_tailWords hs unled
  have said := ofText_tailWords unled
  rw [ofText_collapse, ofText_collapse, followedBy, words_append_spread query solid, spread_append]
  cases tail with
  | nil =>
    rw [tailWords, List.flatMap_nil, spread_nil, List.append_nil]
    simp only [Clauses.or, tailClauses, List.findSome?_nil, Option.map_none, Option.or_none]
  | cons c tail =>
    have text : spread (tailWords (c :: tail)) =
        ' ' :: (c.opening ++ spread (c.arguments ++ tailWords tail)) := rfl
    rw [text] at projection said ⊢
    rw [ofText_space] at said
    rw [ofText_append_clause hs (clauseAhead_tailWords c tail), projection, said]
    simp only [Clauses.or, tailClauses, Option.or_none]
    rfl

/-- In a list with one element of a kind any order has the same first of its kind. -/
theorem findSome?_perm {α β : Type} {f : α → Option β} {l l' : List α} (h : l.Perm l') {b : β}
    (single : l'.filterMap f = [b]) : l.findSome? f = l'.findSome? f := by
  have same : l.filterMap f = [b] := List.perm_singleton.mp (single ▸ h.filterMap f)
  rw [← List.head?_filterMap, ← List.head?_filterMap, same, single]

/-- One clause of each kind behind a query says the same in any order. -/
theorem select_followedBy_perm {query : List Char} (hquery : EndsSealed query) {o g : Column}
    (ho : o.Unled) (hg : g.Unled) (direction : Option Direction) (n : Nat)
    {tail : List TrailingClause}
    (htail : tail.Perm [.orderBy o direction, .limit n, .groupBy g]) (dataset : Dataset)
    (options : Options) :
    select (String.ofList (followedBy query tail)) dataset options =
      select (String.ofList (followedBy query [.orderBy o direction, .limit n, .groupBy g])) dataset
        options := by
  have unled : ∀ c ∈ [TrailingClause.orderBy o direction, .limit n, .groupBy g], c.Unled := by
    simp only [List.mem_cons, List.not_mem_nil, or_false]
    rintro c (rfl | rfl | rfl)
    · exact ho
    · exact trivial
    · exact hg
  have said : tailClauses tail =
      tailClauses [.orderBy o direction, .limit n, .groupBy g] := by
    rw [tailClauses, tailClauses, findSome?_perm htail rfl, findSome?_perm htail rfl,
      findSome?_perm htail rfl]
  rw [select, select, String.toList_ofList, String.toList_ofList,
    ofText_followedBy hquery fun c hc => unled c (htail.subset hc), ofText_followedBy hquery unled,
    said]

def titleColumn : Column := ⟨"title".toList, by decide, by decide⟩

def topPosts : List Char := "SELECT user_id FROM posts WHERE published = true".toList

theorem select_followedBy_perm_topPosts :
    EndsSealed topPosts ∧ userIdColumn.Unled ∧ titleColumn.Unled ∧
      [TrailingClause.groupBy userIdColumn, .limit 3,
        .orderBy titleColumn (some .descending)].Perm
        [.orderBy titleColumn (some .descending), .limit 3, .groupBy userIdColumn] ∧
      select ("SELECT user_id FROM posts WHERE published = true " ++
          "GROUP BY user_id LIMIT 3 ORDER BY title DESC") Dataset.sample workingSetOptions =
        select ("SELECT user_id FROM posts WHERE published = true " ++
          "ORDER BY title DESC LIMIT 3 GROUP BY user_id") Dataset.sample
          workingSetOptions := by
  have ends : EndsSealed topPosts := by decide +kernel
  have title : titleColumn.Unled := by decide
  have userId : userIdColumn.Unled := by decide
  have order : [TrailingClause.groupBy userIdColumn, .limit 3,
      .orderBy titleColumn (some .descending)].Perm
      [.orderBy titleColumn (some .descending), .limit 3, .groupBy userIdColumn] :=
    List.reverse_perm [_, _, _]
  have answer := select_followedBy_perm ends title userId (some .descending) 3 order
    Dataset.sample workingSetOptions
  exact ⟨ends, userId, title, order, answer⟩

namespace Clauses

theorem workingSet_limit {c : Clauses} (unlimited : c.limit = none) (m : Nat)
    (dataset : Dataset) (strict : Bool) :
    ({ c with limit := some m } : Clauses).workingSet dataset strict =
      (c.workingSet dataset strict).map fun w => (w.1, w.2.take m) := by
  have same : ({ c with limit := some m } : Clauses).unsorted = c.unsorted := rfl
  rw [workingSet, workingSet, same]
  simp only [limited, unlimited]
  cases c.unsorted dataset strict <;> rfl

theorem projected_take (c : Clauses) (rows : List Row) (m : Nat) :
    c.projected (rows.take m) = (c.projected rows).take m := by
  unfold projected
  split
  · rfl
  · split
    · rfl
    · exact List.map_take

/-- A limit cuts the answer, if this is neither a count nor one of groups. -/
theorem run_limit {c : Clauses} (unlimited : c.limit = none) (ungrouped : c.groupBy = none)
    (rowwise : c.countsAll = false) (m : Nat) (dataset : Dataset) (options : Options) :
    ({ c with limit := some m } : Clauses).run dataset options =
      (c.run dataset options).map fun set => .ofRows (set.rows.take m) := by
  have whole : ∀ rows, c.grouped rows = rows := fun rows => by rw [grouped, ungrouped]
  have answer : ∀ size rows, c.results options.countSource size rows = c.projected rows :=
    fun size rows => if_neg (rowwise ▸ Bool.false_ne_true)
  have answerLimited : ∀ size rows, ({ c with limit := some m } : Clauses).results
      options.countSource size rows = c.projected rows := answer
  have wholeLimited : ∀ rows, ({ c with limit := some m } : Clauses).grouped rows = rows := whole
  rw [run_eq_map, run_eq_map, workingSet_limit unlimited]
  simp only [answer, answerLimited, whole, wholeLimited]
  cases c.workingSet dataset options.strict with
  | error e => rfl
  | ok w =>
    exact congrArg (fun rows => Except.ok (ResultSet.ofRows rows)) (c.projected_take w.2 m)

end Clauses

/-- A limit behind a query that has none cuts what it answers. -/
theorem select_followedBy_limit {query : List Char} (hquery : EndsSealed query)
    (unlimited : limit? (collapse query) = none) (ungrouped : groupBy? (collapse query) = none)
    (rowwise : (Clauses.ofText (collapse query)).countsAll = false) (n : Nat) (dataset : Dataset)
    (options : Options) :
    select (String.ofList (followedBy query [.limit n])) dataset options =
      (select (String.ofList query) dataset options).map fun set =>
        .ofRows (set.rows.take (min n maxLimit)) := by
  have unled : ∀ c ∈ [TrailingClause.limit n], c.Unled := by
    intro c hc
    obtain rfl := List.mem_singleton.mp hc
    exact trivial
  have clauses : (Clauses.ofText (collapse query)).or (tailClauses [.limit n]) =
      { Clauses.ofText (collapse query) with limit := some (min n maxLimit) } := by
    have none : (Clauses.ofText (collapse query)).limit = none := unlimited
    simp only [Clauses.or, none, tailClauses, TrailingClause.orderBy?, TrailingClause.limit?,
      TrailingClause.groupBy?, List.findSome?_cons, List.findSome?_nil, Option.map_none,
      Option.or_none, Option.none_or]
  rw [select, select, String.toList_ofList, String.toList_ofList, ofText_followedBy hquery unled,
    clauses]
  exact Clauses.run_limit unlimited ungrouped rowwise _ dataset options

/-- A limit keeps the first rows of an answer, and a smaller one the first of these. Answers of
more rows than the greatest limit are cut there, if the limit is not smaller. -/
theorem select_limit {query : List Char} (hquery : EndsSealed query)
    (unlimited : limit? (collapse query) = none) (ungrouped : groupBy? (collapse query) = none)
    (rowwise : (Clauses.ofText (collapse query)).countsAll = false) (dataset : Dataset)
    (options : Options) :
    match select (String.ofList query) dataset options with
    | .error e =>
      ∀ n, select (String.ofList (followedBy query [.limit n])) dataset options = .error e
    | .ok set =>
      (∀ n, min n set.rows.length ≤ maxLimit →
        select (String.ofList (followedBy query [.limit n])) dataset options =
          .ok (.ofRows (set.rows.take (min n set.rows.length)))) ∧
      ∀ m n, m ≤ n → ∃ fewer more,
        select (String.ofList (followedBy query [.limit m])) dataset options = .ok fewer ∧
        select (String.ofList (followedBy query [.limit n])) dataset options = .ok more ∧
        fewer.rows <+: more.rows := by
  have cut := fun n =>
    select_followedBy_limit hquery unlimited ungrouped rowwise n dataset options
  cases answer : select (String.ofList query) dataset options with
  | error e =>
    intro n
    rw [cut, answer]
    rfl
  | ok set =>
    simp only [answer] at cut
    refine ⟨fun n hn => ?_, fun m n hmn => ⟨_, _, cut m, cut n, ?_⟩⟩
    · have same : set.rows.take (min n maxLimit) = set.rows.take (min n set.rows.length) := by
        rw [List.take_eq_take_iff]
        omega
      rw [cut, ← same]
      rfl
    · exact List.take_prefix_take_left (by omega)

theorem select_limit_topPosts :
    EndsSealed topPosts ∧ limit? (collapse topPosts) = none ∧
      groupBy? (collapse topPosts) = none ∧
      (Clauses.ofText (collapse topPosts)).countsAll = false ∧
      ∃ set, select (String.ofList topPosts) Dataset.sample workingSetOptions = .ok set ∧
        set.rows.length = 4 ∧
        select "SELECT user_id FROM posts WHERE published = true LIMIT 3" Dataset.sample
          workingSetOptions = .ok (.ofRows (set.rows.take 3)) := by
  have ends : EndsSealed topPosts := by decide +kernel
  have unlimited : limit? (collapse topPosts) = none := by decide +kernel
  have ungrouped : groupBy? (collapse topPosts) = none := by decide +kernel
  have rowwise : (Clauses.ofText (collapse topPosts)).countsAll = false := by decide +kernel
  have size : (select (String.ofList topPosts) Dataset.sample workingSetOptions).toOption.map
      (·.rows.length) = some 4 := by decide +kernel
  have cut := select_limit ends unlimited ungrouped rowwise Dataset.sample workingSetOptions
  cases answer : select (String.ofList topPosts) Dataset.sample workingSetOptions with
  | error e =>
    rw [answer] at size
    exact absurd size (by simp [Except.toOption])
  | ok set =>
    rw [answer] at cut size
    have four : set.rows.length = 4 := Option.some.inj size
    have three := cut.1 3
    rw [four] at three
    exact ⟨ends, unlimited, ungrouped, rowwise, set, rfl, four, three (by decide)⟩

end SqlTutor.Query

import SqlTutor.Proofs.Query.Vocabulary
import SqlTutor.Query.Select

/-!
Canonical queries: SELECT and FROM, and then any of JOIN, WHERE, ORDER BY, LIMIT and GROUP BY in
this order, with keywords in any letter case and gaps of any width. Every clause is looked for in
the whole text on its own. In a canonical query each search finds the clause that was written, if
one was, and nothing else, so evaluation runs on the written clauses.
-/
namespace SqlTutor.Query

open Text

structure JoinPart where
  joinWord : Keyword "join".toList
  table : Name
  onWord : Keyword "on".toList
  left : QualifiedName
  right : QualifiedName

structure WherePart where
  whereWord : Keyword "where".toList
  condition : Phrase

def Direction.word : Direction → List Char
  | .ascending => "asc".toList
  | .descending => "desc".toList

structure DirectionPart where
  direction : Direction
  directionWord : Keyword direction.word

structure OrderPart where
  orderWord : Keyword "order".toList
  byWord : Keyword "by".toList
  column : Name
  direction : Option DirectionPart

structure LimitPart where
  limitWord : Keyword "limit".toList
  count : Nat

structure GroupPart where
  groupWord : Keyword "group".toList
  byWord : Keyword "by".toList
  column : Name

structure Statement where
  selectWord : Keyword "select".toList
  projection : Phrase
  fromWord : Keyword "from".toList
  table : Name
  join : Option JoinPart
  condition : Option WherePart
  orderBy : Option OrderPart
  limit : Option LimitPart
  groupBy : Option GroupPart

def JoinPart.pieces (j : JoinPart) : List Piece :=
  [.keyword (by decide) j.joinWord, .name j.table, .keyword (by decide) j.onWord,
    .qualified j.left, .equals, .qualified j.right]

def WherePart.pieces (w : WherePart) : List Piece :=
  [.keyword (by decide) w.whereWord, .phrase w.condition]

def DirectionPart.pieces (d : DirectionPart) : List Piece :=
  [.keyword (by cases d.direction <;> decide) d.directionWord]

def OrderPart.pieces (o : OrderPart) : List Piece :=
  [.keyword (by decide) o.orderWord, .keyword (by decide) o.byWord, .name o.column] ++
    o.direction.toList.flatMap DirectionPart.pieces

def LimitPart.pieces (l : LimitPart) : List Piece :=
  [.keyword (by decide) l.limitWord, .number l.count]

def GroupPart.pieces (g : GroupPart) : List Piece :=
  [.keyword (by decide) g.groupWord, .keyword (by decide) g.byWord, .name g.column]

namespace Statement

def front (st : Statement) : List Piece :=
  [.keyword (by decide) st.selectWord, .phrase st.projection]

def source (st : Statement) : List Piece :=
  [.keyword (by decide) st.fromWord, .name st.table]

/-- What stands before the parts that may be absent. -/
def head (st : Statement) : List Piece := st.front ++ st.source

/-- All parts in order; a part that is absent has no pieces. -/
def pieces (st : Statement) : List Piece :=
  st.head ++ (st.join.toList.flatMap JoinPart.pieces ++
    (st.condition.toList.flatMap WherePart.pieces ++
      (st.orderBy.toList.flatMap OrderPart.pieces ++
        (st.limit.toList.flatMap LimitPart.pieces ++ st.groupBy.toList.flatMap GroupPart.pieces))))

/-- The text has the pieces of the statement with some white space between each two. -/
def IsText (st : Statement) (s : List Char) : Prop := Spaced (st.pieces.map Piece.text) s

end Statement

def Name.lowered (n : Name) : String := String.ofList (lowerAscii n.text)

def QualifiedName.ref (q : QualifiedName) : ColumnRef := ⟨q.table.lowered, q.column.lowered⟩

def JoinPart.clause (j : JoinPart) : JoinClause := ⟨j.table.lowered, j.left.ref, j.right.ref⟩

def OrderPart.clause (o : OrderPart) : OrderBy :=
  ⟨String.ofList o.column.text, (o.direction.map DirectionPart.direction).getD .ascending⟩

namespace Statement

def clauses (st : Statement) : Clauses where
  fromTable := some st.table.lowered
  join := st.join.map JoinPart.clause
  condition := st.condition.map fun w => String.ofList w.condition.text
  orderBy := st.orderBy.map OrderPart.clause
  limit := st.limit.map fun l => min l.count maxLimit
  groupBy := st.groupBy.map fun g => String.ofList g.column.text
  projection := some ⟨String.ofList st.projection.text⟩

end Statement

theorem Phrase.trim_text (p : Phrase) : trim p.text = p.text :=
  trim_eq_self p.tidy.stops p.tidy.last

theorem ledBy_readFrom? : LedBy "from".toList readFrom? where
  isKeyword := by decide
  none_of_none s h := by
    rw [readFrom?, h]
    rfl

theorem ledBy_readJoin? : LedBy "join".toList readJoin? where
  isKeyword := by decide
  none_of_none s h := by
    rw [readJoin?, h]
    rfl

theorem ledBy_readOrderBy? : LedBy "order".toList readOrderBy? where
  isKeyword := by decide
  none_of_none s h := by
    rw [readOrderBy?, h]
    rfl

theorem ledBy_readGroupBy? : LedBy "group".toList readGroupBy? where
  isKeyword := by decide
  none_of_none s h := by
    rw [readGroupBy?, h]
    rfl

theorem ledBy_readLimit? : LedBy "limit".toList readLimit? where
  isKeyword := by decide
  none_of_none s h := by
    rw [readLimit?, h]
    rfl

theorem ledBy_condition : LedBy "where".toList conditionPlace.read? :=
  conditionPlace.ledBy_read? (by decide)

theorem ledBy_projection : LedBy "select".toList projectionPlace.read? :=
  projectionPlace.ledBy_read? (by decide)

theorem keyword?_text {key : List Char} (w : Keyword key) (t : List Char) :
    keyword? key (w.text ++ t) = some t := keyword?_spelling w.isKeyword.2 w.spells t

theorem blanks?_textOf (p : Piece) (rest : List Piece) :
    blanks? (textOf (p :: rest)) = some (p.text ++ textOf rest) := by
  rw [textOf_cons]
  exact blanks?_space (stops_append p.tidy.ne_nil p.tidy.stops _)

theorem trimStart_textOf (p : Piece) (rest : List Piece) :
    trimStart (textOf (p :: rest)) = p.text ++ textOf rest := by
  rw [textOf_cons, trimStart_space (stops_append p.tidy.ne_nil p.tidy.stops _)]

theorem word?_textOf (n : Name) (rest : List Piece) :
    word? (n.text ++ textOf rest) = some (n.text, textOf rest) :=
  n.word?_append (stops_textOf (by decide) rest)

theorem readFrom?_written (w : Keyword "from".toList) (n : Name) (rest : List Piece) :
    readFrom? (w.text ++ textOf (.name n :: rest)) = some n.text := by
  simp only [readFrom?, keyword?_text, blanks?_textOf, Piece.text, word?_textOf,
    bind, Option.bind_some, pure]

theorem readColumn?_qualified (q : QualifiedName) (rest : List Piece) :
    readColumn? (q.text ++ textOf rest) = some (q.ref, textOf rest) := by
  have point : Stops isWordChar ('.' :: (q.column.text ++ textOf rest)) := stops_cons rfl _
  rw [QualifiedName.text, List.append_assoc, List.cons_append]
  simp only [readColumn?, q.table.word?_append point, exactly?, word?_textOf, bind,
    Option.bind_some, pure, if_true, Name.lowerText_eq, QualifiedName.ref, Name.lowered]

theorem readJoin?_written (j : JoinPart) (rest : List Piece) :
    readJoin? (j.joinWord.text ++ textOf (j.pieces.tail ++ rest)) = some j.clause := by
  simp only [readJoin?, JoinPart.pieces, List.tail_cons, List.cons_append, List.nil_append,
    keyword?_text, blanks?_textOf, trimStart_textOf, Piece.text, word?_textOf,
    readColumn?_qualified, exactly?, bind, Option.bind_some, pure, if_true, Name.lowerText_eq,
    JoinPart.clause, Name.lowered]

theorem readGroupBy?_written (g : GroupPart) (rest : List Piece) :
    readGroupBy? (g.groupWord.text ++ textOf (g.pieces.tail ++ rest)) = some g.column.text := by
  simp only [readGroupBy?, GroupPart.pieces, List.tail_cons, List.cons_append, List.nil_append,
    keyword?_text, blanks?_textOf, Piece.text, word?_textOf, bind, Option.bind_some,
    pure]

theorem limitOf_toDigits (n : Nat) : limitOf (Nat.toDigits 10 n) = min n maxLimit := by
  have digits : (Nat.toDigits 10 n).all Char.isDigit := by
    rw [List.all_eq_true]
    exact fun c hc => isDigit_of_mem_toDigits hc
  rw [limitOf, if_pos digits, Nat.ofDigitChars_ten_toDigits]

theorem readLimit?_written (l : LimitPart) (rest : List Piece) :
    readLimit? (l.limitWord.text ++ textOf (l.pieces.tail ++ rest)) =
      some (min l.count maxLimit) := by
  have digits : digits? (Nat.toDigits 10 l.count ++ textOf rest) =
      some (Nat.toDigits 10 l.count, textOf rest) :=
    digits?_toDigits_append l.count (stops_textOf (by decide) rest)
  simp only [readLimit?, LimitPart.pieces, List.tail_cons, List.cons_append, List.nil_append,
    keyword?_text, blanks?_textOf, Piece.text, digits, bind, Option.bind_some, pure,
    limitOf_toDigits]

/-- A phrase goes on until another clause begins. -/
theorem Phrase.closed (p : Phrase) {keys : List (List Char)} (hkeys : keys ⊆ clauseWords)
    {key : List Char} (hkey : key ∈ keys) (rest : List Piece) :
    Lacks key p.text ∧ Apart key (textOf rest) :=
  ⟨p.plain.lacks (hkeys hkey), apart_spread (isKeyword_of_mem (hkeys hkey)).1 _⟩

/-- The first piece, if there is one, is one of the keywords. -/
def Opens (keys : List (List Char)) (pieces : List Piece) : Prop :=
  pieces = [] ∨ ∃ key ∈ keys, pieces.head?.bind Piece.key? = some key

/-- Nothing is left to read, or a keyword is read next. -/
theorem Opens.cases {keys : List (List Char)} {pieces : List Piece} (h : Opens keys pieces) :
    pieces = [] ∨ ∃ key ∈ keys, ∃ hkey : key ∈ clauseWords ++ fillerWords, ∃ word rest,
      pieces = .keyword hkey word :: rest := by
  refine h.imp_right fun ⟨key, hmem, hp⟩ => ⟨key, hmem, ?_⟩
  cases pieces with
  | nil => exact absurd hp (by simp)
  | cons p rest =>
    rw [List.head?_cons, Option.bind_some] at hp
    cases p with
    | keyword hkey word =>
      obtain rfl := Option.some.inj hp
      exact ⟨hkey, word, rest, rfl⟩
    | _ => exact absurd hp (by simp [Piece.key?])

theorem opens_part {α : Type} {keys : List (List Char)} (key : List Char) (hkey : key ∈ keys)
    {pieces : α → List Piece} (hpieces : ∀ a, (pieces a).head?.bind Piece.key? = some key)
    {more : List Piece} (hmore : Opens keys more) (part : Option α) :
    Opens keys (part.toList.flatMap pieces ++ more) := by
  cases part with
  | none => exact hmore
  | some a =>
    refine Or.inr ⟨key, hkey, ?_⟩
    have first := hpieces a
    rw [Option.toList_some, List.flatMap_singleton]
    cases ha : pieces a with
    | nil => simp [ha] at first
    | cons p rest => rwa [ha] at first

theorem readDirection_other {word : List Char} (hmem : word ∈ clauseWords ++ fillerWords)
    (w : Keyword word) (rest : List Piece) (hne : "desc".toList.head? ≠ word.head?) :
    readDirection (textOf (.keyword hmem w :: rest)) = .ascending := by
  have fails : keyword? "desc".toList (w.text ++ textOf rest) = none :=
    keyword?_other (by decide) w.isKeyword w.spells hne _
  have here := blanks?_textOf (.keyword hmem w) rest
  rw [readDirection, here]
  refine if_neg fun found => ?_
  rw [Piece.text, fails] at found
  exact Bool.false_ne_true found.1

theorem readDirection_descending (w : Keyword "desc".toList) (rest : List Piece) :
    readDirection (textOf (.keyword (by decide) w :: rest)) = .descending := by
  have found : keyword? "desc".toList (w.text ++ textOf rest) = some (textOf rest) :=
    keyword?_text w (textOf rest)
  have spelled : lowerAscii w.text = "desc".toList := w.spells
  have length : w.text.length = 4 := by
    simpa [lowerAscii] using congrArg List.length spelled
  have whole : lowerAscii ((w.text ++ textOf rest).take 4) = "desc".toList := by
    rw [List.take_left' length, spelled]
  have here := blanks?_textOf (.keyword (by decide) w) rest
  rw [readDirection, here]
  exact if_pos ⟨by rw [Piece.text, found]; rfl, whole⟩

/-- Without a direction, what stands behind the column is another clause or nothing. -/
theorem readDirection_written (d : Option DirectionPart) (rest : List Piece)
    (hrest : Opens clauseWords rest) :
    readDirection (textOf (d.toList.flatMap DirectionPart.pieces ++ rest)) =
      (d.map DirectionPart.direction).getD .ascending := by
  rcases d with _ | ⟨_ | _, w⟩
  · obtain rfl | ⟨key, hkey, hmem, w, rest, rfl⟩ := hrest.cases
    · rfl
    · have other : ∀ key ∈ clauseWords, "desc".toList.head? ≠ key.head? := by decide
      exact readDirection_other hmem w rest (other key hkey)
  · exact readDirection_other _ w rest (by decide)
  · exact readDirection_descending w rest

theorem readOrderBy?_written (o : OrderPart) (rest : List Piece)
    (hrest : Opens clauseWords rest) :
    readOrderBy? (o.orderWord.text ++ textOf (o.pieces.tail ++ rest)) = some o.clause := by
  simp only [readOrderBy?, OrderPart.pieces, List.tail_cons, List.cons_append, List.nil_append,
    keyword?_text, blanks?_textOf, Piece.text, word?_textOf, bind, Option.bind_some, pure,
    readDirection_written _ _ hrest, OrderPart.clause]

theorem readCondition?_written (w : WherePart) (rest : List Piece)
    (hrest : Opens conditionPlace.closing rest) :
    conditionPlace.read? (w.whereWord.text ++ textOf (w.pieces.tail ++ rest)) =
      some w.condition.text := by
  have ends : conditionPlace.endsAt (textOf rest) := by
    obtain rfl | ⟨key, hkey, -, word, rest, rfl⟩ := hrest.cases
    · rfl
    · exact Enclosure.endsAt_spread hkey word.isKeyword word.spells _
  exact Enclosure.read?_enclosed (by decide) w.whereWord.spells w.condition.tidy
    (Enclosure.open_of_lacks fun key hkey => w.condition.closed (by decide) hkey _) ends

theorem readProjection?_written (s : Keyword "select".toList) (p : Phrase)
    (f : Keyword "from".toList) (rest : List Piece) :
    projectionPlace.read? (s.text ++ textOf (.phrase p :: .keyword (by decide) f :: rest)) =
      some p.text := by
  have ends : projectionPlace.endsAt (textOf (.keyword (by decide) f :: rest)) :=
    Enclosure.endsAt_spread List.mem_cons_self f.isKeyword f.spells _
  refine Enclosure.read?_enclosed (by decide) s.spells p.tidy (Enclosure.open_of_lacks ?_) ends
  exact fun key hkey => p.closed (by decide) hkey (.keyword (by decide) f :: rest)

theorem free_part {α : Type} {key : List Char} {pieces : α → List Piece}
    (h : ∀ a, Free key (pieces a)) (part : Option α) :
    Free key (part.toList.flatMap pieces) := by
  intro found
  obtain ⟨p, hp, hkey⟩ := List.mem_filterMap.mp found
  obtain ⟨a, -, hpa⟩ := List.mem_flatMap.mp hp
  exact (h a).key?_ne hpa hkey

section Free

variable {key : List Char}

theorem Statement.free_head (h : key ∉ ["select".toList, "from".toList]) (st : Statement) :
    Free key st.head := h

theorem JoinPart.free (h : key ∉ ["join".toList, "on".toList]) (j : JoinPart) :
    Free key j.pieces := h

theorem WherePart.free (h : key ∉ ["where".toList]) (w : WherePart) : Free key w.pieces := h

theorem OrderPart.free (h : key ∉ ["order".toList, "by".toList, "asc".toList, "desc".toList])
    (o : OrderPart) : Free key o.pieces := by
  have front : Free key ([.keyword (by decide) o.orderWord, .keyword (by decide) o.byWord,
      .name o.column] : List Piece) := fun found => h (List.mem_append_left _ found)
  refine front.append (free_part (fun d => ?_) o.direction)
  rcases d with ⟨_ | _, w⟩
  · exact fun found => h (List.mem_append_right ["order".toList, "by".toList]
      (List.mem_append_left _ found))
  · exact fun found => h (List.mem_append_right ["order".toList, "by".toList, "asc".toList] found)

theorem LimitPart.free (h : key ∉ ["limit".toList]) (l : LimitPart) : Free key l.pieces := h

theorem GroupPart.free (h : key ∉ ["group".toList, "by".toList]) (g : GroupPart) :
    Free key g.pieces := h

end Free

namespace Statement

variable (st : Statement)

theorem opens_limit {keys : List (List Char)} (hlimit : "limit".toList ∈ keys)
    (hgroup : "group".toList ∈ keys) :
    Opens keys (st.limit.toList.flatMap LimitPart.pieces ++
      st.groupBy.toList.flatMap GroupPart.pieces) := by
  have group : Opens keys (st.groupBy.toList.flatMap GroupPart.pieces ++ []) :=
    opens_part "group".toList hgroup (fun _ => rfl) (Or.inl rfl) _
  rw [List.append_nil] at group
  exact opens_part "limit".toList hlimit (fun _ => rfl) group _

theorem fromTable?_written :
    findFirst? readFrom? (textOf st.pieces) = some st.table.text := by
  have before : Free "from".toList st.front := by
    change "from".toList ∉ ["select".toList]
    decide
  rw [pieces, head, List.append_assoc, findFirst?_textOf_append ledBy_readFrom? (by decide) before]
  exact findFirst?_of_read ledBy_readFrom? (readFrom?_written st.fromWord st.table _)

theorem join_written :
    findFirst? readJoin? (textOf st.pieces) = st.join.map JoinPart.clause := by
  refine findFirst?_part ledBy_readJoin? (by decide) (st.free_head (by decide)) ?_ st.join
    fun j => ⟨.keyword (by decide) j.joinWord, j.pieces.tail, rfl, readJoin?_written j _⟩
  exact (free_part (WherePart.free (by decide)) _).append
    ((free_part (OrderPart.free (by decide)) _).append
      ((free_part (LimitPart.free (by decide)) _).append
        (free_part (GroupPart.free (by decide)) _)))

theorem condition_written :
    findFirst? conditionPlace.read? (textOf st.pieces) =
      st.condition.map fun w => w.condition.text := by
  have split : st.pieces = (st.head ++ st.join.toList.flatMap JoinPart.pieces) ++
      (st.condition.toList.flatMap WherePart.pieces ++
        (st.orderBy.toList.flatMap OrderPart.pieces ++
          (st.limit.toList.flatMap LimitPart.pieces ++
            st.groupBy.toList.flatMap GroupPart.pieces))) := by
    simp only [pieces, List.append_assoc]
  rw [split]
  refine findFirst?_part ledBy_condition (by decide) ?_ ?_ st.condition
    fun w => ⟨.keyword (by decide) w.whereWord, w.pieces.tail, rfl, ?_⟩
  · exact (st.free_head (by decide)).append (free_part (JoinPart.free (by decide)) _)
  · exact (free_part (OrderPart.free (by decide)) _).append
      ((free_part (LimitPart.free (by decide)) _).append
        (free_part (GroupPart.free (by decide)) _))
  · refine readCondition?_written w _ ?_
    exact opens_part "order".toList (by decide) (fun _ => rfl)
      (st.opens_limit (by decide) (by decide)) _

theorem orderBy_written :
    findFirst? readOrderBy? (textOf st.pieces) = st.orderBy.map OrderPart.clause := by
  have split : st.pieces = (st.head ++ (st.join.toList.flatMap JoinPart.pieces ++
      st.condition.toList.flatMap WherePart.pieces)) ++
        (st.orderBy.toList.flatMap OrderPart.pieces ++
          (st.limit.toList.flatMap LimitPart.pieces ++
            st.groupBy.toList.flatMap GroupPart.pieces)) := by
    simp only [pieces, List.append_assoc]
  rw [split]
  refine findFirst?_part ledBy_readOrderBy? (by decide) ?_ ?_ st.orderBy
    fun o => ⟨.keyword (by decide) o.orderWord, o.pieces.tail, rfl, readOrderBy?_written o _ ?_⟩
  · exact (st.free_head (by decide)).append ((free_part (JoinPart.free (by decide)) _).append
      (free_part (WherePart.free (by decide)) _))
  · exact (free_part (LimitPart.free (by decide)) _).append
      (free_part (GroupPart.free (by decide)) _)
  · exact st.opens_limit (by decide) (by decide)

theorem limit_written :
    findFirst? readLimit? (textOf st.pieces) = st.limit.map fun l => min l.count maxLimit := by
  have split : st.pieces = (st.head ++ (st.join.toList.flatMap JoinPart.pieces ++
      (st.condition.toList.flatMap WherePart.pieces ++
        st.orderBy.toList.flatMap OrderPart.pieces))) ++
          (st.limit.toList.flatMap LimitPart.pieces ++
            st.groupBy.toList.flatMap GroupPart.pieces) := by
    simp only [pieces, List.append_assoc]
  rw [split]
  refine findFirst?_part ledBy_readLimit? (by decide) ?_ ?_ st.limit
    fun l => ⟨.keyword (by decide) l.limitWord, l.pieces.tail, rfl, readLimit?_written l _⟩
  · exact (st.free_head (by decide)).append ((free_part (JoinPart.free (by decide)) _).append
      ((free_part (WherePart.free (by decide)) _).append
        (free_part (OrderPart.free (by decide)) _)))
  · exact free_part (GroupPart.free (by decide)) _

theorem groupBy_written :
    findFirst? readGroupBy? (textOf st.pieces) = st.groupBy.map fun g => g.column.text := by
  have split : st.pieces = (st.head ++ (st.join.toList.flatMap JoinPart.pieces ++
      (st.condition.toList.flatMap WherePart.pieces ++
        (st.orderBy.toList.flatMap OrderPart.pieces ++
          st.limit.toList.flatMap LimitPart.pieces)))) ++
            (st.groupBy.toList.flatMap GroupPart.pieces ++ []) := by
    simp only [pieces, List.append_assoc, List.append_nil]
  rw [split]
  refine findFirst?_part ledBy_readGroupBy? (by decide) ?_ Free.nil st.groupBy
    fun g => ⟨.keyword (by decide) g.groupWord, g.pieces.tail, rfl, readGroupBy?_written g _⟩
  exact (st.free_head (by decide)).append ((free_part (JoinPart.free (by decide)) _).append
    ((free_part (WherePart.free (by decide)) _).append
      ((free_part (OrderPart.free (by decide)) _).append
        (free_part (LimitPart.free (by decide)) _))))

theorem projection_written :
    findFirst? projectionPlace.read? (textOf st.pieces) = some st.projection.text := by
  rw [pieces, head, List.append_assoc]
  exact findFirst?_of_read ledBy_projection (readProjection?_written _ _ _ _)

/-- Collapsing leaves the pieces with one space between them. -/
theorem findFirst?_written {α : Type} {key : List Char} {read : List Char → Option α}
    (led : LedBy key read) {st : Statement} {s : List Char} (h : st.IsText s) :
    findFirst? read (collapse s) = findFirst? read (textOf st.pieces) := by
  have tidy : ∀ w ∈ st.pieces.map Piece.text, Tidy w := by
    intro w hw
    obtain ⟨p, -, rfl⟩ := List.mem_map.mp hw
    exact p.tidy
  rw [textOf, ← h.cons_collapse tidy,
    findFirst?_cons_of_foreign led (foreign_blank led.isKeyword rfl)]

theorem clauses_written {st : Statement} {s : List Char} (h : st.IsText s) :
    Clauses.ofText (collapse s) = st.clauses := by
  simp only [Clauses.ofText, clauses, fromTable?, joinClause?, condition?, orderBy?, limit?,
    groupBy?, projection?, Enclosure.find?_eq_findFirst?]
  rw [findFirst?_written ledBy_readFrom? h, findFirst?_written ledBy_readJoin? h,
    findFirst?_written ledBy_condition h, findFirst?_written ledBy_readOrderBy? h,
    findFirst?_written ledBy_readLimit? h, findFirst?_written ledBy_readGroupBy? h,
    findFirst?_written ledBy_projection h, fromTable?_written, join_written, condition_written,
    orderBy_written, limit_written, groupBy_written, projection_written]
  simp only [Option.map_some, Option.map_map, Function.comp_def, Name.lowerText_eq,
    Name.lowered, Phrase.trim_text]

end Statement

/-- A canonical query is read back as the clauses that were written, and its result is that of
the pipeline on these clauses. -/
theorem select_eq_run_of_isText (st : Statement) {sql : String} (h : st.IsText sql.toList) :
    Clauses.ofText (collapse sql.toList) = st.clauses ∧
      ∀ dataset options, select sql dataset options = st.clauses.run dataset options := by
  have read := Statement.clauses_written h
  refine ⟨read, fun dataset options => ?_⟩
  rw [select, read]

/-- The three newest posts of one author. -/
def newestPosts : Statement where
  selectWord := { text := "Select".toList }
  projection := ⟨"id, title AS t".toList, ⟨by decide, by decide +kernel⟩, by decide⟩
  fromWord := { text := "FROM".toList }
  table := ⟨"Posts".toList, by decide, by decide, by decide⟩
  join := none
  condition := some
    ⟨{ text := "where".toList }, "user_id = 1".toList, ⟨by decide, by decide +kernel⟩, by decide⟩
  orderBy := some
    ⟨{ text := "Order".toList }, { text := "By".toList },
      ⟨"created_at".toList, by decide, by decide, by decide⟩,
      some ⟨.descending, { text := "DESC".toList }⟩⟩
  limit := some ⟨{ text := "LIMIT".toList }, 3⟩
  groupBy := none

def newestPostsText : String :=
  "Select id, title AS t\n  FROM Posts\n  where\tuser_id = 1 Order By created_at DESC LIMIT 3"

theorem select_eq_run_of_isText_newestPosts :
    newestPosts.IsText newestPostsText.toList ∧
      Clauses.ofText (collapse newestPostsText.toList) = newestPosts.clauses ∧
      ∀ dataset options,
        select newestPostsText dataset options = newestPosts.clauses.run dataset options := by
  have text : newestPosts.IsText newestPostsText.toList :=
    .cons " ".toList (by decide) (by decide) <|
    .cons "\n  ".toList (by decide) (by decide) <|
    .cons " ".toList (by decide) (by decide) <|
    .cons "\n  ".toList (by decide) (by decide) <|
    .cons "\t".toList (by decide) (by decide) <|
    .cons " ".toList (by decide) (by decide) <|
    .cons " ".toList (by decide) (by decide) <|
    .cons " ".toList (by decide) (by decide) <|
    .cons " ".toList (by decide) (by decide) <|
    .cons " ".toList (by decide) (by decide) <|
    .cons " ".toList (by decide) (by decide) <|
    .one _
  exact ⟨text, select_eq_run_of_isText newestPosts text⟩

end SqlTutor.Query

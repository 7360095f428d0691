import SqlTutor.Proofs.Query.Canonical
import SqlTutor.Proofs.Query.Trailing
import SqlTutor.Proofs.Value.Equality

/-!
Swapping the two sides of ON changes neither the answer nor the error. Each side tells by its table,
and not by its place, which row it reads, and two values are equal in a join in either order, so
both joins match the same pairs of rows. In the text of a query the sides stand between words by
which no clause is found, and what follows them is read the same behind both.
-/
namespace SqlTutor.Query

open Text

namespace JoinClause

def swapped (join : JoinClause) : JoinClause := ⟨join.table, join.right, join.left⟩

theorem isMatch_swapped (join : JoinClause) (fromTable : String) (left right : Row) :
    join.swapped.isMatch fromTable left right = join.isMatch fromTable left right := by
  have symm (v w : Value) : w.strictEq v = v.strictEq w := by
    rw [Bool.eq_iff_iff]
    exact ⟨Value.strictEq_symm, Value.strictEq_symm⟩
  unfold isMatch swapped
  cases join.left.read fromTable left right <;> cases join.right.read fromTable left right
  · rfl
  · rfl
  · rfl
  · exact symm _ _

theorem rows_swapped (join : JoinClause) (fromTable : String) (lefts rights : List Row) :
    join.swapped.rows fromTable lefts rights = join.rows fromTable lefts rights := by
  have same (left : Row) : join.swapped.isMatch fromTable left = join.isMatch fromTable left :=
    funext (isMatch_swapped join fromTable left)
  have merged : join.swapped.combine = join.combine := rfl
  simp only [rows, same, merged]

end JoinClause

def Clauses.swapped (c : Clauses) : Clauses := { c with join := c.join.map JoinClause.swapped }

theorem Clauses.run_swapped (c : Clauses) (dataset : Dataset) (options : Options) :
    c.swapped.run dataset options = c.run dataset options := by
  have joined (name : String) (rows : List Row) :
      c.swapped.joined dataset name rows = c.joined dataset name rows := by
    unfold Clauses.joined swapped
    cases c.join with
    | none => rfl
    | some join =>
      simp only [Option.map_some, JoinClause.rows_swapped]
      rfl
  unfold Clauses.run
  simp only [joined]
  rfl

/-- A word by which no clause is found. -/
structure Identifier extends Column where
  plain : Plain text

/-- A column of ON with its table. -/
structure JoinSide where
  table : Identifier
  column : Identifier

/-- A query with a join, and the pieces of text behind the join, whatever they are. -/
structure JoinedQuery where
  selectWord : Keyword "select".toList
  projection : Phrase
  fromWord : Keyword "from".toList
  table : Identifier
  joinWord : Keyword "join".toList
  joined : Identifier
  onWord : Keyword "on".toList
  left : JoinSide
  right : JoinSide
  rest : List (List Char)
  tidy_rest : ∀ p ∈ rest, Tidy p

def JoinSide.text (side : JoinSide) : List Char := side.table.text ++ '.' :: side.column.text

def JoinSide.ref (side : JoinSide) : ColumnRef :=
  ⟨lowerText side.table.text, lowerText side.column.text⟩

namespace JoinedQuery

def swapped (q : JoinedQuery) : JoinedQuery := { q with left := q.right, right := q.left }

def behindJoin (q : JoinedQuery) : List (List Char) :=
  [q.joined.text, q.onWord.text, q.left.text, ['='], q.right.text]

/-- The pieces up to the right side of ON. -/
def front (q : JoinedQuery) : List (List Char) :=
  [q.selectWord.text, q.projection.text, q.fromWord.text, q.table.text] ++
    q.joinWord.text :: q.behindJoin

def pieces (q : JoinedQuery) : List (List Char) := q.front ++ q.rest

def clause (q : JoinedQuery) : JoinClause := ⟨lowerText q.joined.text, q.left.ref, q.right.ref⟩

/-- What is found in the front part, and what is found behind it. -/
def clauses (q : JoinedQuery) : Clauses where
  fromTable := some (lowerText q.table.text)
  join := some q.clause
  condition := condition? (spread q.rest)
  orderBy := orderBy? (spread q.rest)
  limit := limit? (spread q.rest)
  groupBy := groupBy? (spread q.rest)
  projection := some ⟨String.ofList q.projection.text⟩

/-- The text has the pieces of the query with some white space between each two. -/
def IsText (q : JoinedQuery) (s : List Char) : Prop := Spaced q.pieces s

theorem clauses_swapped (q : JoinedQuery) : q.swapped.clauses = q.clauses.swapped := rfl

end JoinedQuery

theorem JoinSide.solid (side : JoinSide) : Solid side.text :=
  side.table.solid.append (List.forall_mem_cons.mpr ⟨by decide, side.column.solid.2⟩)

theorem JoinSide.lacks (side : JoinSide) {key : List Char} (hkey : key ∈ clauseWords) :
    Lacks key side.text := by
  have keyword := (isKeyword_of_mem hkey).1
  have point : Foreign key '.' := foreign_of_not_isLower keyword (by decide)
  exact (side.table.plain.lacks hkey).append_cons keyword point (side.column.plain.lacks hkey)

theorem trimStart_spread {w : List Char} (hw : Solid w) (rest : List (List Char)) :
    trimStart (spread (w :: rest)) = w ++ spread rest := by
  rw [spread_cons, trimStart_space (stops_append hw.1 (tidy_of_solid hw).stops _)]

theorem readColumn?_side (side : JoinSide) {t : List Char} (ht : Stops isWordChar t) :
    readColumn? (side.text ++ t) = some (side.ref, t) := by
  have table : word? (side.table.text ++ '.' :: (side.column.text ++ t)) =
      some (side.table.text, '.' :: (side.column.text ++ t)) :=
    Predicate.word?_column side.table.toColumn (stops_cons rfl _)
  have column : word? (side.column.text ++ t) = some (side.column.text, t) :=
    Predicate.word?_column side.column.toColumn ht
  rw [JoinSide.text, List.append_assoc, List.cons_append]
  simp only [readColumn?, table, column, exactly?, if_true, bind, Option.bind_some, pure,
    JoinSide.ref]

namespace JoinedQuery

variable (q : JoinedQuery)

theorem solid_behindJoin : ∀ p ∈ q.behindJoin, Solid p := by
  simp only [behindJoin, List.forall_mem_cons, List.not_mem_nil, false_implies, implies_true,
    and_true]
  exact ⟨q.joined.solid, q.onWord.spells.solid (by decide), q.left.solid, by decide,
    q.right.solid⟩

theorem tidy_pieces : ∀ p ∈ q.pieces, Tidy p := by
  refine List.forall_mem_append.mpr ⟨?_, q.tidy_rest⟩
  simp only [front, List.cons_append, List.nil_append, List.forall_mem_cons]
  exact ⟨tidy_of_solid (q.selectWord.spells.solid (by decide)), q.projection.tidy,
    tidy_of_solid (q.fromWord.spells.solid (by decide)), tidy_of_solid q.table.solid,
    tidy_of_solid (q.joinWord.spells.solid (by decide)),
    fun p hp => tidy_of_solid (q.solid_behindJoin p hp)⟩

/-- The search for a clause passes over all that stands up to the right side of ON. -/
theorem lacks_front {key : List Char} (hkey : key ∈ clauseWords)
    (other : key ≠ "from".toList ∧ key ≠ "join".toList) : ∀ p ∈ q.front, Lacks key p := by
  have filler : key ∉ fillerWords := by
    revert key
    decide
  have notSelect : key ≠ "select".toList := fun same => filler (same ▸ by decide)
  have notOn : key ≠ "on".toList := fun same => filler (same ▸ by decide)
  have equals : ∀ key ∈ clauseWords, ¬ key <:+: lowerAscii ['='] := by decide
  simp only [front, behindJoin, List.cons_append, List.nil_append, List.forall_mem_cons,
    List.not_mem_nil, false_implies, implies_true, and_true]
  exact ⟨lacks_spelling hkey (by decide) q.selectWord.spells notSelect,
    q.projection.plain.lacks hkey,
    lacks_spelling hkey (by decide) q.fromWord.spells other.1, q.table.plain.lacks hkey,
    lacks_spelling hkey (by decide) q.joinWord.spells other.2, q.joined.plain.lacks hkey,
    lacks_spelling hkey (by decide) q.onWord.spells notOn, q.left.lacks hkey,
    lacks_of_not_isInfix (isKeyword_of_mem hkey).2 (equals key hkey), q.right.lacks hkey⟩

theorem fromTable_found : findFirst? readFrom? (spread q.pieces) = some q.table.text := by
  have before : ∀ p ∈ [q.selectWord.text, q.projection.text], Lacks "from".toList p := by
    simp only [List.forall_mem_cons, List.not_mem_nil, false_implies, implies_true, and_true]
    exact ⟨lacks_spelling (by decide) (by decide) q.selectWord.spells (by decide),
      q.projection.plain.lacks (by decide)⟩
  have cut : q.pieces = [q.selectWord.text, q.projection.text] ++
      q.fromWord.text :: q.table.text :: q.joinWord.text :: (q.behindJoin ++ q.rest) := rfl
  rw [cut, findFirst?_spread_append ledBy_readFrom? before, spread_cons]
  refine findFirst?_of_read ledBy_readFrom? ?_
  simp only [readFrom?, keyword?_text, blanks?_spread q.table.solid, word?_spread, bind,
    Option.bind_some, pure]

theorem readJoin?_behindJoin :
    readJoin? (q.joinWord.text ++ spread (q.behindJoin ++ q.rest)) = some q.clause := by
  have onWord : Solid q.onWord.text := q.onWord.spells.solid (by decide)
  have equals : Solid ['='] := by decide
  have space (rest : List (List Char)) : Stops isWordChar (spread rest) := stops_spread rfl rest
  simp only [readJoin?, behindJoin, List.cons_append, List.nil_append, keyword?_text,
    blanks?_spread q.joined.solid, word?_spread, blanks?_spread onWord,
    blanks?_spread q.left.solid, readColumn?_side q.left (space _), trimStart_spread equals,
    exactly?, trimStart_spread q.right.solid, readColumn?_side q.right (space _), if_true, bind,
    Option.bind_some, pure, clause]

theorem join_found : findFirst? readJoin? (spread q.pieces) = some q.clause := by
  have before : ∀ p ∈ [q.selectWord.text, q.projection.text, q.fromWord.text, q.table.text],
      Lacks "join".toList p := by
    simp only [List.forall_mem_cons, List.not_mem_nil, false_implies, implies_true, and_true]
    exact ⟨lacks_spelling (by decide) (by decide) q.selectWord.spells (by decide),
      q.projection.plain.lacks (by decide),
      lacks_spelling (by decide) (by decide) q.fromWord.spells (by decide),
      q.table.plain.lacks (by decide)⟩
  have cut : q.pieces = [q.selectWord.text, q.projection.text, q.fromWord.text, q.table.text] ++
      q.joinWord.text :: (q.behindJoin ++ q.rest) := rfl
  rw [cut, findFirst?_spread_append ledBy_readJoin? before, spread_cons]
  exact findFirst?_of_read ledBy_readJoin? q.readJoin?_behindJoin

theorem projection_found :
    findFirst? projectionPlace.read? (spread q.pieces) = some q.projection.text := by
  have cut : q.pieces = q.selectWord.text :: q.projection.text :: q.fromWord.text ::
      q.table.text :: q.joinWord.text :: (q.behindJoin ++ q.rest) := rfl
  have ends : projectionPlace.endsAt (spread (q.fromWord.text :: q.table.text ::
      q.joinWord.text :: (q.behindJoin ++ q.rest))) :=
    Enclosure.endsAt_spread List.mem_cons_self (by decide) q.fromWord.spells _
  rw [cut, spread_cons]
  refine findFirst?_of_read ledBy_projection ?_
  rw [spread_cons]
  refine Enclosure.read?_enclosed (by decide) q.selectWord.spells q.projection.tidy
    (Enclosure.open_of_lacks fun key hkey => ?_) ends
  obtain rfl := List.mem_singleton.mp hkey
  exact ⟨q.projection.plain.lacks (by decide), apart_spread (by decide) _⟩

/-- What a clause is found by stands behind the join, if anywhere. -/
theorem findFirst?_pieces {α : Type} {key : List Char} {read : List Char → Option α}
    (led : LedBy key read) (hkey : key ∈ clauseWords)
    (other : key ≠ "from".toList ∧ key ≠ "join".toList) :
    findFirst? read (spread q.pieces) = findFirst? read (spread q.rest) :=
  findFirst?_spread_append led (q.lacks_front hkey other) q.rest

theorem clauses_found {s : List Char} (h : q.IsText s) :
    Clauses.ofText (collapse s) = q.clauses := by
  have collapsed {α : Type} {key : List Char} {read : List Char → Option α} (led : LedBy key read) :
      findFirst? read (collapse s) = findFirst? read (spread q.pieces) := by
    rw [← Spaced.cons_collapse h q.tidy_pieces,
      findFirst?_cons_of_foreign led (foreign_blank led.isKeyword rfl)]
  simp only [Clauses.ofText, clauses, fromTable?, joinClause?, condition?, orderBy?, limit?,
    groupBy?, projection?, Enclosure.find?_eq_findFirst?]
  rw [collapsed ledBy_readFrom?, collapsed ledBy_readJoin?, collapsed ledBy_condition,
    collapsed ledBy_readOrderBy?, collapsed ledBy_readLimit?, collapsed ledBy_readGroupBy?,
    collapsed ledBy_projection, fromTable_found, join_found, projection_found,
    q.findFirst?_pieces ledBy_condition (by decide) (by decide),
    q.findFirst?_pieces ledBy_readOrderBy? (by decide) (by decide),
    q.findFirst?_pieces ledBy_readLimit? (by decide) (by decide),
    q.findFirst?_pieces ledBy_readGroupBy? (by decide) (by decide)]
  simp only [Option.map_some, Phrase.trim_text]

end JoinedQuery

/-- A query with the sides of ON swapped is the swapped join of the same rows, and gives the same
answer or the same error, whatever is written behind the sides. -/
theorem select_swapped (q : JoinedQuery) {sql sql' : String} (h : q.IsText sql.toList)
    (h' : q.swapped.IsText sql'.toList) :
    joinClause? (collapse sql.toList) = some q.clause ∧
      joinClause? (collapse sql'.toList) = some q.clause.swapped ∧
      ∀ dataset options, select sql' dataset options = select sql dataset options := by
  have written := q.clauses_found h
  have turned := q.swapped.clauses_found h'
  refine ⟨congrArg Clauses.join written, congrArg Clauses.join turned, fun dataset options => ?_⟩
  rw [select, select, turned, written, q.clauses_swapped, Clauses.run_swapped]

theorem isKeyword_select : IsKeyword "select".toList := by decide

theorem isKeyword_from : IsKeyword "from".toList := by decide

/-- A table joined with itself, where one side names a table that is none of the two. -/
def hosts : JoinedQuery where
  selectWord := ⟨"SELECT".toList, isKeyword_select, by decide⟩
  projection := ⟨"a, b AS c".toList, ⟨by decide, by decide +kernel⟩, by decide⟩
  fromWord := ⟨"from".toList, isKeyword_from, by decide⟩
  table := ⟨⟨"Éq".toList, by decide, by decide⟩, by decide⟩
  joinWord := { text := "Join".toList }
  joined := ⟨⟨"éQ".toList, by decide, by decide⟩, by decide⟩
  onWord := { text := "ON".toList }
  left := ⟨⟨⟨"éq".toList, by decide, by decide⟩, by decide⟩,
    ⟨⟨"host".toList, by decide, by decide⟩, by decide⟩⟩
  right := ⟨⟨⟨"owner".toList, by decide, by decide⟩, by decide⟩,
    ⟨⟨"ref".toList, by decide, by decide⟩, by decide⟩⟩
  rest := ["WHERE".toList, "a > 1".toList]
  tidy_rest := by
    simp only [List.forall_mem_cons, List.not_mem_nil, false_implies, implies_true, and_true]
    exact ⟨⟨by decide, by decide +kernel⟩, ⟨by decide, by decide +kernel⟩⟩

def hostsText : String := "SELECT a, b AS c from Éq Join éQ\nON éq.host = owner.ref WHERE a > 1"

def swappedHostsText : String :=
  "SELECT a, b AS c from Éq Join éQ\nON owner.ref =  éq.host WHERE a > 1"

theorem select_swapped_hosts :
    hosts.IsText hostsText.toList ∧ hosts.swapped.IsText swappedHostsText.toList ∧
      ∀ dataset options,
        select swappedHostsText dataset options = select hostsText dataset options := by
  have text : hosts.IsText hostsText.toList :=
    .cons " ".toList (by decide) (by decide) <|
    .cons " ".toList (by decide) (by decide) <|
    .cons " ".toList (by decide) (by decide) <|
    .cons " ".toList (by decide) (by decide) <|
    .cons " ".toList (by decide) (by decide) <|
    .cons "\n".toList (by decide) (by decide) <|
    .cons " ".toList (by decide) (by decide) <|
    .cons " ".toList (by decide) (by decide) <|
    .cons " ".toList (by decide) (by decide) <|
    .cons " ".toList (by decide) (by decide) <|
    .cons " ".toList (by decide) (by decide) <|
    .one _
  have text' : hosts.swapped.IsText swappedHostsText.toList :=
    .cons " ".toList (by decide) (by decide) <|
    .cons " ".toList (by decide) (by decide) <|
    .cons " ".toList (by decide) (by decide) <|
    .cons " ".toList (by decide) (by decide) <|
    .cons " ".toList (by decide) (by decide) <|
    .cons "\n".toList (by decide) (by decide) <|
    .cons " ".toList (by decide) (by decide) <|
    .cons " ".toList (by decide) (by decide) <|
    .cons "  ".toList (by decide) (by decide) <|
    .cons " ".toList (by decide) (by decide) <|
    .cons " ".toList (by decide) (by decide) <|
    .one _
  exact ⟨text, text', (select_swapped hosts text text').2.2⟩

end SqlTutor.Query

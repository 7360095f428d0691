import SqlTutor.Proofs.Query.Selection
import SqlTutor.Proofs.Text.Continuation

/-!
Statements that go on with another clause. Unless the statement ends in a keyword that still takes a
word, the clause that follows is read as a clause of its own: what a search finds in the statement
it also finds in the longer text, and only if it finds nothing there does it find what the clause
behind says.
-/
namespace SqlTutor.Query

open Text

/-- Keywords that a word or a condition has to follow. -/
def sealingWords : List (List Char) := ["from".toList, "where".toList, "by".toList]

/-- The keywords of the clauses that end a condition, as they are written. -/
def clauseOpenings : List (List Char) := ["ORDER".toList, "GROUP".toList, "LIMIT".toList]

/-- What the readers of clauses make of a text if they reach its front with a clause half read:
it ends a condition, and it is nothing that they look for. -/
structure ClauseAhead (t : List Char) : Prop where
  stops : Stops isBlank t
  closes : conditionPlace.closesAt t
  no_keyword : ∀ key ∈ ["on".toList, "by".toList, "desc".toList], keyword? key t = none
  no_digits : digits? t = none
  no_column : readColumn? t = none
  no_equals : exactly? ['='] t = none
  no_on : ∀ w s, word? t = some (w, s) → (blanks? s).bind (keyword? "on".toList) = none

/-- Behind the first word of a clause the condition of a join must not begin. -/
theorem clauseAhead {opening : List Char} (hopening : opening ∈ clauseOpenings)
    {rest : List Char} (hrest : Stops isBlank rest) (hon : keyword? "on".toList rest = none) :
    ClauseAhead (opening ++ ' ' :: rest) := by
  have space : isWordChar ' ' = false := rfl
  have letters : opening ≠ [] ∧ ∀ c ∈ opening, isWordChar c :=
    (by decide : ∀ w ∈ clauseOpenings, w ≠ [] ∧ ∀ c ∈ w, isWordChar c) opening hopening
  have word : word? (opening ++ ' ' :: rest) = some (opening, ' ' :: rest) :=
    run?_append letters.1 letters.2 (stops_cons space rest)
  simp only [clauseOpenings, List.mem_cons, List.not_mem_nil, or_false] at hopening
  exact {
    stops := by rcases hopening with rfl | rfl | rfl <;> exact stops_cons rfl _
    closes := by rcases hopening with rfl | rfl | rfl <;> rfl
    no_keyword := by
      simp only [List.mem_cons, List.not_mem_nil, or_false]
      rcases hopening with rfl | rfl | rfl <;> rintro key (rfl | rfl | rfl) <;> rfl
    no_digits := by rcases hopening with rfl | rfl | rfl <;> rfl
    no_column := by
      rw [readColumn?, word]
      rfl
    no_equals := by rcases hopening with rfl | rfl | rfl <;> rfl
    no_on := by
      intro w s found
      obtain ⟨-, rfl⟩ := Prod.mk.inj (Option.some.inj (word.symm.trans found))
      rw [blanks?_space hrest, Option.bind_some, hon] }

section Readers

variable {t : List Char}

theorem framed_readFrom? : Framed sealingWords t readFrom? := by
  have word : Framed sealingWords t fun s => (word? s).bind fun part => some part.1 :=
    Framed.run (by decide) fun w => framed_const (some w)
  exact word.inside.blanks.keyword (by decide) (by decide) (by decide)

theorem framed_column {α : Type} {next : ColumnRef × List Char → Option α}
    (h : ∀ ref, Framed sealingWords t fun s => next (ref, s)) :
    Framed sealingWords t fun s => (readColumn? s).bind next := by
  have steps : ∀ s, (readColumn? s).bind next = (run? isWordChar s).bind fun table =>
      (exactly? ['.'] table.2).bind fun s => (run? isWordChar s).bind fun column =>
        next (⟨lowerText table.1, lowerText column.1⟩, column.2) := by
    intro s
    simp only [readColumn?, word?, bind, pure, Option.bind_assoc, Option.bind_some]
  have column : ∀ table, Framed sealingWords t fun s => (run? isWordChar s).bind fun column =>
      next (⟨lowerText table, lowerText column.1⟩, column.2) := fun table =>
    Framed.run (by decide) fun column => h ⟨lowerText table, lowerText column⟩
  simp only [steps]
  exact Framed.run (by decide) fun table => (column table).exactly (by decide)

/-- The last step of `readJoin?`; the steps before it are put in front one by one. -/
def joinRight? (table : List Char) (left : ColumnRef) (s : List Char) : Option JoinClause :=
  (readColumn? (trimStart s)).bind fun right => some ⟨lowerText table, left, right.1⟩

def joinEquals? (table : List Char) (left : ColumnRef) (s : List Char) : Option JoinClause :=
  (exactly? ['='] (trimStart s)).bind (joinRight? table left)

def joinLeft? (table s : List Char) : Option JoinClause :=
  (blanks? s).bind fun s => (readColumn? s).bind fun left => joinEquals? table left.1 left.2

def joinOn? (table s : List Char) : Option JoinClause :=
  (blanks? s).bind fun s => (keyword? "on".toList s).bind (joinLeft? table)

def joinTable? (s : List Char) : Option JoinClause :=
  (blanks? s).bind fun s => (word? s).bind fun table => joinOn? table.1 table.2

theorem readJoin?_eq : readJoin? = fun s => (keyword? "join".toList s).bind joinTable? := rfl

variable (h : ClauseAhead t)
include h

theorem framed_joinEquals? (table : List Char) (left : ColumnRef) :
    Framed sealingWords t (joinEquals? table left) := by
  have right : Framed sealingWords t (joinRight? table left) := by
    have column : Framed sealingWords t fun s => (readColumn? s).bind fun right =>
        some (JoinClause.mk (lowerText table) left right.1) :=
      framed_column fun ref => framed_const (some (JoinClause.mk (lowerText table) left ref))
    refine column.inside.trimStart h.stops ?_
    rw [h.no_column]
    rfl
  refine (right.exactly (by decide)).inside.trimStart h.stops ?_
  rw [h.no_equals]
  rfl

theorem framed_joinOn? (table : List Char) : Framed sealingWords t (joinOn? table) := by
  have left : Framed sealingWords t (joinLeft? table) := by
    refine (framed_column (framed_joinEquals? h table)).inside.blanks_of_none h.stops ?_
    rw [h.no_column, Option.bind_none]
  refine (left.keyword (by decide)).inside.blanks_of_none h.stops ?_
  rw [h.no_keyword _ (by decide), Option.bind_none]

theorem framed_readJoin? : Framed sealingWords t readJoin? := by
  have table : Framed sealingWords t joinTable? := by
    refine (Framed.run (by decide) (framed_joinOn? h)).inside.blanks_of_none h.stops ?_
    rw [Option.bind_eq_none_iff]
    intro part word
    rw [joinOn?, ← Option.bind_assoc, h.no_on _ _ word, Option.bind_none]
  rw [readJoin?_eq]
  exact table.keyword (by decide)

/-- A column at the end is sorted upwards, and no clause changes that. -/
theorem framed_readDirection : Framed sealingWords t readDirection := by
  have space : Foreign "desc".toList ' ' := foreign_blank (by decide) rfl
  intro s hs
  unfold readDirection
  by_cases empty : s = []
  · subst empty
    rw [List.nil_append, blanks?_space h.stops]
    refine if_neg fun found => ?_
    rw [h.no_keyword _ (by decide)] at found
    exact Bool.false_ne_true found.1
  · rw [blanks?_append empty hs.last]
    cases blanks? s with
    | none => rfl
    | some r => simp only [Option.map_some, isDesc_append_cons space]

/-- What ORDER and GROUP have behind them: BY, and then a column. -/
theorem framed_byColumn {α : Type} (next : List Char × List Char → Option α)
    (hnext : ∀ w, Framed sealingWords t fun s => next (w, s)) :
    Framed sealingWords t fun s => (blanks? s).bind fun s =>
      (keyword? "by".toList s).bind fun s => (blanks? s).bind fun s => (word? s).bind next := by
  have column : Framed sealingWords t fun s => (word? s).bind next := Framed.run (by decide) hnext
  have byWord : Framed sealingWords t fun s =>
      (keyword? "by".toList s).bind fun s => (blanks? s).bind fun s => (word? s).bind next :=
    column.inside.blanks.keyword (by decide) (by decide) (by decide)
  refine byWord.inside.blanks_of_none h.stops ?_
  rw [h.no_keyword _ (by decide), Option.bind_none]

theorem framed_readOrderBy? : Framed sealingWords t readOrderBy? := by
  have behind := framed_byColumn h
    (fun part => some (OrderBy.mk (String.ofList part.1) (readDirection part.2))) ?_
  · exact behind.keyword (by decide)
  · intro w s hs
    dsimp only
    rw [framed_readDirection h s hs]

theorem framed_readGroupBy? : Framed sealingWords t readGroupBy? :=
  (framed_byColumn h (fun part => some part.1) fun w => framed_const (some w)).keyword (by decide)

theorem framed_readLimit? : Framed sealingWords t readLimit? := by
  have digits : Framed sealingWords t fun s => (digits? s).bind fun part =>
      some (limitOf part.1) :=
    Framed.run (by decide) fun digits => framed_const (some (limitOf digits))
  refine (digits.inside.blanks_of_none h.stops ?_).keyword (by decide)
  rw [h.no_digits, Option.bind_none]

theorem framed_condition : Framed sealingWords t conditionPlace.read? :=
  framed_read? (by decide) (by decide) (by decide) (by decide) rfl h.closes

end Readers

/-- The clauses of `c`, and those of `d` where `c` has none. -/
def Clauses.or (c d : Clauses) : Clauses where
  fromTable := c.fromTable.or d.fromTable
  join := c.join.or d.join
  condition := c.condition.or d.condition
  orderBy := c.orderBy.or d.orderBy
  limit := c.limit.or d.limit
  groupBy := c.groupBy.or d.groupBy
  projection := c.projection.or d.projection

/-- The projection is left out, since no clause that follows ends it. -/
theorem ofText_append_clause {s t : List Char} (hs : Sealed sealingWords s) (h : ClauseAhead t) :
    Clauses.ofText (s ++ ' ' :: t) = { (Clauses.ofText s).or (Clauses.ofText t) with
      projection := projection? (s ++ ' ' :: t) } := by
  simp only [Clauses.ofText, Clauses.or, fromTable?, joinClause?, condition?, orderBy?, limit?,
    groupBy?, Enclosure.find?_eq_findFirst?, ← Option.map_or]
  rw [framed_readFrom?.findFirst?_append ledBy_readFrom? hs,
    (framed_readJoin? h).findFirst?_append ledBy_readJoin? hs,
    (framed_condition h).findFirst?_append ledBy_condition hs,
    (framed_readOrderBy? h).findFirst?_append ledBy_readOrderBy? hs,
    (framed_readLimit? h).findFirst?_append ledBy_readLimit? hs,
    (framed_readGroupBy? h).findFirst?_append ledBy_readGroupBy? hs]

end SqlTutor.Query

import SqlTutor.Proofs.Query.References

/-!
Queries for whole rows whose columns may have the table in front of them. With the table in front of
the column of its comparison a query answers the same, whatever other clauses it has. In front of
the columns of ORDER BY and GROUP BY the table counts as the column.
-/
namespace SqlTutor.Query

open Text

/-- The clauses behind the table. -/
structure TableQuery where
  condition : Option (Reference × Nat)
  orderBy : Option (Reference × Option Direction)
  limit : Option Nat
  groupBy : Option Reference

namespace TableQuery

def whereWords (t : TableName) (c : Reference × Nat) : List (List Char) :=
  ["WHERE".toList, c.1.text t, ['='], Nat.toDigits 10 c.2]

def orderWords (t : TableName) (o : Reference × Option Direction) : List (List Char) :=
  ["ORDER".toList, "BY".toList] ++ o.1.text t :: o.2.toList.map Direction.written

def limitWords (n : Nat) : List (List Char) := ["LIMIT".toList, Nat.toDigits 10 n]

def groupWords (t : TableName) (r : Reference) : List (List Char) :=
  ["GROUP".toList, "BY".toList, r.text t]

/-- The words behind the condition. -/
def tail (t : TableName) (q : TableQuery) : List (List Char) :=
  q.orderBy.toList.flatMap (orderWords t) ++
    (q.limit.toList.flatMap limitWords ++ q.groupBy.toList.flatMap (groupWords t))

/-- The words behind the table. -/
def words (t : TableName) (q : TableQuery) : List (List Char) :=
  q.condition.toList.flatMap (whereWords t) ++ q.tail t

def text (t : TableName) (q : TableQuery) : List Char :=
  "SELECT".toList ++ spread ("*".toList :: "FROM".toList :: t.text :: q.words t)

/-- The same query without the table in front of its columns. -/
def bare (q : TableQuery) : TableQuery where
  condition := q.condition.map fun c => (c.1.bare, c.2)
  orderBy := q.orderBy.map fun o => (o.1.bare, o.2)
  limit := q.limit
  groupBy := q.groupBy.map Reference.bare

/-- What the query is evaluated by: the column of the comparison, but the first words behind
ORDER BY and GROUP BY. With the table there, the direction is not reached either. -/
def clauses (t : TableName) (q : TableQuery) : Clauses where
  fromTable := some t.name
  join := none
  condition := q.condition.map fun c => String.ofList (Form.numberEq c.1.column c.2).text
  orderBy := q.orderBy.map fun o => ⟨String.ofList (o.1.firstWord t),
    if o.1.qualified then .ascending else o.2.getD .ascending⟩
  limit := q.limit.map fun n => min n maxLimit
  groupBy := q.groupBy.map fun r => String.ofList (r.firstWord t)
  projection := some ⟨"*"⟩

end TableQuery

section Options

variable {α β : Type} {words : β → List (List Char)} {rest : List (List Char)}

theorem follows_option (opens : ∀ b, ∃ w ∈ clauseOpenings, ∃ more, words b = w :: more)
    (hrest : Follows rest) (o : Option β) : Follows (o.toList.flatMap words ++ rest) := by
  cases o with
  | none => exact hrest
  | some b =>
    obtain ⟨w, hw, more, eq⟩ := opens b
    rw [Option.toList_some, List.flatMap_singleton, eq]
    intro v hv
    obtain rfl : w = v := by simpa using hv
    exact hw

theorem findFirst?_option {read : List Char → Option α}
    (skip : ∀ b, findFirst? read (spread (words b ++ rest)) = findFirst? read (spread rest))
    (o : Option β) :
    findFirst? read (spread (o.toList.flatMap words ++ rest)) = findFirst? read (spread rest) := by
  cases o with
  | none => rfl
  | some b =>
    rw [Option.toList_some, List.flatMap_singleton]
    exact skip b

end Options

namespace TableQuery

variable (t : TableName)

theorem follows_groupBy (r : Option Reference) :
    Follows (r.toList.flatMap (groupWords t)) := by
  have follows : Follows (r.toList.flatMap (groupWords t) ++ []) :=
    follows_option (fun _ => ⟨"GROUP".toList, by decide, _, rfl⟩) (by simp [Follows]) r
  rwa [List.append_nil] at follows

theorem follows_limit (n : Option Nat) (r : Option Reference) :
    Follows (n.toList.flatMap limitWords ++ r.toList.flatMap (groupWords t)) :=
  follows_option (fun _ => ⟨"LIMIT".toList, by decide, _, rfl⟩) (follows_groupBy t r) n

theorem follows_tail (q : TableQuery) : Follows (q.tail t) :=
  follows_option (fun _ => ⟨"ORDER".toList, by decide, _, rfl⟩) (follows_limit t q.limit q.groupBy)
    q.orderBy

section Search

variable {α : Type} {key : List Char} {read : List Char → Option α} {rest : List (List Char)}
  (h : Opened key read) (hkey : key ∈ clauseWords) (breaks : Breaks key read) (hrest : Follows rest)

include h hkey breaks hrest

theorem findFirst?_orderWords (hother : ¬ EndsIn key "ORDER".toList)
    (o : Option (Reference × Option Direction)) :
    findFirst? read (spread (o.toList.flatMap (orderWords t) ++ rest)) =
      findFirst? read (spread rest) := by
  refine findFirst?_option (fun o => ?_) o
  rw [orderWords, List.append_assoc, List.cons_append]
  exact findFirst?_clause h hkey breaks _ (apart_by hkey ⟨by decide, hother⟩) (o.1.solid t).2
    (Direction.breaks hkey o.2) hrest

theorem findFirst?_limitWords (hother : ¬ EndsIn key "LIMIT".toList) (n : Option Nat) :
    findFirst? read (spread (n.toList.flatMap limitWords ++ rest)) =
      findFirst? read (spread rest) := by
  have front : ∀ v ∈ ["LIMIT".toList], (∀ d ∈ v, isBlank d = false) ∧ ¬ EndsIn key v :=
    List.forall_mem_singleton.mpr ⟨by decide, hother⟩
  exact findFirst?_option (fun n => findFirst?_clause h hkey breaks [] front (solid_toDigits n).2
    (List.forall_mem_nil _) hrest) n

theorem findFirst?_groupWords (hother : ¬ EndsIn key "GROUP".toList) (r : Option Reference) :
    findFirst? read (spread (r.toList.flatMap (groupWords t) ++ rest)) =
      findFirst? read (spread rest) :=
  findFirst?_option (fun r => findFirst?_clause h hkey breaks [] (apart_by hkey ⟨by decide, hother⟩)
    (r.solid t).2 (List.forall_mem_nil _) hrest) r

end Search

theorem findFirst?_groupWords_eq_none {α : Type} {key : List Char} {read : List Char → Option α}
    (h : Opened key read) (hkey : key ∈ clauseWords) (breaks : Breaks key read)
    (hother : ¬ EndsIn key "GROUP".toList) (r : Option Reference) :
    findFirst? read (spread (r.toList.flatMap (groupWords t))) = none := by
  have empty : Follows [] := by simp [Follows]
  have skip := findFirst?_groupWords t h hkey breaks empty hother r
  rw [List.append_nil] at skip
  rw [skip]
  exact h.nil

section Found

variable (q : TableQuery)

theorem orderBy?_tail : findFirst? readOrderBy? (spread (q.tail t)) = (q.clauses t).orderBy := by
  have breaks := takes_readOrderBy?.breaks
  have follows := follows_limit t q.limit q.groupBy
  rw [tail, clauses]
  cases q.orderBy with
  | none =>
    rw [Option.toList_none, List.flatMap_nil, List.nil_append,
      findFirst?_limitWords opened_readOrderBy? (by decide) breaks (follows_groupBy t q.groupBy)
        (by decide),
      findFirst?_groupWords_eq_none t opened_readOrderBy? (by decide) breaks (by decide)]
    rfl
  | some o =>
    rw [Option.toList_some, List.flatMap_singleton]
    exact findFirst?_of_read opened_readOrderBy?.toLedBy (readOrderBy?_reference t o follows)

theorem limit?_tail : findFirst? readLimit? (spread (q.tail t)) = (q.clauses t).limit := by
  have breaks := takes_readLimit?.breaks
  rw [tail, clauses, findFirst?_orderWords t opened_readLimit? (by decide) breaks
    (follows_limit t q.limit q.groupBy) (by decide)]
  cases q.limit with
  | none =>
    exact findFirst?_groupWords_eq_none t opened_readLimit? (by decide) breaks (by decide) q.groupBy
  | some n =>
    exact findFirst?_of_read opened_readLimit?.toLedBy
      (takes_readLimit?.own (.limit n) _ rfl _ (follows_groupBy t q.groupBy))

theorem groupBy?_tail :
    (findFirst? readGroupBy? (spread (q.tail t))).map String.ofList = (q.clauses t).groupBy := by
  have breaks := takes_readGroupBy?.breaks
  rw [tail, clauses, findFirst?_orderWords t opened_readGroupBy? (by decide) breaks
    (follows_limit t q.limit q.groupBy) (by decide),
    findFirst?_limitWords opened_readGroupBy? (by decide) breaks (follows_groupBy t q.groupBy)
      (by decide)]
  cases q.groupBy with
  | none => rfl
  | some r =>
    have found := findFirst?_of_read opened_readGroupBy?.toLedBy (readGroupBy?_reference t r [])
    exact congrArg (Option.map String.ofList) found

end Found

section Words

variable {t} {q : TableQuery} {w : List Char}

theorem mem_tail (hw : w ∈ q.tail t) :
    w ∈ "BY".toList :: breakWords ∨ (∃ r : Reference, w = r.text t) ∨
      ∃ n, w = Nat.toDigits 10 n := by
  simp only [tail, orderWords, limitWords, groupWords, List.mem_append, List.mem_flatMap,
    Option.mem_toList, List.mem_cons, List.mem_map, List.not_mem_nil, or_false] at hw
  rcases hw with ⟨o, -, (rfl | rfl) | rfl | ⟨d, -, rfl⟩⟩ | ⟨n, -, rfl | rfl⟩ |
    ⟨r, -, rfl | rfl | rfl⟩
  · exact Or.inl (by decide)
  · exact Or.inl (by decide)
  · exact Or.inr (Or.inl ⟨o.1, rfl⟩)
  · exact Or.inl (List.mem_cons_of_mem _ d.written_mem_breakWords)
  · exact Or.inl (by decide)
  · exact Or.inr (Or.inr ⟨n, rfl⟩)
  · exact Or.inl (by decide)
  · exact Or.inl (by decide)
  · exact Or.inr (Or.inl ⟨r, rfl⟩)

theorem solid_of_mem_words (hw : w ∈ q.words t) : Solid w := by
  have letters : ∀ v ∈ "BY".toList :: breakWords, Solid v := by decide
  rcases List.mem_append.mp hw with condition | tail
  · obtain ⟨c, -, hc⟩ := List.mem_flatMap.mp condition
    simp only [whereWords, List.mem_cons, List.not_mem_nil, or_false] at hc
    rcases hc with rfl | rfl | rfl | rfl
    · decide
    · exact c.1.solid t
    · decide
    · exact solid_toDigits c.2
  · obtain letter | ⟨r, rfl⟩ | ⟨n, rfl⟩ := mem_tail tail
    · exact letters w letter
    · exact r.solid t
    · exact solid_toDigits n

/-- There is no equals sign behind the condition. -/
theorem notMem_spread_tail (front : List (List Char)) (hfront : ∀ v ∈ front, '=' ∉ v) :
    '=' ∉ spread (front ++ q.tail t) := by
  have letters : ∀ v ∈ "BY".toList :: breakWords, '=' ∉ v := by decide
  intro mem
  obtain ⟨v, hv, inside⟩ := List.mem_flatMap.mp mem
  have letter : '=' ∈ v := (List.mem_cons.mp inside).resolve_left (by decide)
  rcases List.mem_append.mp hv with first | tail
  · exact hfront v first letter
  · obtain word | ⟨r, rfl⟩ | ⟨n, rfl⟩ := mem_tail tail
    · exact letters v word letter
    · exact r.notMem_text t letter
    · exact notMem_toDigits (by decide) n letter

end Words

theorem words_some {q : TableQuery} {c : Reference × Nat} (h : q.condition = some c) :
    q.words t = "WHERE".toList :: c.1.text t :: ['='] :: Nat.toDigits 10 c.2 :: q.tail t := by
  rw [words, h]
  rfl

theorem words_none {q : TableQuery} (h : q.condition = none) : q.words t = q.tail t := by
  rw [words, h]
  rfl

section Whole

variable {α : Type} {key : List Char} {read : List Char → Option α}

theorem findFirst?_words (h : Opened key read)
    (hkey : key ∈ ["order".toList, "group".toList, "limit".toList]) (breaks : Breaks key read)
    (hwhere : ∀ s, read (key ++ ' ' :: ("WHERE".toList ++ s)) = none)
    (hequals : ∀ s, read (key ++ ' ' :: '=' :: s) = none) (q : TableQuery) :
    findFirst? read (spread (t.text :: q.words t)) = findFirst? read (spread (q.tail t)) := by
  have others : ∀ key ∈ ["order".toList, "group".toList, "limit".toList], key ∈ clauseWords ∧
      ¬ EndsIn key "WHERE".toList ∧ ¬ EndsIn key ['='] := by decide
  obtain ⟨hmem, whereWord, sign⟩ := others key hkey
  have plain := (isKeyword_of_mem hmem).2
  cases hc : q.condition with
  | none =>
    rw [words_none t hc]
    exact findFirst?_spread_of_fails h plain t.solid.2 fun _ =>
      breaks.fails h fun v hv => List.mem_append_left _ (follows_tail t q v hv)
  | some c =>
    have digits : ¬ EndsIn key (Nat.toDigits 10 c.2) := (plain_toDigits c.2).not_endsIn hmem
    have comparison : ∀ v ∈ [['='], Nat.toDigits 10 c.2],
        (∀ d ∈ v, isBlank d = false) ∧ ¬ EndsIn key v := by
      refine fun v hv => ⟨(solid_comparison c.2 v hv).2, ?_⟩
      rcases List.mem_pair.mp hv with rfl | rfl
      · exact sign
      · exact digits
    have table : read (key ++ spread ("WHERE".toList :: c.1.text t :: ['='] ::
        Nat.toDigits 10 c.2 :: q.tail t)) = none := hwhere _
    have column : read (key ++ spread (['='] :: Nat.toDigits 10 c.2 :: q.tail t)) = none :=
      hequals _
    rw [words_some t hc, findFirst?_spread_of_fails h plain t.solid.2 fun _ => table,
      findFirst?_spread_of_fails h plain (by decide) fun ends => absurd ends whereWord,
      findFirst?_spread_of_fails h plain (c.1.solid t).2 fun _ => column]
    exact findFirst?_spread_solid h plain comparison (q.tail t)

theorem joinClause?_words (q : TableQuery) :
    findFirst? readJoin? (spread (t.text :: q.words t)) = none := by
  have plain : 's' ∉ "join".toList ∧ 'k' ∉ "join".toList := by decide
  have table : '=' ∉ t.text := fun mem => absurd (t.chars _ mem).1 (by decide)
  cases hc : q.condition with
  | none =>
    rw [words_none t hc]
    exact findFirst?_readJoin?_eq_none
      (notMem_spread_tail [t.text] (List.forall_mem_singleton.mpr table))
  | some c =>
    have digits : '=' ∉ Nat.toDigits 10 c.2 := notMem_toDigits (by decide) c.2
    have noColumn : readJoin? ("join".toList ++ spread ("WHERE".toList :: c.1.text t :: ['='] ::
        Nat.toDigits 10 c.2 :: q.tail t)) = none :=
      readJoin?_eq_none (by decide) (by decide) (c.1.solid t) (apart_space (by decide) _) rfl
    rw [words_some t hc, findFirst?_spread_of_fails opened_readJoin? plain t.solid.2
        fun _ => noColumn,
      findFirst?_spread_of_fails opened_readJoin? plain (by decide)
        fun ends => absurd ends (by decide),
      findFirst?_spread_of_fails opened_readJoin? plain (c.1.solid t).2 fun _ => rfl,
      findFirst?_spread_of_fails opened_readJoin? plain (by decide)
        fun ends => absurd ends (by decide)]
    exact findFirst?_readJoin?_eq_none
      (notMem_spread_tail [Nat.toDigits 10 c.2] (List.forall_mem_singleton.mpr digits))

end Whole

/-- A query in which a word ends in WHERE has a condition. -/
def Led (t : TableName) (q : TableQuery) : Prop :=
  q.condition = none → ∀ w ∈ t.text :: q.words t, ¬ EndsIn "where".toList w

/-- The condition as it is read. -/
def readCondition (t : TableName) (q : TableQuery) : Option (List Char) :=
  q.condition.map fun c => t.lead ++ conditionText t c

theorem findFirst?_condition {q : TableQuery} (led : q.Led t)
    (admits : ∀ c ∈ q.condition, t.AdmitsReference c.1) :
    findFirst? conditionPlace.read? (spread (t.text :: q.words t)) = q.readCondition t := by
  have plain : 's' ∉ "where".toList ∧ 'k' ∉ "where".toList := by decide
  rw [readCondition]
  cases hc : q.condition with
  | none =>
    have passed : ∀ w ∈ t.text :: q.words t,
        (∀ d ∈ w, isBlank d = false) ∧ ¬ EndsIn "where".toList w := by
      refine fun w hw => ⟨?_, led hc w hw⟩
      rcases List.mem_cons.mp hw with rfl | behind
      · exact t.solid.2
      · exact (solid_of_mem_words behind).2
    have skip := findFirst?_spread_solid opened_condition plain passed []
    rw [List.append_nil] at skip
    rw [skip]
    rfl
  | some c =>
    have ends : conditionPlace.endsAt (spread (q.tail t)) := by
      cases htail : q.tail t with
      | nil => rfl
      | cons w rest =>
        have keys : ∀ w ∈ clauseOpenings, ∃ key ∈ conditionPlace.closing, Spells key w := by decide
        have isKeyword : ∀ key ∈ conditionPlace.closing, IsKeyword key := by decide
        obtain ⟨key, hkey, spells⟩ := keys w (follows_tail t q w (by rw [htail]; rfl))
        exact Enclosure.endsAt_spread hkey (isKeyword key hkey) spells rest
    have text : spread (t.text :: q.words t) = ' ' :: (t.text ++ ' ' :: ("WHERE".toList ++ ' ' ::
        (conditionText t c ++ spread (q.tail t)))) := by
      simp only [words_some t hc, conditionText, spread_cons, spread_nil, List.append_assoc,
        List.cons_append, List.append_nil]
    rw [text, findFirst?_cons_of_foreign opened_condition.toLedBy (foreign_blank (by decide) rfl)]
    exact findFirst?_where t (t.tidy_lead (tidy_conditionText t c))
      (open_lead_conditionText (admits c hc) (q.tail t)) ends

theorem words_text (q : TableQuery) :
    Text.words (q.text t) =
      ["SELECT".toList, "*".toList, "FROM".toList] ++ t.text :: q.words t := by
  have solid : ∀ w ∈ "*".toList :: "FROM".toList :: t.text :: q.words t, Solid w :=
    List.forall_mem_cons.mpr ⟨by decide, List.forall_mem_cons.mpr ⟨by decide,
      List.forall_mem_cons.mpr ⟨t.solid, fun w hw => solid_of_mem_words hw⟩⟩⟩
  have selectWord : Solid "SELECT".toList := by decide
  change Text.words ("SELECT".toList ++ spread _) = _
  rw [words_append_spread _ solid, words_solid selectWord]
  rfl

/-- Each search finds its clause in a query and nothing else. -/
theorem ofText_text {q : TableQuery} (led : q.Led t)
    (admits : ∀ c ∈ q.condition, t.AdmitsReference c.1) :
    Clauses.ofText (collapse (q.text t)) =
      { q.clauses t with condition := (q.readCondition t).map String.ofList } := by
  have front : ∀ {α : Type} {key : List Char} {read : List Char → Option α}, Opened key read →
      key ∈ ["join".toList, "where".toList, "order".toList, "group".toList, "limit".toList] →
      findFirst? read (spread (["SELECT".toList, "*".toList, "FROM".toList] ++
        t.text :: q.words t)) = findFirst? read (spread (t.text :: q.words t)) := by
    intro α key read opened hkey
    have apart : ∀ key ∈ ["join".toList, "where".toList, "order".toList, "group".toList,
        "limit".toList], ('s' ∉ key ∧ 'k' ∉ key) ∧
          ∀ w ∈ ["SELECT".toList, "*".toList, "FROM".toList],
            (∀ c ∈ w, isBlank c = false) ∧ ¬ EndsIn key w := by decide
    exact findFirst?_spread_solid opened (apart key hkey).1 (apart key hkey).2 _
  have fromTable : findFirst? readFrom? (spread (["SELECT".toList, "*".toList, "FROM".toList] ++
      t.text :: q.words t)) = some t.text := by
    have lacks : ∀ w ∈ ["SELECT".toList, "*".toList], Lacks "from".toList w := by
      have plain : ∀ w ∈ ["SELECT".toList, "*".toList], Plain w := by decide
      exact fun w hw => (plain w hw).lacks (by decide)
    exact (findFirst?_spread_append opened_readFrom?.toLedBy lacks _).trans
      (findFirst?_of_read opened_readFrom?.toLedBy (readFrom?_table t (stops_spread rfl _)))
  have projection : findFirst? projectionPlace.read? (spread (["SELECT".toList, "*".toList,
      "FROM".toList] ++ t.text :: q.words t)) = some "*".toList := by
    have star : Tidy "*".toList := tidy_of_solid (by decide)
    have ends : projectionPlace.endsAt (spread ("FROM".toList :: t.text :: q.words t)) :=
      Enclosure.endsAt_spread List.mem_cons_self (by decide) (by decide) _
    exact findFirst?_of_read ledBy_projection
      (Enclosure.read?_enclosed (by decide) (by decide) star
        (Enclosure.open_solid (by decide) _) ends)
  have trimmed : (q.readCondition t).map (fun text => String.ofList (trim text)) =
      (q.readCondition t).map String.ofList := by
    rw [readCondition, Option.map_map, Option.map_map]
    refine Option.map_congr fun c _ => congrArg String.ofList ?_
    have tidy := t.tidy_lead (tidy_conditionText t c)
    exact trim_eq_self tidy.stops tidy.last
  rw [ofText_collapse, words_text]
  simp only [Clauses.ofText, fromTable?, joinClause?, condition?, orderBy?, limit?, groupBy?,
    projection?, Enclosure.find?_eq_findFirst?]
  rw [fromTable, projection, front opened_readJoin? (by decide), joinClause?_words,
    front opened_condition (by decide), findFirst?_condition t led admits, trimmed,
    front opened_readOrderBy? (by decide), front opened_readLimit? (by decide),
    front opened_readGroupBy? (by decide),
    findFirst?_words t opened_readOrderBy? (by decide) takes_readOrderBy?.breaks
      (fun _ => rfl) (fun _ => rfl), orderBy?_tail,
    findFirst?_words t opened_readLimit? (by decide) takes_readLimit?.breaks
      (fun _ => rfl) (fun _ => rfl), limit?_tail,
    findFirst?_words t opened_readGroupBy? (by decide) takes_readGroupBy?.breaks
      (fun _ => rfl) (fun _ => rfl), groupBy?_tail, Option.map_some, Option.map_some,
    t.lowerText_text]
  rfl

end TableQuery

/-- A single part holds of a row just when its predicate does. -/
theorem Clauses.filtered_of_isPart {c : Clauses} {s : List Char} {p : Predicate} (h : IsPart s p)
    (hc : c.condition = some (String.ofList s)) (strict : Bool) (rows : List Row) :
    c.filtered strict rows = .ok (rows.filter p.holds) := by
  have one : ∀ part ∈ [(s, p)], IsPart part.1 part.2 := List.forall_mem_singleton.mpr h
  have read := Condition.read_of_joined (.one s) one strict
  have same : (Condition.ofParts [(s, p)]).filter rows = rows.filter p.holds := by
    refine List.filter_congr fun row _ => ?_
    rw [Condition.holds_ofParts, List.all_cons, List.all_nil, Bool.and_true]
  simp only [filtered, hc, String.toList_ofList, read, ← same]
  rfl

/-- What a condition is does not matter if it keeps the same rows. -/
theorem Clauses.run_congr {c : Clauses} {condition : Option String}
    (same : ∀ strict rows, ({ c with condition := condition } : Clauses).filtered strict rows =
      c.filtered strict rows) (dataset : Dataset) (options : Options) :
    ({ c with condition := condition } : Clauses).run dataset options = c.run dataset options := by
  simp only [run, same]
  rfl

namespace TableQuery

variable {t : TableName} {q : TableQuery}

theorem select_text (led : q.Led t) (admits : ∀ c ∈ q.condition, t.AdmitsReference c.1)
    (dataset : Dataset) (options : Options) :
    select (String.ofList (q.text t)) dataset options = (q.clauses t).run dataset options := by
  rw [select, String.toList_ofList, ofText_text t led admits]
  refine Clauses.run_congr (fun strict rows => ?_) dataset options
  cases hc : q.condition with
  | none => simp only [Clauses.filtered, clauses, readCondition, hc, Option.map_none]
  | some c =>
    have read : (q.readCondition t).map String.ofList =
        some (String.ofList (t.lead ++ conditionText t c)) := by rw [readCondition, hc]; rfl
    have written : (q.clauses t).condition =
        some (String.ofList (Form.numberEq c.1.column c.2).text) := by rw [clauses, hc]; rfl
    rw [Clauses.filtered_of_isPart (Form.isPart _) written strict rows,
      Clauses.filtered_of_isPart (isPart_conditionText (admits c hc)) read strict rows]

theorem bare_eq (order : ∀ o ∈ q.orderBy, o.1.qualified = false)
    (group : ∀ r ∈ q.groupBy, r.qualified = false) :
    q.bare = { q with condition := q.condition.map fun c => (c.1.bare, c.2) } := by
  have same : ∀ r : Reference, r.qualified = false → r.bare = r := by
    rintro ⟨column, qualified⟩ rfl
    rfl
  have orderBy : q.orderBy.map (fun o => (o.1.bare, o.2)) = q.orderBy := by
    refine (Option.map_congr fun o ho => ?_).trans Option.map_id'
    rw [same o.1 (order o ho)]
  have groupBy : q.groupBy.map Reference.bare = q.groupBy :=
    (Option.map_congr fun r hr => same r (group r hr)).trans Option.map_id'
  rw [bare, orderBy, groupBy]

/-- With the table in front of the column of a comparison a query answers the same. ORDER BY sorts
by the column whose name is that of the table if it stands in front there, and always upwards, and
GROUP BY groups by that column. -/
theorem select_references (admits : ∀ c ∈ q.condition, t.AdmitsReference c.1) (dataset : Dataset)
    (options : Options) :
    ((∀ o ∈ q.orderBy, o.1.qualified = false) → (∀ r ∈ q.groupBy, r.qualified = false) →
      select (String.ofList (q.text t)) dataset options =
        select (String.ofList (q.bare.text t)) dataset options) ∧
    (q.Led t →
      select (String.ofList (q.text t)) dataset options = (q.clauses t).run dataset options) := by
  refine ⟨fun order group => ?_, fun led => select_text led admits dataset options⟩
  have bare := bare_eq order group
  cases hc : q.condition with
  | none =>
    rw [hc, Option.map_none, ← hc] at bare
    rw [bare]
  | some c =>
    have led : q.Led t := fun none => nomatch none.symm.trans hc
    have ledBare : q.bare.Led t := by
      intro none
      rw [bare, hc] at none
      nomatch none
    have admitsBare : ∀ c ∈ q.bare.condition, t.AdmitsReference c.1 := by
      intro d hd
      rw [bare, hc] at hd
      obtain rfl : (c.1.bare, c.2) = d := Option.some.inj hd
      exact ⟨(admits c hc).1, fun _ qualified => nomatch qualified⟩
    have clauses : q.bare.clauses t = q.clauses t := by
      rw [bare, TableQuery.clauses, TableQuery.clauses, Option.map_map]
      rfl
    rw [select_text led admits, select_text ledBare admitsBare, clauses]

end TableQuery

/-- The columns of a query. -/
def TableQuery.references (q : TableQuery) : List Reference :=
  (q.condition.map Prod.fst).toList ++ (q.orderBy.map Prod.fst).toList ++ q.groupBy.toList

def elsewhereTable : TableName := ⟨"elsewhere".toList, by decide, by decide⟩

/-- The table ends in WHERE and the last column ends in GROUP. -/
def elsewhereQuery : TableQuery where
  condition := some (⟨reorderIdColumn, true⟩, 2)
  orderBy := some (⟨groupIdColumn, false⟩, some .descending)
  limit := some 2
  groupBy := some ⟨⟨"regroup".toList, by decide, by decide⟩, false⟩

theorem TableQuery.select_references_elsewhere :
    (∀ c ∈ elsewhereQuery.condition, elsewhereTable.AdmitsReference c.1) ∧
      elsewhereQuery.Led elsewhereTable ∧ ∀ options,
        select ("SELECT * FROM elsewhere WHERE elsewhere.reorder_id = 2 " ++
            "ORDER BY group_id DESC LIMIT 2 GROUP BY regroup")
          (.ofList [("elsewhere", itemRows)]) options =
        select ("SELECT * FROM elsewhere WHERE reorder_id = 2 " ++
            "ORDER BY group_id DESC LIMIT 2 GROUP BY regroup")
          (.ofList [("elsewhere", itemRows)]) options := by
  have admits : ∀ c ∈ elsewhereQuery.condition, elsewhereTable.AdmitsReference c.1 := by
    rintro c hc
    obtain rfl : (⟨reorderIdColumn, true⟩, 2) = c := Option.some.inj hc
    exact ⟨fun _ => by decide, fun _ _ => by decide⟩
  have led : elsewhereQuery.Led elsewhereTable := fun none => nomatch none
  refine ⟨admits, led, fun options => ?_⟩
  exact (select_references admits (.ofList [("elsewhere", itemRows)]) options).1
    (by rintro o ho; obtain rfl := Option.some.inj ho; rfl)
    (by rintro r hr; obtain rfl := Option.some.inj hr; rfl)

def postsTable : TableName := ⟨"posts".toList, by decide, by decide⟩

/-- Posts in groups of their authors, with the table in front of the column or not. -/
def authorsQuery (qualified : Bool) : TableQuery where
  condition := none
  orderBy := none
  limit := none
  groupBy := some ⟨userIdColumn, qualified⟩

def juneOptions : Options := { today := ⟨2024, 6, 1⟩ }

theorem TableQuery.length_select_authorsQuery (qualified : Bool) :
    (select (String.ofList ((authorsQuery qualified).text postsTable)) Dataset.sample
      juneOptions).toOption.map (·.rows.length) =
        some (Group.ofRows (if qualified then "posts" else "user_id") Dataset.posts).length := by
  have column : String.ofList ((⟨userIdColumn, qualified⟩ : Reference).firstWord postsTable) =
      if qualified then "posts" else "user_id" := by
    cases qualified <;> exact String.ofList_toList
  have led : (authorsQuery qualified).Led postsTable := by
    intro _
    cases qualified <;> decide
  have noCondition : ∀ c ∈ (authorsQuery qualified).condition, postsTable.AdmitsReference c.1 :=
    fun _ hc => nomatch hc
  have fetched : ((authorsQuery qualified).clauses postsTable).fetch Dataset.sample =
      .ok ("posts", Dataset.posts) := rfl
  have answer : ((authorsQuery qualified).clauses postsTable).run Dataset.sample juneOptions = _ :=
    Clauses.run_eq_ok fetched rfl rfl
  rw [select_text led noCondition, answer, ← column]
  exact congrArg some ((List.length_map _).trans (List.length_mergeSort _))

/-- Posts have no column `posts`, so all of them are in one group. -/
theorem TableQuery.not_forall_select_references :
    ¬ ∀ (t : TableName) (q : TableQuery), (∀ r ∈ q.references, Plain r.column.text) →
      ∀ (dataset : Dataset) (rows : List Row), dataset.get? t.name = some rows → ∀ options,
        select (String.ofList (q.text t)) dataset options =
          select (String.ofList (q.bare.text t)) dataset options := by
  intro claim
  have same := claim postsTable (authorsQuery true) (by decide) Dataset.sample Dataset.posts rfl
    juneOptions
  have sizes := (length_select_authorsQuery true).symm.trans
    ((congrArg (fun r => r.toOption.map (·.rows.length)) same).trans
      (length_select_authorsQuery false))
  revert sizes
  decide +kernel

end SqlTutor.Query

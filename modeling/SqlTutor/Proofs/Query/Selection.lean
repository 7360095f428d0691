import SqlTutor.Proofs.Query.Conjunction
import SqlTutor.Proofs.Query.Canonical
import SqlTutor.Proofs.Text.Endings
import SqlTutor.Proofs.Text.Framing

/-!
Queries that select whole rows of one table by a condition. Names may hold keywords, which count
where a name ends: a table that ends in WHERE begins the condition too early. The search for each
other clause passes over the table and over the first column of the condition, and the condition is
found as it was written, provided that no keyword of another clause stands behind white space in it.
-/
namespace SqlTutor.Query

open Text

section Plain

variable {s key : List Char}

theorem Plain.not_beginsWith (h : Plain s) (hkey : key ∈ clauseWords) : ¬ BeginsWith key s :=
  fun begins => h key hkey begins.isInfix

theorem Plain.not_endsIn (h : Plain s) (hkey : key ∈ clauseWords) : ¬ EndsIn key s :=
  fun ends => h key hkey ends.isInfix

end Plain

theorem opened_readFrom? : Opened "from".toList readFrom? :=
  opened_of_bind (by decide) fun _ => rfl

theorem opened_readJoin? : Opened "join".toList readJoin? :=
  opened_of_bind (by decide) fun _ => rfl

theorem opened_readOrderBy? : Opened "order".toList readOrderBy? :=
  opened_of_bind (by decide) fun _ => rfl

theorem opened_readGroupBy? : Opened "group".toList readGroupBy? :=
  opened_of_bind (by decide) fun _ => rfl

theorem opened_readLimit? : Opened "limit".toList readLimit? :=
  opened_of_bind (by decide) fun _ => rfl

theorem opened_condition : Opened "where".toList conditionPlace.read? :=
  conditionPlace.opened_read? (by decide)

/-- Whether a direction is `desc` is decided in front of the next foreign character. -/
theorem isDesc_append_cons {c : Char} (hc : Foreign "desc".toList c) (s t : List Char) :
    ((keyword? "desc".toList (s ++ c :: t)).isSome ∧
        lowerAscii ((s ++ c :: t).take 4) = "desc".toList) ↔
      ((keyword? "desc".toList s).isSome ∧ lowerAscii (s.take 4) = "desc".toList) := by
  rw [keyword?_append_cons hc, Option.isSome_map]
  refine and_congr_right fun found => ?_
  obtain ⟨q, hq⟩ := Option.isSome_iff_exists.mp found
  have long : 4 ≤ s.length := (keyword?_eq_some hq).2
  rw [List.take_append_of_le_length long]

/-- The name of a table: small letters of ASCII, digits and the underscore. -/
structure TableName where
  text : List Char
  ne_nil : text ≠ []
  chars : ∀ c ∈ text, isNameChar c ∧ c.isUpper = false

namespace TableName

def name (t : TableName) : String := String.ofList t.text

theorem solid (t : TableName) : Solid t.text :=
  ⟨t.ne_nil, fun c hc => isBlank_eq_false (isWordChar_of_isNameChar (t.chars c hc).1)⟩

theorem word?_append (t : TableName) {s : List Char} (hs : Stops isWordChar s) :
    word? (t.text ++ s) = some (t.text, s) :=
  run?_append t.ne_nil (fun c hc => isWordChar_of_isNameChar (t.chars c hc).1) hs

theorem lowerText_text (t : TableName) : lowerText t.text = t.name := by
  rw [lowerText, lower_eq_lowerAscii fun c hc => toNat_lt_of_isNameChar (t.chars c hc).1,
    lowerAscii_eq_self fun c hc => (t.chars c hc).2, name]

end TableName

/-- The text asks for all columns of the rows that meet a condition. -/
def selectWhere (t : TableName) (condition : List Char) : List Char :=
  "SELECT * FROM ".toList ++ (t.text ++ (" WHERE ".toList ++ condition))

/-- What is read in front of the condition: if the table ends in WHERE, the condition begins
behind it. -/
def TableName.lead (t : TableName) : List Char :=
  if EndsIn "where".toList t.text then "WHERE ".toList else []

/-- No clause but the condition is found in the text. -/
structure Clauseless (s : List Char) : Prop where
  join : joinClause? s = none
  orderBy : orderBy? s = none
  limit : limit? s = none
  groupBy : groupBy? s = none

theorem selectWhere_eq (t : TableName) (condition : List Char) :
    selectWhere t condition = "SELECT *".toList ++ ' ' :: ("FROM".toList ++ ' ' ::
      (t.text ++ ' ' :: ("WHERE".toList ++ ' ' :: condition))) := rfl

theorem tidy_selectWhere (t : TableName) {condition : List Char} (h : Tidy condition) :
    Tidy (selectWhere t condition) := by
  have star : Tidy "SELECT *".toList := ⟨by decide, by decide +kernel⟩
  have fromWord : Tidy "FROM".toList := tidy_of_solid (by decide)
  have whereWord : Tidy "WHERE".toList := tidy_of_solid (by decide)
  rw [selectWhere_eq]
  exact star.append_space
    (fromWord.append_space ((tidy_of_solid t.solid).append_space (whereWord.append_space h)))

section Search

variable {α : Type} {key : List Char} {read : List Char → Option α}

theorem lacks_star {key : List Char} (hkey : key ∈ clauseWords) :
    Lacks key "SELECT *".toList := (by decide : Plain "SELECT *".toList).lacks hkey

/-- The column of a comparison is passed over. -/
theorem findFirst?_comparison (h : Opened key read) (hkey : key ∈ clauseWords) (c : Column)
    {more : List Char} (hread : read (key ++ ' ' :: '=' :: more) = none) :
    findFirst? read (c.text ++ ' ' :: '=' :: more) = findFirst? read more := by
  have equals : Foreign key '=' := foreign_of_not_isLower (isKeyword_of_mem hkey).1 (by decide)
  rw [findFirst?_solid_space h (isKeyword_of_mem hkey).2 c.solid.2 hread,
    findFirst?_cons_of_foreign h.toLedBy equals]

/-- Other clauses are looked for behind the first column of the condition. -/
theorem findFirst?_selectWhere (h : Opened key read)
    (hkey : key ∈ ["join".toList, "order".toList, "group".toList, "limit".toList])
    (t : TableName) (c : Column) {more : List Char}
    (hwhere : read (key ++ ' ' :: ("WHERE".toList ++ ' ' :: (c.text ++ ' ' :: '=' :: more))) = none)
    (hequals : read (key ++ ' ' :: '=' :: more) = none) :
    findFirst? read (selectWhere t (c.text ++ ' ' :: '=' :: more)) = findFirst? read more := by
  have others : ∀ key ∈ ["join".toList, "order".toList, "group".toList, "limit".toList],
      key ∈ clauseWords ∧ ¬ key <:+: lowerAscii "FROM".toList ∧
        ¬ key <:+: lowerAscii "WHERE".toList := by decide
  obtain ⟨hmem, lacksFrom, lacksWhere⟩ := others key hkey
  have plain := (isKeyword_of_mem hmem).2
  rw [selectWhere_eq, findFirst?_lacks_space h.toLedBy (lacks_star hmem),
    findFirst?_lacks_space h.toLedBy (lacks_of_not_isInfix plain lacksFrom),
    findFirst?_solid_space h plain t.solid.2 hwhere,
    findFirst?_lacks_space h.toLedBy (lacks_of_not_isInfix plain lacksWhere),
    findFirst?_comparison h hmem c hequals]

end Search

/-- A join needs white space behind ON and then a column with a table in front of it. -/
theorem readJoin?_eq_none {table w t : List Char} (htable : table ≠ [])
    (hword : ∀ c ∈ table, isWordChar c) (hw : Solid w) (ht : Apart "on".toList t)
    (hcolumn : (blanks? t).bind readColumn? = none) :
    readJoin? ("join".toList ++ ' ' :: (table ++ ' ' :: (w ++ t))) = none := by
  have joinWord : ∀ s, keyword? "join".toList ("join".toList ++ s) = some s := fun _ => rfl
  have space : isWordChar ' ' = false := rfl
  have solid : Solid table := ⟨htable, fun c hc => isBlank_eq_false (hword c hc)⟩
  have gap : ∀ s, blanks? (' ' :: (table ++ s)) = some (table ++ s) :=
    fun s => blanks?_space (stops_append htable (tidy_of_solid solid).stops s)
  have read : word? (table ++ ' ' :: (w ++ t)) = some (table, ' ' :: (w ++ t)) :=
    run?_append htable hword (stops_cons space _)
  have next : blanks? (' ' :: (w ++ t)) = some (w ++ t) :=
    blanks?_space (stops_append hw.1 (tidy_of_solid hw).stops t)
  simp only [readJoin?, joinWord, gap, read, next, bind, Option.bind_some]
  cases hs : keyword? "on".toList (w ++ t) with
  | none => rfl
  | some s =>
    have behind : (blanks? s).bind readColumn? = none := by
      rcases blanks?_of_keyword? hw.2 ht hs with stuck | rfl
      · rw [stuck, Option.bind_none]
      · exact hcolumn
    rw [Option.bind_some, ← Option.bind_assoc, behind, Option.bind_none]

theorem readJoin?_where (c : Column) (more : List Char) :
    readJoin? ("join".toList ++ ' ' :: ("WHERE".toList ++ ' ' :: (c.text ++ ' ' :: '=' :: more))) =
      none :=
  readJoin?_eq_none (by decide) (by decide) c.solid (apart_space (by decide) _) rfl

theorem clauseless_selectWhere (t : TableName) (c : Column) {more : List Char}
    (h : Clauseless more) : Clauseless (selectWhere t (c.text ++ ' ' :: '=' :: more)) where
  join := by
    rw [joinClause?, findFirst?_selectWhere opened_readJoin? (by decide) t c
      (readJoin?_where c more) rfl]
    exact h.join
  orderBy := by
    rw [orderBy?, findFirst?_selectWhere opened_readOrderBy? (by decide) t c rfl rfl]
    exact h.orderBy
  limit := by
    rw [limit?, findFirst?_selectWhere opened_readLimit? (by decide) t c rfl rfl]
    exact h.limit
  groupBy := by
    rw [groupBy?, findFirst?_selectWhere opened_readGroupBy? (by decide) t c rfl rfl, ← groupBy?]
    exact h.groupBy

theorem readFrom?_table (t : TableName) {s : List Char} (hs : Stops isWordChar s) :
    readFrom? ("FROM".toList ++ ' ' :: (t.text ++ s)) = some t.text := by
  have fromWord : ∀ s, keyword? "from".toList ("FROM".toList ++ s) = some s := fun _ => rfl
  have gap := blanks?_space (stops_append t.ne_nil (tidy_of_solid t.solid).stops s)
  simp only [readFrom?, fromWord, gap, t.word?_append hs, bind, Option.bind_some, pure]

theorem fromTable?_selectWhere (t : TableName) (condition : List Char) :
    fromTable? (selectWhere t condition) = some t.name := by
  have space : isWordChar ' ' = false := rfl
  rw [fromTable?, selectWhere_eq,
    findFirst?_lacks_space opened_readFrom?.toLedBy (lacks_star (by decide)),
    findFirst?_eq_some (readFrom?_table t (stops_cons space _)), Option.map_some, t.lowerText_text]

theorem projection?_selectWhere (t : TableName) (condition : List Char) :
    projection? (selectWhere t condition) = some ⟨"*"⟩ := by
  have star : Tidy "*".toList := tidy_of_solid (by decide)
  have ends : projectionPlace.endsAt (' ' :: ("FROM".toList ++ ' ' :: (t.text ++
      (" WHERE ".toList ++ condition)))) :=
    Enclosure.endsAt_space List.mem_cons_self (by decide) (by decide) _
  have opens : projectionPlace.Open "*".toList (' ' :: ("FROM".toList ++ ' ' :: (t.text ++
      (" WHERE ".toList ++ condition)))) := by
    intro c r hr hc
    have inside := hr.subset List.mem_cons_self
    obtain rfl : c = '*' := List.mem_singleton.mp inside
    exact absurd hc (by decide)
  have selectWord : Spells "select".toList "SELECT".toList := by decide
  have read : projectionPlace.read? (selectWhere t condition) = some "*".toList :=
    Enclosure.read?_enclosed (by decide) selectWord star opens ends
  rw [projection?, Enclosure.find?_eq_findFirst?, findFirst?_eq_some read]
  rfl

/-- The condition behind a table is read as it was written, or with the word WHERE. -/
theorem findFirst?_where (t : TableName) {condition more : List Char}
    (tidy : Tidy (t.lead ++ condition)) (hopen : conditionPlace.Open (t.lead ++ condition) more)
    (ends : conditionPlace.endsAt more) :
    findFirst? conditionPlace.read?
      (t.text ++ ' ' :: ("WHERE".toList ++ ' ' :: (condition ++ more))) =
        some (t.lead ++ condition) := by
  have read : ∀ {key p}, Spells "where".toList key → Tidy p → conditionPlace.Open p more →
      conditionPlace.read? (key ++ ' ' :: (p ++ more)) = some p := fun hkey hp hopen =>
    Enclosure.read?_enclosed (by decide) hkey hp hopen ends
  rw [findFirst?_solid_append opened_condition (by decide) t.solid.2 (apart_space (by decide) _)]
  unfold TableName.lead at tidy hopen ⊢
  by_cases early : EndsIn "where".toList t.text
  · rw [if_pos early] at tidy hopen ⊢
    rw [if_pos early]
    have found := read (spells_self (by decide)) tidy hopen
    rw [show "where".toList ++ ' ' :: ("WHERE".toList ++ ' ' :: (condition ++ more)) =
      "where".toList ++ ' ' :: ("WHERE ".toList ++ condition ++ more) from rfl, found,
      Option.some_or]
  · rw [if_neg early] at tidy hopen ⊢
    rw [if_neg early, Option.none_or, List.nil_append]
    exact findFirst?_of_read opened_condition.toLedBy (read (by decide) tidy hopen)

theorem condition?_selectWhere (t : TableName) {condition : List Char}
    (tidy : Tidy (t.lead ++ condition)) (hopen : conditionPlace.Open (t.lead ++ condition) []) :
    condition? (selectWhere t condition) = some (String.ofList (t.lead ++ condition)) := by
  have behind := findFirst?_where t tidy hopen rfl
  rw [List.append_nil] at behind
  rw [condition?, Enclosure.find?_eq_findFirst?, selectWhere_eq,
    findFirst?_lacks_space opened_condition.toLedBy (lacks_star (by decide)),
    findFirst?_lacks_space opened_condition.toLedBy
      (lacks_of_not_isInfix (by decide) (by decide)), behind, Option.map_some,
    trim_eq_self tidy.stops tidy.last]

end SqlTutor.Query

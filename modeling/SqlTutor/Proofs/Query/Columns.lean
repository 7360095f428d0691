import SqlTutor.Proofs.Query.Filtering
import SqlTutor.Proofs.Query.Items

/-!
Queries for a list of columns. FROM is looked for twice, once to find the table and once to find
where the list ends, and both times within names as well: a last column that ends in FROM would give
the table, and a later column that begins with FROM would end the list. Apart from these, a list is
read as it is written, and each row keeps those of the columns that it has.
-/
namespace SqlTutor.Query

open Text

/-- The text asks for the columns of all rows of the table. -/
def selectColumns (names : List Column) (t : TableName) : List Char :=
  "SELECT ".toList ++ (columnList names ++ (" FROM ".toList ++ t.text))

/-- The words of the list: each name but the last has a comma behind it. -/
def listWords (front : List Column) (last : Column) : List (List Char) :=
  front.map (fun c => c.text ++ [',']) ++ [last.text]

section List

variable (front : List Column) (last : Column)

theorem cons_columnList : ' ' :: columnList (front ++ [last]) = spread (listWords front last) := by
  induction front with
  | nil =>
    rw [List.nil_append, columnList, List.map_singleton, List.intercalate_singleton, listWords,
      List.map_nil, List.nil_append, spread_cons, spread_nil, List.append_nil]
  | cons c front ih =>
    have rest : front ++ [last] ≠ [] := List.append_ne_nil_of_right_ne_nil _ (List.cons_ne_nil _ _)
    have words : listWords (c :: front) last = (c.text ++ [',']) :: listWords front last := rfl
    rw [words, spread_cons, ← ih, List.cons_append, columnList_cons c rest, List.append_assoc]
    rfl

theorem spread_from (t : TableName) :
    spread ["FROM".toList, t.text] = ' ' :: ("FROM".toList ++ ' ' :: t.text) := by
  rw [spread_cons, spread_cons, spread_nil, List.append_nil]

theorem selectColumns_eq (t : TableName) : selectColumns (front ++ [last]) t =
    "SELECT".toList ++ spread (listWords front last ++ ["FROM".toList, t.text]) := by
  rw [spread_append, ← cons_columnList, spread_from]
  rfl

theorem solid_listWords : ∀ w ∈ listWords front last, Solid w := by
  intro w hw
  rcases List.mem_append.mp hw with inside | ends
  · obtain ⟨c, -, rfl⟩ := List.mem_map.mp inside
    exact c.solid.append (by decide)
  · rw [List.mem_singleton.mp ends]
    exact last.solid

theorem tidy_selectColumns (t : TableName) : Tidy (selectColumns (front ++ [last]) t) := by
  have selectWord : Solid "SELECT".toList := by decide
  have fromWord : Solid "FROM".toList := by decide
  rw [selectColumns_eq]
  refine tidy_append_spread selectWord fun w hw => ?_
  rcases List.mem_append.mp hw with inside | behind
  · exact solid_listWords front last w inside
  · simp only [List.mem_cons, List.not_mem_nil, or_false] at behind
    rcases behind with rfl | rfl
    · exact fromWord
    · exact t.solid

/-- Each name but the last ends in a comma, and so in no keyword. -/
theorem not_endsIn_front {key : List Char} (hkey : IsKeyword key) :
    ∀ w ∈ front.map (fun c => c.text ++ [',']), ¬ EndsIn key w := by
  intro w hw
  obtain ⟨c, -, rfl⟩ := List.mem_map.mp hw
  exact not_endsIn_concat hkey (by decide) c.text

end List

section Search

variable {α : Type} {key : List Char} {read : List Char → Option α}

/-- The search passes over the list up to its last name. -/
theorem findFirst?_selectColumns (h : Opened key read) (hkey : key ∈ clauseWords)
    (front : List Column) (last : Column) (t : TableName) :
    findFirst? read (selectColumns (front ++ [last]) t) =
      (if EndsIn key last.text then read (key ++ spread ["FROM".toList, t.text]) else none).or
        (findFirst? read (spread ["FROM".toList, t.text])) := by
  have selectWord : Lacks key "SELECT".toList := (by decide : Plain "SELECT".toList).lacks hkey
  have names : ∀ w ∈ front.map (fun c => c.text ++ [',']),
      (∀ c ∈ w, isBlank c = false) ∧ ¬ EndsIn key w := fun w hw =>
    ⟨(solid_listWords front last w (List.mem_append_left _ hw)).2,
      not_endsIn_front front h.isKeyword w hw⟩
  rw [selectColumns_eq, findFirst?_append h.toLedBy selectWord (apart_spread h.isKeyword _),
    listWords, List.append_assoc, findFirst?_spread_solid h (isKeyword_of_mem hkey).2 names,
    List.singleton_append, spread_cons,
    findFirst?_cons_of_foreign h.toLedBy (foreign_blank h.isKeyword rfl),
    findFirst?_solid_append h (isKeyword_of_mem hkey).2 last.solid.2 (apart_spread h.isKeyword _)]

/-- Behind the list only the table is left. -/
theorem findFirst?_spread_from (h : Opened key read) (hkey : key ∈ clauseWords)
    (hfrom : key ≠ "from".toList) (t : TableName) :
    findFirst? read (spread ["FROM".toList, t.text]) = none := by
  have fromWord : Lacks key "FROM".toList := lacks_spelling hkey (by decide) (by decide) hfrom
  rw [spread_from, findFirst?_cons_of_foreign h.toLedBy (foreign_blank h.isKeyword rfl),
    findFirst?_lacks_space h.toLedBy fromWord,
    findFirst?_solid h (isKeyword_of_mem hkey).2 t.solid.2]

theorem findFirst?_selectColumns_eq_none (h : Opened key read) (hkey : key ∈ clauseWords)
    (hfrom : key ≠ "from".toList) (front : List Column) (last : Column) (t : TableName)
    (hread : read (key ++ spread ["FROM".toList, t.text]) = none) :
    findFirst? read (selectColumns (front ++ [last]) t) = none := by
  rw [findFirst?_selectColumns h hkey, hread, ite_self, Option.none_or,
    findFirst?_spread_from h hkey hfrom]

end Search

section Found

variable (front : List Column) (last : Column) (t : TableName)

theorem clauseless_selectColumns : Clauseless (selectColumns (front ++ [last]) t) where
  join := by
    have read : readJoin? ("join".toList ++ spread ["FROM".toList, t.text]) = none := by
      have fromChars : "FROM".toList ≠ [] ∧ ∀ c ∈ "FROM".toList, isWordChar c := by decide
      have nothing := readJoin?_eq_none fromChars.1 fromChars.2 t.solid (t := []) (by simp [Apart])
        rfl
      rwa [List.append_nil, ← spread_from] at nothing
    exact findFirst?_selectColumns_eq_none opened_readJoin? (by decide) (by decide) _ _ _ read
  orderBy :=
    findFirst?_selectColumns_eq_none opened_readOrderBy? (by decide) (by decide) _ _ _ rfl
  limit := findFirst?_selectColumns_eq_none opened_readLimit? (by decide) (by decide) _ _ _ rfl
  groupBy := by
    rw [groupBy?, findFirst?_selectColumns_eq_none opened_readGroupBy? (by decide) (by decide) _ _ _
      rfl]
    rfl

theorem fromTable?_selectColumns (hlast : ¬ EndsIn "from".toList last.text) :
    fromTable? (selectColumns (front ++ [last]) t) = some t.name := by
  have read := readFrom?_table t (s := []) (by simp [Stops])
  rw [List.append_nil] at read
  rw [fromTable?, findFirst?_selectColumns opened_readFrom? (by decide), if_neg hlast,
    Option.none_or, spread_from, findFirst?_of_read opened_readFrom?.toLedBy read, Option.map_some,
    t.lowerText_text]

/-- A list is its first word and the others behind it. -/
theorem exists_columnList_eq : ∃ w rest, listWords front last = w :: rest ∧
    columnList (front ++ [last]) = w ++ spread rest := by
  have some : listWords front last ≠ [] :=
    List.append_ne_nil_of_right_ne_nil _ (List.cons_ne_nil _ _)
  obtain ⟨w, rest, cut⟩ := List.exists_cons_of_ne_nil some
  have spaced := cons_columnList front last
  rw [cut, spread_cons] at spaced
  exact ⟨w, rest, cut, (List.cons.inj spaced).2⟩

/-- The later words of the list are the later names, possibly with a comma. -/
theorem exists_of_mem_tail {w : List Char} (hw : w ∈ (listWords front last).tail) :
    ∃ c ∈ (front ++ [last]).tail, w = c.text ∨ w = c.text ++ [','] := by
  cases front with
  | nil => exact absurd hw List.not_mem_nil
  | cons d front =>
    rcases List.mem_append.mp hw with inside | ends
    · obtain ⟨c, hc, rfl⟩ := List.mem_map.mp inside
      exact ⟨c, List.mem_append_left _ hc, Or.inr rfl⟩
    · exact ⟨last, List.mem_append_right _ List.mem_cons_self, Or.inl (List.mem_singleton.mp ends)⟩

theorem projection?_selectColumns
    (later : ∀ c ∈ (front ++ [last]).tail, ¬ BeginsWith "from".toList c.text) :
    projection? (selectColumns (front ++ [last]) t) =
      some ⟨String.ofList (columnList (front ++ [last]))⟩ := by
  have keys : ∀ key ∈ projectionPlace.closing, IsKeyword key ∧ 's' ∉ key ∧ 'k' ∉ key := by decide
  obtain ⟨w, rest, cut, text⟩ := exists_columnList_eq front last
  have solid : ∀ v ∈ w :: rest, Solid v := cut ▸ solid_listWords front last
  have tidy : Tidy (columnList (front ++ [last])) := by
    rw [text]
    exact tidy_append_spread (solid w List.mem_cons_self) fun v hv =>
      solid v (List.mem_cons_of_mem w hv)
  have stays : ∀ v ∈ rest, ∀ key ∈ projectionPlace.closing, ¬ BeginsWith key v := by
    intro v hv key hkey begins
    obtain rfl : key = "from".toList := List.mem_singleton.mp hkey
    obtain ⟨c, hc, rfl | rfl⟩ := exists_of_mem_tail front last (w := v) (by rwa [cut])
    · exact later c hc begins
    · exact later c hc (begins.of_append_cons (by decide) (by decide))
  have opens : projectionPlace.Open (columnList (front ++ [last])) (" FROM ".toList ++ t.text) := by
    rw [text]
    refine Enclosure.Open.solid_append (Enclosure.open_spread keys (fun v hv => ?_)
      fun key hkey => ?_) (solid w List.mem_cons_self).2
    · exact ⟨(solid v (List.mem_cons_of_mem w hv)).2, stays v hv⟩
    · exact apart_space (keys key hkey).1 _
  have ends : projectionPlace.endsAt (" FROM ".toList ++ t.text) :=
    Enclosure.endsAt_space (w := "FROM".toList) List.mem_cons_self (by decide) (by decide) _
  have read : projectionPlace.read? (selectColumns (front ++ [last]) t) =
      some (columnList (front ++ [last])) :=
    Enclosure.read?_enclosed (k := "SELECT".toList) (by decide) (by decide) tidy opens ends
  rw [projection?, Enclosure.find?_eq_findFirst?, findFirst?_eq_some read, Option.map_some,
    trim_eq_self tidy.stops tidy.last]

end Found

namespace Predicate

theorem ofText?_eq_none {s : List Char} (h : ∀ read ∈ forms, findFirst? read s = none) :
    ofText? s = none := by
  rw [ofText?_eq_findSome?]
  exact List.findSome?_eq_none_iff.mpr h

theorem findFirst?_word {read : List Char → Option Predicate} (hread : read ∈ forms)
    {w : List Char} (hw : ∀ c ∈ w, isWordChar c) : findFirst? read w = none := by
  have ends : ∀ read ∈ forms, read ['c'] = none := by decide
  have skip := findFirst?_word_append (t := []) (takesWord hread) (by simp [Stops])
    (ends read hread) hw
  rw [List.append_nil] at skip
  rw [skip, findFirst?_nil (takesWord hread)]

/-- Two words are no condition: a keyword in the second one has nothing behind it. -/
theorem read_word_word (c : Column) : ∀ read ∈ forms, read ('c' :: ' ' :: c.text) = none := by
  have column : ∀ symbol ∈ [['='], ['!', '='], ['>'], ['<'], ['>', '=']],
      readColumn? symbol ('c' :: ' ' :: c.text) = none := by
    intro symbol hsymbol
    have heads : ∀ symbol ∈ [['='], ['!', '='], ['>'], ['<'], ['>', '=']],
        symbol ≠ [] ∧ ∀ q ∈ symbol.head?, isWordChar q = false := by decide
    have nothing := readColumn?_word_word (heads symbol hsymbol).1 (heads symbol hsymbol).2 c []
    rwa [List.append_nil] at nothing
  have word : word? ('c' :: ' ' :: c.text) = some (['c'], ' ' :: c.text) :=
    run?_append (List.cons_ne_nil 'c' []) (by decide) (stops_cons rfl _)
  have gap : blanks? (' ' :: c.text) = some c.text := blanks?_space (tidy_of_solid c.solid).stops
  have stuck : ∀ key, (keyword? key c.text).bind blanks? = none := by
    intro key
    cases h : keyword? key c.text with
    | none => rfl
    | some r =>
      have behind := blanks?_of_keyword? (t := []) c.solid.2 (by simp [Apart])
        (by rwa [List.append_nil])
      rcases behind with none | rfl
      · exact none
      · rfl
  intro read hread
  simp only [forms, List.mem_cons, List.not_mem_nil, or_false] at hread
  rcases hread with rfl | rfl | rfl | rfl | rfl | rfl | rfl | rfl | rfl | rfl
  · simp only [readTextEq?, column ['='] (by decide), bind, Option.bind_none]
  · simp only [readNumberEq?, column ['='] (by decide), bind, Option.bind_none]
  · simp only [readTextNe?, column ['!', '='] (by decide), bind, Option.bind_none]
  · simp only [readCompare?, CompareOp.symbol, column ['>'] (by decide), bind, Option.bind_none]
  · simp only [readCompare?, CompareOp.symbol, column ['<'] (by decide), bind, Option.bind_none]
  · simp only [readCompare?, CompareOp.symbol, column ['>', '='] (by decide), bind,
      Option.bind_none]
  · simp only [readContains?, word, gap, bind, Option.bind_some]
    rw [← Option.bind_assoc, stuck, Option.bind_none]
  · simp only [readIsNull?, word, gap, bind, Option.bind_some]
    rw [← Option.bind_assoc, stuck, Option.bind_none]
  · simp only [readIsNotNull?, word, gap, bind, Option.bind_some]
    rw [← Option.bind_assoc, stuck, Option.bind_none]
  · simp only [readBoolEq?, column ['='] (by decide), bind, Option.bind_none]

theorem ofText?_word_word (w c : Column) : ofText? (w.text ++ ' ' :: c.text) = none := by
  refine ofText?_eq_none fun read hread => ?_
  have space : Stops isWordChar (' ' :: c.text) := stops_cons rfl _
  have gap : ∀ d ∈ [' '], isWordChar d = false := by decide
  have fails := read_word_word c read hread
  have rest : findFirst? read ([' '] ++ c.text) = none := by
    rw [findFirst?_nonword_append (takesWord hread) gap, findFirst?_word hread c.chars]
  rw [findFirst?_word_append (takesWord hread) space fails w.chars]
  exact rest

end Predicate

/-- A text of two words has no place for a separator. -/
theorem clear_word_word (key : List Char) (w c : Column) :
    Clear key (w.text ++ ' ' :: c.text) := by
  intro a word d ha _ hd found
  have none : ∀ u : Column, u.text.countP isBlank = 0 := by
    intro u
    rw [List.countP_eq_zero]
    intro b hb
    rw [u.solid.2 b hb]
    exact Bool.false_ne_true
  have blank : isBlank ' ' := rfl
  have one : (w.text ++ ' ' :: c.text).countP isBlank = 1 := by
    rw [List.countP_append, List.countP_cons_of_pos blank, none w, none c]
  have two : 2 ≤ (a :: (word ++ [d])).countP isBlank := by
    rw [List.countP_cons_of_pos ha, List.countP_append, List.countP_singleton, if_pos hd]
    omega
  have fewer := found.sublist.countP_le (p := isBlank)
  omega

/-- A condition that is one unknown part passes every row. -/
theorem holds_of_unrecognized {s : List Char} (tidy : Tidy s) (clear : Clear "and".toList s)
    (unknown : Predicate.ofText? s = none) (row : Row) : (Condition.ofText s).holds row := by
  have one : Condition.partTexts s = [s] := by
    rw [Condition.partTexts, splitOnWord_of_clear (by decide) clear, List.map_singleton,
      trim_eq_self tidy.stops tidy.last]
  rw [Condition.ofText, one, List.map_singleton, unknown]
  rfl

def fromWord : Column := ⟨"FROM".toList, by decide, by decide⟩

section Condition

variable {last : Column} (front : List Column) (t : TableName)

theorem condition?_selectColumns_of_not_endsIn (h : ¬ EndsIn "where".toList last.text) :
    condition? (selectColumns (front ++ [last]) t) = none := by
  rw [condition?, Enclosure.find?_eq_findFirst?, findFirst?_selectColumns opened_condition
    (by decide), if_neg h, Option.none_or, findFirst?_spread_from opened_condition (by decide)
    (by decide)]
  rfl

/-- A last name that ends in WHERE makes the word FROM a condition, with the table behind it unless
the table begins with the keyword of another clause. -/
theorem exists_condition?_selectColumns (h : EndsIn "where".toList last.text) :
    ∃ p, condition? (selectColumns (front ++ [last]) t) = some (String.ofList p) ∧
      ∀ row, (Condition.ofText p).holds row := by
  have keys : ∀ key ∈ conditionPlace.closing, IsKeyword key ∧ 's' ∉ key ∧ 'k' ∉ key := by decide
  have found : ∀ {p s}, Tidy p → conditionPlace.Open p s → conditionPlace.endsAt s →
      "FROM".toList ++ ' ' :: t.text = p ++ s →
        condition? (selectColumns (front ++ [last]) t) = some (String.ofList p) := by
    intro p s tidy opens ends text
    have read := Enclosure.read?_enclosed (k := "where".toList) (by decide) (by decide) tidy opens
      ends
    rw [condition?, Enclosure.find?_eq_findFirst?, findFirst?_selectColumns opened_condition
      (by decide), if_pos h, spread_from, text, read, Option.some_or, Option.map_some,
      trim_eq_self tidy.stops tidy.last]
  have fromTidy : Tidy "FROM".toList := tidy_of_solid (by decide)
  by_cases begins : ∃ key ∈ conditionPlace.closing, BeginsWith key t.text
  · obtain ⟨key, hkey, begins⟩ := begins
    have closed := closesAt_of_beginsWith (fun key hkey => (keys key hkey).1) hkey begins
    have ends : conditionPlace.endsAt (' ' :: t.text) := by
      simp [Enclosure.endsAt, Enclosure.gapAt, closed, show isBlank ' ' from rfl]
    have opens := conditionPlace.open_solid fromWord.solid.2 (' ' :: t.text)
    have unknown := Predicate.ofText?_eq_none fun read hread =>
      Predicate.findFirst?_word hread fromWord.chars
    exact ⟨_, found fromTidy opens ends rfl,
      holds_of_unrecognized fromTidy (clear_of_length (by decide)) unknown⟩
  · have stays : ∀ key ∈ conditionPlace.closing, ¬ BeginsWith key t.text :=
      fun key hkey begins' => begins ⟨key, hkey, begins'⟩
    have closed : conditionPlace.closesAt (t.text ++ []) = false :=
      closesAt_append keys stays (by simp [Apart])
    have opens : conditionPlace.Open ("FROM".toList ++ ' ' :: t.text) [] :=
      (conditionPlace.open_solid t.solid.2 []).solid_space (by decide) closed
    have tidy := fromTidy.append_space (tidy_of_solid t.solid)
    exact ⟨_, found tidy opens rfl (List.append_nil _).symm, holds_of_unrecognized tidy
      (clear_word_word _ fromWord t.column) (Predicate.ofText?_word_word fromWord t.column)⟩

/-- No row is lost to a condition. -/
theorem filtered_selectColumns {strict : Bool} (h : strict → ¬ EndsIn "where".toList last.text)
    (rows : List Row) :
    (Clauses.ofText (selectColumns (front ++ [last]) t)).filtered strict rows = .ok rows := by
  by_cases ends : EndsIn "where".toList last.text
  · obtain rfl : strict = false := by
      by_contra on
      exact h ((Bool.not_eq_false strict).mp on) ends
    obtain ⟨p, condition, passes⟩ := exists_condition?_selectColumns front t ends
    have all : (Condition.ofText p).filter rows = rows :=
      List.filter_eq_self.mpr fun row _ => passes row
    simp only [Clauses.filtered, Clauses.ofText, condition, String.toList_ofList,
      Condition.read_false, Except.map, all]
  · have absent := condition?_selectColumns_of_not_endsIn front t ends
    simp only [Clauses.filtered, Clauses.ofText, absent]

end Condition

/-- Each row of the table is in the answer with those of the columns that it has, in the order in
which they are listed. -/
theorem select_selectColumns (front : List Column) (last : Column) (t : TableName)
    (ascii : ∀ c ∈ front ++ [last], ∀ a ∈ c.text, isNameChar a)
    (nodup : ((front ++ [last]).map Column.text).Nodup)
    (hlast : ¬ EndsIn "from".toList last.text)
    (later : ∀ c ∈ (front ++ [last]).tail, ¬ BeginsWith "from".toList c.text) {options : Options}
    (hstrict : options.strict → ¬ EndsIn "where".toList last.text) {dataset : Dataset}
    {rows : List Row} (hrows : dataset.get? t.name = some rows) :
    ∃ results, select (String.ofList (selectColumns (front ++ [last]) t)) dataset options =
        .ok (.ofRows results) ∧
      results.map (·.entries) = rows.map fun row => (front ++ [last]).filterMap fun c =>
        (row.get? (String.ofList c.text)).map (String.ofList c.text, ·) := by
  have nonempty : front ++ [last] ≠ [] :=
    List.append_ne_nil_of_right_ne_nil _ (List.cons_ne_nil _ _)
  have others := clauseless_selectColumns front last t
  have table := fromTable?_selectColumns front last t hlast
  have list := projection?_selectColumns front last t later
  have uncounted := hasCountStar_columnList ascii
  have chosen := isWildcard_columnList nonempty
  have fetched : (Clauses.ofText (selectColumns (front ++ [last]) t)).fetch dataset =
      .ok (t.name, rows) := by
    simp only [Clauses.fetch, Clauses.ofText, table, hrows]
  have joined : (Clauses.ofText (selectColumns (front ++ [last]) t)).joined dataset t.name rows =
      .ok rows := by
    simp only [Clauses.joined, Clauses.ofText, others.join]
  have ran := Clauses.run_eq_ok fetched joined (filtered_selectColumns front t hstrict rows)
  refine ⟨rows.map (Projection.row (Projection.items
    ⟨String.ofList (columnList (front ++ [last]))⟩)), ?_, ?_⟩
  · rw [select, String.toList_ofList, (tidy_selectColumns front last t).collapse_eq, ran]
    simp only [Clauses.sorted, Clauses.limited, Clauses.grouped, Clauses.results,
      Clauses.countsAll, Clauses.projected, Clauses.ofText, others.orderBy, others.limit,
      others.groupBy, list, uncounted, chosen, Option.any_some, Bool.and_false,
      Bool.false_eq_true, if_false]
  · rw [List.map_map]
    exact List.map_congr_left fun row _ => entries_row_columnList nonempty ascii nodup row

def pricesTable : TableName := ⟨"prices".toList, by decide, by decide⟩

def fromDateColumn : Column := ⟨"from_date".toList, by decide, by decide⟩

def validFromColumn : Column := ⟨"valid_from".toList, by decide, by decide⟩

def priceLimitColumn : Column := ⟨"price_limit".toList, by decide, by decide⟩

def priceRows : List Row :=
  [.ofList [("price_limit", .int 20), ("valid_from", .text "2024-02-01"), ("id", .int 1),
     ("from_date", .text "2024-01-01")],
   .ofList [("id", .int 2), ("price_limit", .null)]]

/-- The first name may begin with FROM, and names with a comma behind them may end in it. -/
theorem select_selectColumns_prices :
    ∃ results, select "SELECT from_date, valid_from, price_limit FROM prices"
        (.ofList [("prices", priceRows)]) { today := ⟨2024, 6, 1⟩ } = .ok (.ofRows results) ∧
      results.map (·.entries) =
        [[("from_date", .text "2024-01-01"), ("valid_from", .text "2024-02-01"),
          ("price_limit", .int 20)], [("price_limit", .null)]] := by
  have kept : (priceRows.map fun row =>
      [fromDateColumn, validFromColumn, priceLimitColumn].filterMap fun c =>
        (row.get? (String.ofList c.text)).map (String.ofList c.text, ·)) =
      [[("from_date", .text "2024-01-01"), ("valid_from", .text "2024-02-01"),
        ("price_limit", .int 20)], [("price_limit", .null)]] := by decide
  rw [← kept]
  exact select_selectColumns [fromDateColumn, validFromColumn] priceLimitColumn pricesTable
    (by decide) (by decide) (by decide) (by decide) (fun strict => absurd strict (by decide)) rfl

/-- The list ends in front of a later column whose name begins with FROM. -/
theorem not_forall_select_selectColumns :
    ¬ ∀ (front : List Column) (last : Column) (t : TableName),
      (∀ c ∈ front ++ [last], (∀ a ∈ c.text, isNameChar a) ∧
        ∀ key ∈ ["from".toList, "as".toList, "select".toList], ¬ Spells key c.text) →
      ((front ++ [last]).map Column.text).Nodup →
      ∀ (dataset : Dataset) (rows : List Row), dataset.get? t.name = some rows → ∀ options,
        ∃ results, select (String.ofList (selectColumns (front ++ [last]) t)) dataset options =
            .ok (.ofRows results) ∧
          results.map (·.entries) = rows.map fun row => (front ++ [last]).filterMap fun c =>
            (row.get? (String.ofList c.text)).map (String.ofList c.text, ·) := by
  intro claim
  obtain ⟨results, selected, kept⟩ := claim [⟨"id".toList, by decide, by decide⟩] fromDateColumn
    pricesTable (by decide) (by decide) (.ofList [("prices", priceRows)]) priceRows rfl
    { today := ⟨2024, 6, 1⟩ }
  have found : select "SELECT id, from_date FROM prices" (.ofList [("prices", priceRows)])
      { today := ⟨2024, 6, 1⟩ } =
        .ok (.ofRows [.ofList [("id", .int 1)], .ofList [("id", .int 2)]]) := by decide +kernel
  have same : ResultSet.ofRows results =
      .ofRows [.ofList [("id", .int 1)], .ofList [("id", .int 2)]] :=
    Except.ok.inj (selected.symm.trans found)
  rw [show results = [.ofList [("id", .int 1)], .ofList [("id", .int 2)]] from
    congrArg ResultSet.rows same] at kept
  revert kept
  decide

end SqlTutor.Query

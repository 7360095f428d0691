import SqlTutor.Proofs.Query.Columns
import SqlTutor.Proofs.Query.Formless
import SqlTutor.Proofs.Query.Joins

/-!
Queries for all columns of two tables that are joined on one column of each. ON names its columns in
any letters, and they are looked up in small ones. Where a name ends in WHERE, what follows it is
taken for a condition; it passes every row unless it compares a name to a name that looks like a
value. The answer has one row for each pair of rows that are equal in the two columns in small
letters, pairs with the same left row standing together.
-/
namespace SqlTutor.Query

open Text

/-- A text that is taken up to a place where it may stop ends there at the latest. -/
theorem prefix_of_textBefore? {stop : List Char → Bool} {u t p : List Char}
    (h : textBefore? stop (u ++ t) = some p) (hu : u ≠ []) (ht : stop t) : p <+: u := by
  induction u generalizing p with
  | nil => exact absurd rfl hu
  | cons c u ih =>
    rw [List.cons_append, textBefore?] at h
    split at h
    · cases h
    · split at h
      · obtain rfl := Option.some_inj.mp h
        exact List.cons_prefix_cons.mpr ⟨rfl, List.nil_prefix⟩
      · rename_i goesOn
        obtain ⟨q, hq, rfl⟩ := Option.map_eq_some_iff.mp h
        have more : u ≠ [] := by
          rintro rfl
          exact goesOn ht
        exact List.cons_prefix_cons.mpr ⟨rfl, ih hq more⟩

theorem isInfix_spread {pieces words : List (List Char)} (h : pieces <:+: words) :
    spread pieces <:+: spread words := by
  obtain ⟨before, after, rfl⟩ := h
  exact ⟨spread before, spread after, by simp only [spread_append]⟩

/-- A condition ends with the words in front of a place where it may end. -/
theorem isInfix_of_read_condition {front back : List (List Char)} {p : List Char}
    (h : conditionPlace.read? ("where".toList ++ spread (front ++ back)) = some p)
    (hfront : front ≠ []) (solid : ∀ w ∈ front, Solid w)
    (hback : conditionPlace.endsAt (spread back)) : p <:+: spread front := by
  obtain ⟨w, rest, rfl⟩ := List.exists_cons_of_ne_nil hfront
  have tidy : Tidy (w ++ spread rest) := tidy_append_spread (solid w List.mem_cons_self)
    fun v hv => solid v (List.mem_cons_of_mem w hv)
  have cut : spread (w :: rest ++ back) = ' ' :: ((w ++ spread rest) ++ spread back) := by
    rw [spread_append, spread_cons, List.cons_append]
  have opened : keyword? conditionPlace.opening
      ("where".toList ++ ' ' :: ((w ++ spread rest) ++ spread back)) =
        some (' ' :: ((w ++ spread rest) ++ spread back)) := rfl
  have stuck : afterBlanks? (textBefore? conditionPlace.endsAt)
      ((w ++ spread rest) ++ spread back) = none := by
    obtain ⟨c, u, cut⟩ := List.exists_cons_of_ne_nil tidy.ne_nil
    rw [cut, List.cons_append, afterBlanks?, tidy.stops c (by rw [cut]; rfl),
      if_neg Bool.false_ne_true]
  rw [cut, Enclosure.read?, opened, Option.bind_some, afterBlanks?,
    if_pos (by rfl : isBlank ' ' = true), stuck, Option.none_or] at h
  rw [spread_cons]
  exact (prefix_of_textBefore? h tidy.ne_nil hback).isInfix.trans (List.suffix_cons _ _).isInfix

/-- The text begins like a number or a truth value. -/
def TableName.BeginsLikeValue (t : TableName) : Prop :=
  t.text.head?.any Char.isDigit ∨ "true".toList <+: t.text ∨ "false".toList <+: t.text

instance (t : TableName) : Decidable t.BeginsLikeValue := inferInstanceAs (Decidable (_ ∨ _))

namespace TableName

variable {t : TableName}

theorem foldCase_eq_self {c : Char} (hc : c ∈ t.text) : foldCase c = c := by
  have small : c.toNat < 128 := toNat_lt_of_isNameChar (t.chars c hc).1
  have notLong : (c == '\u017f') = false := by
    rw [beq_eq_false_iff_ne]
    rintro rfl
    exact absurd small (by decide)
  have notKelvin : (c == '\u212a') = false := by
    rw [beq_eq_false_iff_ne]
    rintro rfl
    exact absurd small (by decide)
  simp only [foldCase, notLong, notKelvin, Bool.false_eq_true, if_false]
  exact toLower_eq_self (t.chars c hc).2

/-- A keyword is read off the name only if the name begins with the very letters. -/
theorem prefix_of_keyword? {key r : List Char} (h : keyword? key t.text = some r) :
    key <+: t.text := by
  obtain ⟨w, rfl, cut⟩ := keyword?_eq_some_iff.mp h
  have same : w.map foldCase = w := (List.map_congr_left fun c hc =>
    foldCase_eq_self (cut ▸ List.mem_append_left r hc)).trans (List.map_id w)
  rw [same, cut]
  exact List.prefix_append w r

end TableName

/-- All columns of two tables, joined on one column of each. -/
structure JoinQuery where
  left : TableName
  right : TableName
  leftColumn : Column
  rightColumn : Column

namespace JoinQuery

variable (q : JoinQuery)

def onLeft : List Char := q.left.text ++ '.' :: q.leftColumn.text

def onRight : List Char := q.right.text ++ '.' :: q.rightColumn.text

def text : List Char :=
  "SELECT * FROM ".toList ++ (q.left.text ++ (" JOIN ".toList ++ (q.right.text ++
    (" ON ".toList ++ (q.onLeft ++ (" = ".toList ++ q.onRight))))))

/-- What ON compares, in small letters. -/
def clause : JoinClause :=
  ⟨q.right.name, ⟨q.left.name, lowerText q.leftColumn.text⟩,
    ⟨q.right.name, lowerText q.rightColumn.text⟩⟩

def behindJoin : List (List Char) := ["ON".toList, q.onLeft, ['='], q.onRight]

def behindFrom : List (List Char) := "JOIN".toList :: q.right.text :: q.behindJoin

theorem text_eq : q.text =
    "SELECT".toList ++ spread ("*".toList :: "FROM".toList :: q.left.text :: q.behindFrom) := by
  have start (s : List Char) : "SELECT * FROM ".toList ++ s =
      "SELECT".toList ++ ' ' :: ("*".toList ++ ' ' :: ("FROM".toList ++ ' ' :: s)) := rfl
  have joinWord (s : List Char) : " JOIN ".toList ++ s = ' ' :: ("JOIN".toList ++ ' ' :: s) := rfl
  have onWord (s : List Char) : " ON ".toList ++ s = ' ' :: ("ON".toList ++ ' ' :: s) := rfl
  have equals (s : List Char) : " = ".toList ++ s = ' ' :: (['='] ++ ' ' :: s) := rfl
  unfold text
  rw [start, joinWord, onWord, equals, behindFrom, behindJoin]
  iterate 9 rw [spread_cons]
  rw [spread_nil, List.append_nil]

theorem solid_onLeft : Solid q.onLeft :=
  q.left.solid.append (List.forall_mem_cons.mpr ⟨by decide, q.leftColumn.solid.2⟩)

theorem solid_onRight : Solid q.onRight :=
  q.right.solid.append (List.forall_mem_cons.mpr ⟨by decide, q.rightColumn.solid.2⟩)

theorem solid_behindFrom : ∀ w ∈ q.behindFrom, Solid w := by
  simp only [behindFrom, behindJoin, List.forall_mem_cons, List.not_mem_nil, false_implies,
    implies_true, and_true]
  exact ⟨by decide, q.right.solid, by decide, q.solid_onLeft, by decide, q.solid_onRight⟩

theorem tidy_text : Tidy q.text := by
  rw [text_eq]
  refine tidy_append_spread (by decide) fun w hw => ?_
  simp only [List.mem_cons (a := w)] at hw
  rcases hw with rfl | rfl | rfl | later
  · decide
  · decide
  · exact q.left.solid
  · exact q.solid_behindFrom w later

section Search

variable {α : Type} {key : List Char} {read : List Char → Option α}

/-- The search passes over the words in front of JOIN, but for the table. -/
theorem findFirst?_text (h : Opened key read)
    (hkey : key ∈ ["where".toList, "join".toList, "order".toList, "group".toList,
      "limit".toList]) :
    findFirst? read q.text =
      (if EndsIn key q.left.text then read (key ++ spread q.behindFrom) else none).or
        (findFirst? read (spread q.behindFrom)) := by
  have facts : ∀ key ∈ ["where".toList, "join".toList, "order".toList, "group".toList,
      "limit".toList], key ∈ clauseWords ∧ ∀ w ∈ ["*".toList, "FROM".toList],
        (∀ c ∈ w, isBlank c = false) ∧ ¬ EndsIn key w := by decide
  obtain ⟨mem, words⟩ := facts key hkey
  have selectWord : Lacks key "SELECT".toList := (by decide : Plain "SELECT".toList).lacks mem
  have plain := (isKeyword_of_mem mem).2
  have passed := findFirst?_spread_solid h plain words (q.left.text :: q.behindFrom)
  rw [List.cons_append, List.cons_append, List.nil_append] at passed
  rw [text_eq, findFirst?_append h.toLedBy selectWord (apart_spread h.isKeyword _), passed,
    findFirst?_spread_cons h plain q.left.solid.2]

/-- Behind JOIN it passes over all words but the table and the column on the left. -/
theorem findFirst?_behindFrom (h : Opened key read)
    (hkey : key ∈ ["where".toList, "order".toList, "group".toList, "limit".toList]) :
    findFirst? read (spread q.behindFrom) =
      (if EndsIn key q.right.text then read (key ++ spread q.behindJoin) else none).or
        (if EndsIn key q.leftColumn.text then read (key ++ spread [['='], q.onRight])
          else none) := by
  have facts : ∀ key ∈ ["where".toList, "order".toList, "group".toList, "limit".toList],
      IsKeyword key ∧ ('s' ∉ key ∧ 'k' ∉ key) ∧ ¬ EndsIn key "JOIN".toList ∧
        ¬ EndsIn key "ON".toList ∧ ¬ EndsIn key ['='] := by decide
  obtain ⟨keyword, plain, joinWord, onWord, equals⟩ := facts key hkey
  have last : read (key ++ spread []) = none := h.read_keyword
  have column : EndsIn key q.onLeft ↔ EndsIn key q.leftColumn.text :=
    endsIn_append_cons_iff keyword (by decide)
  rw [behindFrom, findFirst?_spread_cons h plain (by decide), if_neg joinWord, Option.none_or,
    findFirst?_spread_cons h plain q.right.solid.2]
  congr 1
  rw [behindJoin, findFirst?_spread_cons h plain (by decide), if_neg onWord, Option.none_or,
    findFirst?_spread_cons h plain q.solid_onLeft.2,
    findFirst?_spread_cons h plain (by decide), if_neg equals, Option.none_or,
    findFirst?_spread_of_fails h plain q.solid_onRight.2 fun _ => last, spread_nil, findFirst?,
    h.nil, Option.or_none]
  simp only [column]

theorem findFirst?_text_eq_none (h : Opened key read)
    (hkey : key ∈ ["order".toList, "group".toList, "limit".toList])
    (hfrom : read (key ++ spread q.behindFrom) = none)
    (hjoin : read (key ++ spread q.behindJoin) = none)
    (hequals : read (key ++ spread [['='], q.onRight]) = none) : findFirst? read q.text = none := by
  have others : ∀ key ∈ ["order".toList, "group".toList, "limit".toList],
      key ∈ ["where".toList, "join".toList, "order".toList, "group".toList, "limit".toList] ∧
        key ∈ ["where".toList, "order".toList, "group".toList, "limit".toList] := by decide
  rw [findFirst?_text q h (others key hkey).1, findFirst?_behindFrom q h (others key hkey).2,
    hfrom, hjoin, hequals]
  simp only [ite_self, Option.or_none]

end Search

theorem orderBy?_text : orderBy? q.text = none :=
  q.findFirst?_text_eq_none opened_readOrderBy? (by decide) rfl rfl rfl

theorem limit?_text : limit? q.text = none :=
  q.findFirst?_text_eq_none opened_readLimit? (by decide) rfl rfl rfl

theorem groupBy?_text : groupBy? q.text = none := by
  rw [groupBy?, q.findFirst?_text_eq_none opened_readGroupBy? (by decide) rfl rfl rfl]
  rfl

theorem fromTable?_text : fromTable? q.text = some q.left.name := by
  have starWord : ¬ EndsIn "from".toList "*".toList := by decide
  have read := readFrom?_table q.left (stops_spread rfl q.behindFrom)
  rw [fromTable?, text_eq, findFirst?_append opened_readFrom?.toLedBy
    ((by decide : Plain "SELECT".toList).lacks (by decide)) (apart_spread (by decide) _),
    findFirst?_spread_of_fails opened_readFrom? (by decide) (by decide) (absurd · starWord),
    spread_cons, spread_cons, findFirst?_of_read opened_readFrom?.toLedBy read, Option.map_some,
    q.left.lowerText_text]

theorem projection?_text : projection? q.text = some ⟨"*"⟩ := by
  have star : Tidy "*".toList := tidy_of_solid (by decide)
  have ends : projectionPlace.endsAt (spread ("FROM".toList :: q.left.text :: q.behindFrom)) :=
    Enclosure.endsAt_space List.mem_cons_self (by decide) (by decide) _
  have opens : projectionPlace.Open "*".toList
      (spread ("FROM".toList :: q.left.text :: q.behindFrom)) :=
    projectionPlace.open_solid (by decide) _
  have read : projectionPlace.read? q.text = some "*".toList := by
    have selectWord : Spells "select".toList "SELECT".toList := by decide
    rw [text_eq]
    exact Enclosure.read?_enclosed (by decide) selectWord star opens ends
  rw [projection?, Enclosure.find?_eq_findFirst?, findFirst?_eq_some read]
  rfl

theorem readColumn?_append (t : TableName) (c : Column) {s : List Char}
    (hs : Stops isWordChar s) : readColumn? (t.text ++ '.' :: c.text ++ s) =
      some (⟨t.name, lowerText c.text⟩, s) := by
  have point : isWordChar '.' = false := rfl
  have table : word? (t.text ++ '.' :: (c.text ++ s)) = some (t.text, '.' :: (c.text ++ s)) :=
    t.word?_append (stops_cons point _)
  have sign : exactly? ['.'] ('.' :: (c.text ++ s)) = some (c.text ++ s) :=
    exactly?_append ['.'] (c.text ++ s)
  have column : word? (c.text ++ s) = some (c.text, s) := run?_append c.ne_nil c.chars hs
  rw [List.append_assoc, List.cons_append, readColumn?, table]
  simp only [sign, column, bind, Option.bind_some, pure, t.lowerText_text]

theorem readJoin?_behindFrom :
    readJoin? ("JOIN".toList ++ spread (q.right.text :: q.behindJoin)) = some q.clause := by
  have space : isWordChar ' ' = false := rfl
  have stops {w : List Char} (hw : Solid w) (rest : List (List Char)) :
      Stops isBlank (w ++ spread rest) := stops_append hw.1 (tidy_of_solid hw).stops _
  have gap {w : List Char} (hw : Solid w) (rest : List (List Char)) :
      blanks? (spread (w :: rest)) = some (w ++ spread rest) := blanks?_space (stops hw rest)
  have trimmed {w : List Char} (hw : Solid w) (rest : List (List Char)) :
      trimStart (spread (w :: rest)) = w ++ spread rest := trimStart_space (stops hw rest)
  have joinWord : ∀ s, keyword? "join".toList ("JOIN".toList ++ s) = some s := fun _ => rfl
  have onWord : ∀ s, keyword? "on".toList ("ON".toList ++ s) = some s := fun _ => rfl
  have table : word? (q.right.text ++ spread q.behindJoin) =
      some (q.right.text, spread q.behindJoin) := q.right.word?_append (stops_spread space _)
  have onGap : blanks? (spread q.behindJoin) =
      some ("ON".toList ++ spread [q.onLeft, ['='], q.onRight]) := gap (by decide) _
  have left : readColumn? (q.onLeft ++ spread [['='], q.onRight]) =
      some (q.clause.left, spread [['='], q.onRight]) :=
    readColumn?_append q.left q.leftColumn (stops_spread space _)
  have right : readColumn? (q.onRight ++ spread []) = some (q.clause.right, spread []) :=
    readColumn?_append q.right q.rightColumn (stops_spread space _)
  simp only [readJoin?, bind, joinWord, gap q.right.solid, table, onGap, onWord,
    gap q.solid_onLeft, left, trimmed (by decide : Solid ['=']), exactly?_append,
    trimmed q.solid_onRight, right, Option.bind_some, pure, q.right.lowerText_text]
  rfl

theorem joinClause?_text : joinClause? q.text = some q.clause := by
  have early : readJoin? ("join".toList ++ spread q.behindFrom) = none :=
    readJoin?_eq_none (by decide) (by decide) q.right.solid
      (apart_spread (by decide) q.behindJoin) rfl
  have read : findFirst? readJoin? (spread q.behindFrom) = some q.clause :=
    findFirst?_of_read opened_readJoin?.toLedBy q.readJoin?_behindFrom
  rw [joinClause?, q.findFirst?_text opened_readJoin? (by decide), early, ite_self,
    Option.none_or, read]

open Predicate

/-- A name ends in WHERE and more of the query stands behind it. -/
def HasWhere : Prop :=
  EndsIn "where".toList q.left.text ∨ EndsIn "where".toList q.right.text ∨
    EndsIn "where".toList q.leftColumn.text

instance : Decidable q.HasWhere := inferInstanceAs (Decidable (_ ∨ _))

/-- The words behind one of the tables may be read as a condition on a column. -/
def MayCompare : Prop :=
  (EndsIn "where".toList q.left.text ∨ EndsIn "where".toList q.right.text) ∧
    q.right.BeginsLikeValue ∧ ∀ key ∈ conditionPlace.closing, ¬ BeginsWith key q.left.text

instance : Decidable q.MayCompare := inferInstanceAs (Decidable (_ ∧ _))

theorem condition?_text_of_not_hasWhere (h : ¬ q.HasWhere) : condition? q.text = none := by
  obtain ⟨left, right, column⟩ := not_or.mp h |>.imp_right not_or.mp
  rw [condition?, Enclosure.find?_eq_findFirst?, q.findFirst?_text opened_condition (by decide),
    q.findFirst?_behindFrom opened_condition (by decide), if_neg left, if_neg right, if_neg column]
  rfl

theorem isChain_behindFrom : q.behindFrom.IsChain NotNull := by
  have joinWord : "JOIN".toList.map foldCase ≠ "is".toList := by decide
  have onWord : "ON".toList.map foldCase ≠ "is".toList := by decide
  have equals : ['='].map foldCase ≠ "is".toList := by decide
  have onHead : ∀ c ∈ "ON".toList.head?, foldCase c ≠ 'n' := by decide
  have equalsHead : ∀ c ∈ ['='].head?, foldCase c ≠ 'n' := by decide
  simp only [behindFrom, behindJoin, List.isChain_cons_cons, List.isChain_singleton, and_true]
  exact ⟨(absurd · joinWord), fun _ => onHead, (absurd · onWord), fun _ => equalsHead,
    (absurd · equals)⟩

def names : List (List Char) :=
  ["JOIN".toList, q.right.text, "ON".toList, q.onLeft, q.onRight]

theorem isWordChar_or_point {w : List Char} (hw : w ∈ q.names) {c : Char} (hc : c ∈ w) :
    isWordChar c ∨ c = '.' := by
  have keywords : (∀ c ∈ "JOIN".toList, isWordChar c) ∧ ∀ c ∈ "ON".toList, isWordChar c := by
    decide
  have table (t : TableName) : ∀ c ∈ t.text, isWordChar c := fun c hc =>
    isWordChar_of_isNameChar (t.chars c hc).1
  have qualified (t : TableName) (d : Column) (h : c ∈ t.text ++ '.' :: d.text) :
      isWordChar c ∨ c = '.' := by
    rcases List.mem_append.mp h with inTable | behind
    · exact Or.inl (table t c inTable)
    · exact (List.mem_cons.mp behind).symm.imp_left (d.chars c)
  simp only [names, List.mem_cons, List.not_mem_nil, or_false] at hw
  rcases hw with rfl | rfl | rfl | rfl | rfl
  · exact Or.inl (keywords.1 c hc)
  · exact Or.inl (table q.right c hc)
  · exact Or.inl (keywords.2 c hc)
  · exact qualified q.left q.leftColumn hc
  · exact qualified q.right q.rightColumn hc

theorem notMem_spread_names {c : Char} (hword : isWordChar c = false) (hc : c ∉ [' ', '.'])
    {pieces : List (List Char)} (h : ∀ w ∈ pieces, w ∈ q.names) : c ∉ spread pieces := by
  intro mem
  simp only [List.mem_cons, List.not_mem_nil, or_false, not_or] at hc
  obtain ⟨w, hw, inside⟩ := List.mem_flatMap.mp mem
  rcases List.mem_cons.mp inside with space | inside
  · exact hc.1 space
  · rcases q.isWordChar_or_point (h w hw) inside with word | point
    · exact Bool.eq_false_iff.mp hword word
    · exact hc.2 point

theorem mem_behindFrom_iff {w : List Char} : w ∈ q.behindFrom ↔ w ∈ q.names ∨ w = ['='] := by
  simp only [behindFrom, behindJoin, names, List.mem_cons, List.not_mem_nil, or_false]
  tauto

/-- No form occurs in words of the query in which nothing is compared to a value. -/
theorem isEmpty_of_isInfix {pieces : List (List Char)} (h : pieces <:+: q.behindFrom)
    (hequals : ∀ u v, spread pieces = u ++ '=' :: v → (∃ c ∈ u, isWordChar c) →
      ¬ BeginsWithValue (trimStart v)) :
    IsEmpty (Occurrence (spread pieces)) := by
  have lacks {c : Char} (hword : isWordChar c = false) (hc : c ∉ [' ', '.', '=']) :
      c ∉ spread pieces := by
    intro mem
    simp only [List.mem_cons, List.not_mem_nil, or_false, not_or] at hc
    obtain ⟨w, hw, inside⟩ := List.mem_flatMap.mp mem
    rcases List.mem_cons.mp inside with space | inside
    · exact hc.1 space
    · rcases q.mem_behindFrom_iff.mp (h.subset hw) with name | rfl
      · rcases q.isWordChar_or_point name inside with word | point
        · exact Bool.eq_false_iff.mp hword word
        · exact hc.2.1 point
      · exact hc.2.2 (List.mem_singleton.mp inside)
  have cut := words_append_spread [] fun w hw => q.solid_behindFrom w (h.subset hw)
  refine isEmpty_occurrence (lacks (by decide) (by decide)) (lacks (by decide) (by decide))
    (lacks (by decide) (by decide)) hequals ?_
  rw [List.nil_append, words_nil, List.nil_append] at cut
  rw [cut]
  exact q.isChain_behindFrom.infix h

theorem beginsLikeValue_of_onRight (h : BeginsWithValue q.onRight) : q.right.BeginsLikeValue := by
  have point {key : List Char} (hkey : IsKeyword key) (found : (keyword? key q.onRight).isSome) :
      key <+: q.right.text := by
    rw [onRight, keyword?_append_cons (foreign_of_not_isLower hkey (by decide)),
      Option.isSome_map] at found
    obtain ⟨r, hr⟩ := Option.isSome_iff_exists.mp found
    exact q.right.prefix_of_keyword? hr
  rcases h with digits | word | word
  · left
    obtain ⟨c, t, text⟩ := List.exists_cons_of_ne_nil q.right.ne_nil
    rw [text, List.head?_cons, Option.any_some]
    have chars := q.right.chars c (text ▸ List.mem_cons_self)
    have decimal : isDecimalDigit c := by
      by_contra other
      simp [onRight, text, digits?, run?, other] at digits
    rwa [isDecimalDigit, if_pos (toNat_lt_of_isNameChar chars.1)] at decimal
  · exact Or.inr (Or.inl (point (by decide) word))
  · exact Or.inr (Or.inr (point (by decide) word))

theorem eq_of_spread_equals (front back : List (List Char)) (hfront : ∀ w ∈ front, w ∈ q.names)
    (hback : ∀ w ∈ back, w ∈ q.names) {u v : List Char}
    (h : spread (front ++ ['='] :: back) = u ++ '=' :: v) :
    u = spread front ++ [' '] ∧ v = spread back := by
  have before : '=' ∉ spread front ++ [' '] := by
    rw [List.mem_append, not_or]
    exact ⟨q.notMem_spread_names (by decide) (by decide) hfront, by decide⟩
  have after := q.notMem_spread_names (c := '=') (by decide) (by decide) hback
  have cut : spread (front ++ ['='] :: back) = (spread front ++ [' ']) ++ '=' :: spread back := by
    rw [spread_append, spread_cons, List.append_assoc]
    rfl
  rw [cut] at h
  obtain ⟨same, -, rest⟩ := (List.append_cons_inj_of_notMem before after).mp h
  exact ⟨same.symm, rest.symm⟩

theorem isEmpty_behindFrom (h : ¬ q.right.BeginsLikeValue) :
    IsEmpty (Occurrence (spread q.behindFrom)) := by
  refine q.isEmpty_of_isInfix List.infix_rfl fun u v cut _ value => h ?_
  obtain ⟨-, rfl⟩ := q.eq_of_spread_equals ["JOIN".toList, q.right.text, "ON".toList, q.onLeft]
    [q.onRight] (by simp [names]) (by simp [names]) cut
  have stops : Stops isBlank (q.onRight ++ []) :=
    stops_append q.solid_onRight.1 (tidy_of_solid q.solid_onRight).stops []
  rw [spread_cons, spread_nil, trimStart_space stops, List.append_nil] at value
  exact q.beginsLikeValue_of_onRight value

theorem isEmpty_joinOn :
    IsEmpty (Occurrence (spread ["JOIN".toList, q.right.text, "ON".toList])) := by
  refine q.isEmpty_of_isInfix ⟨[], [q.onLeft, ['='], q.onRight], rfl⟩ fun u v cut => ?_
  have absent : '=' ∉ spread ["JOIN".toList, q.right.text, "ON".toList] :=
    q.notMem_spread_names (by decide) (by decide) (by simp [names])
  exact absurd (cut ▸ List.mem_append_right u List.mem_cons_self) absent

theorem isEmpty_equals : IsEmpty (Occurrence (spread [['='], q.onRight])) := by
  refine q.isEmpty_of_isInfix
    ⟨["JOIN".toList, q.right.text, "ON".toList, q.onLeft], [], rfl⟩ fun u v cut named => ?_
  obtain ⟨rfl, -⟩ := q.eq_of_spread_equals [] [q.onRight] (by simp) (by simp [names]) cut
  obtain ⟨c, space, word⟩ := named
  rw [List.mem_singleton.mp space] at word
  exact absurd word (by decide)

theorem endsAt_onLeft (h : ∃ key ∈ conditionPlace.closing, BeginsWith key q.left.text) :
    conditionPlace.endsAt (spread [q.onLeft, ['='], q.onRight]) := by
  obtain ⟨key, hkey, begins⟩ := h
  have longer : BeginsWith key (q.onLeft ++ spread [['='], q.onRight]) := by
    rw [onLeft, List.append_assoc, BeginsWith, lowerAscii, List.map_append]
    exact begins.trans (List.prefix_append _ _)
  have closed := closesAt_of_beginsWith (e := conditionPlace) (by decide) hkey longer
  simp [spread_cons (q.onLeft), Enclosure.endsAt, Enclosure.gapAt, closed,
    show isBlank ' ' from rfl]

/-- What is read as a condition begins behind a name that ends in WHERE. -/
theorem exists_of_condition? {p : List Char}
    (h : findFirst? conditionPlace.read? q.text = some p) :
    (∃ front, front ≠ [] ∧ front <:+ ["JOIN".toList, q.right.text, "ON".toList] ∧
        conditionPlace.read? ("where".toList ++ spread (front ++ [q.onLeft, ['='], q.onRight])) =
          some p ∧ (EndsIn "where".toList q.left.text ∨ EndsIn "where".toList q.right.text)) ∨
      conditionPlace.read? ("where".toList ++ spread [['='], q.onRight]) = some p := by
  rw [q.findFirst?_text opened_condition (by decide),
    q.findFirst?_behindFrom opened_condition (by decide)] at h
  simp only [Option.or_eq_some_iff, Option.ite_none_right_eq_some] at h
  rcases h with ⟨ends, read⟩ | ⟨-, ⟨ends, read⟩ | ⟨-, -, read⟩⟩
  · exact Or.inl ⟨_, List.cons_ne_nil _ _, List.suffix_rfl, read, Or.inl ends⟩
  · exact Or.inl ⟨["ON".toList], List.cons_ne_nil _ _, ⟨["JOIN".toList, q.right.text], rfl⟩, read,
      Or.inr ends⟩
  · exact Or.inr read

/-- No form occurs in a condition that is taken from words in which none does. -/
theorem isEmpty_of_read {front back : List (List Char)} {p : List Char}
    (h : conditionPlace.read? ("where".toList ++ spread (front ++ back)) = some p)
    (hfront : front ≠ []) (inside : front <:+: q.behindFrom)
    (hback : conditionPlace.endsAt (spread back)) (empty : IsEmpty (Occurrence (spread front))) :
    IsEmpty (Occurrence p) := by
  have solid : ∀ w ∈ front, Solid w := fun w hw => q.solid_behindFrom w (inside.subset hw)
  exact isEmpty_occurrence_of_isInfix (isInfix_of_read_condition h hfront solid hback) empty

theorem isEmpty_condition (h : ¬ q.MayCompare) {p : String} (found : condition? q.text = some p) :
    IsEmpty (Occurrence p.toList) := by
  have toEnd : conditionPlace.endsAt (spread []) := rfl
  rw [condition?, Enclosure.find?_eq_findFirst?] at found
  obtain ⟨p, first, rfl⟩ := Option.map_eq_some_iff.mp found
  rw [String.toList_ofList]
  refine isEmpty_occurrence_of_isInfix (isInfix_trim p) ?_
  rcases q.exists_of_condition? first with ⟨front, some, hfront, read, ends⟩ | read
  · by_cases value : q.right.BeginsLikeValue
    · -- The condition ends in front of the left column, which begins with a closing keyword.
      have closes : ∃ key ∈ conditionPlace.closing, BeginsWith key q.left.text := by
        by_contra none
        exact h ⟨ends, value, fun key hkey begins => none ⟨key, hkey, begins⟩⟩
      have inside : front <:+: q.behindFrom := hfront.isInfix.trans
        ⟨[], [q.onLeft, ['='], q.onRight], rfl⟩
      exact q.isEmpty_of_read read some inside (q.endsAt_onLeft closes)
        (isEmpty_occurrence_of_isInfix (isInfix_spread hfront.isInfix) q.isEmpty_joinOn)
    · have inside : front ++ [q.onLeft, ['='], q.onRight] <:+: q.behindFrom := by
        obtain ⟨more, cut⟩ := hfront
        exact ⟨more, [], by rw [← List.append_assoc, cut]; rfl⟩
      exact q.isEmpty_of_read (by rwa [List.append_nil])
        (List.append_ne_nil_of_left_ne_nil some _) inside toEnd
        (isEmpty_occurrence_of_isInfix (isInfix_spread inside) (q.isEmpty_behindFrom value))
  · have inside : [['='], q.onRight] <:+: q.behindFrom :=
      ⟨["JOIN".toList, q.right.text, "ON".toList, q.onLeft], [], rfl⟩
    exact q.isEmpty_of_read (by rwa [List.append_nil]) (List.cons_ne_nil _ _) inside toEnd
      q.isEmpty_equals

theorem filtered_text {strict : Bool} (hstrict : strict → ¬ q.HasWhere) (h : ¬ q.MayCompare)
    (rows : List Row) : (Clauses.ofText q.text).filtered strict rows = .ok rows := by
  cases found : condition? q.text with
  | none => simp only [Clauses.filtered, Clauses.ofText, found]
  | some p =>
    obtain rfl : strict = false := by
      by_contra on
      have absent := q.condition?_text_of_not_hasWhere (hstrict ((Bool.not_eq_false strict).mp on))
      rw [absent] at found
      cases found
    have all : (Condition.ofText p.toList).filter rows = rows := List.filter_eq_self.mpr
      fun row _ => holds_of_isEmpty_occurrence (q.isEmpty_condition h found) row
    simp only [Clauses.filtered, Clauses.ofText, found, Condition.read_false, Except.map, all]

/-- The values of two rows in the columns of ON, in small letters, are equal. -/
def meets (pair : Row × Row) : Bool :=
  (pair.1.get? (lowerText q.leftColumn.text)).any fun v =>
    (pair.2.get? (lowerText q.rightColumn.text)).any v.strictEq

section Answer

variable {lefts rights : List Row}

theorem isMatch_eq_meets (hne : q.left.name ≠ q.right.name) {left right : Row}
    (hright : right.contains (lowerText q.rightColumn.text)) :
    q.clause.isMatch q.left.name left right = q.meets (left, right) := by
  obtain ⟨w, hw⟩ := Option.isSome_iff_exists.mp hright
  have leftTable : q.clause.left.table = q.left.name := rfl
  have rightTable : q.clause.right.table ≠ q.left.name := hne.symm
  rw [Bool.eq_iff_iff, JoinClause.isMatch_iff leftTable rightTable hw]
  simp [JoinClause.IsPartner, meets, clause, hw, Option.any_eq_true]

theorem rows_clause (hne : q.left.name ≠ q.right.name)
    (hright : ∀ right ∈ rights, right.contains (lowerText q.rightColumn.text)) :
    q.clause.rows q.left.name lefts rights =
      ((lefts ×ˢ rights).filter q.meets).map fun pair => q.clause.combine pair.1 pair.2 := by
  have matched (left : Row) : rights.filter (q.clause.isMatch q.left.name left) =
      rights.filter fun right => q.meets (left, right) :=
    List.filter_congr fun right mem => q.isMatch_eq_meets hne (hright right mem)
  have product : lefts ×ˢ rights = lefts.flatMap fun left => rights.map (Prod.mk left) := rfl
  rw [JoinClause.rows, product]
  simp only [matched, List.filter_flatMap, List.map_flatMap, List.filter_map, List.map_map]
  rfl

end Answer

/-- The answer has one row for each pair of rows that are equal in the columns of ON. -/
theorem select_eq_pairs (hne : q.left.name ≠ q.right.name) {options : Options}
    (hstrict : options.strict → ¬ q.HasWhere) (hcompare : ¬ q.MayCompare) {dataset : Dataset}
    {lefts rights : List Row} (hlefts : dataset.get? q.left.name = some lefts)
    (hrights : dataset.get? q.right.name = some rights)
    (hright : ∀ right ∈ rights, right.contains (lowerText q.rightColumn.text)) :
    select (String.ofList q.text) dataset options =
      .ok (.ofRows (((lefts ×ˢ rights).filter q.meets).map fun pair =>
        q.clause.combine pair.1 pair.2)) := by
  have fetched : (Clauses.ofText q.text).fetch dataset = .ok (q.left.name, lefts) := by
    simp only [Clauses.fetch, Clauses.ofText, q.fromTable?_text, hlefts]
  have joined : (Clauses.ofText q.text).joined dataset q.left.name lefts =
      .ok (q.clause.rows q.left.name lefts rights) := by
    have table : q.clause.table = q.right.name := rfl
    simp only [Clauses.joined, Clauses.ofText, q.joinClause?_text, table, hrights]
  have ran := Clauses.run_eq_ok fetched joined (q.filtered_text hstrict hcompare _)
  have star : Projection.isWildcard ⟨"*"⟩ = true := rfl
  rw [select, String.toList_ofList, q.tidy_text.collapse_eq, ran, ← q.rows_clause hne hright]
  simp only [Clauses.sorted, Clauses.limited, Clauses.grouped, Clauses.results,
    Clauses.countsAll, Clauses.projected, Clauses.ofText, q.orderBy?_text, q.limit?_text,
    q.groupBy?_text, q.projection?_text, star, Option.any_some, Bool.not_true, Bool.false_and,
    Bool.and_false, Bool.false_eq_true, if_false, if_true]

section Visits

def visits : JoinQuery where
  left := ⟨"guests".toList, by decide, by decide⟩
  right := ⟨"visits_where".toList, by decide, by decide⟩
  leftColumn := ⟨"Id".toList, by decide, by decide⟩
  rightColumn := ⟨"guestID".toList, by decide, by decide⟩

def guestRows : List Row :=
  [.ofList [("id", .int 1), ("name", .text "Ann")], .ofList [("id", .text "1")],
   .ofList [("id", .float (.ofNat 2)), ("name", .text "Ben")], .ofList [("Id", .int 1)]]

def visitRows : List Row :=
  [.ofList [("guestid", .int 2), ("id", .int 7)], .ofList [("guestid", .float (.ofNat 1))],
   .ofList [("guestid", .int 2), ("name", .null)]]

theorem select_eq_pairs_visits :
    select "SELECT * FROM guests JOIN visits_where ON guests.Id = visits_where.guestID"
        (.ofList [("guests", guestRows), ("visits_where", visitRows)]) { today := ⟨2024, 6, 1⟩ } =
      .ok (.ofRows
        [.ofList [("id", .int 1), ("name", .text "Ann"), ("guestid", .float (.ofNat 1))],
         .ofList [("id", .int 7), ("name", .text "Ben"), ("guestid", .int 2),
           ("visits_where_id", .int 7)],
         .ofList [("id", .float (.ofNat 2)), ("name", .null), ("guestid", .int 2)]]) := by
  have pairs : (((guestRows ×ˢ visitRows).filter visits.meets).map fun pair =>
      visits.clause.combine pair.1 pair.2) =
        [.ofList [("id", .int 1), ("name", .text "Ann"), ("guestid", .float (.ofNat 1))],
         .ofList [("id", .int 7), ("name", .text "Ben"), ("guestid", .int 2),
           ("visits_where_id", .int 7)],
         .ofList [("id", .float (.ofNat 2)), ("name", .null), ("guestid", .int 2)]] := by
    decide +kernel
  rw [← pairs]
  exact visits.select_eq_pairs (by decide) (fun strict => absurd strict (by decide)) (by decide)
    rfl rfl (by decide +kernel)

end Visits

/-- Capital letters in ON are not those of the rows: two rows without a column of small letters
are a pair, whatever they hold. -/
theorem not_forall_select_eq_pairs :
    ¬ ∀ (q : JoinQuery) (options : Options) (dataset : Dataset) (lefts rights : List Row),
      (∀ c ∈ q.leftColumn.text ++ q.rightColumn.text, isNameChar c) →
      q.left.name ≠ q.right.name → dataset.get? q.left.name = some lefts →
      dataset.get? q.right.name = some rights →
      (∀ left ∈ lefts, left.contains (String.ofList q.leftColumn.text)) →
      (∀ right ∈ rights, right.contains (String.ofList q.rightColumn.text)) →
        ∃ results, select (String.ofList q.text) dataset options = .ok (.ofRows results) ∧
          results.length = ((lefts ×ˢ rights).filter fun pair =>
            (pair.1.get? (String.ofList q.leftColumn.text)).any fun v =>
              (pair.2.get? (String.ofList q.rightColumn.text)).any v.strictEq).length := by
  intro claim
  obtain ⟨results, selected, count⟩ := claim
    ⟨⟨['a'], by decide, by decide⟩, ⟨['b'], by decide, by decide⟩,
      ⟨"Id".toList, by decide, by decide⟩, ⟨"Id".toList, by decide, by decide⟩⟩
    { today := ⟨2024, 6, 1⟩ }
    (.ofList [("a", [.ofList [("Id", .int 1)]]), ("b", [.ofList [("Id", .int 2)]])])
    [.ofList [("Id", .int 1)]] [.ofList [("Id", .int 2)]]
    (by decide) (by decide) rfl rfl (by decide) (by decide)
  have found : select "SELECT * FROM a JOIN b ON a.Id = b.Id"
      (.ofList [("a", [.ofList [("Id", .int 1)]]), ("b", [.ofList [("Id", .int 2)]])])
      { today := ⟨2024, 6, 1⟩ } = .ok (.ofRows [.ofList [("Id", .int 2)]]) := by decide +kernel
  have same : ResultSet.ofRows results = .ofRows [.ofList [("Id", .int 2)]] :=
    Except.ok.inj (selected.symm.trans found)
  rw [show results = [.ofList [("Id", .int 2)]] from congrArg ResultSet.rows same] at count
  revert count
  decide +kernel

end JoinQuery

end SqlTutor.Query

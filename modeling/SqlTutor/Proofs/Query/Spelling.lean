import SqlTutor.Proofs.Text.Readings
import SqlTutor.Query.Predicate

/-!
The forms of predicates as texts, apart from how they are read: a column, an operator or keywords,
and a value, with the white space that may stand between them. A form is read at a place if the text
behind the place begins with it, whatever follows it.
-/
namespace SqlTutor.Query

open Text

namespace Predicate

/-- A symbol, with white space around it or without. -/
def IsOperator (symbol s : List Char) : Prop :=
  ∃ before after, (∀ c ∈ before, isBlank c) ∧ (∀ c ∈ after, isBlank c) ∧
    s = before ++ (symbol ++ after)

/-- A keyword in any letter case, with white space in front of it. -/
def IsKey (key s : List Char) : Prop :=
  ∃ gap w, IsRun isBlank gap ∧ w.map foldCase = key ∧ s = gap ++ w

def quote (s : List Char) : List Char := '\'' :: (s ++ ['\''])

def percent (s : List Char) : List Char := '%' :: (s ++ ['%'])

/-- The predicate is written out as the text. -/
inductive Spelled : Predicate → List Char → Prop
  | textEq {column op value : List Char} (hcolumn : IsRun isWordChar column)
      (hop : IsOperator ['='] op) (hvalue : IsRun (· != '\'') value) :
      Spelled (.textEq (String.ofList column) (String.ofList value)) (column ++ (op ++ quote value))
  | numberEq {column op digits : List Char} (hcolumn : IsRun isWordChar column)
      (hop : IsOperator ['='] op) (hdigits : IsRun isDecimalDigit digits) :
      Spelled (.numberEq (String.ofList column) (numberOf digits)) (column ++ (op ++ digits))
  | textNe {column op value : List Char} (hcolumn : IsRun isWordChar column)
      (hop : IsOperator ['!', '='] op) (hvalue : IsRun (· != '\'') value) :
      Spelled (.textNe (String.ofList column) (String.ofList value)) (column ++ (op ++ quote value))
  | compare (relation : CompareOp) {column op digits : List Char}
      (hcolumn : IsRun isWordChar column) (hop : IsOperator relation.symbol op)
      (hdigits : IsRun isDecimalDigit digits) :
      Spelled (.compare (String.ofList column) relation (numberOf digits))
        (column ++ (op ++ digits))
  | contains {column like gap needle : List Char} (hcolumn : IsRun isWordChar column)
      (hlike : IsKey "like".toList like) (hgap : IsRun isBlank gap)
      (hneedle : IsRun (· != '%') needle) :
      Spelled (.contains (String.ofList column) (String.ofList (lower needle)))
        (column ++ (like ++ (gap ++ quote (percent needle))))
  | isNull {column is null : List Char} (hcolumn : IsRun isWordChar column)
      (his : IsKey "is".toList is) (hnull : IsKey "null".toList null) :
      Spelled (.isNull (String.ofList column)) (column ++ (is ++ null))
  | isNotNull {column is not null : List Char} (hcolumn : IsRun isWordChar column)
      (his : IsKey "is".toList is) (hnot : IsKey "not".toList not)
      (hnull : IsKey "null".toList null) :
      Spelled (.isNotNull (String.ofList column)) (column ++ (is ++ (not ++ null)))
  | boolEq (b : Bool) {column op word : List Char} (hcolumn : IsRun isWordChar column)
      (hop : IsOperator ['='] op)
      (hword : word.map foldCase = (if b then "true" else "false").toList) :
      Spelled (.boolEq (String.ofList column) b) (column ++ (op ++ word))

inductive Kind where
  | textEq
  | numberEq
  | textNe
  | compare (op : CompareOp)
  | contains
  | isNull
  | isNotNull
  | boolEq
deriving DecidableEq

def kind : Predicate → Kind
  | .textEq _ _ => .textEq
  | .numberEq _ _ => .numberEq
  | .textNe _ _ => .textNe
  | .compare _ op _ => .compare op
  | .contains _ _ => .contains
  | .isNull _ => .isNull
  | .isNotNull _ => .isNotNull
  | .boolEq _ _ => .boolEq

namespace Kind

def read? : Kind → List Char → Option Predicate
  | textEq => readTextEq?
  | numberEq => readNumberEq?
  | textNe => readTextNe?
  | compare op => readCompare? op
  | contains => readContains?
  | isNull => readIsNull?
  | isNotNull => readIsNotNull?
  | boolEq => readBoolEq?

def all : List Kind :=
  [textEq, numberEq, textNe, compare .greater, compare .less, compare .atLeast, contains, isNull,
    isNotNull, boolEq]

theorem mem_all (k : Kind) : k ∈ all := by
  cases k with
  | compare op => cases op <;> decide
  | _ => decide

/-- The place among the forms. -/
def rank (k : Kind) : Nat := all.idxOf k

theorem pairwise_rank : all.Pairwise (rank · < rank ·) := by decide

/-- The form ends in a number. -/
def endsInNumber : Kind → Bool
  | numberEq => true
  | compare _ => true
  | _ => false

theorem forms_eq_map_read? : forms = all.map read? := rfl

end Kind

section Pieces

variable {s t column symbol : List Char}

def IsSymbol (symbol : List Char) : Prop :=
  symbol ≠ [] ∧ Stops isWordChar symbol ∧ Stops isBlank symbol

theorem isSymbol_eq : IsSymbol ['='] := ⟨nofun, stops_cons rfl _, stops_cons rfl _⟩

theorem isSymbol_ne : IsSymbol ['!', '='] := ⟨nofun, stops_cons rfl _, stops_cons rfl _⟩

theorem isSymbol_symbol (op : CompareOp) : IsSymbol op.symbol := by
  cases op <;> exact ⟨nofun, stops_cons rfl _, stops_cons rfl _⟩

theorem IsOperator.stops {op : List Char} (hsymbol : IsSymbol symbol) (hop : IsOperator symbol op)
    (t : List Char) : Stops isWordChar (op ++ t) := by
  obtain ⟨before, after, hbefore, -, rfl⟩ := hop
  cases before with
  | nil =>
    rw [List.nil_append, List.append_assoc]
    exact stops_append hsymbol.1 hsymbol.2.1 _
  | cons c before => exact stops_cons (isWordChar_eq_false (hbefore c List.mem_cons_self)) _

theorem IsOperator.notMem {op : List Char} (hop : IsOperator symbol op) {c : Char}
    (blank : isBlank c = false) (other : c ∉ symbol) : c ∉ op := by
  obtain ⟨before, after, hbefore, hafter, rfl⟩ := hop
  have solid (s : List Char) (hs : ∀ d ∈ s, isBlank d) : c ∉ s := fun mem =>
    Bool.eq_false_iff.mp blank (hs c mem)
  simp only [List.mem_append, not_or]
  exact ⟨solid before hbefore, other, solid after hafter⟩

theorem readColumn?_append (hsymbol : IsSymbol symbol) (hcolumn : IsRun isWordChar column)
    {op : List Char} (hop : IsOperator symbol op) (ht : Stops isBlank t) :
    readColumn? symbol (column ++ (op ++ t)) = some (column, t) := by
  have word : word? (column ++ (op ++ t)) = some (column, op ++ t) :=
    run?_eq_some_iff.mpr ⟨hcolumn, hop.stops hsymbol t, rfl⟩
  obtain ⟨before, after, hbefore, hafter, rfl⟩ := hop
  have toSymbol : trimStart ((before ++ (symbol ++ after)) ++ t) = symbol ++ (after ++ t) :=
    trimStart_eq_iff.mpr ⟨before, hbefore, stops_append hsymbol.1 hsymbol.2.2 _, by simp⟩
  have behind : trimStart (after ++ t) = t := trimStart_eq_iff.mpr ⟨after, hafter, ht, rfl⟩
  rw [readColumn?, word]
  simp only [Option.bind_eq_bind, Option.bind_some, toSymbol, exactly?_append, behind,
    Option.pure_def]

theorem eq_append_of_readColumn? (h : readColumn? symbol s = some (column, t)) :
    ∃ op, IsRun isWordChar column ∧ IsOperator symbol op ∧ s = column ++ (op ++ t) := by
  simp only [readColumn?, Option.bind_eq_bind, Option.bind_eq_some_iff, Prod.exists,
    Option.pure_def, Option.some_inj, Prod.mk.injEq] at h
  obtain ⟨w, r, hw, r', hr, rfl, ht⟩ := h
  obtain ⟨hcolumn, -, rfl⟩ := run?_eq_some_iff.mp hw
  obtain ⟨before, hbefore, -, rfl⟩ := trimStart_eq_iff.mp (exactly?_eq_some_iff.mp hr)
  obtain ⟨after, hafter, -, rfl⟩ := trimStart_eq_iff.mp ht
  refine ⟨before ++ (symbol ++ after), hcolumn, ⟨before, after, hbefore, hafter, rfl⟩, ?_⟩
  simp only [List.append_assoc]

theorem stops_quote (value t : List Char) : Stops isBlank (quote value ++ t) := stops_cons rfl _

theorem readQuoted?_eq_some_iff {value : List Char} :
    readQuoted? s = some value ↔ IsRun (· != '\'') value ∧ ∃ after, s = quote value ++ after := by
  constructor
  · intro h
    simp only [readQuoted?, Option.bind_eq_bind, Option.bind_eq_some_iff, Prod.exists,
      Option.pure_def, Option.some_inj] at h
    obtain ⟨r, hr, w, r', hw, after, hr', rfl⟩ := h
    obtain ⟨hvalue, -, rfl⟩ := run?_eq_some_iff.mp hw
    rw [exactly?_eq_some_iff.mp hr, exactly?_eq_some_iff.mp hr']
    exact ⟨hvalue, after, by simp [quote]⟩
  · rintro ⟨hvalue, after, rfl⟩
    have opened : exactly? ['\''] (quote value ++ after) = some (value ++ ('\'' :: after)) :=
      exactly?_eq_some_iff.mpr (by simp [quote])
    have run : run? (· != '\'') (value ++ ('\'' :: after)) = some (value, '\'' :: after) :=
      run?_eq_some_iff.mpr ⟨hvalue, stops_cons rfl after, rfl⟩
    rw [readQuoted?, opened]
    simp [run, exactly?]

theorem IsKey.stops {key piece : List Char} (hpiece : IsKey key piece) (t : List Char) :
    Stops isWordChar (piece ++ t) := by
  obtain ⟨gap, w, hgap, -, rfl⟩ := hpiece
  rw [List.append_assoc]
  exact hgap.stops (fun _ => isWordChar_eq_false) _

theorem word?_append (hcolumn : IsRun isWordChar column) {key piece : List Char}
    (hpiece : IsKey key piece) (t : List Char) :
    word? (column ++ (piece ++ t)) = some (column, piece ++ t) :=
  run?_append hcolumn.1 hcolumn.2 (hpiece.stops t)

theorem IsKey.notMem {key piece : List Char} (hkey : IsKeyword key) (hpiece : IsKey key piece)
    {c : Char} (blank : isBlank c = false) (sign : (foldCase c).isLower = false) : c ∉ piece := by
  obtain ⟨gap, w, hgap, rfl, rfl⟩ := hpiece
  rw [List.mem_append, not_or]
  exact ⟨hgap.notMem blank, fun mem => hkey.notMem sign (List.mem_map_of_mem mem)⟩

theorem solid_spelling {key w : List Char} (hkey : IsKeyword key) (hw : w.map foldCase = key) :
    Solid w := by
  subst hw
  refine ⟨mt List.map_eq_nil_iff.mpr hkey.1, fun c hc => ?_⟩
  by_contra blank
  rw [Bool.not_eq_false] at blank
  exact hkey.notMem (isLower_foldCase_blank blank) (List.mem_map_of_mem hc)

theorem stops_spelling {key w : List Char} (hkey : IsKeyword key) (hw : w.map foldCase = key)
    (t : List Char) : Stops isBlank (w ++ t) :=
  stops_append (solid_spelling hkey hw).1 (tidy_of_solid (solid_spelling hkey hw)).stops t

/-- White space and a keyword. -/
def readKey? (key s : List Char) : Option (List Char) := (blanks? s).bind (keyword? key)

theorem readKey?_append {key piece : List Char} (hkey : IsKeyword key) (hpiece : IsKey key piece)
    (t : List Char) : readKey? key (piece ++ t) = some t := by
  obtain ⟨gap, w, hgap, hw, rfl⟩ := hpiece
  rw [readKey?, List.append_assoc, blanks?_gap hgap.1 hgap.2 (stops_spelling hkey hw t)]
  exact keyword?_eq_some_iff.mpr ⟨w, hw, rfl⟩

theorem eq_append_of_readKey? {key : List Char} (h : readKey? key s = some t) :
    ∃ piece, IsKey key piece ∧ s = piece ++ t := by
  obtain ⟨r, hr, ht⟩ := Option.bind_eq_some_iff.mp h
  obtain ⟨gap, hgap, -, rfl⟩ := blanks?_eq_some_iff.mp hr
  obtain ⟨w, hw, rfl⟩ := keyword?_eq_some_iff.mp ht
  exact ⟨gap ++ w, ⟨gap, w, hgap, hw, rfl⟩, (List.append_assoc ..).symm⟩

/-- A text without percent signs between two of them, in single quotes. -/
def readNeedle? (s : List Char) : Option (List Char) := do
  let (needle, s) ← run? (· != '%') (← exactly? ['\'', '%'] s)
  let _ ← exactly? ['%', '\''] s
  return needle

theorem readNeedle?_eq_some_iff {needle : List Char} : readNeedle? s = some needle ↔
    IsRun (· != '%') needle ∧ ∃ after, s = quote (percent needle) ++ after := by
  constructor
  · intro h
    simp only [readNeedle?, Option.bind_eq_bind, Option.bind_eq_some_iff, Prod.exists,
      Option.pure_def, Option.some_inj] at h
    obtain ⟨r, hr, w, r', hw, after, hr', rfl⟩ := h
    obtain ⟨hneedle, -, rfl⟩ := run?_eq_some_iff.mp hw
    rw [exactly?_eq_some_iff.mp hr, exactly?_eq_some_iff.mp hr']
    exact ⟨hneedle, after, by simp [quote, percent]⟩
  · rintro ⟨hneedle, after, rfl⟩
    have opened : exactly? ['\'', '%'] (quote (percent needle) ++ after) =
        some (needle ++ ('%' :: '\'' :: after)) :=
      exactly?_eq_some_iff.mpr (by simp [quote, percent])
    have run : run? (· != '%') (needle ++ ('%' :: '\'' :: after)) =
        some (needle, '%' :: '\'' :: after) :=
      run?_eq_some_iff.mpr ⟨hneedle, stops_cons rfl _, rfl⟩
    rw [readNeedle?, opened]
    simp [run, exactly?]

theorem isBlank_of_isDecimalDigit {c : Char} (h : isDecimalDigit c) : isBlank c = false := by
  by_contra blank
  rw [Bool.not_eq_false] at blank
  exact Bool.eq_false_iff.mp (of_isBlank blank (isDecimalDigit · = false) (by decide +kernel)) h

end Pieces

/-- Outside quotes no form has a point in it. -/
theorem quote_mem_or_point_notMem {p : Predicate} {form : List Char} (spelled : Spelled p form) :
    '\'' ∈ form ∨ '.' ∉ form := by
  cases spelled with
  | textEq | textNe | contains =>
    left
    simp [quote]
  | numberEq hcolumn hop hdigits =>
    right
    simp only [List.mem_append, not_or]
    exact ⟨hcolumn.notMem rfl, hop.notMem rfl (by decide), hdigits.notMem rfl⟩
  | compare relation hcolumn hop hdigits =>
    right
    simp only [List.mem_append, not_or]
    exact ⟨hcolumn.notMem rfl, hop.notMem rfl (by cases relation <;> decide), hdigits.notMem rfl⟩
  | isNull hcolumn his hnull =>
    right
    simp only [List.mem_append, not_or]
    exact ⟨hcolumn.notMem rfl, his.notMem (by decide) rfl rfl, hnull.notMem (by decide) rfl rfl⟩
  | isNotNull hcolumn his hnot hnull =>
    right
    simp only [List.mem_append, not_or]
    exact ⟨hcolumn.notMem rfl, his.notMem (by decide) rfl rfl, hnot.notMem (by decide) rfl rfl,
      hnull.notMem (by decide) rfl rfl⟩
  | @boolEq b column op word hcolumn hop hword =>
    right
    have keyword : IsKeyword (word.map foldCase) := by
      rw [hword]
      cases b <;> decide
    simp only [List.mem_append, not_or]
    exact ⟨hcolumn.notMem rfl, hop.notMem rfl (by decide),
      fun mem => keyword.notMem rfl (List.mem_map_of_mem mem)⟩

/-- The text begins with the form, and a number at the end of the form is complete. -/
def IsAtFront (p : Predicate) (s : List Char) : Prop :=
  ∃ form after, s = form ++ after ∧ Spelled p form ∧
    (p.kind.endsInNumber → Stops isDecimalDigit after)

theorem readContains?_eq (s : List Char) : readContains? s =
    (word? s).bind fun part => (readKey? "like".toList part.2).bind fun r =>
      (blanks? r).bind fun r => (readNeedle? r).bind fun needle =>
        some (.contains (String.ofList part.1) (String.ofList (lower needle))) := by
  simp [readContains?, readKey?, readNeedle?, Option.bind_assoc]

theorem readIsNull?_eq (s : List Char) : readIsNull? s =
    (word? s).bind fun part => (readKey? "is".toList part.2).bind fun r =>
      (readKey? "null".toList r).bind fun _ => some (.isNull (String.ofList part.1)) := by
  simp [readIsNull?, readKey?, Option.bind_assoc]

theorem readIsNotNull?_eq (s : List Char) : readIsNotNull? s =
    (word? s).bind fun part => (readKey? "is".toList part.2).bind fun r =>
      (readKey? "not".toList r).bind fun r =>
        (readKey? "null".toList r).bind fun _ => some (.isNotNull (String.ofList part.1)) := by
  simp [readIsNotNull?, readKey?, Option.bind_assoc]

variable {k : Kind} {p : Predicate} {s : List Char}

theorem isAtFront_of_read? (h : k.read? s = some p) : p.kind = k ∧ p.IsAtFront s := by
  cases k with
  | textEq =>
    simp only [Kind.read?, readTextEq?, Option.bind_eq_bind, Option.bind_eq_some_iff, Prod.exists,
      Option.pure_def, Option.some_inj] at h
    obtain ⟨column, r, hr, value, hv, rfl⟩ := h
    obtain ⟨op, hcolumn, hop, rfl⟩ := eq_append_of_readColumn? hr
    obtain ⟨hvalue, after, rfl⟩ := readQuoted?_eq_some_iff.mp hv
    exact ⟨rfl, _, after, by simp only [List.append_assoc], .textEq hcolumn hop hvalue, nofun⟩
  | numberEq =>
    simp only [Kind.read?, readNumberEq?, Option.bind_eq_bind, Option.bind_eq_some_iff,
      Prod.exists, Option.pure_def, Option.some_inj] at h
    obtain ⟨column, r, hr, digits, after, hd, rfl⟩ := h
    obtain ⟨op, hcolumn, hop, rfl⟩ := eq_append_of_readColumn? hr
    obtain ⟨hdigits, stops, rfl⟩ := run?_eq_some_iff.mp hd
    exact ⟨rfl, _, after, by simp only [List.append_assoc], .numberEq hcolumn hop hdigits,
      fun _ => stops⟩
  | textNe =>
    simp only [Kind.read?, readTextNe?, Option.bind_eq_bind, Option.bind_eq_some_iff, Prod.exists,
      Option.pure_def, Option.some_inj] at h
    obtain ⟨column, r, hr, value, hv, rfl⟩ := h
    obtain ⟨op, hcolumn, hop, rfl⟩ := eq_append_of_readColumn? hr
    obtain ⟨hvalue, after, rfl⟩ := readQuoted?_eq_some_iff.mp hv
    exact ⟨rfl, _, after, by simp only [List.append_assoc], .textNe hcolumn hop hvalue, nofun⟩
  | compare relation =>
    simp only [Kind.read?, readCompare?, Option.bind_eq_bind, Option.bind_eq_some_iff,
      Prod.exists, Option.pure_def, Option.some_inj] at h
    obtain ⟨column, r, hr, digits, after, hd, rfl⟩ := h
    obtain ⟨op, hcolumn, hop, rfl⟩ := eq_append_of_readColumn? hr
    obtain ⟨hdigits, stops, rfl⟩ := run?_eq_some_iff.mp hd
    exact ⟨rfl, _, after, by simp only [List.append_assoc], .compare relation hcolumn hop hdigits,
      fun _ => stops⟩
  | contains =>
    simp only [Kind.read?, readContains?_eq, Option.bind_eq_some_iff, Prod.exists,
      Option.some_inj] at h
    obtain ⟨column, r, hr, r', hl, r'', hg, needle, hn, rfl⟩ := h
    obtain ⟨hcolumn, -, rfl⟩ := run?_eq_some_iff.mp hr
    obtain ⟨like, hlike, rfl⟩ := eq_append_of_readKey? hl
    obtain ⟨gap, hgap, -, rfl⟩ := blanks?_eq_some_iff.mp hg
    obtain ⟨hneedle, after, rfl⟩ := readNeedle?_eq_some_iff.mp hn
    exact ⟨rfl, _, after, by simp only [List.append_assoc], .contains hcolumn hlike hgap hneedle,
      nofun⟩
  | isNull =>
    simp only [Kind.read?, readIsNull?_eq, Option.bind_eq_some_iff, Prod.exists,
      Option.some_inj] at h
    obtain ⟨column, r, hr, r', hi, after, hn, rfl⟩ := h
    obtain ⟨hcolumn, -, rfl⟩ := run?_eq_some_iff.mp hr
    obtain ⟨is, his, rfl⟩ := eq_append_of_readKey? hi
    obtain ⟨null, hnull, rfl⟩ := eq_append_of_readKey? hn
    exact ⟨rfl, _, after, by simp only [List.append_assoc], .isNull hcolumn his hnull, nofun⟩
  | isNotNull =>
    simp only [Kind.read?, readIsNotNull?_eq, Option.bind_eq_some_iff, Prod.exists,
      Option.some_inj] at h
    obtain ⟨column, r, hr, r', hi, r'', ho, after, hn, rfl⟩ := h
    obtain ⟨hcolumn, -, rfl⟩ := run?_eq_some_iff.mp hr
    obtain ⟨is, his, rfl⟩ := eq_append_of_readKey? hi
    obtain ⟨not, hnot, rfl⟩ := eq_append_of_readKey? ho
    obtain ⟨null, hnull, rfl⟩ := eq_append_of_readKey? hn
    exact ⟨rfl, _, after, by simp only [List.append_assoc], .isNotNull hcolumn his hnot hnull,
      nofun⟩
  | boolEq =>
    simp only [Kind.read?, readBoolEq?, Option.bind_eq_bind, Option.bind_eq_some_iff,
      Prod.exists] at h
    obtain ⟨column, r, hr, h⟩ := h
    obtain ⟨op, hcolumn, hop, rfl⟩ := eq_append_of_readColumn? hr
    split at h
    · rename_i after found
      obtain rfl := Option.some_inj.mp h
      obtain ⟨word, hword, rfl⟩ := keyword?_eq_some_iff.mp found
      exact ⟨rfl, _, after, by simp only [List.append_assoc], .boolEq true hcolumn hop hword,
        nofun⟩
    · simp only [Option.bind_eq_some_iff, Option.pure_def, Option.some_inj] at h
      obtain ⟨after, found, rfl⟩ := h
      obtain ⟨word, hword, rfl⟩ := keyword?_eq_some_iff.mp found
      exact ⟨rfl, _, after, by simp only [List.append_assoc], .boolEq false hcolumn hop hword,
        nofun⟩

theorem keyword?_eq_none_of_ne {key word t : List Char} {k c : Char} (hne : k ≠ c)
    (hword : word.map foldCase = c :: t) (r : List Char) :
    keyword? (k :: key) (word ++ r) = none := by
  obtain ⟨d, v, rfl, hd, -⟩ := List.map_eq_cons_iff.mp hword
  rw [List.cons_append, keyword?, if_neg (hd ▸ hne.symm)]

theorem read?_of_spelled {form after : List Char} (spelled : Spelled p form)
    (complete : p.kind.endsInNumber → Stops isDecimalDigit after) :
    p.kind.read? (form ++ after) = some p := by
  cases spelled with
  | @textEq column op value hcolumn hop hvalue =>
    have first := readColumn?_append isSymbol_eq hcolumn hop (stops_quote value after)
    have behind := readQuoted?_eq_some_iff.mpr ⟨hvalue, after, rfl⟩
    simp only [kind, Kind.read?, readTextEq?, List.append_assoc, first, behind,
      Option.bind_eq_bind, Option.bind_some, Option.pure_def]
  | @textNe column op value hcolumn hop hvalue =>
    have first := readColumn?_append isSymbol_ne hcolumn hop (stops_quote value after)
    have behind := readQuoted?_eq_some_iff.mpr ⟨hvalue, after, rfl⟩
    simp only [kind, Kind.read?, readTextNe?, List.append_assoc, first, behind,
      Option.bind_eq_bind, Option.bind_some, Option.pure_def]
  | @numberEq column op digits hcolumn hop hdigits =>
    have stops := hdigits.stops (fun _ => isBlank_of_isDecimalDigit) after
    have first := readColumn?_append isSymbol_eq hcolumn hop stops
    have behind := run?_append hdigits.1 hdigits.2 (complete rfl)
    simp only [kind, Kind.read?, readNumberEq?, List.append_assoc, first, digits?, behind,
      Option.bind_eq_bind, Option.bind_some, Option.pure_def]
  | @compare relation column op digits hcolumn hop hdigits =>
    have stops := hdigits.stops (fun _ => isBlank_of_isDecimalDigit) after
    have first := readColumn?_append (isSymbol_symbol relation) hcolumn hop stops
    have behind := run?_append hdigits.1 hdigits.2 (complete rfl)
    simp only [kind, Kind.read?, readCompare?, List.append_assoc, first, digits?, behind,
      Option.bind_eq_bind, Option.bind_some, Option.pure_def]
  | @contains column like gap needle hcolumn hlike hgap hneedle =>
    have first := word?_append hcolumn hlike (gap ++ (quote (percent needle) ++ after))
    have second := readKey?_append (by decide) hlike (gap ++ (quote (percent needle) ++ after))
    have third := blanks?_gap hgap.1 hgap.2 (stops_quote (percent needle) after)
    have last := readNeedle?_eq_some_iff.mpr ⟨hneedle, after, rfl⟩
    simp only [kind, Kind.read?, readContains?_eq, List.append_assoc, first, second, third, last,
      Option.bind_some]
  | @isNull column is null hcolumn his hnull =>
    have first := word?_append hcolumn his (null ++ after)
    have second := readKey?_append (by decide) his (null ++ after)
    have last := readKey?_append (by decide) hnull after
    simp only [kind, Kind.read?, readIsNull?_eq, List.append_assoc, first, second, last,
      Option.bind_some]
  | @isNotNull column is not null hcolumn his hnot hnull =>
    have first := word?_append hcolumn his (not ++ (null ++ after))
    have second := readKey?_append (by decide) his (not ++ (null ++ after))
    have third := readKey?_append (by decide) hnot (null ++ after)
    have last := readKey?_append (by decide) hnull after
    simp only [kind, Kind.read?, readIsNotNull?_eq, List.append_assoc, first, second, third, last,
      Option.bind_some]
  | @boolEq b column op word hcolumn hop hword =>
    have keyword : IsKeyword (if b then "true" else "false").toList := by cases b <;> decide
    have first := readColumn?_append isSymbol_eq hcolumn hop
      (stops_spelling keyword hword after)
    cases b with
    | true =>
      have behind : keyword? "true".toList (word ++ after) = some after :=
        keyword?_eq_some_iff.mpr ⟨word, hword, rfl⟩
      simp only [kind, Kind.read?, readBoolEq?, List.append_assoc, first, behind,
        Option.bind_eq_bind, Option.bind_some, Option.pure_def]
    | false =>
      have other : keyword? "true".toList (word ++ after) = none :=
        keyword?_eq_none_of_ne (by decide) hword after
      have behind : keyword? "false".toList (word ++ after) = some after :=
        keyword?_eq_some_iff.mpr ⟨word, hword, rfl⟩
      simp only [kind, Kind.read?, readBoolEq?, List.append_assoc, first, other, behind,
        Option.bind_eq_bind, Option.bind_some, Option.pure_def]

theorem read?_eq_some_iff : k.read? s = some p ↔ p.kind = k ∧ p.IsAtFront s := by
  constructor
  · exact isAtFront_of_read?
  · rintro ⟨rfl, form, after, rfl, spelled, complete⟩
    exact read?_of_spelled spelled complete

end Predicate

end SqlTutor.Query

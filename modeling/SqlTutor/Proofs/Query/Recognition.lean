import SqlTutor.Proofs.Double.Nearest
import SqlTutor.Proofs.Text.Separators
import SqlTutor.Query.Predicate

/-!
Single conditions as they are written, and what is recognized in them. A form may stand anywhere in
a text and ten forms are tried in order, so it is shown of each written condition that the forms
before its own are found nowhere in it. Then the condition is read back, with the number in it as
the nearest double.
-/
namespace SqlTutor.Query

open Text

/-- A column in letters of any script. -/
structure Column where
  text : List Char
  ne_nil : text ≠ []
  chars : ∀ c ∈ text, isWordChar c

/-- The column LIKE a text between percent signs. -/
def Column.like (c : Column) (needle : List Char) : List Char :=
  c.text ++ (" LIKE '%".toList ++ (needle ++ "%'".toList))

/-- A text between quotes in which some characters, and `AND` between white space, do not occur. -/
structure Literal (without : List Char) where
  text : List Char
  ne_nil : text ≠ []
  chars : ∀ c ∈ without, c ∉ text
  clear : Clear "and".toList text

inductive Form where
  | textEq (column : Column) (value : Literal ['\''])
  | numberEq (column : Column) (number : Nat)
  | textNe (column : Column) (value : Literal ['\'', '='])
  | compare (column : Column) (op : CompareOp) (number : Nat)
  | contains (column : Column) (value : Literal ['%', '=', '<', '>'])
  | isNull (column : Column)
  | isNotNull (column : Column)
  | boolEq (column : Column) (value : Bool)

namespace Form

def column : Form → Column
  | textEq c _ | numberEq c _ | textNe c _ | compare c _ _ | contains c _ | isNull c
  | isNotNull c | boolEq c _ => c

/-- What stands behind the column. -/
def tail : Form → List Char
  | textEq _ v => " = '".toList ++ (v.text ++ ['\''])
  | numberEq _ n => " = ".toList ++ Nat.toDigits 10 n
  | textNe _ v => " != '".toList ++ (v.text ++ ['\''])
  | compare _ op n => ' ' :: (op.symbol ++ ' ' :: Nat.toDigits 10 n)
  | contains _ v => " LIKE '%".toList ++ (v.text ++ "%'".toList)
  | isNull _ => " IS NULL".toList
  | isNotNull _ => " IS NOT NULL".toList
  | boolEq _ true => " = true".toList
  | boolEq _ false => " = false".toList

def text (f : Form) : List Char := f.column.text ++ f.tail

def predicate : Form → Predicate
  | textEq c v => .textEq (String.ofList c.text) (String.ofList v.text)
  | numberEq c n => .numberEq (String.ofList c.text) (Double.ofNat n)
  | textNe c v => .textNe (String.ofList c.text) (String.ofList v.text)
  | compare c op n => .compare (String.ofList c.text) op (Double.ofNat n)
  | contains c v => .contains (String.ofList c.text) (String.ofList (lower v.text))
  | isNull c => .isNull (String.ofList c.text)
  | isNotNull c => .isNotNull (String.ofList c.text)
  | boolEq c b => .boolEq (String.ofList c.text) b

end Form

namespace Predicate

theorem numberOf_toDigits (n : Nat) : numberOf (Nat.toDigits 10 n) = Double.ofNat n := by
  have digits : (Nat.toDigits 10 n).all Char.isDigit := by
    rw [List.all_eq_true]
    exact fun c hc => isDigit_of_mem_toDigits hc
  rw [numberOf, if_pos digits, Nat.ofDigitChars_ten_toDigits, Decimal.toDouble_ofNat]

theorem word?_column (column : Column) {t : List Char} (ht : Stops isWordChar t) :
    word? (column.text ++ t) = some (column.text, t) := run?_append column.ne_nil column.chars ht

theorem readColumn?_written (column : Column) {symbol t : List Char} (hsymbol : symbol ≠ [])
    (hstops : Stops isBlank symbol) (ht : Stops isBlank t) :
    readColumn? symbol (column.text ++ ' ' :: (symbol ++ ' ' :: t)) = some (column.text, t) := by
  have space : Stops isWordChar (' ' :: (symbol ++ ' ' :: t)) := stops_cons rfl _
  simp only [readColumn?, word?_column column space, bind, Option.bind_some,
    trimStart_space (stops_append hsymbol hstops _), exactly?_append, trimStart_space ht, pure]

theorem readQuoted?_written {without : List Char} (v : Literal without) (h : '\'' ∈ without) :
    readQuoted? ('\'' :: (v.text ++ ['\''])) = some v.text := by
  have inside : ∀ c ∈ v.text, c != '\'' := by
    intro c hc
    rw [bne_iff_ne]
    rintro rfl
    exact v.chars '\'' h hc
  have stop : Stops (· != '\'') ['\''] := stops_cons rfl _
  simp only [readQuoted?, exactly?, if_true, bind, Option.bind_some,
    run?_append v.ne_nil inside stop, pure]

theorem readTextEq?_written (c : Column) (v : Literal ['\'']) :
    readTextEq? (Form.textEq c v).text = some (Form.textEq c v).predicate := by
  have column : readColumn? ['='] (Form.textEq c v).text =
      some (c.text, '\'' :: (v.text ++ ['\''])) :=
    readColumn?_written c (List.cons_ne_nil _ _) (stops_cons rfl _) (stops_cons rfl _)
  simp only [readTextEq?, column, readQuoted?_written v List.mem_cons_self, bind, pure,
    Option.bind_some, Form.predicate]

theorem readNumberEq?_written (c : Column) (n : Nat) :
    readNumberEq? (Form.numberEq c n).text = some (Form.numberEq c n).predicate := by
  have column : readColumn? ['='] (Form.numberEq c n).text = some (c.text, Nat.toDigits 10 n) :=
    readColumn?_written c (List.cons_ne_nil _ _) (stops_cons rfl _) (stops_toDigits n)
  simp only [readNumberEq?, column, digits?_toDigits, numberOf_toDigits, bind, pure,
    Option.bind_some, Form.predicate]

theorem readTextNe?_written (c : Column) (v : Literal ['\'', '=']) :
    readTextNe? (Form.textNe c v).text = some (Form.textNe c v).predicate := by
  have column : readColumn? ['!', '='] (Form.textNe c v).text =
      some (c.text, '\'' :: (v.text ++ ['\''])) :=
    readColumn?_written c (List.cons_ne_nil _ _) (stops_cons rfl _) (stops_cons rfl _)
  simp only [readTextNe?, column, readQuoted?_written v List.mem_cons_self, bind, pure,
    Option.bind_some, Form.predicate]

theorem readCompare?_written (c : Column) (op : CompareOp) (n : Nat) :
    readCompare? op (Form.compare c op n).text = some (Form.compare c op n).predicate := by
  have symbol : op.symbol ≠ [] ∧ Stops isBlank op.symbol := by
    cases op <;> exact ⟨List.cons_ne_nil _ _, stops_cons rfl _⟩
  have column : readColumn? op.symbol (Form.compare c op n).text =
      some (c.text, Nat.toDigits 10 n) :=
    readColumn?_written c symbol.1 symbol.2 (stops_toDigits n)
  simp only [readCompare?, column, digits?_toDigits, numberOf_toDigits, bind, pure,
    Option.bind_some, Form.predicate]

/-- A needle may hold anything but percent signs. -/
theorem readContains?_like (c : Column) {needle : List Char} (nonempty : needle ≠ [])
    (percent : '%' ∉ needle) : readContains? (c.like needle) =
      some (.contains (String.ofList c.text) (String.ofList (lower needle))) := by
  have column : word? (c.like needle) =
      some (c.text, " LIKE '%".toList ++ (needle ++ "%'".toList)) :=
    word?_column c (stops_cons rfl _)
  have inside : ∀ d ∈ needle, d != '%' := by
    intro d hd
    rw [bne_iff_ne]
    rintro rfl
    exact percent hd
  have taken : run? (· != '%') (needle ++ "%'".toList) = some (needle, "%'".toList) :=
    run?_append nonempty inside (stops_cons rfl _)
  have gap : ∀ t, blanks? (" LIKE '%".toList ++ t) = some ("LIKE '%".toList ++ t) := fun _ => rfl
  have like : ∀ t, keyword? "like".toList ("LIKE '%".toList ++ t) = some (" '%".toList ++ t) :=
    fun _ => rfl
  have quote : ∀ t, (blanks? (" '%".toList ++ t)).bind (exactly? ['\'', '%']) = some t :=
    fun _ => rfl
  have close : exactly? ['%', '\''] "%'".toList = some [] := rfl
  simp only [readContains?, column, gap, like, bind, Option.bind_some]
  rw [← Option.bind_assoc, quote]
  simp only [Option.bind_some, taken, close, pure]

theorem readIsNull?_written (c : Column) :
    readIsNull? (Form.isNull c).text = some (Form.isNull c).predicate := by
  have column : word? (Form.isNull c).text = some (c.text, " IS NULL".toList) :=
    word?_column c (stops_cons rfl _)
  rw [readIsNull?, column]
  rfl

theorem readIsNotNull?_written (c : Column) :
    readIsNotNull? (Form.isNotNull c).text = some (Form.isNotNull c).predicate := by
  have column : word? (Form.isNotNull c).text = some (c.text, " IS NOT NULL".toList) :=
    word?_column c (stops_cons rfl _)
  rw [readIsNotNull?, column]
  rfl

theorem readBoolEq?_written (c : Column) (b : Bool) :
    readBoolEq? (Form.boolEq c b).text = some (Form.boolEq c b).predicate := by
  cases b with
  | true =>
    have column : readColumn? ['='] (Form.boolEq c true).text = some (c.text, "true".toList) :=
      readColumn?_written c (List.cons_ne_nil _ _) (stops_cons rfl _) (stops_cons rfl _)
    rw [readBoolEq?, column]
    rfl
  | false =>
    have column : readColumn? ['='] (Form.boolEq c false).text = some (c.text, "false".toList) :=
      readColumn?_written c (List.cons_ne_nil _ _) (stops_cons rfl _) (stops_cons rfl _)
    rw [readBoolEq?, column]
    rfl

/-- A form begins with a word, and it does not matter with which one. -/
def TakesWord (read : List Char → Option Predicate) : Prop :=
  ∃ next, (∀ s, read s = (word? s).bind next) ∧ ∀ w v t, next (w, t) = none → next (v, t) = none

theorem takesWord_of_column {read : List Char → Option Predicate} {symbol : List Char}
    {next : List Char × List Char → Option Predicate}
    (begins : ∀ s, read s = (readColumn? symbol s).bind next)
    (byRest : ∀ w v t, next (w, t) = none → next (v, t) = none) : TakesWord read := by
  refine ⟨fun part => (exactly? symbol (trimStart part.2)).bind fun t =>
    next (part.1, trimStart t), fun s => ?_, fun w v t => ?_⟩
  · rw [begins, readColumn?]
    simp only [bind, pure, Option.bind_assoc, Option.bind_some]
  · simp only [Option.bind_eq_none_iff]
    exact fun h r hr => byRest _ _ _ (h r hr)

theorem takesWord {read : List Char → Option Predicate} (h : read ∈ forms) : TakesWord read := by
  simp only [forms, List.mem_cons, List.not_mem_nil, or_false] at h
  rcases h with rfl | rfl | rfl | rfl | rfl | rfl | rfl | rfl | rfl | rfl
  · exact takesWord_of_column (fun _ => rfl) (by simp)
  · exact takesWord_of_column (fun _ => rfl) (by simp)
  · exact takesWord_of_column (fun _ => rfl) (by simp)
  · exact takesWord_of_column (fun _ => rfl) (by simp)
  · exact takesWord_of_column (fun _ => rfl) (by simp)
  · exact takesWord_of_column (fun _ => rfl) (by simp)
  · exact ⟨_, fun _ => rfl, by simp⟩
  · exact ⟨_, fun _ => rfl, by simp⟩
  · exact ⟨_, fun _ => rfl, by simp⟩
  · refine takesWord_of_column (fun _ => rfl) (fun w v t => ?_)
    dsimp only
    cases keyword? "true".toList t <;> simp

section Nowhere

variable {read : List Char → Option Predicate} {t : List Char}

/-- A form that fails behind one word fails behind each, and within it. -/
theorem findFirst?_word_append (hread : TakesWord read) (ht : Stops isWordChar t)
    (hfail : read ('c' :: t) = none) {w : List Char} (hw : ∀ c ∈ w, isWordChar c) :
    findFirst? read (w ++ t) = findFirst? read t := by
  obtain ⟨next, begins, byRest⟩ := hread
  have sample : word? ('c' :: t) = some (['c'], t) :=
    run?_append (List.cons_ne_nil 'c' []) (by decide) ht
  rw [begins, sample, Option.bind_some] at hfail
  induction w with
  | nil => rfl
  | cons c w ih =>
    have here : read (c :: w ++ t) = none := by
      rw [begins, word?, run?_append (List.cons_ne_nil c w) hw ht, Option.bind_some]
      exact byRest _ _ _ hfail
    rw [List.cons_append, findFirst?, ← List.cons_append, here, Option.none_or]
    exact ih fun d hd => hw d (List.mem_cons_of_mem c hd)

theorem findFirst?_nonword_append (hread : TakesWord read) {s : List Char}
    (hs : ∀ c ∈ s, isWordChar c = false) : findFirst? read (s ++ t) = findFirst? read t := by
  obtain ⟨next, begins, -⟩ := hread
  induction s with
  | nil => rfl
  | cons c s ih =>
    have stuck : word? (c :: s ++ t) = none := by
      simp [word?, run?, hs c List.mem_cons_self]
    rw [List.cons_append, findFirst?, ← List.cons_append, begins, stuck, Option.bind_none,
      Option.none_or, ih fun d hd => hs d (List.mem_cons_of_mem c hd)]

theorem findFirst?_nil (hread : TakesWord read) : findFirst? read [] = none := by
  obtain ⟨next, begins, -⟩ := hread
  rw [findFirst?, begins]
  rfl

theorem findFirst?_digits (hread : TakesWord read) (hend : read ['c'] = none) (n : Nat) :
    findFirst? read (Nat.toDigits 10 n) = none := by
  have skip := findFirst?_word_append (t := []) hread (by simp [Stops]) hend
    fun c hc => isWordChar_of_mem_toDigits (n := n) hc
  rw [List.append_nil] at skip
  rw [skip, findFirst?_nil hread]

theorem exactly?_eq_none {symbol : List Char} {q : Char} (hq : q ∈ symbol) {s : List Char}
    (hs : q ∉ s) : exactly? symbol s = none := by
  induction symbol generalizing s with
  | nil => simp at hq
  | cons k ks ih =>
    cases s with
    | nil => rfl
    | cons c s =>
      rw [exactly?]
      split
      · rename_i same
        rcases List.mem_cons.mp hq with rfl | later
        · exact absurd (same ▸ List.mem_cons_self) hs
        · exact ih later fun mem => hs (List.mem_cons_of_mem c mem)
      · rfl

/-- A form with a symbol is not found where one of its characters is missing. -/
theorem findFirst?_eq_none_of_notMem {symbol : List Char}
    {next : List Char × List Char → Option Predicate}
    (begins : ∀ s, read s = (readColumn? symbol s).bind next) {q : Char} (hq : q ∈ symbol)
    {s : List Char} (hs : q ∉ s) : findFirst? read s = none := by
  have nowhere : ∀ r, q ∉ r → read r = none := by
    intro r hr
    rw [begins]
    unfold readColumn? word? run?
    cases r.takeWhile isWordChar with
    | nil => rfl
    | cons c w =>
      have rest : q ∉ trimStart (r.dropWhile isWordChar) := by
        intro mem
        have inner := (List.dropWhile_suffix isBlank).subset mem
        exact hr ((List.dropWhile_suffix isWordChar).subset inner)
      simp only [bind, Option.bind_some, exactly?_eq_none hq rest, Option.bind_none]
  exact findFirst?_eq_none fun r hr => nowhere r fun mem => hs (hr.subset mem)

end Nowhere

/-- A form is recognized if it is found and those before it are found nowhere. -/
theorem ofText?_of_findFirst? (before : List (List Char → Option Predicate))
    {read : List Char → Option Predicate} {after : List (List Char → Option Predicate)}
    (hforms : forms = before ++ read :: after) {s : List Char} {p : Predicate}
    (hbefore : ∀ other ∈ before, findFirst? other s = none) (hread : findFirst? read s = some p) :
    ofText? s = some p := by
  have none : before.findSome? (fun other => findFirst? other s) = none :=
    List.findSome?_eq_none_iff.mpr hbefore
  rw [ofText?_eq_findSome?, hforms, List.findSome?_append, none, Option.none_or,
    List.findSome?_cons, hread]

/-- A form is recognized where it begins if those before it are found nowhere. -/
theorem ofText?_of_read (before : List (List Char → Option Predicate))
    {read : List Char → Option Predicate} {after : List (List Char → Option Predicate)}
    (hforms : forms = before ++ read :: after) {s : List Char} {p : Predicate}
    (hbefore : ∀ other ∈ before, findFirst? other s = none) (hread : read s = some p) :
    ofText? s = some p :=
  ofText?_of_findFirst? before hforms hbefore (findFirst?_eq_some hread)

/-- Forms that fail behind the column and in the rest of the text are found nowhere. -/
theorem nowhere_of_tail {n : Nat} {t : List Char} (ht : Stops isWordChar t)
    (h : ∀ read ∈ forms.take n, read ('c' :: t) = none ∧ findFirst? read t = none) (c : Column) :
    ∀ read ∈ forms.take n, findFirst? read (c.text ++ t) = none := by
  intro read hread
  obtain ⟨fails, rest⟩ := h read hread
  rw [findFirst?_word_append (takesWord (List.mem_of_mem_take hread)) ht fails c.chars, rest]

theorem ofText?_isNull (c : Column) :
    ofText? (Form.isNull c).text = some (Form.isNull c).predicate :=
  ofText?_of_read (forms.take 7) rfl (nowhere_of_tail (stops_cons rfl _) (by decide) c)
    (readIsNull?_written c)

theorem ofText?_isNotNull (c : Column) :
    ofText? (Form.isNotNull c).text = some (Form.isNotNull c).predicate :=
  ofText?_of_read (forms.take 8) rfl (nowhere_of_tail (stops_cons rfl _) (by decide) c)
    (readIsNotNull?_written c)

theorem ofText?_boolEq (c : Column) (b : Bool) :
    ofText? (Form.boolEq c b).text = some (Form.boolEq c b).predicate := by
  refine ofText?_of_read (forms.take 9) rfl ?_ (readBoolEq?_written c b)
  cases b with
  | true => exact nowhere_of_tail (stops_cons rfl _) (by decide) c
  | false => exact nowhere_of_tail (stops_cons rfl _) (by decide) c

/-- Behind the symbols only a number is left, in which no form is found. -/
theorem nowhere_of_number {n : Nat} {s : List Char} (hs : s ≠ [])
    (hnonword : ∀ c ∈ s, isWordChar c = false) (number : Nat)
    (h : ∀ read ∈ forms.take n, read ('c' :: (s ++ Nat.toDigits 10 number)) = none) (c : Column) :
    ∀ read ∈ forms.take n, findFirst? read (c.text ++ (s ++ Nat.toDigits 10 number)) = none := by
  have ends : ∀ read ∈ forms, read ['c'] = none := by decide
  have stops : Stops isWordChar (s ++ Nat.toDigits 10 number) := by
    obtain ⟨d, s, rfl⟩ := List.exists_cons_of_ne_nil hs
    exact stops_cons (hnonword d List.mem_cons_self) _
  refine nowhere_of_tail stops (fun read hread => ⟨h read hread, ?_⟩) c
  have mem := List.mem_of_mem_take hread
  rw [findFirst?_nonword_append (takesWord mem) hnonword,
    findFirst?_digits (takesWord mem) (ends read mem)]

theorem nowhere_numberEq (c : Column) (n : Nat) :
    ∀ read ∈ forms.take 1, findFirst? read (Form.numberEq c n).text = none := by
  refine nowhere_of_number (s := " = ".toList) (by decide) (by decide) n (fun read hread => ?_) c
  obtain rfl : read = readTextEq? := by simpa [forms] using hread
  have noQuote : '\'' ∉ Nat.toDigits 10 n := notMem_toDigits (by decide) n
  have column : readColumn? ['='] ('c' :: (" = ".toList ++ Nat.toDigits 10 n)) =
      some (['c'], Nat.toDigits 10 n) :=
    readColumn?_written ⟨['c'], by decide, by decide⟩ (List.cons_ne_nil _ _) (stops_cons rfl _)
      (stops_toDigits n)
  simp only [readTextEq?, column, readQuoted?, exactly?_eq_none List.mem_cons_self noQuote, bind,
    Option.bind_some, Option.bind_none]

theorem ofText?_numberEq (c : Column) (n : Nat) :
    ofText? (Form.numberEq c n).text = some (Form.numberEq c n).predicate :=
  ofText?_of_read (forms.take 1) rfl (nowhere_numberEq c n) (readNumberEq?_written c n)

theorem ofText?_compare (c : Column) (op : CompareOp) (n : Nat) :
    ofText? (Form.compare c op n).text = some (Form.compare c op n).predicate := by
  have read := readCompare?_written c op n
  cases op with
  | greater =>
    refine ofText?_of_read (forms.take 3) rfl (nowhere_of_number (s := " > ".toList) (by decide)
      (by decide) n (fun read hread => ?_) c) read
    simp only [forms, List.take, List.mem_cons, List.not_mem_nil, or_false] at hread
    rcases hread with rfl | rfl | rfl <;> rfl
  | less =>
    refine ofText?_of_read (forms.take 4) rfl (nowhere_of_number (s := " < ".toList) (by decide)
      (by decide) n (fun read hread => ?_) c) read
    simp only [forms, List.take, List.mem_cons, List.not_mem_nil, or_false] at hread
    rcases hread with rfl | rfl | rfl | rfl <;> rfl
  | atLeast =>
    refine ofText?_of_read (forms.take 5) rfl (nowhere_of_number (s := " >= ".toList) (by decide)
      (by decide) n (fun read hread => ?_) c) read
    simp only [forms, List.take, List.mem_cons, List.not_mem_nil, or_false] at hread
    rcases hread with rfl | rfl | rfl | rfl | rfl <;> rfl

theorem ofText?_textEq (c : Column) (v : Literal ['\'']) :
    ofText? (Form.textEq c v).text = some (Form.textEq c v).predicate :=
  ofText?_of_read [] rfl (by simp) (readTextEq?_written c v)

theorem ofText?_textNe (c : Column) (v : Literal ['\'', '=']) :
    ofText? (Form.textNe c v).text = some (Form.textNe c v).predicate := by
  refine ofText?_of_read (forms.take 2) rfl (nowhere_of_tail (stops_cons rfl _)
    (fun read hread => ?_) c) (readTextNe?_written c v)
  have noSign : '=' ∉ v.text ++ ['\''] := by
    have inside := v.chars '=' (by decide)
    simpa using inside
  have front : ∀ c ∈ " != '".toList, isWordChar c = false := by decide
  have rest : findFirst? read (" != '".toList ++ (v.text ++ ['\''])) = none := by
    rw [findFirst?_nonword_append (takesWord (List.mem_of_mem_take hread)) front]
    simp only [forms, List.take, List.mem_cons, List.not_mem_nil, or_false] at hread
    rcases hread with rfl | rfl
    · exact findFirst?_eq_none_of_notMem (fun _ => rfl) List.mem_cons_self noSign
    · exact findFirst?_eq_none_of_notMem (fun _ => rfl) List.mem_cons_self noSign
  refine ⟨?_, rest⟩
  simp only [forms, List.take, List.mem_cons, List.not_mem_nil, or_false] at hread
  rcases hread with rfl | rfl <;> rfl

theorem ofText?_like (c : Column) {needle : List Char} (nonempty : needle ≠ [])
    (chars : ∀ q ∈ ['%', '=', '<', '>'], q ∉ needle) : ofText? (c.like needle) =
      some (.contains (String.ofList c.text) (String.ofList (lower needle))) := by
  refine ofText?_of_read (forms.take 6) rfl (fun read hread => ?_)
    (readContains?_like c nonempty (chars '%' List.mem_cons_self))
  have noSign : ∀ q ∈ ['=', '<', '>'], q ∉ c.like needle := by
    intro q hq mem
    have apart : ∀ q ∈ ['=', '<', '>'], isWordChar q = false ∧ q ∉ " LIKE '%".toList ∧
      q ∉ "%'".toList := by decide
    obtain ⟨nonword, notFront, notBack⟩ := apart q hq
    rcases List.mem_append.mp mem with inside | inside
    · rw [c.chars q inside] at nonword
      exact Bool.noConfusion nonword
    · rcases List.mem_append.mp inside with inside | inside
      · exact notFront inside
      · rcases List.mem_append.mp inside with inside | inside
        · exact chars q (List.mem_cons_of_mem _ hq) inside
        · exact notBack inside
  have equals := noSign '=' (by decide)
  simp only [forms, List.take, List.mem_cons, List.not_mem_nil, or_false] at hread
  rcases hread with rfl | rfl | rfl | rfl | rfl | rfl
  · exact findFirst?_eq_none_of_notMem (fun _ => rfl) List.mem_cons_self equals
  · exact findFirst?_eq_none_of_notMem (fun _ => rfl) List.mem_cons_self equals
  · exact findFirst?_eq_none_of_notMem (fun _ => rfl) (by decide) equals
  · exact findFirst?_eq_none_of_notMem (fun _ => rfl) List.mem_cons_self (noSign '>' (by decide))
  · exact findFirst?_eq_none_of_notMem (fun _ => rfl) List.mem_cons_self (noSign '<' (by decide))
  · exact findFirst?_eq_none_of_notMem (fun _ => rfl) List.mem_cons_self (noSign '>' (by decide))

/-- A written condition is recognized as what it says. -/
theorem ofText?_text (f : Form) : ofText? f.text = some f.predicate := by
  cases f with
  | textEq c v => exact ofText?_textEq c v
  | numberEq c n => exact ofText?_numberEq c n
  | textNe c v => exact ofText?_textNe c v
  | compare c op n => exact ofText?_compare c op n
  | contains c v => exact ofText?_like c v.ne_nil v.chars
  | isNull c => exact ofText?_isNull c
  | isNotNull c => exact ofText?_isNotNull c
  | boolEq c b => exact ofText?_boolEq c b

end Predicate

end SqlTutor.Query

import SqlTutor.Proofs.Query.Occurrences
import Mathlib.Data.List.Chain

/-!
Texts in which no form occurs pass every row as parts of a condition. Parts of such a text are such
texts again. A text is one of them if it has none of the signs of a form, or has a sign of equality
with no column in front of it or no value behind it.
-/
namespace SqlTutor.Query

open Text

section Parts

variable {part text : List Char}

def Predicate.Occurrence.ofInfix {before after : List Char} (o : Occurrence part)
    (cut : before ++ part ++ after = text) : Occurrence text where
  predicate := o.predicate
  before := before ++ o.before
  form := o.form
  after := o.after ++ after
  spelled := o.spelled
  text_eq := by
    have inside := o.text_eq
    generalize o.before = b, o.form = f, o.after = a at inside
    subst inside cut
    simp only [List.append_assoc]

theorem isEmpty_occurrence_of_isInfix (h : part <:+: text)
    (empty : IsEmpty (Predicate.Occurrence text)) : IsEmpty (Predicate.Occurrence part) := by
  obtain ⟨before, after, cut⟩ := h
  exact ⟨fun o => empty.elim (o.ofInfix cut)⟩

/-- The first piece of a text is its beginning, and the others are parts of it. -/
theorem isInfix_of_mem_splitOnWord (key s : List Char) :
    (∀ first ∈ (splitOnWord key s).head?, first <+: s) ∧
      ∀ piece ∈ splitOnWord key s, piece <:+: s := by
  induction hn : s.length using Nat.strongRecOn generalizing s with
  | ind n ih =>
    subst hn
    cases s with
    | nil => simp [splitOnWord_nil]
    | cons c s =>
      rw [splitOnWord_cons]
      cases found : separator? key (c :: s) with
      | some rest =>
        obtain ⟨-, pieces⟩ := ih rest.length (separator?_length_lt found) rest rfl
        refine ⟨fun first hfirst => ?_, fun piece hpiece => ?_⟩
        · obtain rfl : [] = first := by simpa using hfirst
          exact List.nil_prefix
        · rcases List.mem_cons.mp hpiece with rfl | later
          · exact List.nil_infix
          · exact (pieces piece later).trans (suffix_of_separator? found).isInfix
      | none =>
        obtain ⟨head, pieces⟩ := ih s.length (Nat.lt_succ_self _) s rfl
        obtain ⟨first, others, cut⟩ := List.exists_cons_of_ne_nil (splitOnWord_ne_nil key s)
        rw [cut] at head pieces
        have front : c :: first <+: c :: s := List.cons_prefix_cons.mpr ⟨rfl, head first rfl⟩
        simp only [cut, consFirst]
        refine ⟨fun piece hpiece => ?_, fun piece hpiece => ?_⟩
        · obtain rfl : c :: first = piece := by simpa using hpiece
          exact front
        · rcases List.mem_cons.mp hpiece with rfl | later
          · exact front.isInfix
          · exact (pieces piece (List.mem_cons_of_mem _ later)).trans
              (List.suffix_cons c s).isInfix

theorem isInfix_trim (s : List Char) : trim s <:+: s := by
  have ends (s : List Char) : trimEnd s <+: s := by
    rw [trimEnd, ← List.reverse_suffix, List.reverse_reverse]
    exact List.dropWhile_suffix _
  exact (ends (trimStart s)).isInfix.trans (List.dropWhile_suffix _).isInfix

theorem isInfix_of_mem_partTexts (h : part ∈ Condition.partTexts text) : part <:+: text := by
  obtain ⟨piece, mem, rfl⟩ := List.mem_map.mp h
  exact (isInfix_trim piece).trans ((isInfix_of_mem_splitOnWord _ text).2 piece mem)

/-- A condition in which no form occurs passes every row. -/
theorem holds_of_isEmpty_occurrence (empty : IsEmpty (Predicate.Occurrence text)) (row : Row) :
    (Condition.ofText text).holds row := by
  rw [Condition.holds, Condition.ofText, List.all_map, List.all_eq_true]
  intro part mem
  have unknown : Predicate.ofText? part = none := Predicate.ofText?_eq_none_iff.mpr
    (isEmpty_occurrence_of_isInfix (isInfix_of_mem_partTexts mem) empty)
  simp [unknown]

end Parts

namespace Predicate

variable {key next is piece text : List Char}

theorem exists_words_eq {w : List Char} (hw : Solid w) (t : List Char) :
    ∃ v rest, words (w ++ t) = (w ++ v) :: rest := by
  let v := t.takeWhile fun c => !isBlank c
  have cut : t = v ++ t.dropWhile fun c => !isBlank c := List.takeWhile_append_dropWhile.symm
  have solid : Solid (w ++ v) := hw.append fun c hc => by simpa using List.mem_takeWhile_imp hc
  have stops : ∀ c ∈ (t.dropWhile fun c => !isBlank c).head?, isBlank c := by
    intro c hc
    simpa using stops_dropWhile (fun c => !isBlank c) t c hc
  refine ⟨v, words (t.dropWhile fun c => !isBlank c), ?_⟩
  rw [← words_append solid stops, List.append_assoc, ← cut]

/-- Two keywords behind white space are a word and the beginning of the next one. -/
theorem exists_words_eq_of_isKey (hkey : IsKeyword key) (hnext : IsKeyword next)
    (his : IsKey key is) (hpiece : IsKey next piece) (before after : List Char) :
    ∃ front w v rest, words (before ++ (is ++ (piece ++ after))) = front ++ w :: v :: rest ∧
      w.map foldCase = key ∧ next <+: v.map foldCase := by
  obtain ⟨gap, w, hgap, hw, rfl⟩ := his
  obtain ⟨gap', w', hgap', hw', rfl⟩ := hpiece
  obtain ⟨v, rest, later⟩ := exists_words_eq (solid_spelling hnext hw') after
  have behind : words (w ++ (gap' ++ (w' ++ after))) = w :: (w' ++ v) :: rest := by
    rw [← List.append_assoc, words_append_gap _ _ hgap'.1 hgap'.2, later,
      words_solid (solid_spelling hkey hw), List.singleton_append]
  refine ⟨words before, w, w' ++ v, rest, ?_, hw, ⟨v.map foldCase, by rw [List.map_append, hw']⟩⟩
  rw [← behind, ← words_append_gap before _ hgap.1 hgap.2]
  simp only [List.append_assoc]

/-- The text begins with what may stand behind a sign of equality, quotes apart. -/
def BeginsWithValue (s : List Char) : Prop :=
  (digits? s).isSome ∨ (keyword? "true".toList s).isSome ∨ (keyword? "false".toList s).isSome

/-- The second word is none that follows IS. -/
def NotNull (w v : List Char) : Prop :=
  w.map foldCase = "is".toList → ∀ c ∈ v.head?, foldCase c ≠ 'n'

/-- A comparison to a number or a truth value has a column in front of its sign. -/
theorem exists_equals_of_isOperator {before column op value after : List Char}
    (hcolumn : IsRun isWordChar column) (hop : IsOperator ['='] op)
    (stops : Stops isBlank (value ++ after)) :
    ∃ u v, before ++ ((column ++ (op ++ value)) ++ after) = u ++ '=' :: v ∧
      (∃ c ∈ u, isWordChar c) ∧ trimStart v = value ++ after := by
  obtain ⟨x, y, -, hy, rfl⟩ := hop
  refine ⟨before ++ (column ++ x), y ++ (value ++ after), by simp, ?_,
    trimStart_eq_iff.mpr ⟨y, hy, stops, rfl⟩⟩
  obtain ⟨c, column, rfl⟩ := List.exists_cons_of_ne_nil hcolumn.1
  exact ⟨c, by simp, hcolumn.2 c List.mem_cons_self⟩

/-- IS with NULL or NOT behind it would be a word of the text. -/
theorem not_isChain_of_isKey (hnext : IsKeyword next) (letter : next.head? = some 'n')
    (his : IsKey "is".toList is) (hpiece : IsKey next piece) (before column after : List Char) :
    ¬ (words (before ++ ((column ++ (is ++ piece)) ++ after))).IsChain NotNull := by
  have cut : before ++ ((column ++ (is ++ piece)) ++ after) =
      (before ++ column) ++ (is ++ (piece ++ after)) := by simp only [List.append_assoc]
  obtain ⟨front, w, v, rest, found, hw, begins⟩ :=
    exists_words_eq_of_isKey (by decide) hnext his hpiece (before ++ column) after
  rw [cut, found]
  intro chain
  have pair := (List.isChain_cons_cons.mp chain.right_of_append).1 hw
  obtain ⟨n, next, rfl⟩ := List.exists_cons_of_ne_nil hnext.1
  obtain rfl : n = 'n' := Option.some_inj.mp letter
  obtain ⟨more, eq⟩ := begins
  obtain ⟨c, v, rfl, hc, -⟩ := List.map_eq_cons_iff.mp eq.symm
  exact pair c rfl hc

theorem isEmpty_occurrence (hquote : '\'' ∉ text) (hless : '<' ∉ text) (hgreater : '>' ∉ text)
    (hequals : ∀ u v, text = u ++ '=' :: v → (∃ c ∈ u, isWordChar c) →
      ¬ BeginsWithValue (trimStart v))
    (hnull : (words text).IsChain NotNull) : IsEmpty (Occurrence text) := by
  refine ⟨fun ⟨p, before, form, after, spelled, cut⟩ => ?_⟩
  cases spelled with
  | textEq | textNe | contains => exact hquote (by simp [cut, quote])
  | compare relation hcolumn hop hdigits =>
    obtain ⟨x, y, -, -, rfl⟩ := hop
    cases relation with
    | less => exact hless (by simp [cut, CompareOp.symbol])
    | greater => exact hgreater (by simp [cut, CompareOp.symbol])
    | atLeast => exact hgreater (by simp [cut, CompareOp.symbol])
  | @numberEq column op digits hcolumn hop hdigits =>
    have stops := hdigits.stops (fun _ => isBlank_of_isDecimalDigit) after
    obtain ⟨u, v, equals, named, behind⟩ := exists_equals_of_isOperator hcolumn hop stops
    refine hequals u v (cut.trans equals) named ?_
    obtain ⟨d, digits, rfl⟩ := List.exists_cons_of_ne_nil hdigits.1
    rw [behind]
    left
    simp [digits?, run?, hdigits.2 d List.mem_cons_self]
  | @boolEq b column op word hcolumn hop hword =>
    have keyword : IsKeyword (if b then "true" else "false").toList := by cases b <;> decide
    obtain ⟨u, v, equals, named, behind⟩ := exists_equals_of_isOperator hcolumn hop
      (stops_spelling keyword hword after)
    refine hequals u v (cut.trans equals) named ?_
    have found := Option.isSome_of_eq_some
      (keyword?_eq_some_iff.mpr ⟨word, hword, (rfl : word ++ after = _)⟩)
    rw [behind]
    right
    cases b with
    | true => exact Or.inl found
    | false => exact Or.inr found
  | isNull hcolumn his hnext =>
    rw [cut] at hnull
    exact not_isChain_of_isKey (by decide) rfl his hnext _ _ _ hnull
  | @isNotNull column is not null hcolumn his hnext hlast =>
    rw [cut] at hnull
    refine not_isChain_of_isKey (by decide) rfl his hnext before column (null ++ after) ?_
    simpa only [List.append_assoc] using hnull

end Predicate

end SqlTutor.Query

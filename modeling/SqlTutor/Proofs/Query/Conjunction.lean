import SqlTutor.Proofs.Query.Recognition
import SqlTutor.Query.Condition

/-!
Written conditions joined by AND, in any letter case and with gaps of any width. Texts between
quotes may hold anything but a further AND, so the parts are told apart only where they were joined.
The conditions are read back in order, and a row passes if it meets all of them.
-/
namespace SqlTutor.Query

open Text

namespace Column

theorem solid (c : Column) : Solid c.text :=
  ⟨c.ne_nil, fun d hd => isBlank_eq_false (c.chars d hd)⟩

theorem word?_text (c : Column) : word? c.text = some (c.text, []) := by
  have read := Predicate.word?_column c (t := []) (by simp [Stops])
  rwa [List.append_nil] at read

/-- Behind a column, words other than AND keep a text clear. -/
theorem clear_append (c : Column) {t : List Char} (ht : ∀ d ∈ t.head?, isBlank d)
    (h : ∀ w ∈ words t, ¬ Spells "and".toList w) : Clear "and".toList (c.text ++ t) := by
  refine clear_of_words (by decide) (stops_append c.ne_nil (tidy_of_solid c.solid).stops t) ?_
  rw [words_append c.solid ht, List.tail_cons]
  exact h

end Column

theorem not_spells_toDigits (n : Nat) : ¬ Spells "and".toList (Nat.toDigits 10 n) := by
  intro spells
  have letter : 'a' ∈ lowerAscii (Nat.toDigits 10 n) := by
    rw [show lowerAscii (Nat.toDigits 10 n) = "and".toList from spells]
    decide
  obtain ⟨c, hc, hletter⟩ := List.mem_map.mp letter
  exact of_isDigit (isDigit_of_mem_toDigits hc) (·.toLower ≠ 'a') (by decide) hletter

theorem clear_number (c : Column) (symbol : List Char) (hsymbol : Solid symbol)
    (hword : ¬ Spells "and".toList symbol) (n : Nat) :
    Clear "and".toList (c.text ++ ' ' :: (symbol ++ ' ' :: Nat.toDigits 10 n)) := by
  have blank : isBlank ' ' := rfl
  refine c.clear_append (by simp [blank]) fun w hw => ?_
  rw [words_blank_cons _ blank, words_append_cons _ _ blank, words_solid hsymbol,
    words_solid (solid_toDigits n)] at hw
  rcases List.mem_append.mp hw with first | second
  · rw [List.mem_singleton.mp first]
    exact hword
  · rw [List.mem_singleton.mp second]
    exact not_spells_toDigits n

theorem exists_last_digit (n : Nat) :
    ∃ front last, Nat.toDigits 10 n = front ++ [last] ∧
      isBlank last = false ∧ foldCase last ≠ 'd' := by
  have hne : Nat.toDigits 10 n ≠ [] := Nat.toDigits_ne_nil
  have mem : (Nat.toDigits 10 n).getLast hne ∈ Nat.toDigits 10 n := List.getLast_mem hne
  have letter := of_isDigit (isDigit_of_mem_toDigits mem) (foldCase · ≠ 'd') (by decide)
  exact ⟨_, _, (List.dropLast_concat_getLast hne).symm,
    isBlank_eq_false (isWordChar_of_mem_toDigits mem), letter⟩

/-- Quotes and percent signs keep a text apart from what stands around it. -/
theorem clear_quoted (c : Column) {without front back : List Char} {p q : Char}
    (hfront : Clear "and".toList (c.text ++ front)) (hback : Clear "and".toList back)
    (hp : isBlank p = false ∧ p.toLower ∉ "and".toList)
    (hq : isBlank q = false ∧ q.toLower ∉ "and".toList) (v : Literal without) :
    Clear "and".toList (c.text ++ (front ++ p :: (v.text ++ q :: back))) := by
  rw [← List.append_assoc]
  exact hfront.append_cons hp.1 hp.2 (v.clear.append_cons hq.1 hq.2 hback)

namespace Form

theorem clear (f : Form) : Clear "and".toList f.text := by
  have quote : isBlank '\'' = false ∧ '\''.toLower ∉ "and".toList := by decide
  have percent : isBlank '%' = false ∧ '%'.toLower ∉ "and".toList := by decide
  cases f with
  | textEq c v =>
    have front := c.clear_append (t := " = ".toList) (by decide) (by decide)
    exact clear_quoted c front (clear_of_length (by decide)) quote quote v
  | numberEq c n => exact clear_number c ['='] (by decide) (by decide) n
  | textNe c v =>
    have front := c.clear_append (t := " != ".toList) (by decide) (by decide)
    exact clear_quoted c front (clear_of_length (by decide)) quote quote v
  | compare c op n =>
    refine clear_number c op.symbol ?_ ?_ n
    · cases op <;> decide
    · cases op <;> decide
  | contains c v =>
    have front := c.clear_append (t := " LIKE '".toList) (by decide) (by decide)
    exact clear_quoted c front (clear_of_length (by decide)) percent percent v
  | isNull c => exact c.clear_append (t := " IS NULL".toList) (by decide) (by decide)
  | isNotNull c => exact c.clear_append (t := " IS NOT NULL".toList) (by decide) (by decide)
  | boolEq c b =>
    cases b with
    | true => exact c.clear_append (t := " = true".toList) (by decide) (by decide)
    | false => exact c.clear_append (t := " = false".toList) (by decide) (by decide)

theorem stops (f : Form) : Stops isBlank f.text :=
  stops_append f.column.ne_nil (tidy_of_solid f.column.solid).stops f.tail

/-- No condition ends in white space or in the last letter of AND. -/
theorem exists_last (f : Form) :
    ∃ front last, f.tail = front ++ [last] ∧ isBlank last = false ∧ foldCase last ≠ 'd' := by
  have quote : isBlank '\'' = false ∧ foldCase '\'' ≠ 'd' := by decide
  cases f with
  | textEq c v =>
    refine ⟨" = '".toList ++ v.text, '\'', ?_, quote⟩
    rw [List.append_assoc]
    rfl
  | numberEq c n =>
    obtain ⟨front, last, digits, ends⟩ := exists_last_digit n
    have written : (numberEq c n).tail = " = ".toList ++ Nat.toDigits 10 n := rfl
    refine ⟨" = ".toList ++ front, last, ?_, ends⟩
    rw [written, digits, List.append_assoc]
  | textNe c v =>
    refine ⟨" != '".toList ++ v.text, '\'', ?_, quote⟩
    rw [List.append_assoc]
    rfl
  | compare c op n =>
    obtain ⟨front, last, digits, ends⟩ := exists_last_digit n
    have written : (compare c op n).tail = ' ' :: (op.symbol ++ ' ' :: Nat.toDigits 10 n) := rfl
    refine ⟨' ' :: (op.symbol ++ ' ' :: front), last, ?_, ends⟩
    rw [written, digits, List.cons_append, List.append_assoc, List.cons_append]
  | contains c v =>
    refine ⟨" LIKE '%".toList ++ (v.text ++ ['%']), '\'', ?_, quote⟩
    rw [List.append_assoc, List.append_assoc]
    rfl
  | isNull c => exact ⟨" IS NUL".toList, 'L', rfl, by decide⟩
  | isNotNull c => exact ⟨" IS NOT NUL".toList, 'L', rfl, by decide⟩
  | boolEq c b =>
    cases b with
    | true => exact ⟨" = tru".toList, 'e', rfl, by decide⟩
    | false => exact ⟨" = fals".toList, 'e', rfl, by decide⟩

theorem closed_append (f : Form) (s : List Char) : Closed "and".toList (s ++ f.text) := by
  obtain ⟨front, last, htail, solid, letter⟩ := f.exists_last
  refine closed_of_last fun c hc => ?_
  rw [text, htail, ← List.append_assoc, ← List.append_assoc, List.getLast?_concat,
    Option.mem_some_iff] at hc
  subst hc
  exact ⟨solid, fun same => letter (Option.some.inj same).symm⟩

theorem closed (f : Form) : Closed "and".toList f.text := f.closed_append []

end Form

/-- A text that stands on its own between two ANDs, and what is recognized in it. -/
structure IsPart (s : List Char) (p : Predicate) : Prop where
  ne_nil : s ≠ []
  stops : Stops isBlank s
  closed : Closed "and".toList s
  clear : Clear "and".toList s
  recognized : Predicate.ofText? s = some p

theorem Form.isPart (f : Form) : IsPart f.text f.predicate where
  ne_nil := List.append_ne_nil_of_left_ne_nil f.column.ne_nil _
  stops := f.stops
  closed := f.closed
  clear := f.clear
  recognized := Predicate.ofText?_text f

namespace Condition

/-- Without strictness every text is a condition. -/
theorem read_false (s : List Char) : read false s = .ok (ofText s) := by
  unfold read
  dsimp only
  split <;> rfl

/-- The parts as they stand, each with what is recognized in it. -/
def ofParts (parts : List (List Char × Predicate)) : Condition :=
  ⟨parts.map fun part => (String.ofList part.1, some part.2)⟩

/-- The conditions with what they say. -/
def ofForms (forms : List Form) : Condition :=
  ⟨forms.map fun f => (String.ofList f.text, some f.predicate)⟩

theorem firstUnrecognized?_ofParts (parts : List (List Char × Predicate)) :
    (ofParts parts).firstUnrecognized? = none := by
  rw [firstUnrecognized?, Option.map_eq_none_iff, List.find?_eq_none]
  intro part hpart
  obtain ⟨p, -, rfl⟩ := List.mem_map.mp hpart
  simp

theorem holds_ofParts (parts : List (List Char × Predicate)) (row : Row) :
    (ofParts parts).holds row = parts.all fun part => part.2.holds row := by
  rw [holds, ofParts, List.all_map]
  rfl

section Joined

variable {parts : List (List Char × Predicate)} {s : List Char}

theorem partTexts_of_joined (h : Joined "and".toList (parts.map Prod.fst) s)
    (hparts : ∀ part ∈ parts, IsPart part.1 part.2) : partTexts s = parts.map Prod.fst := by
  have pieces : ∀ piece ∈ parts.map Prod.fst, piece ≠ [] ∧ Stops isBlank piece ∧
      Closed "and".toList piece ∧ Clear "and".toList piece := by
    intro piece hpiece
    obtain ⟨part, hpart, rfl⟩ := List.mem_map.mp hpiece
    have isPart := hparts part hpart
    exact ⟨isPart.ne_nil, isPart.stops, isPart.closed, isPart.clear⟩
  have trimmed : ∀ piece ∈ parts.map Prod.fst, trim piece = piece := fun piece hpiece =>
    trim_eq_self (pieces piece hpiece).2.1 (pieces piece hpiece).2.2.1.last
  rw [partTexts, h.splitOnWord_eq (by decide) (by decide) pieces, List.map_congr_left trimmed]
  exact List.map_id' _

theorem ofText_of_joined (h : Joined "and".toList (parts.map Prod.fst) s)
    (hparts : ∀ part ∈ parts, IsPart part.1 part.2) : ofText s = ofParts parts := by
  rw [ofText, partTexts_of_joined h hparts, ofParts, List.map_map]
  congr 1
  refine List.map_congr_left fun part hpart => ?_
  rw [Function.comp_apply, (hparts part hpart).recognized]

/-- What is recognized in the parts is what is read in the whole text, strictly or not. -/
theorem read_of_joined (h : Joined "and".toList (parts.map Prod.fst) s)
    (hparts : ∀ part ∈ parts, IsPart part.1 part.2) (strict : Bool) :
    read strict s = .ok (ofParts parts) := by
  rw [read, ofText_of_joined h hparts]
  simp only [firstUnrecognized?_ofParts]

end Joined

theorem ofParts_forms (forms : List Form) :
    ofParts (forms.map fun f => (f.text, f.predicate)) = ofForms forms := by
  rw [ofParts, List.map_map]
  rfl

end Condition

theorem ofText_joined {forms : List Form} {s : List Char}
    (h : Joined "and".toList (forms.map Form.text) s) :
    Condition.ofText s = Condition.ofForms forms := by
  have texts : (forms.map fun f => (f.text, f.predicate)).map Prod.fst = forms.map Form.text := by
    rw [List.map_map]
    rfl
  rw [← Condition.ofParts_forms]
  refine Condition.ofText_of_joined (texts ▸ h) fun part hpart => ?_
  obtain ⟨f, -, rfl⟩ := List.mem_map.mp hpart
  exact f.isPart

theorem firstUnrecognized?_ofForms (forms : List Form) :
    (Condition.ofForms forms).firstUnrecognized? = none := by
  rw [← Condition.ofParts_forms, Condition.firstUnrecognized?_ofParts]

theorem holds_ofForms (forms : List Form) (row : Row) :
    (Condition.ofForms forms).holds row = forms.all fun f => f.predicate.holds row := by
  rw [← Condition.ofParts_forms, Condition.holds_ofParts, List.all_map]
  rfl

/-- Written conditions joined by AND are read as what they say, strictly or not, and the rows
that are kept are those that meet all of them. -/
theorem read_joined {forms : List Form} {s : List Char}
    (h : Joined "and".toList (forms.map Form.text) s) (strict : Bool) :
    Condition.read strict s = .ok (Condition.ofForms forms) ∧
      (∀ rows, (Condition.ofForms forms).filter rows =
        rows.filter fun row => forms.all fun f => f.predicate.holds row) ∧
      ∀ n, (Double.ofNat n).negative = false ∧ Double.IsNearest n 1 (Double.ofNat n).index := by
  refine ⟨?_, fun rows => ?_, Double.isNearest_ofNat⟩
  · rw [Condition.read, ofText_joined h]
    simp only [firstUnrecognized?_ofForms]
  · exact List.filter_congr fun row _ => holds_ofForms forms row

/-- AND in a text between quotes is no separator unless white space stands on both sides. -/
def staffForms : List Form :=
  [.textNe ⟨"role".toList, by decide, by decide⟩
      ⟨"user".toList, by decide, by decide, clear_of_length (by decide)⟩,
    .compare ⟨"id".toList, by decide, by decide⟩ .atLeast 2,
    .contains ⟨"email".toList, by decide, by decide⟩
      ⟨"And Co".toList, by decide, by decide,
        clear_of_words (by decide) (stops_cons rfl _) (by decide)⟩]

def staffText : String := "role != 'user'\n aNd  id >= 2 AND\temail LIKE '%And Co%'"

theorem read_joined_staff :
    Joined "and".toList (staffForms.map Form.text) staffText.toList ∧ ∀ strict,
      Condition.read strict staffText.toList = .ok (Condition.ofForms staffForms) ∧
      (∀ rows, (Condition.ofForms staffForms).filter rows =
        rows.filter fun row => staffForms.all fun f => f.predicate.holds row) ∧
      ∀ n, (Double.ofNat n).negative = false ∧ Double.IsNearest n 1 (Double.ofNat n).index := by
  have joined : Joined "and".toList (staffForms.map Form.text) staffText.toList :=
    .cons (.mk "\n ".toList "aNd".toList "  ".toList (by decide) (by decide) (by decide) (by decide)
        (by decide)) <|
      .cons (.mk " ".toList "AND".toList "\t".toList (by decide) (by decide) (by decide) (by decide)
        (by decide)) <|
      .one _
  exact ⟨joined, read_joined joined⟩

end SqlTutor.Query

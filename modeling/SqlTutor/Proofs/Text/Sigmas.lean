import SqlTutor.Text.LowerCase
import Mathlib.Tactic.Common

/-!
Every character is made small by itself, but for the capital sigma, which looks at the letters on
both sides of it: it is final if a letter with case comes last before it and none comes next behind
it. The small form of a text is cut where the text is cut, and a piece has its own small form inside
a text exactly if each of its capital sigmas is final in both or in neither. Where that fails some
text with the piece in it is made small to a text without the small form of the piece.
-/
namespace SqlTutor.Text

/-- What is known of the last letter with case behind a piece of text. -/
def casedAfter (afterCased : Bool) (s : List Char) : Bool :=
  s.foldl (fun cased c => if isCaseIgnorable c then cased else isCased c) afterCased

/-- Whether a letter with case comes last, case-ignorable characters aside. -/
def endsCased (s : List Char) : Bool := casedAfter false s

/-- The small form of a piece of text in front of another one. -/
def lowerBefore (afterCased : Bool) (behind : List Char) : List Char → List Char
  | [] => []
  | c :: s =>
    (if c == 'Σ' then [if afterCased && !nextIsCased (s ++ behind) then 'ς' else 'σ']
      else lowerChar c) ++
      lowerBefore (if isCaseIgnorable c then afterCased else isCased c) behind s

theorem lowerFrom_append (afterCased : Bool) (s t : List Char) :
    lowerFrom afterCased (s ++ t) =
      lowerBefore afterCased t s ++ lowerFrom (casedAfter afterCased s) t := by
  induction s generalizing afterCased with
  | nil => rfl
  | cons c s ih =>
    rw [List.cons_append, lowerFrom, lowerBefore, ih, List.append_assoc]
    rfl

theorem lowerBefore_nil (afterCased : Bool) (s : List Char) :
    lowerBefore afterCased [] s = lowerFrom afterCased s := by
  have whole := lowerFrom_append afterCased s []
  rw [List.append_nil, lowerFrom, List.append_nil] at whole
  exact whole.symm

theorem casedAfter_append (afterCased : Bool) (s t : List Char) :
    casedAfter afterCased (s ++ t) = casedAfter (casedAfter afterCased s) t := List.foldl_append

/-- A text, a piece and a text, each made small in its place. -/
theorem lower_append_append (before piece behind : List Char) :
    lower (before ++ (piece ++ behind)) =
      lowerBefore false (piece ++ behind) before ++
        (lowerBefore (endsCased before) behind piece ++
          lowerFrom (endsCased (before ++ piece)) behind) := by
  rw [lower, lowerFrom_append, lowerFrom_append, endsCased, endsCased, casedAfter_append]

/-- A capital sigma between the two texts is made small to a final one. -/
def IsFinal (before behind : List Char) : Prop := endsCased before ∧ nextIsCased behind = false

instance (before behind : List Char) : Decidable (IsFinal before behind) :=
  inferInstanceAs (Decidable (_ ∧ _))

/-- Each capital sigma of the piece is final in the piece alone and between the two texts, or in
neither. -/
def SigmasAlike (before piece behind : List Char) : Prop :=
  ∀ front back, piece = front ++ 'Σ' :: back →
    (IsFinal front back ↔ IsFinal (before ++ front) (back ++ behind))

theorem sigmasAlike_of_notMem {piece : List Char} (h : 'Σ' ∉ piece) (before behind : List Char) :
    SigmasAlike before piece behind := by
  rintro front back rfl
  exact absurd (List.mem_append_right front List.mem_cons_self) h

theorem forall_cut_cons_iff {c d : Char} {s : List Char} {P : List Char → List Char → Prop} :
    (∀ front back, c :: s = front ++ d :: back → P front back) ↔
      (c = d → P [] s) ∧ ∀ front back, s = front ++ d :: back → P (c :: front) back := by
  constructor
  · intro h
    exact ⟨fun same => h [] s (same ▸ rfl), fun front back cut => h (c :: front) back (cut ▸ rfl)⟩
  · rintro ⟨first, rest⟩ front back cut
    cases front with
    | nil =>
      obtain ⟨same, rfl⟩ := List.cons.inj cut
      exact first same
    | cons e front =>
      obtain ⟨rfl, behind⟩ := List.cons.inj cut
      exact rest front back behind

theorem endsCased_concat (s : List Char) (c : Char) :
    endsCased (s ++ [c]) = if isCaseIgnorable c then endsCased s else isCased c :=
  casedAfter_append false s [c]

/-- The letter that a capital sigma becomes tells whether it is final. -/
theorem sigma_eq_sigma_iff (before behind before' behind' : List Char) :
    (if endsCased before && !nextIsCased behind then 'ς' else 'σ') =
        (if endsCased before' && !nextIsCased behind' then 'ς' else 'σ') ↔
      (IsFinal before behind ↔ IsFinal before' behind') := by
  unfold IsFinal
  cases endsCased before <;> cases nextIsCased behind <;> cases endsCased before' <;>
    cases nextIsCased behind' <;> simp

/-- Behind the same front, alone and behind another text. -/
theorem lowerBefore_eq_lowerBefore_iff (before behind front piece : List Char) :
    lowerBefore (endsCased front) [] piece =
        lowerBefore (endsCased (before ++ front)) behind piece ↔
      ∀ more back, piece = more ++ 'Σ' :: back →
        (IsFinal (front ++ more) back ↔ IsFinal (before ++ (front ++ more)) (back ++ behind)) := by
  induction piece generalizing front with
  | nil => simp [lowerBefore]
  | cons c piece ih =>
    have rest := ih (front ++ [c])
    rw [← List.append_assoc, endsCased_concat, endsCased_concat] at rest
    simp only [List.append_assoc, List.singleton_append] at rest
    rw [forall_cut_cons_iff, ← rest, lowerBefore, lowerBefore]
    by_cases sigma : c = 'Σ'
    · have first := sigma_eq_sigma_iff front piece (before ++ front) (piece ++ behind)
      simp only [sigma, beq_self_eq_true, if_true, forall_const, List.append_nil, ← first,
        List.singleton_append, List.cons.injEq]
    · simp [sigma]

theorem lower_eq_lowerBefore_iff (before piece behind : List Char) :
    lower piece = lowerBefore (endsCased before) behind piece ↔
      SigmasAlike before piece behind := by
  have whole := lowerBefore_eq_lowerBefore_iff before behind [] piece
  rw [lowerBefore_nil, List.append_nil] at whole
  exact whole

instance (before piece behind : List Char) : Decidable (SigmasAlike before piece behind) :=
  decidable_of_iff _ (lower_eq_lowerBefore_iff before piece behind)

/-- A piece whose sigmas are alike has its small form where it stands. -/
theorem SigmasAlike.isInfix_lower {before piece behind : List Char}
    (h : SigmasAlike before piece behind) :
    lower piece <:+: lower (before ++ (piece ++ behind)) := by
  rw [lower_append_append, ← (lower_eq_lowerBefore_iff before piece behind).mpr h]
  exact ⟨_, _, List.append_assoc _ _ _⟩

def isSmallSigma (c : Char) : Bool := c == 'σ' || c == 'ς'

/-- The letter with both small sigmas taken for one. -/
def levelSigma (c : Char) : Char := if c = 'ς' then 'σ' else c

theorem isSmallSigma_levelSigma (c : Char) : isSmallSigma (levelSigma c) = isSmallSigma c := by
  unfold levelSigma
  split
  · rename_i final
    rw [final]
    rfl
  · rfl

/-- Texts that agree but for the kinds of their small sigmas have as many of them. -/
theorem length_filter_isSmallSigma {s t : List Char}
    (same : s.map levelSigma = t.map levelSigma) :
    (s.filter isSmallSigma).length = (t.filter isSmallSigma).length := by
  have counted : ∀ u : List Char,
      (u.filter isSmallSigma).length = (u.map levelSigma).countP isSmallSigma := by
    intro u
    rw [← List.countP_eq_length_filter, List.countP_map]
    exact congrArg (List.countP · u) (funext fun c => (isSmallSigma_levelSigma c).symm)
  rw [counted, counted, same]

theorem eq_of_map_levelSigma {s t : List Char} (same : s.map levelSigma = t.map levelSigma)
    (sigmas : s.filter isSmallSigma = t.filter isSmallSigma) : s = t := by
  induction s generalizing t with
  | nil => simpa using same
  | cons c s ih =>
    cases t with
    | nil => simp at same
    | cons d t =>
      obtain ⟨first, rest⟩ := List.cons.inj same
      have kinds : isSmallSigma c = isSmallSigma d := by
        rw [← isSmallSigma_levelSigma c, first, isSmallSigma_levelSigma]
      by_cases sigma : isSmallSigma c
      · rw [List.filter_cons_of_pos sigma, List.filter_cons_of_pos (kinds ▸ sigma)] at sigmas
        obtain ⟨rfl, behind⟩ := List.cons.inj sigmas
        rw [ih rest behind]
      · rw [List.filter_cons_of_neg sigma, List.filter_cons_of_neg (kinds ▸ sigma)] at sigmas
        have other : ∀ e, ¬ isSmallSigma e → levelSigma e = e := by
          intro e he
          refine if_neg fun final => he ?_
          rw [final]
          rfl
        rw [other c sigma, other d (kinds ▸ sigma)] at first
        rw [first, ih rest sigmas]

/-- Where a piece stands decides about the kinds of its small sigmas only. -/
theorem map_levelSigma_lowerBefore (afterCased afterCased' : Bool) (behind behind' s : List Char) :
    (lowerBefore afterCased behind s).map levelSigma =
      (lowerBefore afterCased' behind' s).map levelSigma := by
  induction s generalizing afterCased afterCased' with
  | nil => rfl
  | cons c s ih =>
    rw [lowerBefore, lowerBefore, List.map_append, List.map_append,
      ih _ (if isCaseIgnorable c then afterCased' else isCased c)]
    congr 1
    split
    · have sigma : ∀ final : Bool, levelSigma (if final then 'ς' else 'σ') = 'σ' := by decide
      rw [List.map_singleton, List.map_singleton, sigma, sigma]
    · rfl

theorem nextIsCased_cons (c : Char) (s : List Char) :
    nextIsCased (c :: s) = if isCaseIgnorable c then nextIsCased s else isCased c := by
  cases h : isCaseIgnorable c <;> simp [nextIsCased, h]

theorem nextIsCased_append_congr {t u : List Char} (h : nextIsCased t = nextIsCased u)
    (s : List Char) : nextIsCased (s ++ t) = nextIsCased (s ++ u) := by
  induction s with
  | nil => exact h
  | cons c s ih => rw [List.cons_append, List.cons_append, nextIsCased_cons, nextIsCased_cons, ih]

theorem lowerBefore_congr {t u : List Char} (h : nextIsCased t = nextIsCased u)
    (afterCased : Bool) (s : List Char) :
    lowerBefore afterCased t s = lowerBefore afterCased u s := by
  induction s generalizing afterCased with
  | nil => rfl
  | cons c s ih => rw [lowerBefore, lowerBefore, ih, nextIsCased_append_congr h]

/-- A letter with case, or nothing. -/
def letterIf (cased : Bool) : List Char := if cased then ['a'] else []

theorem letterIf_data (cased : Bool) : endsCased (letterIf cased) = cased ∧
    nextIsCased (letterIf cased) = cased ∧
    ∀ afterCased behind, lowerBefore afterCased behind (letterIf cased) = letterIf cased := by
  cases cased
  · exact ⟨rfl, rfl, fun _ _ => rfl⟩
  · exact ⟨rfl, rfl, fun _ _ => rfl⟩

/-- Where the sigmas of a piece are not alike, letters around the piece can hide its small form. -/
theorem exists_missed {before piece behind : List Char} (h : ¬ SigmasAlike before piece behind) :
    ∃ text, piece <:+: text ∧ ¬ lower piece <:+: lower text := by
  obtain ⟨first, -, small⟩ := letterIf_data (endsCased before)
  obtain ⟨-, next, small'⟩ := letterIf_data (nextIsCased behind)
  refine ⟨letterIf (endsCased before) ++ (piece ++ letterIf (nextIsCased behind)),
    ⟨_, _, List.append_assoc _ _ _⟩, fun found => h ?_⟩
  rw [lower_append_append, small, first, ← lowerBefore_nil, small',
    lowerBefore_congr next] at found
  have noSigma : ∀ cased, (letterIf cased).filter isSmallSigma = [] := by decide
  -- All sigmas of the small text are those of the piece, so those found in it are the same.
  have sigmas := found.sublist.filter isSmallSigma
  rw [List.filter_append, List.filter_append, noSigma, noSigma, List.nil_append,
    List.append_nil] at sigmas
  have level : (lower piece).map levelSigma =
      (lowerBefore (endsCased before) behind piece).map levelSigma := by
    rw [lower, ← lowerBefore_nil]
    exact map_levelSigma_lowerBefore _ _ _ _ _
  rw [← lower_eq_lowerBefore_iff]
  exact eq_of_map_levelSigma level (sigmas.eq_of_length (length_filter_isSmallSigma level))

end SqlTutor.Text

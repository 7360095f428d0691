import SqlTutor.Proofs.Query.Failures

/-!
A condition may have parts that no form fits: they pass every row, or are refused if evaluation is
strict. Strict evaluation is lenient evaluation with a check behind it, since no other stage knows
of strictness. Where lenient evaluation fails, strict evaluation fails alike; where it succeeds,
strict evaluation has the same result, or fails and names the first part that no form fits, which it
does for all queries with such a part and for no other statements.
-/
namespace SqlTutor.Query

namespace Condition

/-- No form fits the part, and some form fits each part of the condition in front of it. -/
def IsFirstUnrecognized (text part : String) : Prop :=
  ∃ before after, partTexts text.toList = before ++ part.toList :: after ∧
    (∀ earlier ∈ before, (Predicate.ofText? earlier).isSome) ∧
    Predicate.ofText? part.toList = none

theorem firstUnrecognized?_ofText (s : List Char) : (ofText s).firstUnrecognized? =
    ((partTexts s).find? fun part => (Predicate.ofText? part).isNone).map String.ofList := by
  rw [firstUnrecognized?, ofText, List.find?_map, Option.map_map]
  rfl

theorem firstUnrecognized?_eq_some_iff {text part : String} :
    (ofText text.toList).firstUnrecognized? = some part ↔ IsFirstUnrecognized text part := by
  rw [firstUnrecognized?_ofText, Option.map_eq_some_iff]
  constructor
  · rintro ⟨s, found, rfl⟩
    obtain ⟨unfit, before, after, cut, fit⟩ := List.find?_eq_some_iff_append.mp found
    refine ⟨before, after, by rw [cut, String.toList_ofList], fun earlier h => ?_, ?_⟩
    · simpa using fit earlier h
    · simpa using unfit
  · rintro ⟨before, after, cut, fit, unfit⟩
    refine ⟨part.toList, List.find?_eq_some_iff_append.mpr ?_, String.ofList_toList⟩
    exact ⟨by simp [unfit], before, after, cut, fun earlier h => by simpa using fit earlier h⟩

end Condition

namespace Clauses

/-- The first part of the condition that no form fits. -/
def unrecognized? (c : Clauses) : Option String :=
  c.condition.bind fun text => (Condition.ofText text.toList).firstUnrecognized?

/-- Refuses conditions with a part that no form fits. -/
def recognized (c : Clauses) : Except Error Unit :=
  match c.unrecognized? with
  | some part => .error (.unsupportedPredicate part)
  | none => .ok ()

theorem filtered_strict (c : Clauses) (rows : List Row) :
    c.filtered true rows = c.filtered false rows >>= fun kept => c.recognized >>= fun _ =>
      .ok kept := by
  unfold filtered recognized unrecognized?
  cases c.condition with
  | none => rfl
  | some text =>
    simp only [Option.bind_some, Condition.read]
    cases (Condition.ofText text.toList).firstUnrecognized? <;> rfl

theorem run_strict (c : Clauses) (dataset : Dataset) (options : Options) :
    c.run dataset { options with strict := true } =
      c.run dataset { options with strict := false } >>= fun set => c.recognized >>= fun _ =>
        .ok set := by
  simp only [run, filtered_strict, bind_assoc]
  cases c.recognized with
  | error e => rfl
  | ok u => rfl

end Clauses

/-- The statement is a query, and this is the first part of its condition that no form fits. -/
def IsUnrecognizedIn (sql part : String) : Prop :=
  StatementKind.ofText? sql = some .select ∧
    ∃ text, (Clauses.ofSql sql).condition = some text ∧ Condition.IsFirstUnrecognized text part

theorem unrecognized?_ofSql {sql part : String} (kind : StatementKind.ofText? sql = some .select) :
    (Clauses.ofSql sql).unrecognized? = some part ↔ IsUnrecognizedIn sql part := by
  simp only [IsUnrecognizedIn, kind, true_and, Clauses.unrecognized?, Option.bind_eq_some_iff,
    Condition.firstUnrecognized?_eq_some_iff]

example : (Clauses.ofSql "SELECT * FROM users WHERE id = 1 AND id + 1 AND TRUE").unrecognized? =
    some "id + 1" := by decide +kernel

/-- Only queries are evaluated by conditions. -/
theorem execute?_strict_of_ne_select {sql : String}
    (other : StatementKind.ofText? sql ≠ some .select) (dataset : Dataset) (options : Options)
    (strict : Bool) : Sandbox.execute? ⟨dataset, { options with strict := strict }⟩ sql =
      Sandbox.execute? ⟨dataset, options⟩ sql := by
  unfold Sandbox.execute?
  cases kind : StatementKind.ofText? sql with
  | none => rfl
  | some k =>
    cases k with
    | select => exact absurd kind other
    | insert | update | delete => rfl

theorem execute?_of_select {sql : String} (kind : StatementKind.ofText? sql = some .select)
    (sandbox : Sandbox) :
    sandbox.execute? sql = (Clauses.ofSql sql).run sandbox.dataset sandbox.options := by
  rw [Sandbox.execute?, kind]
  rfl

theorem not_unsupportedPredicate {dataset : Dataset} {options : Options} {sql : String} {e : Error}
    (h : Sandbox.execute? ⟨dataset, { options with strict := false }⟩ sql = .error e)
    (part : String) : e ≠ .unsupportedPredicate part := by
  rintro rfl
  cases failure_of_execute? h with
  | unsupportedPredicate _ isStrict => exact Bool.false_ne_true isStrict

/-- Strict evaluation fails where lenient evaluation fails, and with the same error. Otherwise it
has the same result, or it names the first part of a condition that no form fits. -/
theorem execute?_strict (dataset : Dataset) (options : Options) (sql : String) :
    match Sandbox.execute? ⟨dataset, { options with strict := false }⟩ sql with
    | .error e =>
      Sandbox.execute? ⟨dataset, { options with strict := true }⟩ sql = .error e ∧
        ∀ part, e ≠ .unsupportedPredicate part
    | .ok set =>
      (Sandbox.execute? ⟨dataset, { options with strict := true }⟩ sql = .ok set ∨
        ∃ part, Sandbox.execute? ⟨dataset, { options with strict := true }⟩ sql =
          .error (.unsupportedPredicate part)) ∧
      ∀ part, Sandbox.execute? ⟨dataset, { options with strict := true }⟩ sql =
        .error (.unsupportedPredicate part) ↔ IsUnrecognizedIn sql part := by
  by_cases kind : StatementKind.ofText? sql = some .select
  · have strict := execute?_of_select kind ⟨dataset, { options with strict := true }⟩
    rw [Clauses.run_strict, ← execute?_of_select kind ⟨dataset, { options with strict := false }⟩,
      Clauses.recognized] at strict
    rw [strict]
    cases lenient : Sandbox.execute? ⟨dataset, { options with strict := false }⟩ sql with
    | error e => exact ⟨rfl, not_unsupportedPredicate lenient⟩
    | ok set =>
      simp only [← unrecognized?_ofSql kind]
      cases (Clauses.ofSql sql).unrecognized? with
      | none => exact ⟨Or.inl rfl, fun part => iff_of_false nofun nofun⟩
      | some part =>
        refine ⟨Or.inr ⟨part, rfl⟩, fun other => ?_⟩
        change Except.error (Error.unsupportedPredicate part) = _ ↔ _
        rw [Except.error.injEq, Error.unsupportedPredicate.injEq, Option.some.injEq]
  · have strict := execute?_strict_of_ne_select kind dataset options true
    rw [← execute?_strict_of_ne_select kind dataset options false] at strict
    rw [strict]
    cases lenient : Sandbox.execute? ⟨dataset, { options with strict := false }⟩ sql with
    | error e => exact ⟨rfl, not_unsupportedPredicate lenient⟩
    | ok set => exact ⟨Or.inl rfl, fun part => iff_of_false nofun fun found => kind found.1⟩

end SqlTutor.Query

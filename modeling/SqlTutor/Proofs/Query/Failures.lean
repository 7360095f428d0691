import SqlTutor.Proofs.Query.Counting
import SqlTutor.Query.Sandbox

/-!
A statement fails in one of six ways. Each stage of a query has its own failures, and a stage behind
a failure is not reached. Failures about tables list all tables of the dataset in order, and the
failure about conditions is met in strict evaluation only.
-/
namespace SqlTutor.Query

/-- The failures that a statement can have on a dataset. -/
inductive Failure (dataset : Dataset) (strict : Bool) : Error → Prop
  | missingFrom : Failure dataset strict .missingFrom
  | unknownTable (table : String) :
      Failure dataset strict (.unknownTable table dataset.names)
  | unknownJoinTable (table : String) :
      Failure dataset strict (.unknownJoinTable table dataset.names)
  | missingInsertTable : Failure dataset strict .missingInsertTable
  | unsupportedStatement : Failure dataset strict .unsupportedStatement
  | unsupportedPredicate (part : String) (h : strict = true) :
      Failure dataset strict (.unsupportedPredicate part)

namespace Clauses

variable {c : Clauses} {dataset : Dataset} {strict : Bool} {e : Error}

theorem failure_of_fetch (h : c.fetch dataset = .error e) : Failure dataset strict e := by
  unfold fetch at h
  split at h
  · obtain rfl := Except.error.inj h
    exact .missingFrom
  · split at h
    · obtain rfl := Except.error.inj h
      exact .unknownTable _
    · nomatch h

theorem failure_of_joined {name : String} {rows : List Row}
    (h : c.joined dataset name rows = .error e) : Failure dataset strict e := by
  unfold joined at h
  split at h
  · nomatch h
  · split at h
    · obtain rfl := Except.error.inj h
      exact .unknownJoinTable _
    · nomatch h

theorem failure_of_read {text : List Char} (h : Condition.read strict text = .error e) :
    Failure dataset strict e := by
  unfold Condition.read at h
  dsimp only at h
  split at h
  · split at h
    · rename_i isStrict
      obtain rfl := Except.error.inj h
      exact .unsupportedPredicate _ isStrict
    · nomatch h
  · nomatch h

theorem failure_of_filtered {rows : List Row} (h : c.filtered strict rows = .error e) :
    Failure dataset strict e := by
  unfold filtered at h
  split at h
  · nomatch h
  · exact failure_of_read (map_eq_error_iff.mp h)

theorem failure_of_unsorted (h : c.unsorted dataset strict = .error e) :
    Failure dataset strict e := by
  rcases bind_eq_error_iff.mp h with fetched | ⟨⟨name, table⟩, -, h⟩
  · exact failure_of_fetch fetched
  · rcases bind_eq_error_iff.mp h with joined | ⟨rows, -, h⟩
    · exact failure_of_joined joined
    · rcases bind_eq_error_iff.mp h with filtered | ⟨kept, -, h⟩
      · exact failure_of_filtered filtered
      · nomatch h

theorem failure_of_run {options : Options} (h : c.run dataset options = .error e) :
    Failure dataset options.strict e := by
  rw [run_eq_map_unsorted] at h
  exact failure_of_unsorted (map_eq_error_iff.mp h)

end Clauses

theorem failure_of_insert {sql : String} {dataset : Dataset} {options : Options} {e : Error}
    (h : insert sql dataset options = .error e) : Failure dataset options.strict e := by
  unfold insert at h
  split at h
  · obtain rfl := Except.error.inj h
    exact .missingInsertTable
  · nomatch h

theorem failure_of_execute? {sandbox : Sandbox} {sql : String} {e : Error}
    (h : sandbox.execute? sql = .error e) : Failure sandbox.dataset sandbox.options.strict e := by
  unfold Sandbox.execute? at h
  split at h
  · obtain rfl := Except.error.inj h
    exact .unsupportedStatement
  · exact Clauses.failure_of_run h
  · exact failure_of_insert h
  · nomatch h
  · nomatch h

end SqlTutor.Query

import SqlTutor.Proofs.Json.Unambiguity
import SqlTutor.Proofs.Query.Provenance
import SqlTutor.Proofs.Text.LetterCase

/-!
Outcomes as JSON. An outcome is written as an object for an error or as one for an answer, and a
text writes no other document than the one that is printed. The object has the message of the error,
or the rows, their count and the message of a write, and each row is read again from its part of the
text. Counts are taken to be machine words, and the digits of doubles to be read as these.
-/
namespace SqlTutor

open Json Text

/-- Each text of a row is read as the row, with null for doubles that are not finite. -/
theorem Row.ofText_of_isText {row : Row} {text : String} (h : IsText row.toJson text.toList) :
    Row.ofText text = .ok row.finite :=
  Row.follows_reader.run_eq_ok_iff.mpr ⟨row.toJson, h, Row.ofJson?_toJson row⟩

namespace Query

theorem hasReturning_iff (s : List Char) : hasReturning s ↔ Contains "returning".toList s :=
  occursIn_lower_iff (by decide) (by decide) s

/-- The answers of statements of a kind. A write has a row if its text asks for one. -/
inductive Answers (sql : String) : StatementKind → ResultSet → Prop
  | query (rows : List Row) : Answers sql .select (.ofRows rows)
  | returned {kind : StatementKind} (write : kind ≠ .select)
      (asks : Contains "returning".toList sql.toList) (row : Row) (message : String) :
      Answers sql kind ⟨[row], 1, some message⟩
  | silent {kind : StatementKind} (write : kind ≠ .select)
      (asksNot : ¬ Contains "returning".toList sql.toList) (message : String) :
      Answers sql kind ⟨[], 1, some message⟩

section Answers

variable {sql : String} {kind : StatementKind} {set : ResultSet}

theorem answers_select {dataset : Dataset} {options : Options}
    (h : select sql dataset options = .ok set) : Answers sql .select set := by
  rw [select, Clauses.run_eq_map] at h
  obtain ⟨w, -, rfl⟩ := map_eq_ok_iff.mp h
  exact .query _

theorem answers_insert {dataset : Dataset} {options : Options}
    (h : insert sql dataset options = .ok set) : Answers sql .insert set := by
  unfold insert at h
  split at h
  · nomatch h
  · obtain rfl := Except.ok.inj h
    split
    · rename_i asks
      exact .returned (by simp) ((hasReturning_iff _).mp asks) _ _
    · rename_i asksNot
      exact .silent (by simp) (mt (hasReturning_iff _).mpr asksNot) _

theorem answers_change (write : kind ≠ .select) (verb flag sql : String) :
    Answers sql kind (change verb flag sql) := by
  unfold change
  split
  · rename_i asks
    exact .returned write ((hasReturning_iff _).mp asks) _ _
  · rename_i asksNot
    exact .silent write (mt (hasReturning_iff _).mpr asksNot) _

theorem Sandbox.answers_execute? {sandbox : Sandbox} (h : sandbox.execute? sql = .ok set) :
    ∃ kind, StatementKind.ofText? sql = some kind ∧ Answers sql kind set := by
  unfold Sandbox.execute? at h
  split at h
  · nomatch h
  · rename_i kind
    exact ⟨.select, kind, answers_select h⟩
  · rename_i kind
    exact ⟨.insert, kind, answers_insert h⟩
  · rename_i kind
    exact ⟨.update, kind, Except.ok.inj h ▸ answers_change (by simp) _ _ sql⟩
  · rename_i kind
    exact ⟨.delete, kind, Except.ok.inj h ▸ answers_change (by simp) _ _ sql⟩

theorem Answers.isSome_message (h : Answers sql kind set) :
    set.message.isSome ↔ kind = .insert ∨ kind = .update ∨ kind = .delete := by
  cases h with
  | query rows => simp [ResultSet.ofRows]
  | returned write | silent write => cases kind <;> simp at write ⊢

theorem Answers.rowCount_eq (h : Answers sql kind set) :
    set.rowCount = if kind = .select then set.rows.length else 1 := by
  cases h with
  | query rows => rfl
  | returned write | silent write => rw [if_neg write]

theorem Answers.length_rows (h : Answers sql kind set) (write : kind ≠ .select) :
    set.rows.length = if Contains "returning".toList sql.toList then 1 else 0 := by
  cases h with
  | query rows => exact absurd rfl write
  | returned _ asks => rw [if_pos asks, List.length_singleton]
  | silent _ asksNot => rw [if_neg asksNot, List.length_nil]

end Answers

theorem Outcome.leads_error (message : String) :
    ∀ t ∈ (Outcome.error message).toJson.tokens, t.Leads t.text [] := by
  refine forall_mem_tokens_object (fun _ ht => leads_punctuation ht) ?_ ?_
  · exact fun m _ => leads_string m.1
  · exact List.forall_mem_singleton.mpr (List.forall_mem_singleton.mpr (leads_string message))

theorem Outcome.leads_rows {set : ResultSet}
    (reads : ∀ row ∈ set.rows, ∀ x ∈ row.floats, x.isFinite → ReadsBack x)
    (word : set.rowCount < 2 ^ 64) :
    ∀ t ∈ (Outcome.rows set).toJson.tokens, t.Leads t.text [] := by
  refine forall_mem_tokens_object (fun _ ht => leads_punctuation ht) ?_ ?_
  · exact fun m _ => leads_string m.1
  · refine List.forall_mem_append.mpr ⟨List.forall_mem_cons.mpr ⟨?_, ?_⟩, ?_⟩
    · refine forall_mem_tokens_array (fun _ ht => leads_punctuation ht) fun j hj => ?_
      obtain ⟨row, hrow, rfl⟩ := List.mem_map.mp hj
      exact Row.leads_toJson (reads row hrow)
    · refine List.forall_mem_singleton.mpr (List.forall_mem_singleton.mpr ?_)
      exact leads_int (by omega) (by omega)
    · intro m hm
      obtain ⟨message, -, rfl⟩ := Option.map_eq_some_iff.mp (Option.mem_toList.mp hm)
      exact List.forall_mem_singleton.mpr (leads_string message)

theorem Sandbox.leads_execute {sandbox : Sandbox} {sql : String}
    (reads : ∀ x ∈ sandbox.dataset.floats, x.isFinite → ReadsBack x)
    (word : ∀ set, sandbox.execute? sql = .ok set → set.rowCount < 2 ^ 64) :
    ∀ t ∈ (sandbox.execute sql).toJson.tokens, t.Leads t.text [] := by
  rw [execute]
  cases answered : sandbox.execute? sql with
  | error e => exact Outcome.leads_error e.message
  | ok set =>
    have answeredReads : ∀ row ∈ set.rows, ∀ x ∈ row.floats, x.isFinite → ReadsBack x :=
      fun row hrow x hx => reads x (floats_subset_of_execute? answered hrow hx)
    exact Outcome.leads_rows answeredReads (word set answered)

/-- The outcome of a statement has one of the shapes of outcomes, if the digits of the doubles in
the dataset are read as these doubles. Counts are machine words. -/
theorem Sandbox.isText_execute (sandbox : Sandbox) (sql : String)
    (reads : ∀ x ∈ sandbox.dataset.floats, x.isFinite → ReadsBack x) :
    (∀ e, sandbox.execute? sql = .error e →
      ∀ j, IsText j (sandbox.execute sql).toJson.compact.toList ↔
        j = .object [("error", .string e.message)]) ∧
    ∀ set, sandbox.execute? sql = .ok set →
      (set.rowCount < 2 ^ 64 → ∀ j, IsText j (sandbox.execute sql).toJson.compact.toList ↔
        j = .object ([("results", .array (set.rows.map Row.toJson)),
          ("rowCount", .number (.int set.rowCount))] ++
            (set.message.map fun message => ("message", Json.string message)).toList)) ∧
      (∀ row ∈ set.rows, IsText row.toJson row.toJson.compact.toList ∧
        ∀ text, IsText row.toJson text.toList → Row.ofText text = .ok row.finite) ∧
      ∃ kind, StatementKind.ofText? sql = some kind ∧
        (set.message.isSome ↔ kind = .insert ∨ kind = .update ∨ kind = .delete) ∧
        (set.rowCount = if kind = .select then set.rows.length else 1) ∧
        (kind ≠ .select →
          set.rows.length = if Contains "returning".toList sql.toList then 1 else 0) := by
  refine ⟨fun e failed => ?_, fun set answered => ?_⟩
  · rw [execute, failed]
    exact (isText_compact (Outcome.leads_error e.message)).iff_eq
  · have answeredReads : ∀ row ∈ set.rows, ∀ x ∈ row.floats, x.isFinite → ReadsBack x :=
      fun row hrow x hx => reads x (floats_subset_of_execute? answered hrow hx)
    obtain ⟨kind, hkind, answers⟩ := answers_execute? answered
    refine ⟨fun word => ?_, fun row hrow => ⟨?_, fun text => Row.ofText_of_isText⟩, kind, hkind,
      answers.isSome_message, answers.rowCount_eq, answers.length_rows⟩
    · rw [execute, answered]
      exact (isText_compact (Outcome.leads_rows answeredReads word)).iff_eq
    · exact isText_compact (Row.leads_toJson (answeredReads row hrow))

def unusualSandbox : Sandbox := ⟨Dataset.unusual, { today := ⟨2024, 6, 1⟩ }⟩

/-- The name of a table is escaped in the message of an error, and what is not a number is null in
the answer of a query. -/
theorem Sandbox.isText_execute_unusual :
    (∀ x ∈ unusualSandbox.dataset.floats, x.isFinite → ReadsBack x) ∧
      (∀ j, IsText j (unusualSandbox.execute "SELECT * FROM two").toJson.compact.toList ↔
        j = .object [("error", .string "Table 'two' not found. Available: \"none\"\n, one")]) ∧
      (∀ j, IsText j
        (unusualSandbox.execute "UPDATE one SET zero = 1 Returning *").toJson.compact.toList ↔
        j = .object [
          ("results", .array [.object [("id", .number (.int 1)), ("updated", .bool true)]]),
          ("rowCount", .number (.int 1)),
          ("message", .string "UPDATE with RETURNING (simulated)")]) ∧
      ∃ row, unusualSandbox.execute? "SELECT * FROM one" = .ok (.ofRows [.empty, row]) ∧
        row.finite ≠ row ∧ Row.ofText row.toJson.compact = .ok row.finite := by
  have reads : ∀ x ∈ unusualSandbox.dataset.floats, x.isFinite → ReadsBack x := by decide +kernel
  have failed : unusualSandbox.execute? "SELECT * FROM two" =
      .error (.unknownTable "two" ["\"none\"\n", "one"]) := by decide +kernel
  have written : unusualSandbox.execute? "UPDATE one SET zero = 1 Returning *" =
      .ok ⟨[.ofList [("id", .int 1), ("updated", .bool true)]], 1,
        some "UPDATE with RETURNING (simulated)"⟩ := by decide +kernel
  have queried : unusualSandbox.execute? "SELECT * FROM one" =
      .ok (.ofRows [.empty, .ofList [("", .float (Double.nan false)), ("zero", .float (.zero true)),
        ("least", .int Int64.minValue), ("\t", .text "\x01\\é")]]) := by decide +kernel
  have rows := ((isText_execute _ _ reads).2 _ queried).2.1
  obtain ⟨isText, back⟩ := rows _ (List.mem_cons_of_mem _ List.mem_cons_self)
  refine ⟨reads, (isText_execute _ _ reads).1 _ failed, ?_, _, queried, by decide +kernel,
    back _ isText⟩
  exact ((isText_execute _ _ reads).2 _ written).1 (by decide)

end Query

end SqlTutor

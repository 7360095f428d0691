import SqlTutor.Course.Catalog
import SqlTutor.Proofs.Query.Outcomes

/-!
The tasks about getting rows back are accepted for the message of the answer, and the message of an
insertion that asks for no row names the word that would ask for it. So of the statements without
that word, the insertions into a table pass two of these tasks although no row comes back. The third
task also wants a row, and no such statement passes it.
-/
namespace SqlTutor.Course

open Query Text

theorem Task.passed_check_iff {task : Task} {sandbox : Sandbox} {sql : String} :
    (task.check sandbox sql).passed ↔
      ∃ set, sandbox.execute? sql = .ok set ∧ task.accepts set := by
  rw [check, Sandbox.execute]
  cases sandbox.execute? sql <;> simp [Outcome.ofExcept, Outcome.resultSet?]

/-- What an insertion answers that asks for no row. -/
def silentInsert : ResultSet :=
  ⟨[], 1, some "INSERT successful (simulated). Use RETURNING to get the inserted row!"⟩

/-- The answers of statements that ask for no row. -/
inductive Silent (sql : String) : ResultSet → Prop
  | query (rows : List Row) : Silent sql (.ofRows rows)
  | insert (kind : StatementKind.ofText? sql = some .insert)
      (table : (insertTable? sql.toList).isSome) : Silent sql silentInsert
  | update : Silent sql ⟨[], 1, some "UPDATE successful (simulated)"⟩
  | delete : Silent sql ⟨[], 1, some "DELETE successful (simulated)"⟩

section Silent

variable {sandbox : Sandbox} {sql : String} {set : ResultSet}

theorem execute?_eq_silentInsert (plain : ¬ Contains "returning".toList sql.toList)
    (kind : StatementKind.ofText? sql = some .insert)
    (table : (insertTable? sql.toList).isSome) : sandbox.execute? sql = .ok silentInsert := by
  obtain ⟨name, htable⟩ := Option.isSome_iff_exists.mp table
  simp only [Sandbox.execute?, kind, Query.insert, htable, mt (hasReturning_iff _).mp plain]
  rfl

theorem silent_of_execute? (plain : ¬ Contains "returning".toList sql.toList)
    (h : sandbox.execute? sql = .ok set) : Silent sql set := by
  have unasked : ¬ hasReturning sql.toList := mt (hasReturning_iff _).mp plain
  unfold Sandbox.execute? at h
  split at h
  · nomatch h
  · cases answers_select h with
    | query rows => exact .query rows
    | returned write => exact absurd rfl write
    | silent write => exact absurd rfl write
  · rename_i kind
    unfold Query.insert at h
    split at h
    · nomatch h
    · rename_i table htable
      rw [if_neg unasked] at h
      obtain rfl := Except.ok.inj h
      exact .insert kind (by simp [htable])
  · rw [update, change, if_neg unasked] at h
    obtain rfl := Except.ok.inj h
    exact .update
  · rw [delete, change, if_neg unasked] at h
    obtain rfl := Except.ok.inj h
    exact .delete

theorem Silent.insert_of_mentionsReturning (h : Silent sql set) (mentions : mentionsReturning set) :
    set = silentInsert ∧ StatementKind.ofText? sql = some .insert ∧
      (insertTable? sql.toList).isSome := by
  cases h with
  | query rows => exact absurd mentions (by simp [mentionsReturning, ResultSet.ofRows])
  | insert kind table => exact ⟨rfl, kind, table⟩
  | update => exact absurd mentions (by decide +kernel)
  | delete => exact absurd mentions (by decide +kernel)

theorem Task.passed_check_iff_of_plain {task : Task} (accepts : task.accepts = mentionsReturning)
    (plain : ¬ Contains "returning".toList sql.toList) :
    (task.check sandbox sql).passed ↔
      StatementKind.ofText? sql = some .insert ∧ (insertTable? sql.toList).isSome := by
  rw [passed_check_iff, accepts]
  constructor
  · rintro ⟨set, answered, mentions⟩
    exact ((silent_of_execute? plain answered).insert_of_mentionsReturning mentions).2
  · rintro ⟨kind, table⟩
    exact ⟨silentInsert, execute?_eq_silentInsert plain kind table, by decide +kernel⟩

end Silent

/-- Without the word that asks for a row, in any letter case, the task that wants a row is never
passed. The other two look at the message only, and every insertion into a table passes them. -/
theorem passed_check_of_plain (sandbox : Sandbox) {sql : String}
    (plain : ¬ Contains "returning".toList sql.toList) :
    (∃ task, findTask? "crud-insert" = some task ∧ ¬ (task.check sandbox sql).passed) ∧
    ∀ id ∈ ["returning-insert", "returning-update"], ∃ task, findTask? id = some task ∧
      ((task.check sandbox sql).passed ↔ StatementKind.ofText? sql = some .insert ∧
        (insertTable? sql.toList).isSome) := by
  constructor
  · refine ⟨Exercise.insertUser.toTask, rfl, fun passed => ?_⟩
    obtain ⟨set, answered, accepted⟩ := Task.passed_check_iff.mp passed
    obtain ⟨row, mentions⟩ := Bool.and_eq_true_iff.mp accepted
    obtain ⟨rfl, -⟩ := (silent_of_execute? plain answered).insert_of_mentionsReturning mentions
    exact absurd row (by decide)
  · intro id hid
    rcases List.mem_pair.mp hid with rfl | rfl
    · exact ⟨Exercise.insertReturning.toTask, rfl, Task.passed_check_iff_of_plain rfl plain⟩
    · exact ⟨Exercise.updateReturning.toTask, rfl, Task.passed_check_iff_of_plain rfl plain⟩

def sampleSandbox : Sandbox := ⟨Dataset.sample, { today := ⟨2024, 6, 1⟩ }⟩

/-- An update passes none of the tasks. -/
theorem passed_check_of_plain_update :
    ¬ Contains "returning".toList "UPDATE users SET role = 'admin' WHERE id = 2".toList ∧
      ∀ id ∈ ["crud-insert", "returning-insert", "returning-update"], ∃ task,
        findTask? id = some task ∧
          ¬ (task.check sampleSandbox "UPDATE users SET role = 'admin' WHERE id = 2").passed := by
  have plain :
      ¬ Contains "returning".toList "UPDATE users SET role = 'admin' WHERE id = 2".toList := by
    decide +kernel
  have kind : StatementKind.ofText? "UPDATE users SET role = 'admin' WHERE id = 2" ≠
      some .insert := by decide +kernel
  obtain ⟨wantsRow, others⟩ := passed_check_of_plain sampleSandbox plain
  refine ⟨plain, List.forall_mem_cons.mpr ⟨wantsRow, fun id hid => ?_⟩⟩
  obtain ⟨task, found, passed⟩ := others id hid
  exact ⟨task, found, fun h => kind (passed.mp h).1⟩

/-- An insertion that asks for no row passes a task about getting it back. -/
theorem not_forall_passed_check_of_plain :
    ¬ ∀ (sandbox : Sandbox) (sql : String), ¬ Contains "returning".toList sql.toList →
      ∀ id ∈ ["crud-insert", "returning-insert", "returning-update"], ∃ task,
        findTask? id = some task ∧ ¬ (task.check sandbox sql).passed := by
  intro h
  obtain ⟨task, found, failed⟩ := h sampleSandbox
    "INSERT INTO users (name, email) VALUES ('New User', 'new@ex.com')" (by decide +kernel)
    "returning-insert" (by decide)
  obtain rfl : Exercise.insertReturning.toTask = task := Option.some.inj found
  exact failed (by decide +kernel)

end SqlTutor.Course

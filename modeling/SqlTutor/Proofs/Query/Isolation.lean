import SqlTutor.Proofs.Query.Failures

/-!
Tables that a statement does not name. A query looks into the tables of FROM and JOIN and an INSERT
into its own, so adding or replacing another table leaves the result as it is. Changes to other
tables are seen only in the list of tables that an error gives, which is that of the changed
dataset.
-/
namespace SqlTutor.Query

/-- The same error where other tables are available. -/
def Error.withAvailable (available : List String) : Error → Error
  | .unknownTable table _ => .unknownTable table available
  | .unknownJoinTable table _ => .unknownJoinTable table available
  | e => e

/-- The tables that a statement looks into. -/
def namedTables (sql : String) : List String :=
  match StatementKind.ofText? sql with
  | some .select =>
    (Clauses.ofSql sql).fromTable.toList ++ ((Clauses.ofSql sql).join.map (·.table)).toList
  | some .insert => (insertTable? sql.toList).toList
  | _ => []

namespace Clauses

variable {c : Clauses} {dataset : Dataset} {name : String} (rows : List Row)

theorem fetch_insert (h : ∀ table ∈ c.fromTable, table ≠ name) :
    c.fetch (dataset.insert name rows) =
      (c.fetch dataset).mapError (Error.withAvailable (dataset.insert name rows).names) := by
  unfold fetch
  cases hc : c.fromTable with
  | none => rfl
  | some table =>
    simp only [OrderedMap.get?_insert, if_neg (h table hc)]
    cases dataset.get? table <;> rfl

theorem joined_insert (h : ∀ join ∈ c.join, join.table ≠ name) (fromTable : String)
    (lefts : List Row) : c.joined (dataset.insert name rows) fromTable lefts =
      (c.joined dataset fromTable lefts).mapError
        (Error.withAvailable (dataset.insert name rows).names) := by
  unfold joined
  cases hc : c.join with
  | none => rfl
  | some join =>
    simp only [OrderedMap.get?_insert, if_neg (h join hc)]
    cases dataset.get? join.table <;> rfl

/-- Conditions fail for their parts, whatever tables there are. -/
theorem filtered_mapError (c : Clauses) (strict : Bool) (rows : List Row)
    (available : List String) :
    (c.filtered strict rows).mapError (Error.withAvailable available) = c.filtered strict rows := by
  unfold filtered Condition.read
  cases c.condition with
  | none => rfl
  | some text =>
    dsimp only
    cases (Condition.ofText text.toList).firstUnrecognized? with
    | none => rfl
    | some part => cases strict <;> rfl

theorem run_insert (hfrom : ∀ table ∈ c.fromTable, table ≠ name)
    (hjoin : ∀ join ∈ c.join, join.table ≠ name) (options : Options) :
    c.run (dataset.insert name rows) options = (c.run dataset options).mapError
      (Error.withAvailable (dataset.insert name rows).names) := by
  simp only [run, mapError_bind, fetch_insert rows hfrom, joined_insert rows hjoin,
    filtered_mapError]
  rfl

end Clauses

/-- A fresh id is one for the rows of its own table. -/
theorem insert_insert {sql name : String} (h : ∀ table ∈ insertTable? sql.toList, table ≠ name)
    (dataset : Dataset) (options : Options) (rows : List Row) :
    insert sql (dataset.insert name rows) options = (insert sql dataset options).mapError
      (Error.withAvailable (dataset.insert name rows).names) := by
  unfold insert
  cases htable : insertTable? sql.toList with
  | none => rfl
  | some table =>
    simp only [nextId, OrderedMap.get?_insert, if_neg (h table htable)]
    rfl

theorem execute?_insert {sql name : String} (h : name ∉ namedTables sql) (dataset : Dataset)
    (options : Options) (rows : List Row) :
    Sandbox.execute? ⟨dataset.insert name rows, options⟩ sql =
      (Sandbox.execute? ⟨dataset, options⟩ sql).mapError
        (Error.withAvailable (dataset.insert name rows).names) := by
  unfold namedTables at h
  unfold Sandbox.execute?
  cases kind : StatementKind.ofText? sql with
  | none => rfl
  | some k =>
    simp only [kind] at h
    cases k with
    | select =>
      rw [List.mem_append, not_or] at h
      refine Clauses.run_insert rows (fun table found => ?_) (fun join found => ?_) options
      · rintro rfl
        exact h.1 (Option.mem_toList.mpr found)
      · rintro rfl
        exact h.2 (Option.mem_toList.mpr (Option.mem_map_of_mem _ found))
    | insert =>
      refine insert_insert (fun table found => ?_) dataset options rows
      rintro rfl
      exact h (Option.mem_toList.mpr found)
    | update | delete => rfl

/-- Adding or replacing a table that a statement does not name changes nothing but the list of
tables in an error. This list is always that of all tables in order. -/
theorem execute?_insert_of_notMem {sql name : String} (h : name ∉ namedTables sql)
    (dataset : Dataset) (options : Options) (rows : List Row) :
    Sandbox.execute? ⟨dataset.insert name rows, options⟩ sql =
        (Sandbox.execute? ⟨dataset, options⟩ sql).mapError
          (Error.withAvailable (dataset.insert name rows).names) ∧
      ∀ (d : Dataset) table available,
        Sandbox.execute? ⟨d, options⟩ sql = .error (.unknownTable table available) ∨
          Sandbox.execute? ⟨d, options⟩ sql = .error (.unknownJoinTable table available) →
        available = d.names := by
  refine ⟨execute?_insert h dataset options rows, fun d table available failed => ?_⟩
  rcases failed with failed | failed
  · cases failure_of_execute? failed
    rfl
  · cases failure_of_execute? failed
    rfl

def ghostsSql : String := "SELECT * FROM users JOIN ghosts ON users.id = ghosts.user_id"

/-- An added table is listed behind the others. -/
theorem execute?_insert_of_notMem_ghosts :
    "comments" ∉ namedTables ghostsSql ∧ "guests" ∉ namedTables ghostsSql ∧
      Sandbox.execute? ⟨Dataset.sample.insert "comments" [], { today := ⟨2024, 6, 1⟩ }⟩ ghostsSql =
        .error (.unknownJoinTable "ghosts" ["users", "posts", "comments", "orders"]) ∧
      Sandbox.execute? ⟨Dataset.sample.insert "guests" [], { today := ⟨2024, 6, 1⟩ }⟩ ghostsSql =
        .error (.unknownJoinTable "ghosts" ["users", "posts", "comments", "orders", "guests"]) := by
  have named : namedTables ghostsSql = ["users", "ghosts"] := by decide +kernel
  have comments : "comments" ∉ namedTables ghostsSql := by simp [named]
  have guests : "guests" ∉ namedTables ghostsSql := by simp [named]
  have failed : Sandbox.execute? ⟨Dataset.sample, { today := ⟨2024, 6, 1⟩ }⟩ ghostsSql =
      .error (.unknownJoinTable "ghosts" ["users", "posts", "comments", "orders"]) := by
    decide +kernel
  have replaced := (execute?_insert_of_notMem comments Dataset.sample
    { today := ⟨2024, 6, 1⟩ } []).1
  have added := (execute?_insert_of_notMem guests Dataset.sample { today := ⟨2024, 6, 1⟩ } []).1
  rw [failed] at replaced added
  exact ⟨comments, guests, replaced, added⟩

end SqlTutor.Query

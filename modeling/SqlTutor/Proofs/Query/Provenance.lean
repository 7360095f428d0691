import SqlTutor.Proofs.Dataset.RoundTrip
import SqlTutor.Proofs.Query.Failures

/-!
Where the values of answers come from. Each stage of a query passes on values that it finds, or
counts, so what holds of all values of a dataset and of counts holds of all values of an answer. In
particular all doubles of an answer are doubles of the dataset.
-/
namespace SqlTutor.Query

variable {good : Value → Prop}

theorem all_combine {join : JoinClause} {left right : Row} (hleft : left.All good)
    (hright : right.All good) : (join.combine left right).All good := by
  unfold JoinClause.combine
  split
  · rename_i found
    exact (hleft.merge hright).insert _ (hright.of_get? found)
  · exact hleft.merge hright

theorem all_joinRows {join : JoinClause} {fromTable : String} {lefts rights : List Row}
    (hlefts : ∀ row ∈ lefts, row.All good) (hrights : ∀ row ∈ rights, row.All good) :
    ∀ row ∈ join.rows fromTable lefts rights, row.All good := by
  intro row hrow
  obtain ⟨left, hleft, hrow⟩ := List.mem_flatMap.mp hrow
  obtain ⟨right, hright, rfl⟩ := List.mem_map.mp hrow
  exact all_combine (hlefts left hleft) (hrights right (List.mem_filter.mp hright).1)

theorem all_projectionRow {row : Row} (h : row.All good) (items : List SelectItem) :
    (Projection.row items row).All good := by
  refine OrderedMap.all_ofList fun entry hentry => ?_
  obtain ⟨item, -, made⟩ := List.mem_filterMap.mp hentry
  obtain ⟨v, found, rfl⟩ := Option.map_eq_some_iff.mp made
  exact h.of_get? found

namespace Group

theorem forall_mem_add {value : Option Value} (hvalue : ∀ v ∈ value, good v) {groups : List Group}
    (h : ∀ group ∈ groups, ∀ v ∈ group.value, good v) :
    ∀ group ∈ add value groups, ∀ v ∈ group.value, good v := by
  induction groups with
  | nil => exact List.forall_mem_singleton.mpr hvalue
  | cons first rest ih =>
    obtain ⟨hfirst, hrest⟩ := List.forall_mem_cons.mp h
    rw [add]
    split
    · exact List.forall_mem_cons.mpr ⟨hfirst, hrest⟩
    · exact List.forall_mem_cons.mpr ⟨hfirst, ih hrest⟩

theorem forall_mem_foldl {column : String} {rows : List Row} (hrows : ∀ row ∈ rows, row.All good)
    {groups : List Group} (h : ∀ group ∈ groups, ∀ v ∈ group.value, good v) :
    ∀ group ∈ rows.foldl (fun groups row => add (row.get? column) groups) groups,
      ∀ v ∈ group.value, good v := by
  induction rows generalizing groups with
  | nil => exact h
  | cons row rows ih =>
    obtain ⟨hrow, hrows⟩ := List.forall_mem_cons.mp hrows
    exact ih hrows (forall_mem_add (fun v found => hrow.of_get? found) h)

theorem all_toRow (counts : ∀ n, good (.ofCount n)) (column : String) {group : Group}
    (h : ∀ v ∈ group.value, good v) : (toRow column group).All good := by
  unfold toRow
  cases value : group.value with
  | none => exact OrderedMap.all_empty.insert _ (counts _)
  | some v => exact (OrderedMap.all_empty.insert _ (h v value)).insert _ (counts _)

theorem all_rows (counts : ∀ n, good (.ofCount n)) (column : String) {rows : List Row}
    (h : ∀ row ∈ rows, row.All good) : ∀ row ∈ Group.rows column rows, row.All good := by
  intro row hrow
  obtain ⟨group, hgroup, rfl⟩ := List.mem_map.mp hrow
  have listed : group ∈ ofRows column rows := List.mem_mergeSort.mp hgroup
  exact all_toRow counts column (forall_mem_foldl h (List.forall_mem_nil _) group listed)

end Group

namespace Clauses

variable {c : Clauses} {dataset : Dataset} {rows : List Row}

theorem all_fetch (h : dataset.All fun rows => ∀ row ∈ rows, row.All good) {name : String}
    (fetched : c.fetch dataset = .ok (name, rows)) : ∀ row ∈ rows, row.All good :=
  h.of_get? (fetch_eq_ok_iff.mp fetched).2

theorem all_joined (h : dataset.All fun rows => ∀ row ∈ rows, row.All good) {name : String}
    (hrows : ∀ row ∈ rows, row.All good) {kept : List Row}
    (joined : c.joined dataset name rows = .ok kept) : ∀ row ∈ kept, row.All good := by
  unfold Clauses.joined at joined
  split at joined
  · exact Except.ok.inj joined ▸ hrows
  · split at joined
    · nomatch joined
    · rename_i found
      exact Except.ok.inj joined ▸ all_joinRows hrows (h.of_get? found)

theorem filtered_subset {strict : Bool} {kept : List Row}
    (h : c.filtered strict rows = .ok kept) : kept ⊆ rows := by
  rw [eq_filter_passes h]
  exact fun row hrow => (List.mem_filter.mp hrow).1

theorem sorted_subset : c.sorted rows ⊆ rows := by
  unfold sorted
  split
  · exact List.Subset.refl rows
  · exact (List.mergeSort_perm _ _).subset

theorem limited_subset : c.limited rows ⊆ rows := by
  unfold limited
  split
  · exact List.Subset.refl rows
  · exact List.take_subset _ rows

theorem all_grouped (counts : ∀ n, good (.ofCount n)) (h : ∀ row ∈ rows, row.All good) :
    ∀ row ∈ c.grouped rows, row.All good := by
  unfold grouped
  split
  · exact h
  · exact Group.all_rows counts _ h

theorem all_results (counts : ∀ n, good (.ofCount n)) (source : CountSource) (size : Nat)
    (h : ∀ row ∈ rows, row.All good) : ∀ row ∈ c.results source size rows, row.All good := by
  have counted : ∀ n, ∀ row ∈ [countRow n], row.All good := fun n =>
    List.forall_mem_singleton.mpr (OrderedMap.all_empty.insert _ (counts n))
  unfold results projected
  split
  · cases source with
    | table => exact counted _
    | workingSet => exact counted _
  · split
    · exact h
    · split
      · exact h
      · exact List.forall_mem_map.mpr fun row hrow => all_projectionRow (h row hrow) _

theorem all_run (h : dataset.All fun rows => ∀ row ∈ rows, row.All good)
    (counts : ∀ n, good (.ofCount n)) {options : Options} {set : ResultSet}
    (ran : c.run dataset options = .ok set) : ∀ row ∈ set.rows, row.All good := by
  rw [run_eq_map_unsorted] at ran
  obtain ⟨⟨table, kept⟩, found, rfl⟩ := map_eq_ok_iff.mp ran
  obtain ⟨name, joined, fetched, hjoined, hkept⟩ := unsorted_eq_ok_iff.mp found
  have working : ∀ row ∈ c.limited (c.sorted kept), row.All good := fun row hrow =>
    all_joined h (all_fetch h fetched) hjoined row
      (filtered_subset hkept (sorted_subset (limited_subset hrow)))
  exact all_results counts _ _ (all_grouped counts working)

end Clauses

theorem all_change (made : ∀ v : Value, v.floats = [] → good v) (verb flag sql : String) :
    ∀ row ∈ (change verb flag sql).rows, row.All good := by
  unfold change
  split
  · refine List.forall_mem_singleton.mpr (OrderedMap.all_ofList ?_)
    exact List.forall_mem_cons.mpr ⟨made _ rfl, List.forall_mem_singleton.mpr (made _ rfl)⟩
  · exact List.forall_mem_nil _

theorem all_insert (made : ∀ v : Value, v.floats = [] → good v) {sql : String} {dataset : Dataset}
    {options : Options} {set : ResultSet} (h : insert sql dataset options = .ok set) :
    ∀ row ∈ set.rows, row.All good := by
  unfold insert at h
  split at h
  · nomatch h
  · obtain rfl := Except.ok.inj h
    split
    · refine List.forall_mem_singleton.mpr (OrderedMap.all_ofList ?_)
      exact List.forall_mem_cons.mpr ⟨made _ rfl, List.forall_mem_singleton.mpr (made _ rfl)⟩
    · exact List.forall_mem_nil _

/-- Statements answer with values of the dataset, and else only with values that are no doubles. -/
theorem Sandbox.all_execute? {sandbox : Sandbox}
    (h : sandbox.dataset.All fun rows => ∀ row ∈ rows, row.All good)
    (made : ∀ v : Value, v.floats = [] → good v) {sql : String} {set : ResultSet}
    (executed : sandbox.execute? sql = .ok set) : ∀ row ∈ set.rows, row.All good := by
  unfold Sandbox.execute? at executed
  split at executed
  · nomatch executed
  · exact Clauses.all_run h (fun n => made _ rfl) executed
  · exact all_insert made executed
  · exact Except.ok.inj executed ▸ all_change made _ _ _
  · exact Except.ok.inj executed ▸ all_change made _ _ _

theorem Sandbox.floats_subset_of_execute? {sandbox : Sandbox} {sql : String} {set : ResultSet}
    (h : sandbox.execute? sql = .ok set) {row : Row} (hrow : row ∈ set.rows) :
    row.floats ⊆ sandbox.dataset.floats := by
  have stored : sandbox.dataset.All fun rows => ∀ row ∈ rows,
      row.All fun v => v.floats ⊆ sandbox.dataset.floats :=
    fun table ht row hr column hc =>
      List.Subset.trans (Row.floats_subset hc) (Dataset.floats_subset ht hr)
  have answered := Sandbox.all_execute? stored (fun v none => by simp [none]) h row hrow
  intro x hx
  obtain ⟨column, hc, float⟩ := List.mem_flatMap.mp hx
  exact answered column hc float

end SqlTutor.Query

import SqlTutor.Proofs.Dataset.Histories

/-!
Merging two rows writes the entries of the second one into the first. A map is settled by what it
shows, which is its names in order and the value of each, so maps with the same history are the same
map. Rows are therefore a monoid under merging, in which each row absorbs itself, and a list of
entries that is put together from two has the merge of their rows.
-/
namespace SqlTutor

namespace OrderedMap

variable {α : Type}

theorem get?_of_mem {m : OrderedMap α} {entry : String × α} (h : entry ∈ m.entries) :
    m.get? entry.1 = some entry.2 := by
  obtain ⟨before, after, split⟩ := List.append_of_mem h
  have distinct := m.nodup
  rw [split, List.map_append, List.map_cons] at distinct
  refine List.lookup_eq_some_iff.mpr ⟨before, after, split, fun other hother => ?_⟩
  rw [bne_iff_ne]
  have apart := (List.nodup_append.mp distinct).2.2
  exact (apart other.1 (List.mem_map_of_mem hother) entry.1 List.mem_cons_self).symm

theorem map_some_entries (m : OrderedMap α) :
    m.entries.map some = m.names.map fun name => (m.get? name).map (name, ·) := by
  rw [names, List.map_map]
  refine List.map_congr_left fun entry hentry => ?_
  rw [Function.comp_apply, get?_of_mem hentry, Option.map_some]

theorem eq_of_names_eq {m other : OrderedMap α} (names : m.names = other.names)
    (values : ∀ name, m.get? name = other.get? name) : m = other := by
  have shown : m.entries.map some = other.entries.map some := by
    rw [map_some_entries, map_some_entries, names, funext values]
  have entries := List.map_injective_iff.mpr (Option.some_injective _) shown
  rw [← ofList_entries m, entries, ofList_entries]

/-- A history makes one map only. -/
theorem Records.eq {writes : List (String × α)} {m other : OrderedMap α} (h : Records writes m)
    (hother : Records writes other) : m = other :=
  eq_of_names_eq (h.names_eq.trans hother.names_eq.symm)
    fun name => (h.get?_eq name).trans (hother.get?_eq name).symm

theorem ofList_append (writes more : List (String × α)) :
    ofList (writes ++ more) = (ofList writes).merge (ofList more) :=
  (records_ofList (writes ++ more)).eq ((records_ofList writes).merge (records_ofList more))

theorem merge_assoc (a b c : OrderedMap α) : (a.merge b).merge c = a.merge (b.merge c) := by
  have first := ((records_entries a).merge (records_entries b)).merge (records_entries c)
  have second := (records_entries a).merge ((records_entries b).merge (records_entries c))
  rw [List.append_assoc] at first
  exact first.eq second

theorem empty_merge (m : OrderedMap α) : empty.merge m = m := ofList_entries m

theorem merge_empty (m : OrderedMap α) : m.merge empty = m := rfl

theorem merge_self (m : OrderedMap α) : m.merge m = m := by
  refine eq_of_names_eq ?_ fun name => ?_
  · rw [names_merge, List.filter_eq_nil_iff.mpr fun name hname => by simpa using hname,
      List.append_nil]
  · rw [get?_merge, Option.or_self]

end OrderedMap

namespace Row

/-- Every row can be made, if only from the list of its entries. Merging rows is associative, with
the empty row as its unit on both sides, and a row merged with itself stays what it is; the order of
the columns counts in all of this. A row made from the entries of one list and then of another is
the merge of the rows made from each. -/
theorem merge_monoid :
    (∀ row : Row, Written row.entries row) ∧
    (∀ a b c : Row, (a.merge b).merge c = a.merge (b.merge c)) ∧
    (∀ a : Row, OrderedMap.empty.merge a = a ∧ a.merge .empty = a) ∧
    (∀ a : Row, a.merge a = a) ∧
    ∀ writes more : List (String × Value),
      OrderedMap.ofList (writes ++ more) =
        (OrderedMap.ofList writes).merge (OrderedMap.ofList more) := by
  refine ⟨fun row => ?_, OrderedMap.merge_assoc, fun a => ⟨a.empty_merge, a.merge_empty⟩,
    OrderedMap.merge_self, OrderedMap.ofList_append⟩
  have made := Written.ofList row.entries
  rwa [OrderedMap.ofList_entries] at made

end Row

end SqlTutor

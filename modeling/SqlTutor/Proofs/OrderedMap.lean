import SqlTutor.OrderedMap
import Mathlib.Data.List.Induction

/-!
Maps made from lists of entries. A list without repeated names is the list of entries of its map. Of
any other list, and of all that is written into a map, the map shows the names in the order of their
first writes, each with the value of its last.
-/
namespace SqlTutor.OrderedMap

variable {α : Type}

theorem setEntry_of_notMem {name : String} (value : α) {entries : List (String × α)}
    (h : name ∉ entries.map Prod.fst) :
    setEntry name value entries = entries ++ [(name, value)] := by
  induction entries with
  | nil => rfl
  | cons entry rest ih =>
    rw [List.map_cons, List.mem_cons, not_or] at h
    rw [setEntry, if_neg (Ne.symm h.1), ih h.2, List.cons_append]

theorem entries_insertAll (m : OrderedMap α) {entries : List (String × α)}
    (h : (m.entries.map Prod.fst ++ entries.map Prod.fst).Nodup) :
    (m.insertAll entries).entries = m.entries ++ entries := by
  induction entries generalizing m with
  | nil => rw [insertAll_nil, List.append_nil]
  | cons entry rest ih =>
    have fresh : entry.1 ∉ m.entries.map Prod.fst := by
      intro mem
      exact (List.nodup_append.mp h).2.2 _ mem _ List.mem_cons_self rfl
    have added : (m.insert entry.1 entry.2).entries = m.entries ++ [entry] :=
      setEntry_of_notMem entry.2 fresh
    rw [insertAll_cons, ih, added, List.append_assoc, List.singleton_append]
    rw [added, List.map_append, List.append_assoc]
    exact h

/-- Entries of different names stay as they are listed. -/
theorem entries_ofList {entries : List (String × α)} (h : (entries.map Prod.fst).Nodup) :
    (ofList entries).entries = entries :=
  entries_insertAll empty h

theorem ofList_entries (m : OrderedMap α) : ofList m.entries = m := by
  have same := entries_ofList m.nodup
  cases m
  cases h : ofList _
  rw [h] at same
  subst same
  rfl

theorem mem_of_mem_setEntry {name : String} {value : α} {entries : List (String × α)}
    {entry : String × α} (h : entry ∈ setEntry name value entries) :
    entry = (name, value) ∨ entry ∈ entries := by
  induction entries with
  | nil => exact Or.inl (List.mem_singleton.mp h)
  | cons first rest ih =>
    rw [setEntry] at h
    split at h
    · exact (List.mem_cons.mp h).imp_right (List.mem_cons_of_mem _)
    · rcases List.mem_cons.mp h with rfl | later
      · exact Or.inr List.mem_cons_self
      · exact (ih later).imp_right (List.mem_cons_of_mem _)

theorem mem_of_mem_insertAll {m : OrderedMap α} {entries : List (String × α)}
    {entry : String × α} (h : entry ∈ (m.insertAll entries).entries) :
    entry ∈ m.entries ∨ entry ∈ entries := by
  induction entries generalizing m with
  | nil => exact Or.inl h
  | cons first rest ih =>
    rw [insertAll_cons] at h
    rcases ih h with added | later
    · rcases mem_of_mem_setEntry added with rfl | old
      · exact Or.inr List.mem_cons_self
      · exact Or.inl old
    · exact Or.inr (List.mem_cons_of_mem _ later)

/-- A map has no entries but those that it is made from. -/
theorem mem_of_mem_ofList {entries : List (String × α)} {entry : String × α}
    (h : entry ∈ (ofList entries).entries) : entry ∈ entries :=
  (mem_of_mem_insertAll h).resolve_left List.not_mem_nil

/-- Writing a name again changes its own entry and no other. -/
theorem entries_insert_of_mem {m : OrderedMap α} {name : String} (h : name ∈ m.names)
    (value : α) :
    (m.insert name value).entries =
      m.entries.map fun entry => if entry.1 = name then (name, value) else entry := by
  obtain ⟨entries, nodup⟩ := m
  change setEntry name value entries = _
  change name ∈ entries.map Prod.fst at h
  induction entries with
  | nil => nomatch h
  | cons entry rest ih =>
    obtain ⟨fresh, distinct⟩ := List.nodup_cons.mp nodup
    rw [setEntry, List.map_cons]
    by_cases same : entry.1 = name
    · have others : rest.map (fun entry => if entry.1 = name then (name, value) else entry) =
          rest := by
        refine (List.map_congr_left fun other hother => if_neg ?_).trans (List.map_id rest)
        rintro rfl
        exact fresh (same ▸ List.mem_map_of_mem hother)
      rw [if_pos same, if_pos same, others]
    · have later : name ∈ rest.map Prod.fst :=
        (List.mem_cons.mp h).resolve_left (Ne.symm same)
      rw [if_neg same, if_neg same, ih distinct later]

/-- The same names with other values. -/
def mapValues {β : Type} (f : α → β) (m : OrderedMap α) : OrderedMap β where
  entries := m.entries.map fun entry => (entry.1, f entry.2)
  nodup := by
    rw [List.map_map]
    exact m.nodup

theorem mapValues_eq_self {f : α → α} {m : OrderedMap α}
    (h : ∀ entry ∈ m.entries, f entry.2 = entry.2) : m.mapValues f = m := by
  obtain ⟨entries, nodup⟩ := m
  have same : entries.map (fun entry => (entry.1, f entry.2)) = entries := by
    refine (List.map_congr_left fun entry hentry => ?_).trans (List.map_id entries)
    rw [h entry hentry]
    rfl
  simp only [mapValues, same]

def All (good : α → Prop) (m : OrderedMap α) : Prop := ∀ entry ∈ m.entries, good entry.2

section All

variable {good : α → Prop} {m other : OrderedMap α}

theorem all_empty : All good empty := List.forall_mem_nil _

theorem all_insertAll {entries : List (String × α)} (h : m.All good)
    (added : ∀ entry ∈ entries, good entry.2) : (m.insertAll entries).All good := by
  intro entry mem
  exact (mem_of_mem_insertAll mem).elim (h entry) (added entry)

theorem All.insert (h : m.All good) (name : String) {value : α} (hvalue : good value) :
    (m.insert name value).All good := by
  have one : ∀ entry ∈ [(name, value)], good entry.2 := List.forall_mem_singleton.mpr hvalue
  exact all_insertAll h one

theorem All.merge (h : m.All good) (hother : other.All good) : (m.merge other).All good :=
  all_insertAll h hother

theorem all_ofList {entries : List (String × α)} (h : ∀ entry ∈ entries, good entry.2) :
    (ofList entries).All good :=
  all_insertAll all_empty h

theorem All.of_get? (h : m.All good) {name : String} {value : α}
    (found : m.get? name = some value) : good value := by
  obtain ⟨before, after, entries, -⟩ := List.lookup_eq_some_iff.mp found
  exact h (name, value) (by simp [entries])

end All

theorem eraseDups_concat {β : Type} [BEq β] [LawfulBEq β] (names : List β) (name : β) :
    (names ++ [name]).eraseDups =
      if name ∈ names then names.eraseDups else names.eraseDups ++ [name] := by
  rw [List.eraseDups_append, List.cons_removeAll]
  by_cases h : name ∈ names
  · simp [h, List.removeAll]
  · simp [h, List.removeAll, List.eraseDups_cons]

theorem nodup_eraseDups {β : Type} [BEq β] [LawfulBEq β] (names : List β) :
    names.eraseDups.Nodup := by
  induction names using List.reverseRecOn with
  | nil => exact List.nodup_nil
  | append_singleton names name ih =>
    rw [eraseDups_concat]
    split
    · exact ih
    · rename_i fresh
      refine List.nodup_append.mpr ⟨ih, by simp, ?_⟩
      intro a ha b hb
      rw [List.mem_singleton.mp hb]
      rintro rfl
      exact fresh (List.mem_eraseDups.mp ha)

theorem eraseDups_filter (keep : String → Bool) (names : List String) :
    (names.filter keep).eraseDups = names.eraseDups.filter keep := by
  induction names using List.reverseRecOn with
  | nil => rfl
  | append_singleton names name ih =>
    rw [List.filter_append, eraseDups_concat]
    cases h : keep name
    · split <;> simp [h, ih]
    · simp only [h, List.filter_cons_of_pos, List.filter_nil, eraseDups_concat, ih,
        List.mem_filter, and_true]
      split <;> simp [h]

/-- What a map shows of everything that was written into it, in order: its names in the order in
which they were first written, each with the value that was last written for it. -/
structure Records (writes : List (String × α)) (m : OrderedMap α) : Prop where
  names_eq : m.names = (writes.map Prod.fst).eraseDups
  get?_eq : ∀ name, m.get? name = writes.reverse.lookup name

section Records

variable {writes more : List (String × α)} {m other : OrderedMap α}

theorem records_empty : Records [] (empty : OrderedMap α) := ⟨rfl, fun _ => rfl⟩

theorem Records.insert (h : Records writes m) (name : String) (value : α) :
    Records (writes ++ [(name, value)]) (m.insert name value) where
  names_eq := by
    rw [names_insert, List.map_append, List.map_singleton, eraseDups_concat, h.names_eq]
    simp only [List.mem_eraseDups]
  get?_eq other := by
    rw [get?_insert, h.get?_eq, List.reverse_concat, List.lookup_cons]
    by_cases same : other = name
    · simp [same]
    · rw [if_neg same, beq_false_of_ne same]

theorem Records.insertAll (h : Records writes m) (entries : List (String × α)) :
    Records (writes ++ entries) (m.insertAll entries) := by
  induction entries generalizing writes m with
  | nil => rwa [List.append_nil, insertAll_nil]
  | cons entry rest ih =>
    rw [insertAll_cons, ← List.singleton_append, ← List.append_assoc]
    exact ih (h.insert entry.1 entry.2)

theorem records_ofList (entries : List (String × α)) : Records entries (ofList entries) :=
  records_empty.insertAll entries

theorem records_entries (m : OrderedMap α) : Records m.entries m := by
  have made := records_ofList m.entries
  rwa [ofList_entries] at made

theorem names_merge (m other : OrderedMap α) :
    (m.merge other).names = m.names ++ other.names.filter fun name => name ∉ m.names := by
  have all := ((records_entries m).insertAll other.entries).names_eq
  have first : m.names = m.names.eraseDups := (records_entries m).names_eq
  have second : other.names = other.names.eraseDups := (records_entries other).names_eq
  have rest : other.names.removeAll m.names = other.names.filter fun name => name ∉ m.names := by
    simp [List.removeAll]
  calc (m.merge other).names
      = (m.names ++ other.names).eraseDups := by rw [merge, all, List.map_append, names, names]
    _ = m.names.eraseDups ++ (other.names.removeAll m.names).eraseDups := List.eraseDups_append
    _ = m.names ++ other.names.filter fun name => name ∉ m.names := by
      rw [rest, eraseDups_filter, ← first, ← second]

theorem get?_merge (m other : OrderedMap α) (name : String) :
    (m.merge other).get? name = (other.get? name).or (m.get? name) := by
  have all := ((records_entries m).insertAll other.entries).get?_eq name
  rw [List.reverse_append, List.lookup_append, ← (records_entries m).get?_eq,
    ← (records_entries other).get?_eq] at all
  exact all

/-- What is written into a map and then what is written into another one is what their merge
shows. -/
theorem Records.merge (h : Records writes m) (hother : Records more other) :
    Records (writes ++ more) (m.merge other) where
  names_eq := by
    have rest : (more.map Prod.fst).removeAll (writes.map Prod.fst) =
        (more.map Prod.fst).filter fun name => name ∉ m.names := by
      simp only [List.removeAll, h.names_eq, List.mem_eraseDups]
      simp
    rw [List.map_append, List.eraseDups_append, rest, eraseDups_filter, ← h.names_eq,
      ← hother.names_eq, names_merge]
  get?_eq name := by
    rw [get?_merge, List.reverse_append, List.lookup_append, h.get?_eq, hother.get?_eq]

end Records

end SqlTutor.OrderedMap

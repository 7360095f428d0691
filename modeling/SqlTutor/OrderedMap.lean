/-!
Maps from names to values that keep their entries in the order in which the names were first
added. Adding a name again replaces its value in place. Rows and datasets are such maps.
-/
namespace SqlTutor

variable {α : Type}

/-- Replaces the value of a name, or adds the name at the end. -/
def setEntry (name : String) (value : α) : List (String × α) → List (String × α)
  | [] => [(name, value)]
  | entry :: rest =>
    if entry.1 = name then (name, value) :: rest else entry :: setEntry name value rest

theorem map_fst_setEntry (name : String) (value : α) (entries : List (String × α)) :
    (setEntry name value entries).map Prod.fst =
      if name ∈ entries.map Prod.fst then entries.map Prod.fst
      else entries.map Prod.fst ++ [name] := by
  induction entries with
  | nil => rfl
  | cons entry rest ih =>
    by_cases h : entry.1 = name
    · simp [setEntry, h]
    · have h' : ¬ name = entry.1 := fun e => h e.symm
      simp only [setEntry, h, if_false, List.map_cons, ih, List.mem_cons, h', false_or]
      split <;> rfl

theorem lookup_setEntry (name other : String) (value : α) (entries : List (String × α)) :
    (setEntry name value entries).lookup other =
      if other = name then some value else entries.lookup other := by
  induction entries with
  | nil => by_cases h : other = name <;> simp [setEntry, List.lookup_cons, h, beq_false_of_ne]
  | cons entry rest ih =>
    obtain ⟨key, old⟩ := entry
    by_cases hk : key = name
    · subst hk
      by_cases h : other = key <;> simp [setEntry, List.lookup_cons, h, beq_false_of_ne]
    · by_cases h : other = key
      · simp [setEntry, hk, h]
      · simp [setEntry, List.lookup_cons, hk, beq_false_of_ne h, ih]

structure OrderedMap (α : Type) where
  entries : List (String × α)
  nodup : (entries.map Prod.fst).Nodup
deriving DecidableEq

namespace OrderedMap

def empty : OrderedMap α := ⟨[], List.nodup_nil⟩

instance : Inhabited (OrderedMap α) := ⟨empty⟩

def insert (m : OrderedMap α) (name : String) (value : α) : OrderedMap α where
  entries := setEntry name value m.entries
  nodup := by
    rw [map_fst_setEntry]
    split
    · exact m.nodup
    · rename_i h
      refine List.nodup_append.mpr ⟨m.nodup, by simp, ?_⟩
      intro a ha b hb
      rw [List.mem_singleton.mp hb]
      exact fun e => h (e ▸ ha)

def get? (m : OrderedMap α) (name : String) : Option α := m.entries.lookup name

def contains (m : OrderedMap α) (name : String) : Bool := (m.get? name).isSome

def names (m : OrderedMap α) : List String := m.entries.map Prod.fst

def size (m : OrderedMap α) : Nat := m.entries.length

def isEmpty (m : OrderedMap α) : Bool := m.entries.isEmpty

/-- Adds all entries in order. -/
def insertAll (m : OrderedMap α) (entries : List (String × α)) : OrderedMap α :=
  entries.foldl (fun m entry => m.insert entry.1 entry.2) m

def ofList (entries : List (String × α)) : OrderedMap α := empty.insertAll entries

/-- The entries of the second map written over those of the first. -/
def merge (m other : OrderedMap α) : OrderedMap α := m.insertAll other.entries

theorem names_insert (m : OrderedMap α) (name : String) (value : α) :
    (m.insert name value).names = if name ∈ m.names then m.names else m.names ++ [name] :=
  map_fst_setEntry name value m.entries

theorem get?_insert (m : OrderedMap α) (name other : String) (value : α) :
    (m.insert name value).get? other = if other = name then some value else m.get? other :=
  lookup_setEntry name other value m.entries

theorem insertAll_nil (m : OrderedMap α) : m.insertAll [] = m := rfl

theorem insertAll_cons (m : OrderedMap α) (entry : String × α) (entries : List (String × α)) :
    m.insertAll (entry :: entries) = (m.insert entry.1 entry.2).insertAll entries := rfl

/-- Entry by entry, the names equal and the values related. -/
def agrees (same : α → α → Bool) (m other : OrderedMap α) : Bool :=
  m.names == other.names &&
    (m.entries.zip other.entries).all (fun pair => same pair.1.2 pair.2.2)

end OrderedMap

end SqlTutor

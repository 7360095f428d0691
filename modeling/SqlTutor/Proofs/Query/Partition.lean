import SqlTutor.Proofs.OrderedMap
import SqlTutor.Proofs.Query.Counting

/-!
Groups as classes of rows. A row belongs to the class of what it shows in the column, and the rows
without the column are a class of their own. Each class that occurs is answered by one row, which
counts the rows of the class and shows the value of the first of them. The classes of array indices
come first and ascend, and the others follow as they first occur.
-/
namespace SqlTutor.Query.Group

/-- What a row shows in a column, or nothing without the column. -/
def classOf (column : String) (row : Row) : Option (List Char) := (row.get? column).map Value.shown

/-- The classes of some rows in the order in which they first occur. -/
def classes (column : String) (rows : List Row) : List (Option (List Char)) :=
  (rows.map (classOf column)).eraseDups

def members (column : String) (rows : List Row) (k : Option (List Char)) : List Row :=
  rows.filter fun row => classOf column row = k

/-- The value of the first row of a class, and the number of its rows. -/
def ofClass (column : String) (rows : List Row) (k : Option (List Char)) : Group :=
  ⟨(members column rows k).head?.bind (·.get? column), (members column rows k).length⟩

section Classes

variable (column : String) (rows : List Row)

theorem nodup_classes : (classes column rows).Nodup := OrderedMap.nodup_eraseDups _

theorem mem_classes {k : Option (List Char)} :
    k ∈ classes column rows ↔ k ∈ rows.map (classOf column) := List.mem_eraseDups

theorem classes_concat (row : Row) : classes column (rows ++ [row]) =
    if classOf column row ∈ classes column rows then classes column rows
    else classes column rows ++ [classOf column row] := by
  simp only [mem_classes]
  unfold classes
  rw [List.map_append, List.map_singleton, OrderedMap.eraseDups_concat]

theorem members_concat (row : Row) (k : Option (List Char)) : members column (rows ++ [row]) k =
    if classOf column row = k then members column rows k ++ [row] else members column rows k := by
  unfold members
  rw [List.filter_append]
  by_cases h : classOf column row = k
  · simp [h]
  · simp [h]

variable {column rows}

theorem members_eq_nil {k : Option (List Char)} (h : k ∉ classes column rows) :
    members column rows k = [] := by
  rw [mem_classes] at h
  refine List.filter_eq_nil_iff.mpr fun row hrow => ?_
  rw [decide_eq_true_eq]
  rintro rfl
  exact h (List.mem_map_of_mem hrow)

/-- A class that occurs has a first row. -/
theorem exists_members_eq_cons {k : Option (List Char)} (h : k ∈ classes column rows) :
    ∃ first rest, members column rows k = first :: rest ∧ classOf column first = k := by
  obtain ⟨row, hrow, hk⟩ := List.mem_map.mp ((mem_classes column rows).mp h)
  have inside : row ∈ members column rows k := List.mem_filter.mpr ⟨hrow, by simpa using hk⟩
  cases found : members column rows k with
  | nil => simp [found] at inside
  | cons first rest =>
    have mem : first ∈ members column rows k := by simp [found]
    exact ⟨first, rest, rfl, by simpa using (List.mem_filter.mp mem).2⟩

theorem key_ofClass {k : Option (List Char)} (h : k ∈ classes column rows) :
    key (ofClass column rows k).value = k := by
  obtain ⟨first, rest, found, hk⟩ := exists_members_eq_cons h
  rw [ofClass, found]
  exact hk

theorem ofClass_concat_of_mem {row : Row} (h : classOf column row ∈ classes column rows) :
    ofClass column (rows ++ [row]) (classOf column row) =
      ⟨(ofClass column rows (classOf column row)).value,
        (ofClass column rows (classOf column row)).count + 1⟩ := by
  obtain ⟨first, rest, found, -⟩ := exists_members_eq_cons h
  simp [ofClass, members_concat, found]

theorem ofClass_concat_of_notMem {row : Row} (h : classOf column row ∉ classes column rows) :
    ofClass column (rows ++ [row]) (classOf column row) = ⟨row.get? column, 1⟩ := by
  simp [ofClass, members_concat, members_eq_nil h]

theorem ofClass_concat_of_ne {row : Row} {k : Option (List Char)} (h : k ≠ classOf column row) :
    ofClass column (rows ++ [row]) k = ofClass column rows k := by
  rw [ofClass, members_concat, if_neg h.symm]
  rfl

end Classes

/-- One more row of a class is counted in the group of the class, or begins a group at the end. -/
theorem add_map {group : Option (List Char) → Group} {ks : List (Option (List Char))}
    (distinct : ks.Nodup) (keys : ∀ k ∈ ks, key (group k).value = k) (value : Option Value) :
    add value (ks.map group) =
      if key value ∈ ks then
        ks.map fun k => if k = key value then ⟨(group k).value, (group k).count + 1⟩ else group k
      else ks.map group ++ [⟨value, 1⟩] := by
  induction ks with
  | nil => rfl
  | cons k ks ih =>
    obtain ⟨fresh, distinct⟩ := List.nodup_cons.mp distinct
    have first : key (group k).value = k := keys k List.mem_cons_self
    rw [List.map_cons, add, first]
    by_cases h : k = key value
    · have others : ∀ j ∈ ks, j ≠ key value := by
        rintro j hj rfl
        exact fresh (h ▸ hj)
      rw [if_pos h, if_pos (h ▸ List.mem_cons_self), List.map_cons, if_pos h]
      congr 1
      exact List.map_congr_left fun j hj => (if_neg (others j hj)).symm
    · rw [if_neg h, ih distinct fun j hj => keys j (List.mem_cons_of_mem _ hj)]
      by_cases later : key value ∈ ks
      · rw [if_pos later, if_pos (List.mem_cons_of_mem _ later), List.map_cons, if_neg h]
      · have absent : key value ∉ k :: ks := by
          rw [List.mem_cons, not_or]
          exact ⟨fun same => h same.symm, later⟩
        rw [if_neg later, if_neg absent, List.cons_append]

theorem ofRows_eq_map_ofClass (column : String) (rows : List Row) :
    ofRows column rows = (classes column rows).map (ofClass column rows) := by
  induction rows using List.reverseRecOn with
  | nil => rfl
  | append_singleton rows row ih =>
    have step : ofRows column (rows ++ [row]) = add (row.get? column) (ofRows column rows) :=
      List.foldl_concat _ _ _ _
    have keyed : key (row.get? column) = classOf column row := rfl
    rw [step, ih, add_map (nodup_classes column rows) fun k => key_ofClass, keyed, classes_concat]
    by_cases h : classOf column row ∈ classes column rows
    · rw [if_pos h, if_pos h]
      refine List.map_congr_left fun k _ => ?_
      by_cases same : k = classOf column row
      · rw [if_pos same, same, ofClass_concat_of_mem h]
      · rw [if_neg same, ofClass_concat_of_ne same]
    · rw [if_neg h, if_neg h, List.map_append, List.map_singleton, ofClass_concat_of_notMem h]
      congr 1
      refine List.map_congr_left fun k hk => (ofClass_concat_of_ne ?_).symm
      rintro rfl
      exact h hk

section Ranks

variable {α : Type}

variable (rank : α → Nat) {last : Nat} {l sorted : List α}

/-- In a list that ascends by a rank, the entries of the last rank are behind all others. -/
theorem filter_lt_append_filter_eq (bound : ∀ a ∈ sorted, rank a ≤ last)
    (ascending : sorted.Pairwise fun a b => rank a ≤ rank b) :
    sorted.filter (fun a => rank a < last) ++ sorted.filter (fun a => rank a = last) = sorted := by
  have behind : sorted.filter (fun a => rank a = last) =
      sorted.filter fun a => !decide (rank a < last) := by
    refine List.filter_congr fun a ha => ?_
    have le := bound a ha
    rw [← decide_not, decide_eq_decide]
    omega
  rw [behind]
  apply filter_append_filter_of_pairwise
  refine ascending.imp fun le lt => ?_
  rw [decide_eq_true_eq] at lt ⊢
  omega

/-- Sorting by a rank leaves entries of the last rank in their order, behind all others. -/
theorem exists_mergeSort_eq_append (bound : ∀ a ∈ l, rank a ≤ last) :
    ∃ first : List α, (l.mergeSort fun a b => rank a ≤ rank b) =
        first ++ l.filter (fun a => rank a = last) ∧
      first.Pairwise (fun a b => rank a ≤ rank b) ∧ ∀ a, a ∈ first ↔ a ∈ l ∧ rank a < last := by
  have trans : ∀ a b c, decide (rank a ≤ rank b) → decide (rank b ≤ rank c) →
      decide (rank a ≤ rank c) := by
    intro a b c hab hbc
    rw [decide_eq_true_eq] at hab hbc ⊢
    omega
  have total : ∀ a b, decide (rank a ≤ rank b) || decide (rank b ≤ rank a) := by
    intro a b
    rw [Bool.or_eq_true, decide_eq_true_eq, decide_eq_true_eq]
    omega
  -- Entries of one rank are a sorted part of the list, which a stable sort does not touch.
  have level : (l.filter fun a => rank a = last).Pairwise fun a b => decide (rank a ≤ rank b) := by
    refine List.pairwise_of_forall_mem_list fun a ha b hb => ?_
    simp only [List.mem_filter, decide_eq_true_eq] at ha hb ⊢
    omega
  have kept := (List.sublist_mergeSort trans total level List.filter_sublist).filter
    fun a => rank a = last
  have perm := List.mergeSort_perm l fun a b => rank a ≤ rank b
  have ascending := (List.pairwise_mergeSort trans total l).imp of_decide_eq_true
  generalize (l.mergeSort fun a b => rank a ≤ rank b) = sorted at kept perm ascending ⊢
  rw [List.filter_filter, funext fun a => Bool.and_self _] at kept
  have same := kept.eq_of_length (perm.filter _).length_eq.symm
  refine ⟨sorted.filter fun a => rank a < last, ?_, ascending.filter _, fun a => ?_⟩
  · rw [same, filter_lt_append_filter_eq rank (fun a ha => bound a (perm.mem_iff.mp ha)) ascending]
  · rw [List.mem_filter, perm.mem_iff, decide_eq_true_eq]

end Ranks

/-- The class of rows that show an array index. -/
def indexClass (n : Nat) : Option (List Char) := some (Nat.toDigits 10 n)

def classRank (k : Option (List Char)) : Nat := (k.bind arrayIndex?).getD 4294967296

theorem arrayIndex?_eq_some_iff {text : List Char} {n : Nat} :
    arrayIndex? text = some n ↔ n < 2 ^ 32 - 1 ∧ Nat.toDigits 10 n = text := by
  unfold arrayIndex?
  constructor
  · intro h
    dsimp only at h
    split at h
    · rename_i index
      rw [← Option.some.inj h]
      exact ⟨index.2.2, index.2.1⟩
    · nomatch h
  · rintro ⟨small, rfl⟩
    have digits : (Nat.toDigits 10 n).all Char.isDigit := by
      rw [List.all_eq_true]
      intro d hd
      exact Nat.isDigit_of_mem_toDigits (by decide) (by decide) hd
    have value : Nat.ofDigitChars 10 (Nat.toDigits 10 n) 0 = n := Nat.ofDigitChars_ten_toDigits
    simp only [digits, value, true_and]
    exact if_pos small

theorem classRank_indexClass {n : Nat} (h : n < 2 ^ 32 - 1) : classRank (indexClass n) = n := by
  have index : arrayIndex? (Nat.toDigits 10 n) = some n := arrayIndex?_eq_some_iff.mpr ⟨h, rfl⟩
  rw [classRank, indexClass, Option.bind_some, index]
  rfl

theorem classRank_cases (k : Option (List Char)) : classRank k = 4294967296 ∨
    classRank k < 2 ^ 32 - 1 ∧ indexClass (classRank k) = k := by
  unfold classRank
  cases hk : k.bind arrayIndex? with
  | none => exact Or.inl rfl
  | some n =>
    obtain ⟨text, rfl, index⟩ := Option.bind_eq_some_iff.mp hk
    obtain ⟨small, digits⟩ := arrayIndex?_eq_some_iff.mp index
    exact Or.inr ⟨small, congrArg some digits⟩

theorem classRank_of_small {k : Option (List Char)} (h : classRank k < 4294967296) :
    classRank k < 2 ^ 32 - 1 ∧ indexClass (classRank k) = k := by
  rcases classRank_cases k with last | index
  · omega
  · exact index

theorem classRank_le (k : Option (List Char)) : classRank k ≤ 4294967296 := by
  rcases classRank_cases k with last | ⟨small, -⟩ <;> omega

theorem rank_ofClass {column : String} {rows : List Row} {k : Option (List Char)}
    (h : k ∈ classes column rows) : rank (ofClass column rows k) = classRank k := by
  rw [rank, key_ofClass h, classRank]

/-- The classes of some rows, with given array indices in front. -/
def listing (column : String) (rows : List Row) (indices : List Nat) : List (Option (List Char)) :=
  indices.map indexClass ++ (classes column rows).filter (· ∉ indices.map indexClass)

/-- The classes of some rows, sorted by their ranks. -/
def sortedClasses (column : String) (rows : List Row) : List (Option (List Char)) :=
  (classes column rows).mergeSort fun a b => classRank a ≤ classRank b

section Order

variable (column : String) (rows : List Row)

theorem perm_sortedClasses : (sortedClasses column rows).Perm (classes column rows) :=
  List.mergeSort_perm _ _

/-- Groups are answered in the order of their classes. -/
theorem ranked_eq_map :
    ranked column rows = (sortedClasses column rows).map (ofClass column rows) := by
  have same : ∀ a ∈ classes column rows, ∀ b ∈ classes column rows,
      decide (classRank a ≤ classRank b) =
        decide (rank (ofClass column rows a) ≤ rank (ofClass column rows b)) := by
    intro a ha b hb
    rw [rank_ofClass ha, rank_ofClass hb]
  rw [ranked, ofRows_eq_map_ofClass, ← List.map_mergeSort same, sortedClasses]

/-- Array indices are in front and ascend. -/
theorem exists_sortedClasses_eq : ∃ indices : List Nat, indices.Pairwise (· < ·) ∧
    (∀ n, n ∈ indices ↔ n < 2 ^ 32 - 1 ∧ indexClass n ∈ classes column rows) ∧
    sortedClasses column rows = listing column rows indices := by
  obtain ⟨first, sorted, ascending, mem⟩ :=
    exists_mergeSort_eq_append classRank fun k (_ : k ∈ classes column rows) => classRank_le k
  have index : ∀ k ∈ first, classRank k < 2 ^ 32 - 1 ∧ indexClass (classRank k) = k :=
    fun k hk => classRank_of_small ((mem k).mp hk).2
  have front : (first.map classRank).map indexClass = first := by
    rw [List.map_map]
    exact (List.map_congr_left fun k hk => (index k hk).2).trans (List.map_id _)
  have others : (classes column rows).filter (fun k => classRank k = 4294967296) =
      (classes column rows).filter (· ∉ first) := by
    refine List.filter_congr fun k hk => ?_
    have le := classRank_le k
    rw [decide_eq_decide, mem, not_and, not_lt]
    exact ⟨fun last _ => last.ge, fun last => le_antisymm le (last hk)⟩
  have distinct : first.Nodup := by
    have nodup := (perm_sortedClasses column rows).nodup_iff.mpr (nodup_classes column rows)
    rw [sortedClasses, sorted] at nodup
    exact (List.nodup_append.mp nodup).1
  refine ⟨first.map classRank, ?_, fun n => ?_, ?_⟩
  · rw [List.pairwise_map]
    refine List.Pairwise.imp_of_mem (fun {a b} ha hb both => ?_) (ascending.and distinct)
    refine lt_of_le_of_ne both.1 fun same => both.2 ?_
    rw [← (index a ha).2, same, (index b hb).2]
  · constructor
    · intro hn
      obtain ⟨k, hk, rfl⟩ := List.mem_map.mp hn
      rw [(index k hk).2]
      exact ⟨(index k hk).1, ((mem k).mp hk).1⟩
    · rintro ⟨small, occurs⟩
      have rank := classRank_indexClass small
      exact List.mem_map.mpr ⟨indexClass n, (mem _).mpr ⟨occurs, by omega⟩, rank⟩
  · rw [listing, front, sortedClasses, sorted, others]

end Order

/-- What the row that answers for a class holds: the value that the first row of the class has in
the column, unless this is the column of the counts, and the number of rows of the class. -/
def answer (column : String) (rows : List Row) (k : Option (List Char)) : List (String × Value) :=
  (if column = "count" then []
    else (((members column rows k).head?.bind (·.get? column)).map (column, ·)).toList) ++
      [("count", .ofCount (members column rows k).length)]

theorem entries_toRow_ofClass (column : String) (rows : List Row) (k : Option (List Char)) :
    (toRow column (ofClass column rows k)).entries = answer column rows k := by
  unfold toRow ofClass answer
  dsimp only
  cases (members column rows k).head?.bind (·.get? column) with
  | none => simp [OrderedMap.insert, OrderedMap.empty, setEntry]
  | some v =>
    by_cases h : column = "count"
    · simp [h, OrderedMap.insert, OrderedMap.empty, setEntry]
    · simp [h, OrderedMap.insert, OrderedMap.empty, setEntry]

/-- Each class that occurs is answered by one row, and each row is counted in one class. Classes of
array indices come first and ascend, and the other classes follow as they first occur. -/
theorem rows_partition (column : String) (rows : List Row) :
    ∃ indices : List Nat, indices.Pairwise (· < ·) ∧
      (∀ n, n ∈ indices ↔ n < 2 ^ 32 - 1 ∧ indexClass n ∈ rows.map (classOf column)) ∧
      (listing column rows indices).Nodup ∧
      (∀ k, k ∈ listing column rows indices ↔ k ∈ rows.map (classOf column)) ∧
      (Group.rows column rows).map OrderedMap.entries =
        (listing column rows indices).map (answer column rows) ∧
      ((listing column rows indices).map fun k => (members column rows k).length).sum =
        rows.length := by
  obtain ⟨indices, ascending, mem, listed⟩ := exists_sortedClasses_eq column rows
  have perm := perm_sortedClasses column rows
  have answered := ranked_eq_map column rows
  rw [listed] at perm answered
  refine ⟨indices, ascending, fun n => ?_, ?_, fun k => ?_, ?_, ?_⟩
  · rw [mem, mem_classes]
  · exact perm.nodup_iff.mpr (nodup_classes column rows)
  · rw [perm.mem_iff, mem_classes]
  · change ((ranked column rows).map (toRow column)).map OrderedMap.entries = _
    rw [answered, List.map_map, List.map_map]
    exact List.map_congr_left fun k _ => entries_toRow_ofClass column rows k
  · have counted := sum_count_ranked column rows
    rw [answered, List.map_map] at counted
    exact counted

/-- A text and a number that are shown alike are one group. A text with a sign is no array index,
and one row has no such column. -/
example : (Group.rows "n" [.ofList [("n", .text "+1")], .ofList [("n", .int 10)], .empty,
      .ofList [("n", .text "1")], .ofList [("n", .int 1)]]).map OrderedMap.entries =
    [[("n", .text "1"), ("count", .int 2)], [("n", .int 10), ("count", .int 1)],
      [("n", .text "+1"), ("count", .int 1)], [("count", .int 1)]] := by
  cbv

end SqlTutor.Query.Group

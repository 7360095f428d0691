import SqlTutor.Proofs.Query.Sorting
import SqlTutor.Proofs.Query.Stages
import SqlTutor.Dataset.Sample
import Mathlib.Data.Prod.Lex
import Mathlib.Data.List.FinRange

/-!
Where the rows of a result come from. The working set is followed by positions, since rows may be
equal: positions of the FROM table, or pairs of positions if a table is joined. A result lists rows
at different positions, and leaves out those that do not match ON, do not pass WHERE or are cut off.
-/
namespace SqlTutor.Query

/-- The rows to select from, by position, and whether they match ON. -/
structure Positions (P : Type) where
  row : P → Row
  joins : P → Bool

namespace Positions

def ofTable (rows : List Row) : Positions (Fin rows.length) where
  row p := rows.get p
  joins _ := true

/-- Pairs in the order of left rows, and of right rows for the same left row. -/
def ofPairs (join : JoinClause) (fromTable : String) (lefts rights : List Row) :
    Positions (Fin lefts.length ×ₗ Fin rights.length) where
  row p := join.combine (lefts.get (ofLex p).1) (rights.get (ofLex p).2)
  joins p := join.isMatch fromTable (lefts.get (ofLex p).1) (rights.get (ofLex p).2)

end Positions

namespace Clauses

variable {P : Type} [LinearOrder P]

def passes (c : Clauses) (row : Row) : Bool :=
  match c.condition with
  | none => true
  | some text => (Condition.ofText text.toList).holds row

/-- What a row of the working set is in the result. -/
def image (c : Clauses) (row : Row) : Row :=
  match c.projection with
  | none => row
  | some p => if p.isWildcard then row else Projection.row p.items row

/-- The row is to be looked at by ORDER BY. -/
def Survives (c : Clauses) (positions : Positions P) (p : P) : Prop :=
  positions.joins p ∧ c.passes (positions.row p)

/-- By ORDER BY, and where it does not decide by position. -/
def PrecedesAt (c : Clauses) (positions : Positions P) (p q : P) : Prop :=
  match c.orderBy with
  | none => p < q
  | some order =>
    Precedes (fun p q => order.compareRows (positions.row p) (positions.row q)) (· < ·) p q

/-- As many rows as LIMIT lets through come before the row. -/
def CutAt (c : Clauses) (positions : Positions P) (p : P) : Prop :=
  ∃ n ∈ c.limit, ∃ earlier : Finset P, n ≤ earlier.card ∧
    ∀ q ∈ earlier, c.Survives positions q ∧ c.PrecedesAt positions q p

/-- The rows of a result, each with the position that it comes from. -/
structure Traces (c : Clauses) (positions : Positions P) (results : List Row)
    (source : Fin results.length → P) : Prop where
  injective : Function.Injective source
  image : ∀ i, results.get i = c.image (positions.row (source i))
  left_out : ∀ p, p ∉ Set.range source ↔
    ¬ positions.joins p ∨ ¬ c.passes (positions.row p) ∨ c.CutAt positions p
  ordered : ∀ i j, i < j → c.PrecedesAt positions (source i) (source j)

theorem Traces.strictMono {c : Clauses} {positions : Positions P} {results : List Row}
    {source : Fin results.length → P} (h : c.Traces positions results source)
    (unordered : c.orderBy = none) : StrictMono source := by
  intro i j hij
  have before := h.ordered i j hij
  rwa [PrecedesAt, unordered] at before

section Pipeline

variable {c : Clauses} {positions : Positions P}

theorem not_precedesAt_swap (p q : P) (h : c.PrecedesAt positions p q) :
    ¬ c.PrecedesAt positions q p := by
  unfold PrecedesAt at h ⊢
  cases hc : c.orderBy with
  | none =>
    simp only [hc] at h ⊢
    exact lt_asymm h
  | some order =>
    simp only [hc] at h ⊢
    exact not_precedes_swap (fun _ _ => lt_asymm) h

theorem eq_ofText_of_read {strict : Bool} {text : List Char} {condition : Condition}
    (h : Condition.read strict text = .ok condition) : condition = Condition.ofText text := by
  unfold Condition.read at h
  dsimp only at h
  split at h
  · split at h
    · simp at h
    · exact (Except.ok.inj h).symm
  · exact (Except.ok.inj h).symm

theorem eq_filter_passes {strict : Bool} {rows kept : List Row}
    (h : c.filtered strict rows = .ok kept) : kept = rows.filter c.passes := by
  unfold filtered at h
  unfold passes
  cases hc : c.condition with
  | none =>
    simp only [hc] at h ⊢
    rw [List.filter_true]
    exact (Except.ok.inj h).symm
  | some text =>
    simp only [hc] at h ⊢
    obtain ⟨condition, hread, rfl⟩ := map_eq_ok_iff.mp h
    rw [eq_ofText_of_read hread]
    rfl

/-- ORDER BY rearranges positions. -/
theorem sorted_map (c : Clauses) (positions : Positions P) {kept : List P}
    (hkept : kept.Pairwise (· < ·)) :
    ∃ arranged : List P, c.sorted (kept.map positions.row) = arranged.map positions.row ∧
      arranged.Perm kept ∧ arranged.Pairwise (c.PrecedesAt positions) := by
  unfold sorted PrecedesAt
  cases hc : c.orderBy with
  | none => exact ⟨kept, rfl, List.Perm.refl _, hkept⟩
  | some order => exact order.sort_map positions.row hkept

theorem limited_map (c : Clauses) (positions : Positions P) (arranged : List P) :
    ∃ listed : List P, c.limited (arranged.map positions.row) = listed.map positions.row ∧
      listed.Sublist arranged ∧
      ∀ p ∈ arranged, p ∉ listed ↔ ∃ n ∈ c.limit, p ∉ arranged.take n := by
  unfold limited
  cases hc : c.limit with
  | none => exact ⟨arranged, rfl, List.Sublist.refl _, fun p hp => by simpa using hp⟩
  | some n =>
    exact ⟨arranged.take n, (List.map_take ..).symm, List.take_sublist _ _, fun p _ => by simp⟩

/-- Behind the cut of an arranged list are the positions that enough others precede. -/
theorem notMem_take_iff_card {r : P → P → Prop} (hr : ∀ p q, r p q → ¬ r q p) {l : List P}
    (hl : l.Pairwise r) {p : P} (hp : p ∈ l) (n : Nat) :
    p ∉ l.take n ↔ ∃ earlier : Finset P, n ≤ earlier.card ∧ ∀ q ∈ earlier, q ∈ l ∧ r q p := by
  classical
  have nodup : l.Nodup := nodup_of_pairwise hr hl
  have counted : l.countP (fun q => r q p) = (l.filter fun q => r q p).toFinset.card := by
    rw [List.toFinset_card_of_nodup (nodup.filter _), List.countP_eq_length_filter]
  rw [mem_take_iff_countP_lt hl hr hp, counted]
  constructor
  · intro enough
    refine ⟨(l.filter fun q => r q p).toFinset, by omega, fun q hq => ?_⟩
    simpa using hq
  · rintro ⟨earlier, enough, hearlier⟩
    have inside : earlier ⊆ (l.filter fun q => r q p).toFinset := by
      intro q hq
      simpa using hearlier q hq
    have few := Finset.card_le_card inside
    omega

/-- A list of positions is a map from places in the result. -/
theorem traces_of_listed {listed : List P} (hlisted : listed.Pairwise (c.PrecedesAt positions))
    (hleft : ∀ p, p ∉ listed ↔
      ¬ positions.joins p ∨ ¬ c.passes (positions.row p) ∨ c.CutAt positions p) :
    ∃ source, c.Traces positions ((listed.map positions.row).map c.image) source := by
  have nodup : listed.Nodup := nodup_of_pairwise not_precedesAt_swap hlisted
  have length : ((listed.map positions.row).map c.image).length = listed.length := by
    rw [List.length_map, List.length_map]
  refine ⟨fun i => listed.get (i.cast length), ?_, ?_, ?_, ?_⟩
  · intro i j same
    exact Fin.cast_injective length (List.nodup_iff_injective_get.mp nodup same)
  · intro i
    simp
  · intro p
    rw [← hleft, Set.mem_range, List.mem_iff_get, not_iff_not]
    constructor
    · rintro ⟨i, rfl⟩
      exact ⟨_, rfl⟩
    · rintro ⟨i, rfl⟩
      exact ⟨i.cast length.symm, rfl⟩
  · intro i j hij
    exact List.pairwise_iff_get.mp hlisted _ _ hij

theorem exists_traces {base : List P} (hbase : base.Pairwise (· < ·))
    (hjoins : ∀ p, p ∈ base ↔ positions.joins p) {strict : Bool} {rows : List Row}
    (h : c.filtered strict (base.map positions.row) = .ok rows) :
    ∃ source, c.Traces positions ((c.limited (c.sorted rows)).map c.image) source := by
  have hrows := eq_filter_passes h
  rw [List.filter_map] at hrows
  have hkept := hbase.filter (c.passes ∘ positions.row)
  obtain ⟨arranged, hsorted, perm, ordered⟩ := sorted_map c positions hkept
  obtain ⟨listed, hlimited, sublist, cut⟩ := limited_map c positions arranged
  have survives : ∀ p, p ∈ arranged ↔ c.Survives positions p := by
    intro p
    rw [perm.mem_iff, List.mem_filter, hjoins, Survives, Function.comp_apply]
  rw [hrows, hsorted, hlimited]
  refine traces_of_listed (ordered.sublist sublist) fun p => ?_
  by_cases hp : c.Survives positions p
  · have behind : p ∉ listed ↔ c.CutAt positions p := by
      rw [cut p ((survives p).mpr hp), CutAt]
      simp only [notMem_take_iff_card not_precedesAt_swap ordered ((survives p).mpr hp), survives]
    rw [behind]
    simp [hp.1, hp.2]
  · have absent : p ∉ listed := fun mem => hp ((survives p).mp (sublist.subset mem))
    refine iff_of_true absent ?_
    by_cases joins : positions.joins p
    · exact Or.inr (Or.inl fun passes => hp ⟨joins, passes⟩)
    · exact Or.inl joins

end Pipeline

theorem results_eq_map_image {c : Clauses} (h : c.countsAll = false) (source : CountSource)
    (size : Nat) (rows : List Row) : c.results source size rows = rows.map c.image := by
  unfold results projected
  rw [h, if_neg Bool.false_ne_true]
  cases hc : c.projection with
  | none =>
    have itself : c.image = id := by
      funext row
      simp only [image, hc, id]
    rw [itself, List.map_id]
  | some p =>
    by_cases wildcard : p.isWildcard
    · have itself : c.image = id := by
        funext row
        simp only [image, hc, if_pos wildcard, id]
      rw [itself, List.map_id]
      exact if_pos wildcard
    · have projected : c.image = Projection.row p.items := by
        funext row
        simp only [image, hc, if_neg wildcard]
      rw [projected]
      exact if_neg wildcard

end Clauses

theorem map_row_ofTable (rows : List Row) :
    (List.finRange rows.length).map (Positions.ofTable rows).row = rows :=
  List.map_get_finRange rows

/-- The pairs that match, in the order of nested loops. -/
def matchingPairs (join : JoinClause) (fromTable : String) (lefts rights : List Row) :
    List (Fin lefts.length ×ₗ Fin rights.length) :=
  (List.finRange lefts.length).flatMap fun i =>
    ((List.finRange rights.length).filter fun j =>
      join.isMatch fromTable (lefts.get i) (rights.get j)).map fun j => toLex (i, j)

section Pairs

variable (join : JoinClause) (fromTable : String) (lefts rights : List Row)

theorem mem_matchingPairs (p : Fin lefts.length ×ₗ Fin rights.length) :
    p ∈ matchingPairs join fromTable lefts rights ↔
      (Positions.ofPairs join fromTable lefts rights).joins p := by
  unfold matchingPairs Positions.ofPairs
  constructor
  · intro hp
    obtain ⟨i, -, hp⟩ := List.mem_flatMap.mp hp
    obtain ⟨j, hj, rfl⟩ := List.mem_map.mp hp
    exact (List.mem_filter.mp hj).2
  · intro hp
    refine List.mem_flatMap.mpr ⟨(ofLex p).1, List.mem_finRange _, ?_⟩
    exact List.mem_map.mpr ⟨(ofLex p).2, List.mem_filter.mpr ⟨List.mem_finRange _, hp⟩, rfl⟩

theorem pairwise_matchingPairs :
    (matchingPairs join fromTable lefts rights).Pairwise (· < ·) := by
  unfold matchingPairs
  rw [List.pairwise_flatMap]
  constructor
  · intro i _
    rw [List.pairwise_map]
    refine List.Pairwise.imp (fun hj => ?_) ((List.pairwise_lt_finRange _).filter _)
    exact Prod.Lex.toLex_lt_toLex.mpr (Or.inr ⟨rfl, hj⟩)
  · refine List.Pairwise.imp (fun hi p hp q hq => ?_) (List.pairwise_lt_finRange _)
    obtain ⟨j, -, rfl⟩ := List.mem_map.mp hp
    obtain ⟨k, -, rfl⟩ := List.mem_map.mp hq
    exact Prod.Lex.toLex_lt_toLex.mpr (Or.inl hi)

theorem map_row_matchingPairs :
    (matchingPairs join fromTable lefts rights).map
      (Positions.ofPairs join fromTable lefts rights).row = join.rows fromTable lefts rights := by
  have pairsOf : ∀ i : Fin lefts.length,
      (((List.finRange rights.length).filter fun j =>
        join.isMatch fromTable (lefts.get i) (rights.get j)).map fun j => toLex (i, j)).map
          (Positions.ofPairs join fromTable lefts rights).row =
        (rights.filter (join.isMatch fromTable (lefts.get i))).map
          (join.combine (lefts.get i)) := by
    intro i
    have listed : rights.filter (join.isMatch fromTable (lefts.get i)) =
        ((List.finRange rights.length).filter fun j =>
          join.isMatch fromTable (lefts.get i) (rights.get j)).map rights.get := by
      conv_lhs => rw [← List.map_get_finRange rights]
      rw [List.filter_map]
      rfl
    rw [listed, List.map_map, List.map_map]
    rfl
  unfold matchingPairs JoinClause.rows
  rw [List.map_flatMap]
  simp only [pairsOf]
  conv_rhs => rw [← List.map_get_finRange lefts]
  rw [List.flatMap_map]

end Pairs

/-- The clauses that a statement is evaluated by. -/
def Clauses.ofSql (sql : String) : Clauses := .ofText (Text.collapse sql.toList)

/-- Rows that come from positions of the FROM table, or of pairs if a table is joined. -/
def Clauses.Accounts (c : Clauses) (dataset : Dataset) (results : List Row) : Prop :=
  ∃ name lefts, c.fromTable = some name ∧ dataset.get? name = some lefts ∧
    match c.join with
    | none =>
      ∃ source, c.Traces (Positions.ofTable lefts) results source ∧
        (c.orderBy = none → StrictMono source)
    | some join =>
      ∃ rights, dataset.get? join.table = some rights ∧
        ∃ source, c.Traces (Positions.ofPairs join name lefts rights) results source ∧
          (c.orderBy = none → StrictMono source)

theorem accounts_of_unsorted {c : Clauses} {dataset : Dataset} {strict : Bool}
    {lefts kept : List Row} (h : c.unsorted dataset strict = .ok (lefts, kept)) :
    c.Accounts dataset ((c.limited (c.sorted kept)).map c.image) := by
  obtain ⟨name, joined, hfetch, hjoined, hkept⟩ := Clauses.unsorted_eq_ok_iff.mp h
  obtain ⟨hname, hlefts⟩ := Clauses.fetch_eq_ok_iff.mp hfetch
  refine ⟨name, lefts, hname, hlefts, ?_⟩
  unfold Clauses.joined at hjoined
  cases hjoin : c.join with
  | none =>
    simp only [hjoin] at hjoined ⊢
    rw [← Except.ok.inj hjoined, ← map_row_ofTable lefts] at hkept
    obtain ⟨source, traces⟩ := Clauses.exists_traces (List.pairwise_lt_finRange _)
      (fun p => iff_of_true (List.mem_finRange p) rfl) hkept
    exact ⟨source, traces, traces.strictMono⟩
  | some join =>
    simp only [hjoin] at hjoined ⊢
    cases hrights : dataset.get? join.table with
    | none => simp [hrights] at hjoined
    | some rights =>
      rw [hrights] at hjoined
      rw [← Except.ok.inj hjoined, ← map_row_matchingPairs] at hkept
      have joins := mem_matchingPairs join name lefts rights
      obtain ⟨source, traces⟩ := Clauses.exists_traces
        (pairwise_matchingPairs join name lefts rights) joins hkept
      exact ⟨rights, rfl, source, traces, traces.strictMono⟩

/-- Without groups and counts a result lists rows from different positions, and leaves out those
that do not match ON, do not pass WHERE or are cut off by LIMIT. -/
theorem accounts_of_select {sql : String} {dataset : Dataset} {options : Options} {set : ResultSet}
    (h : select sql dataset options = .ok set) (ungrouped : (Clauses.ofSql sql).groupBy = none)
    (uncounted : (Clauses.ofSql sql).countsAll = false) :
    (Clauses.ofSql sql).Accounts dataset set.rows := by
  change (Clauses.ofSql sql).run dataset options = .ok set at h
  generalize Clauses.ofSql sql = c at h ungrouped uncounted ⊢
  rw [Clauses.run_eq_map_unsorted] at h
  obtain ⟨⟨table, kept⟩, found, rfl⟩ := map_eq_ok_iff.mp h
  simp only [ResultSet.ofRows, Clauses.results_eq_map_image uncounted, Clauses.grouped, ungrouped]
  exact accounts_of_unsorted found

def publishedSql : String :=
  "SELECT name, title FROM users JOIN posts ON users.id = posts.user_id " ++
    "WHERE published = true LIMIT 3"

theorem accounts_of_select_published :
    ∃ set, select publishedSql Dataset.sample { today := ⟨2024, 6, 1⟩ } = .ok set ∧
      (Clauses.ofSql publishedSql).groupBy = none ∧
      (Clauses.ofSql publishedSql).countsAll = false ∧ set.rows.length = 3 ∧
      (Clauses.ofSql publishedSql).Accounts Dataset.sample set.rows := by
  have size : (select publishedSql Dataset.sample { today := ⟨2024, 6, 1⟩ }).toOption.map
      (·.rows.length) = some 3 := by decide +kernel
  have ungrouped : (Clauses.ofSql publishedSql).groupBy = none := by decide +kernel
  have uncounted : (Clauses.ofSql publishedSql).countsAll = false := by decide +kernel
  cases h : select publishedSql Dataset.sample { today := ⟨2024, 6, 1⟩ } with
  | error e => simp [h, Except.toOption] at size
  | ok set =>
    have three : set.rows.length = 3 := by simpa [h, Except.toOption] using size
    exact ⟨set, rfl, ungrouped, uncounted, three, accounts_of_select h ungrouped uncounted⟩

end SqlTutor.Query

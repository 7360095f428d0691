import SqlTutor.Proofs.OrderedMap
import SqlTutor.Proofs.Query.Counting
import Mathlib.Data.List.Pairwise
import Mathlib.Data.List.Perm.Basic

/-!
The order in which rows are stored. Two datasets that hold the same rows in different orders are
taken through the same stages, and each stage fails on both or leaves rearrangements of the same
rows. So a query without a limit and groups fails alike on both datasets, or has rearranged results;
where it sorts by keys that all differ, its results are the same.
-/
namespace SqlTutor

/-- The same tables in the same order, each with its rows in any order. -/
def Dataset.Rearranged (d e : Dataset) : Prop :=
  List.Forall₂ (fun t u => t.1 = u.1 ∧ t.2.Perm u.2) d.entries e.entries

namespace Dataset.Rearranged

variable {d e : Dataset}

theorem names_eq (h : d.Rearranged e) : d.names = e.names := by
  have same : List.Forall₂ (· = ·) d.names e.names := by
    unfold OrderedMap.names
    rw [List.forall₂_map_left_iff, List.forall₂_map_right_iff]
    exact List.Forall₂.imp (fun _ _ both => both.1) h
  rwa [List.forall₂_eq_eq_eq] at same

theorem rel_get? (h : d.Rearranged e) (name : String) :
    Option.Rel List.Perm (d.get? name) (e.get? name) := by
  unfold Dataset.Rearranged at h
  unfold OrderedMap.get?
  generalize d.entries = tables at h ⊢
  generalize e.entries = others at h ⊢
  induction h with
  | nil => exact .none
  | @cons t u _ _ same more ih =>
    obtain ⟨key, rows⟩ := t
    obtain ⟨key', others⟩ := u
    obtain ⟨rfl, perm⟩ := same
    rw [List.lookup_cons, List.lookup_cons]
    cases name == key with
    | true => exact .some perm
    | false => exact ih

/-- Tables may be rearranged one by one. -/
theorem of_mapValues (d : Dataset) {f : List Row → List Row} (h : ∀ rows, List.Perm rows (f rows)) :
    d.Rearranged (d.mapValues f) := by
  unfold Dataset.Rearranged OrderedMap.mapValues
  rw [List.forall₂_map_right_iff]
  exact List.forall₂_same.mpr fun t _ => ⟨rfl, h t.2⟩

end Dataset.Rearranged

namespace Query

/-- Both fail with the same error, or both succeed and the results are related. -/
inductive Alike {α β : Type} (R : α → β → Prop) : Except Error α → Except Error β → Prop
  | error (e : Error) : Alike R (.error e) (.error e)
  | ok {a : α} {b : β} (h : R a b) : Alike R (.ok a) (.ok b)

section Alike

variable {α β γ δ : Type} {R : α → β → Prop} {S : γ → δ → Prop} {x : Except Error α}
  {y : Except Error β}

theorem Alike.bind {f : α → Except Error γ} {g : β → Except Error δ} (h : Alike R x y)
    (next : ∀ a b, R a b → Alike S (f a) (g b)) : Alike S (x >>= f) (y >>= g) := by
  cases h with
  | error e => exact .error e
  | ok h => exact next _ _ h

theorem Alike.map {f : α → γ} {g : β → δ} (h : Alike R x y) (next : ∀ a b, R a b → S (f a) (g b)) :
    Alike S (x.map f) (y.map g) := by
  cases h with
  | error e => exact .error e
  | ok h => exact .ok (next _ _ h)

end Alike

namespace OrderBy

/-- No two of the rows have equal keys. -/
def Decides (order : OrderBy) (rows : List Row) : Prop :=
  rows.Pairwise fun a b => (order.key a).sortCompare (order.key b) ≠ .eq

instance (order : OrderBy) (rows : List Row) : Decidable (order.Decides rows) :=
  inferInstanceAs (Decidable (List.Pairwise _ _))

instance (order : OrderBy) :
    Std.Symm fun a b => (order.key a).sortCompare (order.key b) ≠ .eq where
  symm _ _ different equal := different (Std.OrientedCmp.eq_comm.mp equal)

theorem pairwise_sort (order : OrderBy) (rows : List Row) :
    (order.sort rows).Pairwise fun a b => order.compareRows a b != .gt :=
  List.pairwise_mergeSort ne_gt_trans ne_gt_total rows

/-- Keys that all differ leave one order. -/
theorem sort_eq_of_perm (order : OrderBy) {rows others : List Row} (perm : rows.Perm others)
    (decides : order.Decides rows) : order.sort rows = order.sort others := by
  have sorted : (order.sort rows).Perm rows := List.mergeSort_perm _ _
  have sortedOthers : (order.sort others).Perm rows := (List.mergeSort_perm _ _).trans perm.symm
  refine List.Perm.eq_of_pairwise ?_ (order.pairwise_sort rows) (order.pairwise_sort others)
    (sorted.trans sortedOthers.symm)
  intro a b ha hb hab hba
  have turned : order.compareRows b a = (order.compareRows a b).swap := Std.OrientedCmp.eq_swap
  have equal : order.compareRows a b = .eq := by
    rw [turned] at hba
    cases h : order.compareRows a b <;> simp [h] at hab hba ⊢
  by_contra different
  have apart := List.Pairwise.forall decides (sorted.mem_iff.mp ha) (sortedOthers.mem_iff.mp hb)
    different
  exact apart ((order.sortCompare_key_eq_iff a b).mpr equal)

end OrderBy

namespace Clauses

variable {d e : Dataset} {rows others : List Row}

theorem alike_fetch (h : d.Rearranged e) (c : Clauses) :
    Alike (fun s t => s.1 = t.1 ∧ s.2.Perm t.2) (c.fetch d) (c.fetch e) := by
  unfold fetch
  cases c.fromTable with
  | none => exact .error _
  | some name =>
    have found := h.rel_get? name
    dsimp only
    rw [h.names_eq]
    generalize d.get? name = x at found ⊢
    generalize e.get? name = y at found ⊢
    cases found with
    | none => exact .error _
    | some perm => exact .ok ⟨rfl, perm⟩

/-- Nested loops over rearranged rows meet the same pairs. -/
theorem perm_joinRows (join : JoinClause) (fromTable : String) {lefts lefts' rights rights' :
    List Row} (hleft : lefts.Perm lefts') (hright : rights.Perm rights') :
    (join.rows fromTable lefts rights).Perm (join.rows fromTable lefts' rights') := by
  unfold JoinClause.rows
  exact hleft.flatMap fun left _ => (hright.filter _).map _

theorem alike_joined (h : d.Rearranged e) (c : Clauses) (name : String) (perm : rows.Perm others) :
    Alike List.Perm (c.joined d name rows) (c.joined e name others) := by
  unfold joined
  cases c.join with
  | none => exact .ok perm
  | some join =>
    have found := h.rel_get? join.table
    dsimp only
    rw [h.names_eq]
    generalize d.get? join.table = x at found ⊢
    generalize e.get? join.table = y at found ⊢
    cases found with
    | none => exact .error _
    | some right => exact .ok (perm_joinRows join name perm right)

theorem alike_filtered (c : Clauses) (strict : Bool) (perm : rows.Perm others) :
    Alike List.Perm (c.filtered strict rows) (c.filtered strict others) := by
  unfold filtered
  cases c.condition with
  | none => exact .ok perm
  | some text =>
    dsimp only
    cases Condition.read strict text.toList with
    | error e => exact .error e
    | ok condition => exact .ok (perm.filter _)

theorem perm_sorted (c : Clauses) (perm : rows.Perm others) :
    (c.sorted rows).Perm (c.sorted others) := by
  unfold sorted
  cases c.orderBy with
  | none => exact perm
  | some order =>
    exact (List.mergeSort_perm _ _).trans (perm.trans (List.mergeSort_perm _ _).symm)

theorem alike_unsorted (h : d.Rearranged e) (c : Clauses) (strict : Bool) :
    Alike (fun v w => v.1.Perm w.1 ∧ v.2.Perm w.2) (c.unsorted d strict) (c.unsorted e strict) := by
  refine (c.alike_fetch h).bind fun s t fetched => ?_
  obtain ⟨name, table⟩ := s
  obtain ⟨name', table'⟩ := t
  obtain ⟨rfl, htable⟩ := fetched
  refine (c.alike_joined h name htable).bind fun rows others hrows => ?_
  refine (c.alike_filtered strict hrows).bind fun kept kept' hkept => ?_
  exact .ok ⟨htable, hkept⟩

theorem perm_results (c : Clauses) (source : CountSource) (size : Nat) (perm : rows.Perm others) :
    (c.results source size rows).Perm (c.results source size others) := by
  unfold results projected
  split
  · cases source with
    | table => exact .refl _
    | workingSet => rw [perm.length_eq]
  · split
    · exact perm
    · split
      · exact perm
      · exact perm.map _

end Clauses

/-- The same rows in any order. -/
structure ResultSet.Rearranged (s t : ResultSet) : Prop where
  rows : s.rows.Perm t.rows
  rowCount : s.rowCount = t.rowCount
  message : s.message = t.message

namespace Clauses

variable {c : Clauses} {d e : Dataset}

/-- Only sorting and the projection come behind the conditions. -/
theorem run_eq_map_sorted (unlimited : c.limit = none) (ungrouped : c.groupBy = none)
    (dataset : Dataset) (options : Options) :
    c.run dataset options = (c.unsorted dataset options.strict).map fun w =>
      .ofRows (c.results options.countSource w.1.length (c.sorted w.2)) := by
  simp only [run_eq_map_unsorted, limited, unlimited, grouped, ungrouped]

theorem alike_run (h : d.Rearranged e) (unlimited : c.limit = none) (ungrouped : c.groupBy = none)
    (options : Options) : Alike ResultSet.Rearranged (c.run d options) (c.run e options) := by
  rw [run_eq_map_sorted unlimited ungrouped, run_eq_map_sorted unlimited ungrouped]
  refine (c.alike_unsorted h options.strict).map fun v w same => ?_
  have perm := c.perm_results options.countSource v.1.length (c.perm_sorted same.2)
  rw [← same.1.length_eq]
  exact ⟨perm, perm.length_eq, rfl⟩

theorem run_eq_of_decides (h : d.Rearranged e) (unlimited : c.limit = none)
    (ungrouped : c.groupBy = none) (options : Options) {order : OrderBy}
    (horder : c.orderBy = some order) {table rows : List Row}
    (hrows : c.unsorted d options.strict = .ok (table, rows)) (decides : order.Decides rows) :
    c.run d options = c.run e options := by
  have alike := c.alike_unsorted h options.strict
  have sorted : ∀ kept, c.sorted kept = order.sort kept := fun kept => by rw [sorted, horder]
  rw [run_eq_map_sorted unlimited ungrouped, run_eq_map_sorted unlimited ungrouped]
  rw [hrows] at alike ⊢
  generalize c.unsorted e options.strict = other at alike ⊢
  cases alike with
  | ok same =>
    obtain ⟨htable, perm⟩ := same
    simp only [Except.map, sorted, order.sort_eq_of_perm perm decides, htable.length_eq]

end Clauses

/-- Without a limit and groups the order of stored rows changes at most the order of results, and
not even this where a query sorts by keys that all differ. -/
theorem select_rearranged {d e : Dataset} (h : d.Rearranged e) {sql : String}
    (unlimited : (Clauses.ofSql sql).limit = none) (ungrouped : (Clauses.ofSql sql).groupBy = none)
    (options : Options) :
    Alike ResultSet.Rearranged (select sql d options) (select sql e options) ∧
      ∀ order table rows, (Clauses.ofSql sql).orderBy = some order →
        (Clauses.ofSql sql).unsorted d options.strict = .ok (table, rows) →
        order.Decides rows → select sql d options = select sql e options := by
  refine ⟨Clauses.alike_run h unlimited ungrouped options, ?_⟩
  intro order table rows horder hrows decides
  exact Clauses.run_eq_of_decides h unlimited ungrouped options horder hrows decides

def titlesSql : String :=
  "SELECT name, title FROM users JOIN posts ON users.id = posts.user_id ORDER BY title DESC"

def reversedSample : Dataset := Dataset.sample.mapValues List.reverse

/-- The titles of the five posts are all different, so their order is the same for both ways of
storing users and posts. -/
theorem select_rearranged_titles :
    Dataset.sample.Rearranged reversedSample ∧ (Clauses.ofSql titlesSql).limit = none ∧
      (Clauses.ofSql titlesSql).groupBy = none ∧
      (∃ table rows, (Clauses.ofSql titlesSql).unsorted Dataset.sample false = .ok (table, rows) ∧
        rows.length = 5 ∧ OrderBy.Decides ⟨"title", .descending⟩ rows) ∧
      select titlesSql Dataset.sample { today := ⟨2024, 6, 1⟩ } =
        select titlesSql reversedSample { today := ⟨2024, 6, 1⟩ } := by
  have stored : Dataset.sample.Rearranged reversedSample :=
    .of_mapValues _ fun rows => (List.reverse_perm rows).symm
  have unlimited : (Clauses.ofSql titlesSql).limit = none := by decide +kernel
  have ungrouped : (Clauses.ofSql titlesSql).groupBy = none := by decide +kernel
  have order : (Clauses.ofSql titlesSql).orderBy = some ⟨"title", .descending⟩ := by decide +kernel
  have keys : ((Clauses.ofSql titlesSql).unsorted Dataset.sample false).toOption.map (fun w =>
      (w.2.length, decide (OrderBy.Decides ⟨"title", .descending⟩ w.2))) = some (5, true) := by
    decide +kernel
  cases found : (Clauses.ofSql titlesSql).unsorted Dataset.sample false with
  | error e =>
    rw [found] at keys
    nomatch keys
  | ok w =>
    obtain ⟨table, rows⟩ := w
    rw [found] at keys
    obtain ⟨five, decides⟩ := Prod.mk.inj (Option.some.inj keys)
    have decides := of_decide_eq_true decides
    have same := (select_rearranged stored unlimited ungrouped { today := ⟨2024, 6, 1⟩ }).2 _ table
      rows order found decides
    exact ⟨stored, unlimited, ungrouped, ⟨table, rows, rfl, five, decides⟩, same⟩

end Query

end SqlTutor

import SqlTutor.Proofs.Value.Order
import SqlTutor.Query.Order
import Mathlib.Data.List.Nodup
import Mathlib.Data.Finset.Card

/-!
Rows may be equal, so what sorting and cutting do to them is said of the positions they come from. A
stable sort lists positions by the comparison and, where it does not decide, by position. Of a list
that is ordered in such a way, the cut leaves out what enough other entries precede.
-/
namespace SqlTutor.Query

open Std List

theorem compareRows_of_ascending {order : OrderBy} (h : order.direction = .ascending) (a b : Row) :
    order.compareRows a b = (order.key a).sortCompare (order.key b) := by
  unfold OrderBy.compareRows
  rw [h]

theorem compareRows_of_descending {order : OrderBy} (h : order.direction = .descending)
    (a b : Row) : order.compareRows a b = (order.key b).sortCompare (order.key a) := by
  have turned : (order.key b).sortCompare (order.key a) =
      ((order.key a).sortCompare (order.key b)).swap := OrientedCmp.eq_swap
  unfold OrderBy.compareRows
  rw [h, turned]

instance (order : OrderBy) : TransCmp order.compareRows where
  eq_swap := by
    intro a b
    cases h : order.direction with
    | ascending =>
      rw [compareRows_of_ascending h, compareRows_of_ascending h]
      exact OrientedCmp.eq_swap
    | descending =>
      rw [compareRows_of_descending h, compareRows_of_descending h]
      exact OrientedCmp.eq_swap
  isLE_trans := by
    intro a b c
    cases h : order.direction with
    | ascending =>
      simp only [compareRows_of_ascending h]
      exact TransCmp.isLE_trans
    | descending =>
      intro hab hbc
      simp only [compareRows_of_descending h] at hab hbc ⊢
      exact TransCmp.isLE_trans hbc hab

instance {P : Type} (order : OrderBy) (row : P → Row) :
    TransCmp fun p q => order.compareRows (row p) (row q) where
  eq_swap := OrientedCmp.eq_swap
  isLE_trans := TransCmp.isLE_trans

theorem OrderBy.sortCompare_key_eq_iff (order : OrderBy) (a b : Row) :
    (order.key a).sortCompare (order.key b) = .eq ↔ order.compareRows a b = .eq := by
  cases h : order.direction with
  | ascending => rw [compareRows_of_ascending h]
  | descending =>
    rw [compareRows_of_descending h]
    exact OrientedCmp.eq_comm

section Stable

variable {α : Type}

theorem nodup_of_pairwise {r : α → α → Prop} (hr : ∀ a b, r a b → ¬ r b a) {l : List α}
    (hl : l.Pairwise r) : l.Nodup := by
  refine hl.imp fun {a b} hab => ?_
  rintro rfl
  exact hr a a hab hab

/-- Of two different entries one stands before the other. -/
theorem pair_sublist_or {l : List α} {a b : α} (ha : a ∈ l) (hb : b ∈ l) (hne : a ≠ b) :
    [a, b] <+ l ∨ [b, a] <+ l := by
  induction l with
  | nil => simp at ha
  | cons c l ih =>
    rcases mem_cons.mp ha with rfl | inside
    · have behind : b ∈ l := (mem_cons.mp hb).resolve_left hne.symm
      exact Or.inl ((singleton_sublist.mpr behind).cons_cons a)
    · rcases mem_cons.mp hb with rfl | within
      · exact Or.inr ((singleton_sublist.mpr inside).cons_cons b)
      · exact (ih inside within).imp (·.cons c) (·.cons c)

theorem not_pair_sublist_swap {l : List α} (hl : l.Nodup) {a b : α} (hab : [a, b] <+ l) :
    ¬ [b, a] <+ l := by
  intro hba
  induction l with
  | nil => simp at hab
  | cons c l ih =>
    obtain ⟨fresh, rest⟩ := nodup_cons.mp hl
    cases hab with
    | cons _ hab =>
      cases hba with
      | cons _ hba => exact ih rest hab hba
      | cons_cons _ _ => exact fresh (hab.subset (mem_cons_of_mem _ mem_cons_self))
    | cons_cons _ hb =>
      have behind : b ∈ l := singleton_sublist.mp hb
      cases hba with
      | cons _ hba => exact fresh (hba.subset (mem_cons_of_mem _ mem_cons_self))
      | cons_cons _ _ => exact fresh behind

/-- By the comparison, and where it does not decide by the relation. -/
def Precedes (cmp : α → α → Ordering) (r : α → α → Prop) (a b : α) : Prop :=
  cmp a b = .lt ∨ cmp a b = .eq ∧ r a b

variable {cmp : α → α → Ordering} [TransCmp cmp] {r : α → α → Prop}

theorem not_precedes_swap (hr : ∀ a b, r a b → ¬ r b a) {a b : α} (h : Precedes cmp r a b) :
    ¬ Precedes cmp r b a := by
  have turned : cmp b a = (cmp a b).swap := OrientedCmp.eq_swap
  unfold Precedes
  rw [turned]
  rcases h with lt | ⟨eq, before⟩
  · simp [lt]
  · simpa [eq] using hr a b before

theorem ne_gt_trans (a b c : α) (hab : cmp a b != .gt) (hbc : cmp b c != .gt) :
    cmp a c != .gt := by
  have le : ∀ x y, (cmp x y != .gt) = (cmp x y).isLE := by
    intro x y
    cases cmp x y <;> rfl
  rw [le] at hab hbc ⊢
  exact TransCmp.isLE_trans hab hbc

theorem ne_gt_total (a b : α) : cmp a b != .gt || cmp b a != .gt := by
  have turned : cmp b a = (cmp a b).swap := OrientedCmp.eq_swap
  rw [turned]
  cases cmp a b <;> rfl

/-- Entries that compare equal stand in a sorted list as they stood before. -/
theorem pairwise_precedes_mergeSort {l : List α} (hr : l.Pairwise r) (hl : l.Nodup) :
    (l.mergeSort fun a b => cmp a b != .gt).Pairwise (Precedes cmp r) := by
  have perm := mergeSort_perm l fun a b => cmp a b != .gt
  have sorted : (l.mergeSort fun a b => cmp a b != .gt).Pairwise fun a b => cmp a b != .gt :=
    pairwise_mergeSort ne_gt_trans ne_gt_total l
  have fresh := perm.nodup_iff.mpr hl
  rw [pairwise_iff_forall_sublist] at hr sorted ⊢
  intro a b hab
  have le := sorted hab
  cases hcmp : cmp a b with
  | lt => exact Or.inl hcmp
  | gt => simp [hcmp] at le
  | eq =>
    have turned : cmp b a = (cmp a b).swap := OrientedCmp.eq_swap
    have ha : a ∈ l := perm.subset (hab.subset mem_cons_self)
    have hb : b ∈ l := perm.subset (hab.subset (mem_cons_of_mem _ mem_cons_self))
    have hne : a ≠ b := by
      rintro rfl
      exact not_pair_sublist_swap fresh hab hab
    rcases pair_sublist_or ha hb hne with before | behind
    · exact Or.inr ⟨hcmp, hr before⟩
    · have le : cmp b a != .gt := by
        rw [turned, hcmp]
        rfl
      have kept := pair_sublist_mergeSort ne_gt_trans ne_gt_total le behind
      exact absurd kept (not_pair_sublist_swap fresh hab)

end Stable

/-- A sort of rows that are told apart rearranges what they are told apart by. -/
theorem OrderBy.sort_map {P : Type} [LinearOrder P] (order : OrderBy) (row : P → Row)
    {kept : List P} (hkept : kept.Pairwise (· < ·)) :
    ∃ arranged : List P, order.sort (kept.map row) = arranged.map row ∧ arranged.Perm kept ∧
      arranged.Pairwise (Precedes (fun p q => order.compareRows (row p) (row q)) (· < ·)) := by
  refine ⟨_, ?_, mergeSort_perm _ _, pairwise_precedes_mergeSort hkept hkept.nodup⟩
  have same : ∀ p ∈ kept, ∀ q ∈ kept,
      (order.compareRows (row p) (row q) != .gt) = (order.compareRows (row p) (row q) != .gt) :=
    fun _ _ _ _ => rfl
  exact (map_mergeSort same).symm

/-- A list in which nothing that passes stands behind what does not is cut by a filter. -/
theorem filter_append_filter_of_pairwise {α : Type} {p : α → Bool} {l : List α}
    (h : l.Pairwise fun a b => p b → p a) : l.filter p ++ l.filter (!p ·) = l := by
  induction l with
  | nil => rfl
  | cons a l ih =>
    obtain ⟨first, rest⟩ := pairwise_cons.mp h
    have split := ih rest
    cases ha : p a with
    | true =>
      rw [filter_cons_of_pos ha, filter_cons_of_neg (by simp [ha]), cons_append,
        split]
    | false =>
      have none : l.filter p = [] := by
        refine filter_eq_nil_iff.mpr fun b hb passes => ?_
        rw [first b hb passes] at ha
        nomatch ha
      rw [none, nil_append] at split
      rw [filter_cons_of_neg (by simp [ha]), filter_cons_of_pos (by simp [ha]), none,
        split, nil_append]

/-- In an ordered list the first entries are those that few others precede. -/
theorem mem_take_iff_countP_lt {α : Type} {r : α → α → Prop} [DecidableRel r] {l : List α}
    (hl : l.Pairwise r) (hr : ∀ a b, r a b → ¬ r b a) {a : α} (ha : a ∈ l) (n : Nat) :
    a ∈ l.take n ↔ l.countP (fun b => r b a) < n := by
  induction l generalizing n with
  | nil => simp at ha
  | cons b l ih =>
    obtain ⟨first, rest⟩ := pairwise_cons.mp hl
    have irrefl : ¬ r b b := fun h => hr b b h h
    rcases mem_cons.mp ha with rfl | behind
    · have none : (a :: l).countP (fun b => r b a) = 0 := by
        rw [countP_eq_zero]
        intro c hc
        rcases mem_cons.mp hc with rfl | hc
        · simpa using irrefl
        · simpa using hr a c (first c hc)
      rw [none]
      cases n with
      | zero => simp
      | succ n => simp
    · have counted : (b :: l).countP (fun b => r b a) = l.countP (fun b => r b a) + 1 := by
        rw [countP_cons, if_pos (by simpa using first a behind)]
      have hne : a ≠ b := by
        rintro rfl
        exact irrefl (first a behind)
      rw [counted]
      cases n with
      | zero => simp
      | succ n =>
        rw [take_succ_cons, mem_cons, ih rest behind n]
        constructor
        · rintro (same | lt)
          · exact absurd same hne
          · omega
        · intro lt
          exact Or.inr (by omega)

end SqlTutor.Query

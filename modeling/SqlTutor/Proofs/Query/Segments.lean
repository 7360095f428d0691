import SqlTutor.Proofs.Query.Opposites
import SqlTutor.Proofs.Query.Sorting
import SqlTutor.Proofs.Value.Agreement

/-!
A filter leaves the rows in their order and a sort does not look at what a filter looks at, so it
does not matter which of them comes first. Conditions compare doubles by their places, where both
zeros are one, and sorts by a total order, where they are two. Still, where a column has numbers
only, what is less than a number comes first in the rows that are sorted by the column, and what is
at least the number comes behind.
-/
namespace SqlTutor

namespace Double

/-- The total order refines the order of the places. -/
theorem place_le_of_rank_le {x y : Double} (h : x.rank ≤ y.rank) : x.place ≤ y.place := by
  unfold rank at h
  unfold place
  cases sign : x.negative <;> cases sign' : y.negative <;>
    simp only [sign, sign', if_true, Bool.false_eq_true, if_false] at h ⊢ <;>
    omega

end Double

namespace Value

/-- Integers and floating-point values other than those that are not numbers. -/
def isNumber : Value → Bool
  | .int _ => true
  | .float x => !x.isNaN
  | _ => false

theorem sortCompare_of_number? {v w : Value} {x y : Double} (hv : v.number? = some x)
    (hw : w.number? = some y) : v.sortCompare w = x.totalCompare y := by
  unfold sortCompare
  split
  · simp [number?] at hv
  · simp [number?] at hv
  · simp only [hv, hw]

/-- A number is the same for conditions and for sorts. -/
theorem exists_of_isNumber {v : Value} (h : v.isNumber) :
    ∃ x, v.number? = some x ∧ v.comparable? = some x ∧ x.isNaN = false := by
  cases v with
  | int n => exact ⟨_, rfl, rfl, Double.isNaN_ofInt (natAbs_toInt_le n)⟩
  | float x => exact ⟨x, rfl, rfl, (Bool.not_eq_true' _).mp h⟩
  | null | bool | text => nomatch h

end Value

namespace Query

section MergeSort

variable {α : Type} {le : α → α → Bool} {p : α → Bool}

/-- A list is cut in one way into what fails and what passes. -/
theorem eq_of_append_eq {front back front' back' : List α}
    (same : front ++ back = front' ++ back') (fails : ∀ a ∈ front, p a = false)
    (passes : ∀ a ∈ back, p a) (fails' : ∀ a ∈ front', p a = false) (passes' : ∀ a ∈ back', p a) :
    front = front' ∧ back = back' := by
  have cut : ∀ {l r : List α}, (∀ a ∈ l, p a = false) → (∀ a ∈ r, p a) →
      (l ++ r).filter p = r := by
    intro l r hl hr
    have none : l.filter p = [] := List.filter_eq_nil_iff.mpr fun a ha => by simp [hl a ha]
    rw [List.filter_append, none, List.filter_eq_self.mpr hr, List.nil_append]
  have second : back = back' := by rw [← cut fails passes, same, cut fails' passes']
  rw [second] at same
  exact ⟨List.append_cancel_right same, second⟩

variable (trans : ∀ a b c, le a b → le b c → le a c) (total : ∀ a b, le a b || le b a)

include trans total

/-- A new first entry goes in front of everything that it does not come behind. -/
theorem exists_mergeSort_cons (a : α) (l : List α) : ∃ front back,
    (a :: l).mergeSort le = front ++ a :: back ∧ l.mergeSort le = front ++ back ∧
      (∀ b ∈ front, le a b = false) ∧ ∀ b ∈ back, le a b := by
  obtain ⟨front, back, whole, rest, before⟩ := List.mergeSort_cons trans total a l
  have sorted := List.pairwise_mergeSort trans total (a :: l)
  rw [whole] at sorted
  obtain ⟨-, behind, -⟩ := List.pairwise_append.mp sorted
  refine ⟨front, back, whole, rest, fun b hb => ?_, (List.pairwise_cons.mp behind).1⟩
  exact (Bool.not_eq_true' _).mp (before b hb)

theorem filter_mergeSort (p : α → Bool) (l : List α) :
    (l.mergeSort le).filter p = (l.filter p).mergeSort le := by
  induction l with
  | nil => rw [List.mergeSort_nil, List.filter_nil, List.mergeSort_nil]
  | cons a l ih =>
    obtain ⟨front, back, whole, rest, before, behind⟩ := exists_mergeSort_cons trans total a l
    rw [rest, List.filter_append] at ih
    rw [whole, List.filter_append]
    cases ha : p a with
    | false =>
      have fails : ¬ p a = true := by simp [ha]
      rw [List.filter_cons_of_neg fails, List.filter_cons_of_neg fails, ih]
    | true =>
      obtain ⟨front', back', whole', rest', before', behind'⟩ :=
        exists_mergeSort_cons trans total a (l.filter p)
      -- Both cuts of the sorted rest are between what comes before the new entry and what does not.
      obtain ⟨first, second⟩ := eq_of_append_eq (ih.trans rest')
        (fun b hb => before b (List.mem_filter.mp hb).1)
        (fun b hb => behind b (List.mem_filter.mp hb).1) before' behind'
      rw [List.filter_cons_of_pos ha, List.filter_cons_of_pos ha, whole', first, second]

end MergeSort

theorem OrderBy.filter_sort (order : OrderBy) (p : Row → Bool) (rows : List Row) :
    (order.sort rows).filter p = order.sort (rows.filter p) :=
  filter_mergeSort ne_gt_trans ne_gt_total p rows

/-- The row has a number in the column. -/
def HasNumber (column : String) (row : Row) : Prop := ∃ v ∈ row.get? column, v.isNumber

instance (column : String) (row : Row) : Decidable (HasNumber column row) :=
  inferInstanceAs (Decidable (∃ v ∈ _, _))

section Numbers

variable {column : String} {a b row : Row}

theorem HasNumber.exists_key (h : HasNumber column row) : ∃ v x, row.get? column = some v ∧
    v.number? = some x ∧ (row.get? column).bind Value.comparable? = some x ∧ x.isNaN = false := by
  obtain ⟨v, mem, number⟩ := h
  obtain ⟨x, sorts, counts, real⟩ := Value.exists_of_isNumber number
  have value : row.get? column = some v := mem
  refine ⟨v, x, value, sorts, ?_, real⟩
  rw [value, Option.bind_some, counts]

/-- What does not come behind a number that is less than another one is less as well. -/
theorem holds_less_of_compareRows (ha : HasNumber column a) (hb : HasNumber column b)
    (le : OrderBy.compareRows ⟨column, .ascending⟩ a b != .gt) {y : Double}
    (less : (Predicate.compare column .less y).holds b = true) :
    (Predicate.compare column .less y).holds a = true := by
  obtain ⟨v, x, value, sorts, counts, real⟩ := ha.exists_key
  obtain ⟨v', x', value', sorts', counts', -⟩ := hb.exists_key
  obtain ⟨z, number, below⟩ := Predicate.holds_compare_iff.mp less
  obtain rfl : x' = z := Option.some.inj (counts'.symm.trans number)
  obtain ⟨numbers, below⟩ := CompareOp.less_holds_iff.mp below
  have keys : ∀ {r : Row} {w}, r.get? column = some w →
      OrderBy.key ⟨column, .ascending⟩ r = w := fun value =>
    OrderBy.key_of_get?_eq_some value
  rw [compareRows_of_ascending rfl, keys value, keys value',
    Value.sortCompare_of_number? sorts sorts', bne_iff_ne, Double.totalCompare,
    compare_le_iff_le] at le
  have places := Double.place_le_of_rank_le le
  exact Predicate.holds_compare_iff.mpr ⟨x, counts,
    CompareOp.less_holds_iff.mpr ⟨⟨real, numbers.2⟩, Int.lt_of_le_of_lt places below⟩⟩

/-- A number that is not less than another one is at least that. -/
theorem holds_atLeast_eq_not_less (h : HasNumber column row) {y : Double} (hy : y.isNaN = false) :
    (Predicate.compare column .atLeast y).holds row =
      !(Predicate.compare column .less y).holds row := by
  obtain ⟨v, x, -, -, counts, real⟩ := h.exists_key
  have holds : ∀ op, (Predicate.compare column op y).holds row = op.holds x y := fun op => by
    simp only [Predicate.holds, counts]
  rw [holds, holds, Bool.eq_iff_iff, Bool.not_eq_true']
  exact (CompareOp.atLeast_holds_iff_not_less real hy).trans (Bool.not_eq_true _).to_iff

/-- In rows sorted by a column of numbers, those with less than a number come first. -/
theorem filter_append_filter_sort {rows : List Row} (h : ∀ row ∈ rows, HasNumber column row)
    {y : Double} (hy : y.isNaN = false) :
    (OrderBy.sort ⟨column, .ascending⟩ rows).filter (Predicate.compare column .less y).holds ++
      (OrderBy.sort ⟨column, .ascending⟩ rows).filter (Predicate.compare column .atLeast y).holds =
        OrderBy.sort ⟨column, .ascending⟩ rows := by
  have numbers : ∀ row ∈ OrderBy.sort ⟨column, .ascending⟩ rows, HasNumber column row :=
    fun row hrow => h row ((List.mergeSort_perm rows _).subset hrow)
  have sorted : (OrderBy.sort ⟨column, .ascending⟩ rows).Pairwise fun a b =>
      OrderBy.compareRows ⟨column, .ascending⟩ a b != .gt :=
    List.pairwise_mergeSort ne_gt_trans ne_gt_total rows
  rw [List.filter_congr fun row hrow => holds_atLeast_eq_not_less (numbers row hrow) hy]
  refine filter_append_filter_of_pairwise (sorted.imp_of_mem fun ha hb le => ?_)
  exact holds_less_of_compareRows (numbers _ ha) (numbers _ hb) le

end Numbers

/-- It does not matter whether rows are filtered or sorted first. Where each row has a number in the
column, those with less than a number and those with at least that number are the two parts of the
rows as they are sorted by the column. -/
theorem filter_sort_numbers :
    (∀ (condition : Condition) (order : OrderBy) (rows : List Row),
      condition.filter (order.sort rows) = order.sort (condition.filter rows)) ∧
    ∀ (c : Column) (n : Nat) (strict : Bool), ∃ less atLeast,
      Condition.read strict (Form.compare c .less n).text = .ok less ∧
      Condition.read strict (Form.compare c .atLeast n).text = .ok atLeast ∧
      ∀ rows, (∀ row ∈ rows, HasNumber (String.ofList c.text) row) →
        less.filter (OrderBy.sort ⟨String.ofList c.text, .ascending⟩ rows) ++
            atLeast.filter (OrderBy.sort ⟨String.ofList c.text, .ascending⟩ rows) =
          OrderBy.sort ⟨String.ofList c.text, .ascending⟩ rows := by
  refine ⟨fun condition order rows => order.filter_sort condition.holds rows, ?_⟩
  intro c n strict
  refine ⟨_, _, Form.read_text _ strict, Form.read_text _ strict, fun rows numbers => ?_⟩
  rw [Form.filter_text, Form.filter_text]
  exact filter_append_filter_sort numbers (Double.isNaN_ofNat n)

def totalColumn : Column := ⟨"total".toList, by decide, by decide⟩

def totalRow (total : Value) : Row := .ofList [("total", total)]

/-- Both zeros and both infinities, and two integers of which the doubles are the same. -/
def totalRows : List Row :=
  [totalRow (.float (.infinity false)), totalRow (.int 9007199254740993),
    totalRow (.float (.zero false)), totalRow (.int 9007199254740992), totalRow (.int 0),
    totalRow (.float (.infinity true)), totalRow (.float (.zero true)), totalRow (.int (-1))]

theorem filter_sort_numbers_totals : (∀ row ∈ totalRows, HasNumber "total" row) ∧
    (Condition.ofText "total = 0".toList).filter (OrderBy.sort ⟨"id", .descending⟩ totalRows) =
      OrderBy.sort ⟨"id", .descending⟩
        ((Condition.ofText "total = 0".toList).filter totalRows) ∧
    ∃ less atLeast, Condition.read true "total < 9007199254740993".toList = .ok less ∧
      Condition.read true "total >= 9007199254740993".toList = .ok atLeast ∧
      less.filter (OrderBy.sort ⟨"total", .ascending⟩ totalRows) ++
          atLeast.filter (OrderBy.sort ⟨"total", .ascending⟩ totalRows) =
        OrderBy.sort ⟨"total", .ascending⟩ totalRows := by
  have numbers : ∀ row ∈ totalRows, HasNumber "total" row := by decide
  obtain ⟨commutes, segments⟩ := filter_sort_numbers
  obtain ⟨less, atLeast, read, read', parts⟩ := segments totalColumn 9007199254740993 true
  exact ⟨numbers, commutes _ _ _, less, atLeast, read, read', parts totalRows numbers⟩

end Query

end SqlTutor

import SqlTutor.Proofs.Decimal.Texts
import SqlTutor.Proofs.Query.Partition
import SqlTutor.Proofs.Query.Segments

/-!
Rows are counted together by the texts they show. What a number shows is read as that number, so
numbers that show one text are equal as doubles, and no group holds numbers that a join would tell
apart. Equal numbers may still be in different groups, as both zeros are.
-/
namespace SqlTutor

namespace Value

/-- Numbers that are shown alike are equal, in whatever kind each of them is held. -/
theorem strictEq_of_shown_eq {v w : Value} (hv : v.isNumber) (hw : w.isNumber)
    (same : v.shown = w.shown) : v.strictEq w = true := by
  obtain ⟨x, numberV, -, real⟩ := exists_of_isNumber hv
  obtain ⟨y, numberW, -, real'⟩ := exists_of_isNumber hw
  have read : some x = some y :=
    calc
      some x = Double.ofText? v.shown := (ofText?_shown_number numberV real).symm
      _ = Double.ofText? w.shown := congrArg Double.ofText? same
      _ = some y := ofText?_shown_number numberW real'
  obtain rfl := Option.some.inj read
  refine strictEq_iff.mpr (Or.inr ⟨x, x, numberV, numberW, ?_⟩)
  exact Double.equal_eq_true_iff.mpr ⟨real, Or.inl rfl⟩

end Value

namespace Query.Group

/-- Groups are the classes of rows that show one text, and the numbers in a class are all equal. -/
theorem groups_hold_equal_numbers (column : String) (rows : List Row) :
    ofRows column rows = (classes column rows).map (ofClass column rows) ∧
    (∀ k ∈ classes column rows, ∀ r ∈ members column rows k, ∀ s ∈ members column rows k,
      ∀ v ∈ r.get? column, ∀ w ∈ s.get? column,
        v.isNumber → w.isNumber → v.strictEq w = true) ∧
    ∀ v w : Value, v.isNumber → w.isNumber → key (some v) = key (some w) →
      v.strictEq w = true := by
  have alike (v w : Value) (hv : v.isNumber) (hw : w.isNumber)
      (same : key (some v) = key (some w)) : v.strictEq w = true :=
    Value.strictEq_of_shown_eq hv hw (Option.some.inj same)
  refine ⟨ofRows_eq_map_ofClass column rows, ?_, alike⟩
  intro k _ r hr s hs v hv w hw numberV numberW
  have first : classOf column r = k := of_decide_eq_true (List.mem_filter.mp hr).2
  have second : classOf column s = k := of_decide_eq_true (List.mem_filter.mp hs).2
  rw [classOf, Option.mem_def.mp hv] at first
  rw [classOf, Option.mem_def.mp hw] at second
  exact alike v w numberV numberW (first.trans second.symm)

/-- An integer and a double of 2^53, a text between them and a text of the same digits. -/
theorem groups_hold_equal_numbers_mixed :
    let double : Double := ⟨false, 0x4340000000000000, by decide⟩
    let same : List Row := [.ofList [("n", .int 9007199254740992)], .ofList [("n", .float double)],
      .ofList [("n", .text "9007199254740992")]]
    let rows := .ofList [("n", .text "a")] :: same
    members "n" rows (some "9007199254740992".toList) = same ∧
      (Value.int 9007199254740992).strictEq (.float double) = true := by
  intro double same rows
  have group : members "n" rows (some "9007199254740992".toList) = same := by decide +kernel
  have shown : classOf "n" same[0] = some "9007199254740992".toList := by decide +kernel
  have occurs : some "9007199254740992".toList ∈ classes "n" rows :=
    (mem_classes "n" rows).mpr (List.mem_map.mpr ⟨same[0], by simp [rows], shown⟩)
  obtain ⟨-, equal, -⟩ := groups_hold_equal_numbers "n" rows
  have inside := equal _ occurs
  rw [group] at inside
  exact ⟨group, inside same[0] (by simp) same[1] (by simp) _ rfl _ rfl rfl rfl⟩

end Query.Group

end SqlTutor

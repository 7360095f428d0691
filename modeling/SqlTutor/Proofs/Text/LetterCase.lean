import SqlTutor.Proofs.Text.Keywords

/-!
Signs and words of ASCII in texts that are made small. Beyond ASCII two characters have small forms
with letters of ASCII in them: the Kelvin sign, which becomes `k`, and the dotted capital I, which
becomes `i` with a dot behind it. A piece of ASCII without `k` that does not end in `i` stands in
the small form of a text exactly where the text has it in some letter case.
-/
namespace SqlTutor.Text

theorem isLower_eq_false {c : Char} (h : 128 ≤ c.toNat) : c.isLower = false := by
  have above : 'z'.val < c.val := UInt32.lt_iff_toNat_lt.mpr (lt_of_lt_of_le (by decide) h)
  change (decide ('a'.val ≤ c.val) && decide (c.val ≤ 'z'.val)) = false
  rw [decide_eq_false (UInt32.not_le.mpr above), Bool.and_false]

theorem toLower_of_ne_ascii {c : Char} (h : 128 ≤ c.toNat) : c.toLower = c := by
  have above : 'Z'.val < c.val := UInt32.lt_iff_toNat_lt.mpr (lt_of_lt_of_le (by decide) h)
  have outside : ¬ (c.val ≥ 'A'.val ∧ c.val ≤ 'Z'.val) := fun both =>
    absurd both.2 (UInt32.not_le.mpr above)
  exact dif_neg outside

theorem exists_run_of_partner? {n m : Nat} {runs : List Ranges.CaseRun}
    (h : partner? n runs = some m) :
    ∃ run ∈ runs, run.first ≤ n ∧ n ≤ run.last ∧ m = run.partner + (n - run.first) := by
  induction runs with
  | nil => nomatch h
  | cons run rest ih =>
    rw [partner?] at h
    split at h
    · nomatch h
    · split at h
      · rename_i above inside
        rw [Bool.and_eq_true, decide_eq_true_eq] at inside
        exact ⟨run, List.mem_cons_self, by omega, inside.1, (Option.some.inj h).symm⟩
      · obtain ⟨found, member, bounds⟩ := ih h
        exact ⟨found, List.mem_cons_of_mem _ member, bounds⟩

/-- Beyond ASCII a small partner is beyond ASCII too, but for that of the Kelvin sign. -/
theorem partner?_lowerCase {n m : Nat} (h : partner? n Ranges.lowerCase = some m) :
    128 ≤ m ∧ m.isValidChar ∨ m = 'k'.toNat := by
  have table : ∀ run ∈ Ranges.lowerCase,
      (128 ≤ run.partner ∧ run.partner + (run.last - run.first) < 0xd800 ∨
        0xdfff < run.partner ∧ run.partner + (run.last - run.first) < 0x110000) ∨
      run.first = run.last ∧ run.partner = 'k'.toNat := by decide +kernel
  obtain ⟨run, member, low, high, rfl⟩ := exists_run_of_partner? h
  unfold Nat.isValidChar
  rcases table run member with large | ⟨single, kelvin⟩
  · exact Or.inl (by omega)
  · exact Or.inr (by omega)

theorem ofNat_eq_of_ascii {m : Nat} (h : 128 ≤ m ∧ m.isValidChar ∨ m = 'k'.toNat)
    (ascii : (Char.ofNat m).toNat < 128) : Char.ofNat m = 'k' := by
  rcases h with ⟨large, valid⟩ | rfl
  · have number : (Char.ofNat m).toNat = m := by
      rw [Char.ofNat, dif_pos valid]
      rfl
    omega
  · rfl

/-- What a text begins with when it is made small: the small form of its first character, if that
is one of ASCII, or nothing of ASCII but for the two characters. -/
theorem exists_lowerFrom_cons (afterCased : Bool) (c : Char) (s : List Char) :
    ∃ d more next, lowerFrom afterCased (c :: s) = d :: (more ++ lowerFrom next s) ∧
      (more = [] ∧ d = c.toLower ∨
        128 ≤ c.toLower.toNat ∧
          (more = [] ∧ (d.toNat < 128 → d = 'k') ∨ more = ['\u0307'] ∧ d = 'i')) := by
  rw [lowerFrom]
  by_cases sigma : c = 'Σ'
  · subst sigma
    refine ⟨_, [], _, rfl, Or.inr ⟨by decide, Or.inl ⟨rfl, ?_⟩⟩⟩
    split <;> decide
  rw [if_neg (by simpa using sigma), lowerChar]
  by_cases ascii : c.toNat < 128
  · rw [if_pos ascii]
    exact ⟨_, [], _, rfl, Or.inl ⟨rfl, rfl⟩⟩
  have foreign : 128 ≤ c.toLower.toNat := by
    rw [toLower_of_ne_ascii (by omega)]
    omega
  rw [if_neg ascii]
  by_cases dotted : c = '\u0130'
  · rw [if_pos (by simpa using dotted)]
    exact ⟨_, ['\u0307'], _, rfl, Or.inr ⟨foreign, Or.inr ⟨rfl, rfl⟩⟩⟩
  rw [if_neg (by simpa using dotted)]
  refine ⟨_, [], _, rfl, Or.inr ⟨foreign, Or.inl ⟨rfl, fun small => ?_⟩⟩⟩
  cases partner : partner? c.toNat Ranges.lowerCase with
  | none =>
    rw [partner, Option.map_none, Option.getD_none] at small
    exact absurd small ascii
  | some m =>
    rw [partner, Option.map_some, Option.getD_some] at small
    exact ofNat_eq_of_ascii (partner?_lowerCase partner) small

/-- Signs of ASCII that no other characters bring forth. -/
structure Native (key : List Char) : Prop where
  ascii : ∀ k ∈ key, k.toNat < 128 ∧ k ≠ 'k'
  last : key.getLast? ≠ some 'i'

instance (key : List Char) : Decidable (Native key) :=
  decidable_of_iff ((∀ k ∈ key, k.toNat < 128 ∧ k ≠ 'k') ∧ key.getLast? ≠ some 'i')
    ⟨fun h => ⟨h.1, h.2⟩, fun h => ⟨h.1, h.2⟩⟩

theorem Native.tail {k : Char} {key : List Char} (h : Native (k :: key)) : Native key where
  ascii d hd := h.ascii d (List.mem_cons_of_mem _ hd)
  last ends := by
    cases key with
    | nil => nomatch ends
    | cons d key => exact h.last (by rwa [List.getLast?_cons_cons])

theorem Native.dot_not_prefix {key s : List Char} (h : Native key) (nonempty : key ≠ []) :
    ¬ key <+: '\u0307' :: s := by
  intro front
  obtain ⟨k, key, rfl⟩ := List.exists_cons_of_ne_nil nonempty
  obtain ⟨rfl, -⟩ := List.cons_prefix_cons.mp front
  exact absurd (h.ascii '\u0307' List.mem_cons_self).1 (by decide)

theorem prefix_lowerFrom_iff {key : List Char} (h : Native key) (afterCased : Bool)
    (s : List Char) : key <+: lowerFrom afterCased s ↔ key <+: lowerAscii s := by
  induction s generalizing key afterCased with
  | nil => exact Iff.rfl
  | cons c s ih =>
    cases key with
    | nil => exact iff_of_true List.nil_prefix List.nil_prefix
    | cons k key =>
      obtain ⟨small, other⟩ := h.ascii k List.mem_cons_self
      obtain ⟨d, more, next, cut, first⟩ := exists_lowerFrom_cons afterCased c s
      have spelled : lowerAscii (c :: s) = c.toLower :: lowerAscii s := rfl
      rw [cut, spelled, List.cons_prefix_cons, List.cons_prefix_cons]
      rcases first with ⟨rfl, rfl⟩ | ⟨foreign, first⟩
      · exact and_congr_right fun _ => ih h.tail next
      · have absent : ¬ (k = c.toLower ∧ key <+: lowerAscii s) := by
          rintro ⟨rfl, -⟩
          omega
        refine iff_of_false ?_ absent
        rintro ⟨rfl, behind⟩
        rcases first with ⟨rfl, kelvin⟩ | ⟨rfl, rfl⟩
        · exact other (kelvin small)
        · -- The key does not end in `i`, and goes on with a sign of ASCII.
          refine h.tail.dot_not_prefix ?_ behind
          rintro rfl
          exact h.last rfl

theorem infix_lowerFrom_iff {key : List Char} (h : Native key) (nonempty : key ≠ [])
    (afterCased : Bool) (s : List Char) :
    key <:+: lowerFrom afterCased s ↔ key <:+: lowerAscii s := by
  induction s generalizing afterCased with
  | nil => exact Iff.rfl
  | cons c s ih =>
    obtain ⟨d, more, next, cut, first⟩ := exists_lowerFrom_cons afterCased c s
    have here := prefix_lowerFrom_iff h afterCased (c :: s)
    have spelled : lowerAscii (c :: s) = c.toLower :: lowerAscii s := rfl
    have behind : key <:+: more ++ lowerFrom next s ↔ key <:+: lowerFrom next s := by
      rcases first with ⟨rfl, -⟩ | ⟨-, ⟨rfl, -⟩ | ⟨rfl, -⟩⟩
      · rfl
      · rfl
      · rw [List.singleton_append, List.infix_cons_iff,
          or_iff_right (h.dot_not_prefix nonempty)]
    rw [spelled] at here ⊢
    rw [cut] at here ⊢
    rw [List.infix_cons_iff, List.infix_cons_iff, here, behind, ih next]

theorem occursIn_iff {needle s : List Char} : occursIn needle s ↔ needle <:+: s := by
  induction s with
  | nil => simp [occursIn]
  | cons c s ih =>
    rw [occursIn, Bool.or_eq_true, List.isPrefixOf_iff_prefix, ih, List.infix_cons_iff]

/-- The text has the word in it, in some letter case. -/
def Contains (key s : List Char) : Prop := key <:+: lowerAscii s

instance (key s : List Char) : Decidable (Contains key s) := inferInstanceAs (Decidable (_ <:+: _))

theorem Native.occursIn_lower_iff {key : List Char} (h : Native key) (nonempty : key ≠ [])
    (s : List Char) : occursIn key (lower s) ↔ Contains key s :=
  occursIn_iff.trans (infix_lowerFrom_iff h nonempty false s)

/-- A word in small letters of ASCII that no other characters bring forth. -/
structure Distinct (key : List Char) : Prop where
  isLower : ∀ k ∈ key, k.isLower ∧ k ≠ 'k'
  last : key.getLast? ≠ some 'i'

instance (key : List Char) : Decidable (Distinct key) :=
  decidable_of_iff ((∀ k ∈ key, k.isLower ∧ k ≠ 'k') ∧ key.getLast? ≠ some 'i')
    ⟨fun h => ⟨h.1, h.2⟩, fun h => ⟨h.1, h.2⟩⟩

theorem Distinct.native {key : List Char} (h : Distinct key) : Native key where
  ascii k hk := by
    obtain ⟨small, other⟩ := h.isLower k hk
    refine ⟨?_, other⟩
    by_contra foreign
    exact Bool.false_ne_true ((isLower_eq_false (Nat.not_lt.mp foreign)).symm.trans small)
  last := h.last

theorem occursIn_lower_iff {key : List Char} (h : Distinct key) (nonempty : key ≠ [])
    (s : List Char) : occursIn key (lower s) ↔ Contains key s :=
  h.native.occursIn_lower_iff nonempty s

end SqlTutor.Text

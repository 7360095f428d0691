import SqlTutor.Proofs.Json.Formats

/-!
A text writes at most one document. The tokens of a document end where the document ends, whatever
stands behind them, since pieces of arrays and objects end in a comma or a closing token.
-/
namespace SqlTutor.Json

section Cancels

variable {P : Type} {tokensOf : P → List Token}

/-- No other piece has tokens that go on like those of the piece. -/
def Cancels (tokensOf : P → List Token) (p : P) : Prop :=
  ∀ q s t, tokensOf p ++ s = tokensOf q ++ t → p = q ∧ s = t

/-- What comes behind the first piece of a series. -/
theorem separated_cons_append (close : Token) (p : P) (rest : List P) (s : List Token) :
    separated tokensOf (p :: rest) ++ close :: s =
      tokensOf p ++ if rest = [] then close :: s
        else .comma :: (separated tokensOf rest ++ close :: s) := by
  by_cases last : rest = []
  · rw [if_pos last, last]
    rfl
  · rw [if_neg last, separated_cons p last, List.append_assoc, List.cons_append]

theorem separated_cancel {close : Token} (hclose : close ≠ .comma)
    (begins : ∀ p rest, (tokensOf p ++ rest).head? ≠ some close) {pieces others : List P}
    (h : ∀ p ∈ pieces, Cancels tokensOf p) {s t : List Token}
    (same : separated tokensOf pieces ++ close :: s = separated tokensOf others ++ close :: t) :
    pieces = others ∧ s = t := by
  induction pieces generalizing others with
  | nil =>
    cases others with
    | nil => exact ⟨rfl, (List.cons.inj same).2⟩
    | cons q others =>
      rw [separated_cons_append] at same
      exact absurd (congrArg List.head? same).symm (begins q _)
  | cons p pieces ih =>
    obtain ⟨first, later⟩ := List.forall_mem_cons.mp h
    cases others with
    | nil =>
      rw [separated_cons_append] at same
      exact absurd (congrArg List.head? same) (begins p _)
    | cons q others =>
      rw [separated_cons_append, separated_cons_append] at same
      obtain ⟨rfl, behind⟩ := first q _ _ same
      split at behind
      · rename_i last
        split at behind
        · rename_i last'
          exact ⟨by rw [last, last'], (List.cons.inj behind).2⟩
        · exact absurd (List.cons.inj behind).1 hclose
      · split at behind
        · exact absurd (List.cons.inj behind).1.symm hclose
        · obtain ⟨rfl, rest⟩ := ih later (List.cons.inj behind).2
          exact ⟨rfl, rest⟩

theorem Cancels.named {value : P} (h : Cancels tokensOf value) (name : String) :
    Cancels (namedTokens tokensOf) (name, value) := by
  rintro ⟨name', value'⟩ s t same
  simp only [namedTokens, List.cons_append, List.cons.injEq, Token.string.injEq, true_and] at same
  obtain ⟨rfl, inside⟩ := same
  obtain ⟨rfl, rest⟩ := h value' s t inside
  exact ⟨rfl, rest⟩

end Cancels

/-- The brackets of a document are those of its kind, and a scalar is its only token. -/
theorem cancels_tokens (j : Json) : Cancels Json.tokens j := by
  intro k s t same
  match j with
  | .null | .bool b | .number n | .string text => cases k <;> simp_all [Json.tokens]
  | .array items =>
    cases k with
    | array others =>
      have pieces : ∀ item ∈ items, Cancels Json.tokens item := by
        intro item mem
        have smaller : sizeOf item < sizeOf items := List.sizeOf_lt_of_mem mem
        exact cancels_tokens item
      simp only [Json.tokens, itemTokens_eq, List.cons_append, List.append_assoc,
        List.cons.injEq, true_and] at same
      obtain ⟨rfl, rest⟩ := separated_cancel (by simp)
        (fun item more => exists_found_append item more rfl) pieces same
      exact ⟨rfl, rest⟩
    | _ => simp [Json.tokens] at same
  | .object members =>
    cases k with
    | object others =>
      have pieces : ∀ m ∈ members, Cancels (namedTokens Json.tokens) m := by
        rintro ⟨name, value⟩ mem
        have smaller : sizeOf value < sizeOf members := by
          have := List.sizeOf_lt_of_mem mem
          rw [Prod.mk.sizeOf_spec] at this
          omega
        exact (cancels_tokens value).named name
      simp only [Json.tokens, memberTokens_eq, List.cons_append, List.append_assoc,
        List.cons.injEq, true_and] at same
      obtain ⟨rfl, rest⟩ := separated_cancel (by simp) (fun m more => by simp [namedTokens]) pieces
        same
      exact ⟨rfl, rest⟩
    | _ => simp [Json.tokens] at same
termination_by sizeOf j
decreasing_by all_goals simp_wf; omega

/-- A text writes no two documents. -/
theorem IsText.unique {j k : Json} {text : List Char} (hj : IsText j text) (hk : IsText k text) :
    j = k := by
  have same : j.tokens = k.tokens :=
    (lex_eq_tokens_iff.mpr hj).symm.trans (lex_eq_tokens_iff.mpr hk)
  exact (cancels_tokens j k [] [] (congrArg (· ++ []) same)).1

theorem IsText.iff_eq {j : Json} {text : List Char} (h : IsText j text) (k : Json) :
    IsText k text ↔ k = j :=
  ⟨fun hk => hk.unique h, fun same => same ▸ h⟩

end SqlTutor.Json

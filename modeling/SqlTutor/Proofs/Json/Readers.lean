import SqlTutor.Json.Reader
import SqlTutor.Proofs.Except
import SqlTutor.Proofs.Json.Texts

/-!
Arrays and objects are read as pieces one after the other, items or members, with commas between
them, up to a closing token. A series of pieces is read exactly if it stands there, and it stops at
the first misfit behind pieces that are read. Formats builds readers of whole documents on this.
-/
namespace SqlTutor.Json

namespace Reader

variable {α β : Type}

/-- What is read and what is left, without the proof that this is less. -/
def result (read : Reader α) (tokens : List Token) : Except ReadError (α × List Token) :=
  (read tokens).map fun r => (r.value, r.rest)

theorem length_lt_of_result {read : Reader α} {tokens rest : List Token} {v : α}
    (h : read.result tokens = .ok (v, rest)) : rest.length < tokens.length := by
  obtain ⟨r, -, same⟩ := map_eq_ok_iff.mp h
  obtain ⟨rfl, rfl⟩ := Prod.mk.inj same
  exact r.shorter

theorem result_map (f : α → β) (read : Reader α) (tokens : List Token) :
    (read.map f).result tokens = (read.result tokens).map fun r => (f r.1, r.2) := by
  unfold result map
  cases read tokens <;> rfl

theorem result_items (read : Reader α) (tokens : List Token) :
    result (items read) tokens = match read.result tokens with
      | .error e => .error e
      | .ok (item, .closeArray :: rest) => .ok ([item], rest)
      | .ok (item, .comma :: next) => (result (items read) next).map fun r => (item :: r.1, r.2)
      | .ok _ => .error .malformed := by
  unfold result
  rw [items]
  cases read tokens with
  | error e => rfl
  | ok r =>
    obtain ⟨item, rest, shorter⟩ := r
    cases rest with
    | nil => rfl
    | cons t next =>
      cases t with
      | comma =>
        dsimp only [Except.map]
        cases items read next <;> rfl
      | _ => rfl

theorem result_members (read : Reader α) (name : String) (after : List Token) :
    result (members read) (.string name :: .colon :: after) = match read.result after with
      | .error e => .error e
      | .ok (value, .closeObject :: rest) => .ok ([(name, value)], rest)
      | .ok (value, .comma :: next) =>
        (result (members read) next).map fun r => ((name, value) :: r.1, r.2)
      | .ok _ => .error .malformed := by
  unfold result
  rw [members]
  cases read after with
  | error e => rfl
  | ok r =>
    obtain ⟨value, rest, shorter⟩ := r
    cases rest with
    | nil => rfl
    | cons t next =>
      cases t with
      | comma =>
        dsimp only [Except.map]
        cases members read next <;> rfl
      | _ => rfl

theorem result_members_of_no_name (read : Reader α) {tokens : List Token}
    (h : ∀ name after, tokens ≠ .string name :: .colon :: after) :
    result (members read) tokens = .error .malformed := by
  unfold result
  rw [members]
  · rfl
  · exact h

/-- Behind a bracket an array that does not end at once has items. -/
theorem result_array_items (wanted : Shape) (read : Reader α) {tokens : List Token}
    (h : tokens.head? ≠ some .closeArray) :
    result (array wanted read) (.openArray :: tokens) = result (items read) tokens := by
  have skip : array wanted read (.openArray :: tokens) =
      (items read tokens).map fun r => ⟨r.value, r.rest, Nat.lt_succ_of_lt r.shorter⟩ := by
    cases tokens with
    | nil => rfl
    | cons t tokens =>
      cases t with
      | closeArray => exact absurd rfl h
      | _ => rfl
  rw [result, skip, result]
  cases items read tokens <;> rfl

theorem result_array_of_other (wanted : Shape) (read : Reader α) {tokens : List Token}
    (h : tokens.head? ≠ some .openArray) :
    result (array wanted read) tokens = .error (.unexpected wanted tokens) := by
  cases tokens with
  | nil => rfl
  | cons t tokens =>
    cases t with
    | openArray => exact absurd rfl h
    | _ => rfl

/-- Behind a brace an object that does not end at once has members. -/
theorem result_object_members (wanted : Shape) (read : Reader α) {tokens : List Token}
    (h : tokens.head? ≠ some .closeObject) :
    result (object wanted read) (.openObject :: tokens) = result (members read) tokens := by
  have skip : object wanted read (.openObject :: tokens) =
      (members read tokens).map fun r => ⟨r.value, r.rest, Nat.lt_succ_of_lt r.shorter⟩ := by
    cases tokens with
    | nil => rfl
    | cons t tokens =>
      cases t with
      | closeObject => exact absurd rfl h
      | _ => rfl
  rw [result, skip, result]
  cases members read tokens <;> rfl

theorem result_object_of_other (wanted : Shape) (read : Reader α) {tokens : List Token}
    (h : tokens.head? ≠ some .openObject) :
    result (object wanted read) tokens = .error (.unexpected wanted tokens) := by
  cases tokens with
  | nil => rfl
  | cons t tokens =>
    cases t with
    | openObject => exact absurd rfl h
    | _ => rfl

end Reader

section Series

variable {P β : Type}

/-- A function that takes pieces off the front of tokens. It succeeds with what a piece stands for,
and it stops at the fronts that are misfits. -/
structure Takes (read : List Token → Except ReadError (β × List Token))
    (tokensOf : P → List Token) (value? : P → Option β)
    (Misfit : List Token → Found → Shape → Prop) : Prop where
  shorter : ∀ {tokens b rest}, read tokens = .ok (b, rest) → rest.length < tokens.length
  ok_iff : ∀ {tokens b rest}, read tokens = .ok (b, rest) ↔
    ∃ p, value? p = some b ∧ tokens = tokensOf p ++ rest
  wrong_iff : ∀ {tokens found wanted}, read tokens = .error (.wrongShape found wanted) ↔
    ∃ front rest, Misfit front found wanted ∧ tokens = front ++ rest

/-- A function that reads one piece after the other, up to a closing token. -/
structure Series (close : Token) (one : List Token → Except ReadError (β × List Token))
    (all : List Token → Except ReadError (List β × List Token)) : Prop where
  error : ∀ {tokens e}, one tokens = .error e → all tokens = .error e
  last : ∀ {tokens b rest}, one tokens = .ok (b, close :: rest) → all tokens = .ok ([b], rest)
  more : ∀ {tokens b next}, one tokens = .ok (b, .comma :: next) →
    all tokens = (all next).map fun r => (b :: r.1, r.2)
  other : ∀ {tokens b rest}, one tokens = .ok (b, rest) →
    (∀ t ∈ rest.head?, t ≠ close ∧ t ≠ .comma) → all tokens = .error .malformed

/-- Pieces with commas between them. -/
def separated (tokensOf : P → List Token) : List P → List Token
  | [] => []
  | [p] => tokensOf p
  | p :: next :: rest => tokensOf p ++ .comma :: separated tokensOf (next :: rest)

/-- Pieces with a comma behind each. -/
def completed (tokensOf : P → List Token) (pieces : List P) : List Token :=
  pieces.flatMap fun p => tokensOf p ++ [.comma]

variable {close : Token} {one : List Token → Except ReadError (β × List Token)}
  {all : List Token → Except ReadError (List β × List Token)} {tokensOf : P → List Token}
  {value? : P → Option β} {Misfit : List Token → Found → Shape → Prop}

theorem separated_cons (p : P) {rest : List P} (h : rest ≠ []) :
    separated tokensOf (p :: rest) = tokensOf p ++ .comma :: separated tokensOf rest := by
  cases rest with
  | nil => exact absurd rfl h
  | cons next rest => rfl

theorem completed_cons (p : P) (rest : List P) :
    completed tokensOf (p :: rest) = tokensOf p ++ .comma :: completed tokensOf rest := by
  rw [completed, List.flatMap_cons, List.append_assoc, List.singleton_append, completed]

/-- What a series can come to at its next piece. -/
theorem Series.step (series : Series close one all) (tokens : List Token) :
    (∃ e, one tokens = .error e ∧ all tokens = .error e) ∨
      (∃ b rest, one tokens = .ok (b, close :: rest) ∧ all tokens = .ok ([b], rest)) ∨
      (∃ b next, one tokens = .ok (b, .comma :: next) ∧
        all tokens = (all next).map fun r => (b :: r.1, r.2)) ∨
      all tokens = .error .malformed := by
  cases hone : one tokens with
  | error e => exact Or.inl ⟨e, rfl, series.error hone⟩
  | ok r =>
    obtain ⟨b, tail⟩ := r
    cases tail with
    | nil => exact Or.inr (Or.inr (Or.inr (series.other hone (by simp))))
    | cons t next =>
      by_cases isClose : t = close
      · subst isClose
        exact Or.inr (Or.inl ⟨b, next, rfl, series.last hone⟩)
      · by_cases isComma : t = .comma
        · subst isComma
          exact Or.inr (Or.inr (Or.inl ⟨b, next, rfl, series.more hone⟩))
        · exact Or.inr (Or.inr (Or.inr (series.other hone (by simp [isClose, isComma]))))

variable (takes : Takes one tokensOf value? Misfit) (series : Series close one all)

include takes series

theorem Series.exists_pieces {tokens rest : List Token} {bs : List β}
    (h : all tokens = .ok (bs, rest)) :
    ∃ ps ≠ [], ps.mapM value? = some bs ∧ tokens = separated tokensOf ps ++ close :: rest := by
  induction hn : tokens.length using Nat.strong_induction_on generalizing tokens bs with
  | _ n ih =>
    rcases series.step tokens with
      ⟨e, -, same⟩ | ⟨b, rest, hone, same⟩ | ⟨b, next, hone, same⟩ | same
    · exact absurd (same.symm.trans h) (by simp)
    · obtain ⟨rfl, rfl⟩ := Prod.mk.inj (Except.ok.inj (same.symm.trans h))
      obtain ⟨p, hp, cut⟩ := takes.ok_iff.mp hone
      exact ⟨[p], List.cons_ne_nil _ _, by simp [hp], cut⟩
    · have less := takes.shorter hone
      obtain ⟨p, hp, cut⟩ := takes.ok_iff.mp hone
      obtain ⟨r, hall, made⟩ := map_eq_ok_iff.mp (same.symm.trans h)
      obtain ⟨rfl, rfl⟩ := Prod.mk.inj made
      rw [List.length_cons] at less
      obtain ⟨ps, nonempty, hps, rfl⟩ := ih next.length (by omega) hall rfl
      refine ⟨p :: ps, List.cons_ne_nil _ _, by simp [hp, hps], ?_⟩
      rw [cut, separated_cons p nonempty, List.append_assoc, List.cons_append]
    · exact absurd (same.symm.trans h) (by simp)

theorem Series.ok_of_pieces {ps : List P} (nonempty : ps ≠ []) {bs : List β}
    (h : ps.mapM value? = some bs) (rest : List Token) :
    all (separated tokensOf ps ++ close :: rest) = .ok (bs, rest) := by
  induction ps generalizing bs with
  | nil => exact absurd rfl nonempty
  | cons p ps ih =>
    simp only [List.mapM_cons, bind, Option.bind_eq_some_iff, pure] at h
    obtain ⟨b, hb, more, hmore, same⟩ := h
    obtain rfl := Option.some.inj same
    cases ps with
    | nil =>
      obtain rfl : [] = more := by simpa using hmore
      exact series.last (takes.ok_iff.mpr ⟨p, hb, rfl⟩)
    | cons next ps =>
      have first : one (separated tokensOf (p :: next :: ps) ++ close :: rest) =
          .ok (b, .comma :: (separated tokensOf (next :: ps) ++ close :: rest)) := by
        rw [separated_cons p (List.cons_ne_nil _ _), List.append_assoc, List.cons_append]
        exact takes.ok_iff.mpr ⟨p, hb, rfl⟩
      rw [series.more first, ih (List.cons_ne_nil _ _) hmore]
      rfl

theorem Series.exists_misfit {tokens : List Token} {found : Found} {wanted : Shape}
    (h : all tokens = .error (.wrongShape found wanted)) :
    ∃ before front rest, (∀ p ∈ before, (value? p).isSome) ∧ Misfit front found wanted ∧
      tokens = completed tokensOf before ++ (front ++ rest) := by
  induction hn : tokens.length using Nat.strong_induction_on generalizing tokens with
  | _ n ih =>
    rcases series.step tokens with
      ⟨e, hone, same⟩ | ⟨b, rest, -, same⟩ | ⟨b, next, hone, same⟩ | same
    · obtain rfl := Except.error.inj (same.symm.trans h)
      obtain ⟨front, rest, misfit, rfl⟩ := takes.wrong_iff.mp hone
      exact ⟨[], front, rest, by simp, misfit, rfl⟩
    · exact absurd (same.symm.trans h) (by simp)
    · have less := takes.shorter hone
      obtain ⟨p, hp, cut⟩ := takes.ok_iff.mp hone
      have hall := map_eq_error_iff.mp (same.symm.trans h)
      rw [List.length_cons] at less
      obtain ⟨before, front, rest, fits, misfit, rfl⟩ := ih next.length (by omega) hall rfl
      refine ⟨p :: before, front, rest, ?_, misfit, ?_⟩
      · exact List.forall_mem_cons.mpr ⟨by simp [hp], fits⟩
      · rw [cut, completed_cons, List.append_assoc, List.cons_append]
    · exact absurd (same.symm.trans h) (by simp)

theorem Series.wrong_of_misfit {before : List P} (fits : ∀ p ∈ before, (value? p).isSome)
    {front : List Token} {found : Found} {wanted : Shape} (h : Misfit front found wanted)
    (rest : List Token) :
    all (completed tokensOf before ++ (front ++ rest)) = .error (.wrongShape found wanted) := by
  induction before with
  | nil => exact series.error (takes.wrong_iff.mpr ⟨front, rest, h, rfl⟩)
  | cons p before ih =>
    obtain ⟨first, others⟩ := List.forall_mem_cons.mp fits
    obtain ⟨b, hb⟩ := Option.isSome_iff_exists.mp first
    have read : one (completed tokensOf (p :: before) ++ (front ++ rest)) =
        .ok (b, .comma :: (completed tokensOf before ++ (front ++ rest))) := by
      rw [completed_cons, List.append_assoc, List.cons_append]
      exact takes.ok_iff.mpr ⟨p, hb, rfl⟩
    rw [series.more read, ih others]
    rfl

end Series

theorem unexpected_eq {w : Shape} {t : Token} {found : Found}
    (h : Found.ofToken? t = some found) (rest : List Token) :
    ReadError.unexpected w (t :: rest) = .wrongShape found w := by
  simp [ReadError.unexpected, h]

theorem of_unexpected {w wanted : Shape} {tokens : List Token} {found : Found}
    (h : ReadError.unexpected w tokens = .wrongShape found wanted) :
    w = wanted ∧ ∃ t rest, tokens = t :: rest ∧ Found.ofToken? t = some found := by
  unfold ReadError.unexpected at h
  split at h
  · rename_i found' first
    obtain ⟨rfl, rfl⟩ := ReadError.wrongShape.inj h
    obtain ⟨t, head, kind⟩ := Option.bind_eq_some_iff.mp first
    obtain ⟨rest, rfl⟩ := List.head?_eq_some_iff.mp head
    exact ⟨rfl, t, rest, rfl, kind⟩
  · exact absurd h (by simp)

section Brackets

variable {P β : Type}

/-- A function that reads a series between two brackets. -/
structure Brackets (opening closing : Token) (wanted : Shape)
    (all whole : List Token → Except ReadError (List β × List Token)) : Prop where
  empty : ∀ rest, whole (opening :: closing :: rest) = .ok ([], rest)
  inside : ∀ {tokens}, tokens.head? ≠ some closing → whole (opening :: tokens) = all tokens
  other : ∀ {tokens}, tokens.head? ≠ some opening →
    whole tokens = .error (.unexpected wanted tokens)

variable {opening closing : Token} {outer : Shape}
  {one : List Token → Except ReadError (β × List Token)}
  {all whole : List Token → Except ReadError (List β × List Token)} {tokensOf : P → List Token}
  {value? : P → Option β} {Misfit : List Token → Found → Shape → Prop}
  (brackets : Brackets opening closing outer all whole) (takes : Takes one tokensOf value? Misfit)
  (series : Series closing one all)

include brackets takes series

theorem Brackets.ok_iff (starts : ∀ p rest, (tokensOf p ++ rest).head? ≠ some closing)
    {tokens rest : List Token} {bs : List β} :
    whole tokens = .ok (bs, rest) ↔ ∃ ps, ps.mapM value? = some bs ∧
      tokens = opening :: (separated tokensOf ps ++ closing :: rest) := by
  constructor
  · intro h
    by_cases opens : tokens.head? = some opening
    · obtain ⟨behind, rfl⟩ := List.head?_eq_some_iff.mp opens
      by_cases closes : behind.head? = some closing
      · obtain ⟨last, rfl⟩ := List.head?_eq_some_iff.mp closes
        obtain ⟨rfl, rfl⟩ := Prod.mk.inj (Except.ok.inj ((brackets.empty last).symm.trans h))
        exact ⟨[], rfl, rfl⟩
      · obtain ⟨ps, -, hps, rfl⟩ :=
          series.exists_pieces takes ((brackets.inside closes).symm.trans h)
        exact ⟨ps, hps, rfl⟩
    · exact absurd ((brackets.other opens).symm.trans h) (by simp)
  · rintro ⟨ps, hps, rfl⟩
    cases ps with
    | nil =>
      obtain rfl : [] = bs := by simpa using hps
      exact brackets.empty rest
    | cons p ps =>
      have some : (separated tokensOf (p :: ps) ++ closing :: rest).head? ≠ some closing := by
        by_cases last : ps = []
        · subst last
          exact starts p _
        · rw [separated_cons p last, List.append_assoc]
          exact starts p _
      rw [brackets.inside some]
      exact series.ok_of_pieces takes (List.cons_ne_nil _ _) hps rest

theorem Brackets.wrong_iff (starts : ∀ p rest, (tokensOf p ++ rest).head? ≠ some closing)
    (begins : ∀ {front found wanted}, Misfit front found wanted →
      ∀ rest, (front ++ rest).head? ≠ some closing)
    {tokens : List Token} {found : Found} {wanted : Shape} :
    whole tokens = .error (.wrongShape found wanted) ↔
      (outer = wanted ∧ ∃ t rest, tokens = t :: rest ∧ t ≠ opening ∧
        Found.ofToken? t = some found) ∨
      ∃ before front rest, (∀ p ∈ before, (value? p).isSome) ∧ Misfit front found wanted ∧
        tokens = opening :: (completed tokensOf before ++ (front ++ rest)) := by
  constructor
  · intro h
    by_cases opens : tokens.head? = some opening
    · obtain ⟨behind, rfl⟩ := List.head?_eq_some_iff.mp opens
      by_cases closes : behind.head? = some closing
      · obtain ⟨last, rfl⟩ := List.head?_eq_some_iff.mp closes
        exact absurd ((brackets.empty last).symm.trans h) (by simp)
      · obtain ⟨before, front, rest, fits, misfit, rfl⟩ :=
          series.exists_misfit takes ((brackets.inside closes).symm.trans h)
        exact Or.inr ⟨before, front, rest, fits, misfit, rfl⟩
    · obtain ⟨same, t, rest, rfl, kind⟩ :=
        of_unexpected (Except.error.inj ((brackets.other opens).symm.trans h))
      exact Or.inl ⟨same, t, rest, rfl, fun isOpening => opens (isOpening ▸ rfl), kind⟩
  · rintro (⟨rfl, t, rest, rfl, other, kind⟩ | ⟨before, front, rest, fits, misfit, rfl⟩)
    · rw [brackets.other (by simpa using other), unexpected_eq kind]
    · have some : (completed tokensOf before ++ (front ++ rest)).head? ≠ some closing := by
        cases before with
        | nil => exact begins misfit rest
        | cons p before =>
          rw [completed_cons, List.append_assoc]
          exact starts p _
      rw [brackets.inside some]
      exact series.wrong_of_misfit takes fits misfit rest

end Brackets

section Pieces

variable {α : Type} (read : Reader α)

theorem series_items : Series .closeArray read.result (Reader.result (Reader.items read)) where
  error h := by rw [Reader.result_items, h]
  last h := by rw [Reader.result_items, h]
  more h := by rw [Reader.result_items, h]
  other {tokens b rest} h hrest := by
    rw [Reader.result_items, h]
    cases rest with
    | nil => rfl
    | cons t rest =>
      obtain ⟨notClose, notComma⟩ := hrest t rfl
      cases t with
      | closeArray => exact absurd rfl notClose
      | comma => exact absurd rfl notComma
      | _ => rfl

theorem brackets_array (wanted : Shape) : Brackets .openArray .closeArray wanted
    (Reader.result (Reader.items read)) (Reader.result (Reader.array wanted read)) where
  empty _ := rfl
  inside := Reader.result_array_items wanted read
  other := Reader.result_array_of_other wanted read

theorem brackets_object (wanted : Shape) : Brackets .openObject .closeObject wanted
    (Reader.result (Reader.members read)) (Reader.result (Reader.object wanted read)) where
  empty _ := rfl
  inside := Reader.result_object_members wanted read
  other := Reader.result_object_of_other wanted read

/-- A name, a colon and what is read behind it. -/
def Reader.memberResult (tokens : List Token) : Except ReadError ((String × α) × List Token) :=
  match tokens with
  | .string name :: .colon :: after => (read.result after).map fun r => ((name, r.1), r.2)
  | _ => .error .malformed

/-- A member is read behind a name and a colon, and nothing else is one. -/
theorem Reader.exists_of_memberResult {tokens rest : List Token} {b : String × α}
    (h : memberResult read tokens = .ok (b, rest)) :
    ∃ name after v, tokens = .string name :: .colon :: after ∧ b = (name, v) ∧
      read.result after = .ok (v, rest) := by
  unfold memberResult at h
  split at h
  · rename_i name after
    obtain ⟨r, value, made⟩ := map_eq_ok_iff.mp h
    obtain ⟨rfl, rfl⟩ := Prod.mk.inj made
    exact ⟨name, after, r.1, rfl, rfl, value⟩
  · exact absurd h (by simp)

theorem Reader.error_of_memberResult {tokens : List Token} {e : ReadError}
    (h : memberResult read tokens = .error e) :
    (∃ name after, tokens = .string name :: .colon :: after ∧ read.result after = .error e) ∨
      e = .malformed ∧ ∀ name after, tokens ≠ .string name :: .colon :: after := by
  unfold memberResult at h
  split at h
  · rename_i name after
    exact Or.inl ⟨name, after, rfl, map_eq_error_iff.mp h⟩
  · rename_i other
    exact Or.inr ⟨(Except.error.inj h).symm, other⟩

theorem series_members :
    Series .closeObject (Reader.memberResult read) (Reader.result (Reader.members read)) where
  error h := by
    rcases read.error_of_memberResult h with ⟨name, after, rfl, value⟩ | ⟨rfl, other⟩
    · rw [Reader.result_members, value]
    · exact read.result_members_of_no_name other
  last h := by
    obtain ⟨name, after, v, rfl, rfl, value⟩ := read.exists_of_memberResult h
    rw [Reader.result_members, value]
  more h := by
    obtain ⟨name, after, v, rfl, rfl, value⟩ := read.exists_of_memberResult h
    rw [Reader.result_members, value]
  other {tokens b rest} h hrest := by
    obtain ⟨name, after, v, rfl, rfl, value⟩ := read.exists_of_memberResult h
    rw [Reader.result_members, value]
    cases rest with
    | nil => rfl
    | cons t rest =>
      obtain ⟨notClose, notComma⟩ := hrest t rfl
      cases t with
      | closeObject => exact absurd rfl notClose
      | comma => exact absurd rfl notComma
      | _ => rfl

/-- A name, a colon and a piece. -/
def namedTokens {P : Type} (tokensOf : P → List Token) (member : String × P) : List Token :=
  .string member.1 :: .colon :: tokensOf member.2

/-- Members are taken as what stands behind their names is. -/
theorem Takes.member {P : Type} {tokensOf : P → List Token} {value? : P → Option α}
    {Misfit : List Token → Found → Shape → Prop}
    (takes : Takes read.result tokensOf value? Misfit) :
    Takes (Reader.memberResult read) (namedTokens tokensOf)
      (fun member => (value? member.2).map fun v => (member.1, v))
      (fun front found wanted => ∃ name front', front = .string name :: .colon :: front' ∧
        Misfit front' found wanted) where
  shorter h := by
    obtain ⟨name, after, v, rfl, -, value⟩ := read.exists_of_memberResult h
    exact Nat.lt_succ_of_lt (Nat.lt_succ_of_lt (takes.shorter value))
  ok_iff := by
    intro tokens b rest
    constructor
    · intro h
      obtain ⟨name, after, v, rfl, rfl, value⟩ := read.exists_of_memberResult h
      obtain ⟨p, hp, rfl⟩ := takes.ok_iff.mp value
      exact ⟨(name, p), by simp [hp], rfl⟩
    · rintro ⟨⟨name, p⟩, hp, rfl⟩
      obtain ⟨v, hv, rfl⟩ := Option.map_eq_some_iff.mp hp
      have value : read.result (tokensOf p ++ rest) = .ok (v, rest) :=
        takes.ok_iff.mpr ⟨p, hv, rfl⟩
      exact congrArg (Except.map _) value
  wrong_iff := by
    intro tokens found wanted
    constructor
    · intro h
      rcases read.error_of_memberResult h with ⟨name, after, rfl, value⟩ | ⟨malformed, -⟩
      · obtain ⟨front, rest, misfit, rfl⟩ := takes.wrong_iff.mp value
        exact ⟨_, rest, ⟨name, front, rfl, misfit⟩, rfl⟩
      · exact absurd malformed (by simp)
    · rintro ⟨_, rest, ⟨name, front, rfl, misfit⟩, rfl⟩
      have value : read.result (front ++ rest) = .error (.wrongShape found wanted) :=
        takes.wrong_iff.mpr ⟨front, rest, misfit, rfl⟩
      exact congrArg (Except.map _) value

end Pieces

end SqlTutor.Json

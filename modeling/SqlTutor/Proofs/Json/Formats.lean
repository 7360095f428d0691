import SqlTutor.Proofs.Json.Readers

/-!
A format is what a document has to be: a scalar, or an array or an object of documents of one
format. A text meets a misfit if all its tokens up to there could still begin a document of the
format. A reader that follows a format reads the texts of its documents, and fails for their shape
exactly where a text meets a misfit.
-/
namespace SqlTutor.Json

/-- What a document has to be, and what is said to be wanted if it is not. -/
inductive Format where
  | scalar (wanted : Shape)
  | array (wanted : Shape) (item : Format)
  | object (wanted : Shape) (member : Format)

namespace Format

def wanted : Format → Shape
  | scalar wanted => wanted
  | array wanted _ => wanted
  | object wanted _ => wanted

/-- A document of the format may begin so. -/
def Admits : Format → Found → Prop
  | scalar _, found => found ≠ .array ∧ found ≠ .object
  | array _ _, found => found = .array
  | object _ _, found => found = .object

/-- The document is of the format. -/
def Fits : Format → Json → Prop
  | scalar _, .array _ => False
  | scalar _, .object _ => False
  | scalar _, _ => True
  | array _ item, .array items => ∀ j ∈ items, item.Fits j
  | array _ _, _ => False
  | object _ member, .object members => ∀ m ∈ members, member.Fits m.2
  | object _ _, _ => False

/-- The last of the tokens begins a part of another kind than is wanted there, and before it stand
only parts of the format. -/
inductive Misfit : Format → List Token → Found → Shape → Prop
  | here {f : Format} {t : Token} {found : Found} (h : Found.ofToken? t = some found)
      (unfit : ¬ f.Admits found) : Misfit f [t] found f.wanted
  | item {f : Format} {before : List Json} {front : List Token} {found : Found}
      {outer wanted : Shape} (fits : ∀ j ∈ before, f.Fits j) (more : Misfit f front found wanted) :
      Misfit (array outer f) (.openArray :: (completed Json.tokens before ++ front)) found wanted
  | member {f : Format} {before : List (String × Json)} {name : String} {front : List Token}
      {found : Found} {outer wanted : Shape} (fits : ∀ m ∈ before, f.Fits m.2)
      (more : Misfit f front found wanted) :
      Misfit (object outer f) (.openObject :: (completed (namedTokens Json.tokens) before ++
        (.string name :: .colon :: front))) found wanted

end Format

theorem itemTokens_eq (items : List Json) :
    Json.itemTokens items = separated Json.tokens items := by
  induction items with
  | nil => rfl
  | cons item items ih =>
    cases items with
    | nil => rfl
    | cons next rest =>
      rw [Json.itemTokens, ih, separated]
      simp

theorem memberTokens_eq (members : List (String × Json)) :
    Json.memberTokens members = separated (namedTokens Json.tokens) members := by
  induction members with
  | nil => rfl
  | cons member members ih =>
    obtain ⟨name, value⟩ := member
    cases members with
    | nil => rfl
    | cons next rest =>
      rw [Json.memberTokens, ih, separated, namedTokens]
      simp

theorem eq_openArray {t : Token} (h : Found.ofToken? t = some .array) : t = .openArray := by
  cases t with
  | openArray => rfl
  | _ => nomatch h

theorem eq_openObject {t : Token} (h : Found.ofToken? t = some .object) : t = .openObject := by
  cases t with
  | openObject => rfl
  | _ => nomatch h

theorem exists_found (j : Json) :
    ∃ t ts found, j.tokens = t :: ts ∧ Found.ofToken? t = some found := by
  cases j with
  | array items => exact ⟨.openArray, _, .array, by rw [Json.tokens, List.cons_append], rfl⟩
  | object members => exact ⟨.openObject, _, .object, by rw [Json.tokens, List.cons_append], rfl⟩
  | _ => exact ⟨_, [], _, by rw [Json.tokens], rfl⟩

theorem Format.Misfit.exists_found {f : Format} {front : List Token} {found : Found}
    {wanted : Shape} (h : f.Misfit front found wanted) :
    ∃ t ts found, front = t :: ts ∧ Found.ofToken? t = some found := by
  cases h with
  | here h => exact ⟨_, [], _, rfl, h⟩
  | item => exact ⟨.openArray, _, .array, rfl, rfl⟩
  | member => exact ⟨.openObject, _, .object, rfl, rfl⟩

/-- The reader takes the documents of the format, and stops at the misfits. -/
structure Reader.Follows {α : Type} (read : Reader α) (f : Format) (value? : Json → Option α) :
    Prop where
  fits_iff : ∀ j, f.Fits j ↔ (value? j).isSome
  takes : Takes read.result Json.tokens value? f.Misfit

/-- Whole numbers that 64 bits with a sign do not hold become floating-point values. -/
def Number.value : Number → Value
  | .int n => if n ≤ Int64.maxValue.toInt then .int (Int64.ofInt n) else .float (Double.ofInt n)
  | .float x => .float x

/-- The value that a document is, if it is a scalar. -/
def scalar? : Json → Option Value
  | .null => some .null
  | .bool b => some (.bool b)
  | .number n => some n.value
  | .string s => some (.text s)
  | .array _ => none
  | .object _ => none

theorem Reader.result_scalar_eq_ok_iff {tokens rest : List Token} {v : Value} :
    Reader.scalar.result tokens = .ok (v, rest) ↔
      ∃ j, scalar? j = some v ∧ tokens = j.tokens ++ rest := by
  constructor
  · intro h
    cases tokens with
    | nil => nomatch h
    | cons t ts =>
      cases t with
      | null =>
        obtain ⟨rfl, rfl⟩ := Prod.mk.inj (Except.ok.inj h)
        exact ⟨.null, rfl, rfl⟩
      | bool b =>
        obtain ⟨rfl, rfl⟩ := Prod.mk.inj (Except.ok.inj h)
        exact ⟨.bool b, rfl, rfl⟩
      | number n =>
        cases n <;>
        · obtain ⟨rfl, rfl⟩ := Prod.mk.inj (Except.ok.inj h)
          exact ⟨.number _, rfl, rfl⟩
      | string s =>
        obtain ⟨rfl, rfl⟩ := Prod.mk.inj (Except.ok.inj h)
        exact ⟨.string s, rfl, rfl⟩
      | _ => nomatch h
  · rintro ⟨j, value, rfl⟩
    cases j with
    | array | object => nomatch value
    | number n =>
      obtain rfl := Option.some.inj value
      cases n <;> rfl
    | _ =>
      obtain rfl := Option.some.inj value
      rfl

/-- A scalar is missed only where an array or an object begins. -/
theorem Reader.result_scalar_eq_wrongShape_iff {tokens : List Token} {found : Found}
    {wanted : Shape} : Reader.scalar.result tokens = .error (.wrongShape found wanted) ↔
      ∃ front rest, (Format.scalar .value).Misfit front found wanted ∧ tokens = front ++ rest := by
  constructor
  · intro h
    cases tokens with
    | nil => nomatch h
    | cons t ts =>
      cases t with
      | openArray =>
        obtain ⟨rfl, rfl⟩ := ReadError.wrongShape.inj (Except.error.inj h)
        exact ⟨[.openArray], ts, .here rfl (by simp [Format.Admits]), rfl⟩
      | openObject =>
        obtain ⟨rfl, rfl⟩ := ReadError.wrongShape.inj (Except.error.inj h)
        exact ⟨[.openObject], ts, .here rfl (by simp [Format.Admits]), rfl⟩
      | number n => cases n <;> nomatch h
      | _ => nomatch h
  · rintro ⟨front, rest, misfit, rfl⟩
    cases misfit with
    | @here _ t _ kind unfit =>
      cases t with
      | openArray | openObject =>
        obtain rfl := Option.some.inj kind
        rfl
      | null | bool | number | string =>
        obtain rfl := Option.some.inj kind
        exact absurd ⟨by simp, by simp⟩ unfit
      | _ => nomatch kind

theorem follows_scalar : Reader.scalar.Follows (.scalar .value) scalar? where
  fits_iff j := by cases j <;> simp [Format.Fits, scalar?]
  takes := {
    shorter := Reader.length_lt_of_result
    ok_iff := Reader.result_scalar_eq_ok_iff
    wrong_iff := Reader.result_scalar_eq_wrongShape_iff }

def arrayOf? {α : Type} (value? : Json → Option α) : Json → Option (List α)
  | .array items => items.mapM value?
  | _ => none

def objectOf? {α : Type} (value? : Json → Option α) : Json → Option (List (String × α))
  | .object members => members.mapM fun m => (value? m.2).map fun v => (m.1, v)
  | _ => none

theorem isSome_mapM {P β : Type} {value? : P → Option β} {pieces : List P} :
    (pieces.mapM value?).isSome ↔ ∀ p ∈ pieces, (value? p).isSome := by
  induction pieces with
  | nil => simp
  | cons p pieces ih =>
    rw [List.forall_mem_cons, ← ih, List.mapM_cons]
    cases value? p with
    | none => simp
    | some b => cases pieces.mapM value? <;> simp

section Follows

variable {α β : Type} {read : Reader α} {f : Format} {value? : Json → Option α}

theorem Reader.Follows.map (follows : read.Follows f value?) (g : α → β) :
    (read.map g).Follows f fun j => (value? j).map g where
  fits_iff j := by rw [Option.isSome_map, follows.fits_iff]
  takes := {
    shorter := length_lt_of_result
    ok_iff := by
      intro tokens b rest
      rw [result_map]
      constructor
      · intro h
        obtain ⟨r, value, made⟩ := map_eq_ok_iff.mp h
        obtain ⟨rfl, rfl⟩ := Prod.mk.inj made
        obtain ⟨j, hj, cut⟩ := follows.takes.ok_iff.mp value
        exact ⟨j, by rw [hj, Option.map_some], cut⟩
      · rintro ⟨j, hj, cut⟩
        obtain ⟨v, hv, rfl⟩ := Option.map_eq_some_iff.mp hj
        rw [follows.takes.ok_iff.mpr ⟨j, hv, cut⟩]
        rfl
    wrong_iff := by
      intro tokens found wanted
      rw [← follows.takes.wrong_iff, result_map, map_eq_error_iff] }

theorem exists_found_append (j : Json) (rest : List Token) {closing : Token}
    (h : Found.ofToken? closing = none) : (j.tokens ++ rest).head? ≠ some closing := by
  obtain ⟨t, ts, found, begins, kind⟩ := exists_found j
  rw [begins, List.cons_append, List.head?_cons]
  rintro ⟨⟩
  exact absurd (kind.symm.trans h) (by simp)

theorem Format.Misfit.head_append {front : List Token} {found : Found} {wanted : Shape}
    (misfit : f.Misfit front found wanted) (rest : List Token) {closing : Token}
    (h : Found.ofToken? closing = none) : (front ++ rest).head? ≠ some closing := by
  obtain ⟨t, ts, found, begins, kind⟩ := misfit.exists_found
  rw [begins, List.cons_append, List.head?_cons]
  rintro ⟨⟩
  exact absurd (kind.symm.trans h) (by simp)

theorem Reader.Follows.array (follows : read.Follows f value?) (wanted : Shape) :
    (Reader.array wanted read).Follows (.array wanted f) (arrayOf? value?) where
  fits_iff j := by
    cases j with
    | array items => simp only [Format.Fits, follows.fits_iff, arrayOf?, isSome_mapM]
    | _ => simp [Format.Fits, arrayOf?]
  takes := {
    shorter := length_lt_of_result
    ok_iff := by
      intro tokens vs rest
      rw [(brackets_array read wanted).ok_iff follows.takes (series_items read)
        fun j more => exists_found_append j more rfl]
      constructor
      · rintro ⟨items, hitems, rfl⟩
        exact ⟨.array items, hitems, by simp [Json.tokens, itemTokens_eq]⟩
      · rintro ⟨j, hj, rfl⟩
        cases j with
        | array items => exact ⟨items, hj, by simp [Json.tokens, itemTokens_eq]⟩
        | _ => nomatch hj
    wrong_iff := by
      intro tokens found shape
      rw [(brackets_array read wanted).wrong_iff follows.takes (series_items read)
        (fun j more => exists_found_append j more rfl)
        fun misfit more => misfit.head_append more rfl]
      constructor
      · rintro (⟨rfl, t, rest, rfl, other, kind⟩ | ⟨before, front, rest, fits, misfit, rfl⟩)
        · exact ⟨[t], rest, .here kind fun array => other (eq_openArray (array ▸ kind)), rfl⟩
        · have fitting : ∀ j ∈ before, f.Fits j := fun j hj =>
            (follows.fits_iff j).mpr (fits j hj)
          exact ⟨_, rest, .item fitting misfit, by simp⟩
      · rintro ⟨front, rest, misfit, rfl⟩
        cases misfit with
        | @here _ t _ kind unfit =>
          refine Or.inl ⟨rfl, t, rest, rfl, ?_, kind⟩
          rintro rfl
          exact unfit (Option.some.inj kind).symm
        | @item _ before front _ _ _ fits more =>
          have read : ∀ j ∈ before, (value? j).isSome := fun j hj =>
            (follows.fits_iff j).mp (fits j hj)
          exact Or.inr ⟨before, front, rest, read, more, by simp⟩ }

theorem Reader.Follows.object (follows : read.Follows f value?) (wanted : Shape) :
    (Reader.object wanted read).Follows (.object wanted f) (objectOf? value?) where
  fits_iff j := by
    cases j with
    | object members =>
      simp only [Format.Fits, follows.fits_iff, objectOf?, isSome_mapM, Option.isSome_map]
    | _ => simp [Format.Fits, objectOf?]
  takes := {
    shorter := length_lt_of_result
    ok_iff := by
      intro tokens vs rest
      rw [(brackets_object read wanted).ok_iff (follows.takes.member read) (series_members read)
        fun m more => by simp [namedTokens]]
      constructor
      · rintro ⟨members, hmembers, rfl⟩
        exact ⟨.object members, hmembers, by simp [Json.tokens, memberTokens_eq]⟩
      · rintro ⟨j, hj, rfl⟩
        cases j with
        | object members => exact ⟨members, hj, by simp [Json.tokens, memberTokens_eq]⟩
        | _ => nomatch hj
    wrong_iff := by
      intro tokens found shape
      have begins : ∀ {front found wanted},
          (∃ name front', front = .string name :: .colon :: front' ∧
            f.Misfit front' found wanted) →
          ∀ rest, (front ++ rest).head? ≠ some .closeObject := by
        rintro _ _ _ ⟨name, front, rfl, -⟩ rest
        simp
      rw [(brackets_object read wanted).wrong_iff (follows.takes.member read) (series_members read)
        (fun m more => by simp [namedTokens]) begins]
      constructor
      · rintro (⟨rfl, t, rest, rfl, other, kind⟩ |
          ⟨before, _, rest, fits, ⟨name, front, rfl, misfit⟩, rfl⟩)
        · exact ⟨[t], rest, .here kind fun object => other (eq_openObject (object ▸ kind)), rfl⟩
        · have fitting : ∀ m ∈ before, f.Fits m.2 := fun m hm =>
            (follows.fits_iff m.2).mpr (by simpa using fits m hm)
          have shown : (Format.object wanted f).Misfit (.openObject :: (completed
              (namedTokens Json.tokens) before ++ .string name :: .colon :: front)) found shape :=
            .member fitting misfit
          exact ⟨_, rest, shown, by simp⟩
      · rintro ⟨front, rest, misfit, rfl⟩
        cases misfit with
        | @here _ t _ kind unfit =>
          refine Or.inl ⟨rfl, t, rest, rfl, ?_, kind⟩
          rintro rfl
          exact unfit (Option.some.inj kind).symm
        | @member _ before name front _ _ _ fits more =>
          have read : ∀ m ∈ before, ((value? m.2).map fun v => (m.1, v)).isSome := fun m hm => by
            simpa using (follows.fits_iff m.2).mp (fits m hm)
          exact Or.inr ⟨before, _, rest, read, ⟨name, front, rfl, more⟩, by simp⟩ }

end Follows

theorem separated_append {P : Type} (tokensOf : P → List Token) (before : List P) (p : P)
    (after : List P) : separated tokensOf (before ++ p :: after) =
      completed tokensOf before ++ separated tokensOf (p :: after) := by
  induction before with
  | nil => rfl
  | cons q before ih =>
    rw [List.cons_append, separated_cons q (List.append_ne_nil_of_right_ne_nil _ (by simp)), ih,
      completed_cons, List.append_assoc, List.cons_append]

theorem exists_separated_cons {P : Type} (tokensOf : P → List Token) (p : P) (after : List P) :
    ∃ rest, separated tokensOf (p :: after) = tokensOf p ++ rest := by
  cases after with
  | nil => exact ⟨[], (List.append_nil _).symm⟩
  | cons q after => exact ⟨_, rfl⟩

theorem subset_separated {P : Type} {tokensOf : P → List Token} {p : P} {pieces : List P}
    (h : p ∈ pieces) : tokensOf p ⊆ separated tokensOf pieces := by
  obtain ⟨before, after, rfl⟩ := List.append_of_mem h
  obtain ⟨rest, separate⟩ := exists_separated_cons tokensOf p after
  rw [separated_append, separate]
  exact fun t ht => List.mem_append_right _ (List.mem_append_left _ ht)

/-- If not all pieces are good there is a first one that is not. -/
theorem exists_first {P : Type} {good : P → Prop} {pieces : List P}
    (h : ¬ ∀ p ∈ pieces, good p) :
    ∃ before p after, pieces = before ++ p :: after ∧ (∀ q ∈ before, good q) ∧ ¬ good p := by
  induction pieces with
  | nil => exact absurd (by simp) h
  | cons p pieces ih =>
    by_cases first : good p
    · have later : ¬ ∀ q ∈ pieces, good q := fun all => h (List.forall_mem_cons.mpr ⟨first, all⟩)
      obtain ⟨before, q, after, rfl, fits, unfit⟩ := ih later
      exact ⟨p :: before, q, after, rfl, List.forall_mem_cons.mpr ⟨first, fits⟩, unfit⟩
    · exact ⟨[], p, pieces, rfl, by simp, first⟩

theorem Format.exists_misfit_here {f : Format} {j : Json} {found : Found}
    (h : j.tokens.head?.bind Found.ofToken? = some found) (unfit : ¬ f.Admits found) :
    ∃ front rest found wanted, f.Misfit front found wanted ∧ j.tokens = front ++ rest := by
  obtain ⟨t, head, kind⟩ := Option.bind_eq_some_iff.mp h
  obtain ⟨rest, begins⟩ := List.head?_eq_some_iff.mp head
  exact ⟨[t], rest, found, f.wanted, .here kind unfit, begins⟩

/-- The tokens of a document that is not of the format come to a misfit. -/
theorem Format.exists_misfit {f : Format} {j : Json} (h : ¬ f.Fits j) :
    ∃ front rest found wanted, f.Misfit front found wanted ∧ j.tokens = front ++ rest := by
  induction f generalizing j with
  | scalar wanted =>
    cases j with
    | array items => exact exists_misfit_here (by rw [Json.tokens]; rfl) (by simp [Admits])
    | object members => exact exists_misfit_here (by rw [Json.tokens]; rfl) (by simp [Admits])
    | _ => exact absurd trivial h
  | array outer item ih =>
    cases j with
    | array items =>
      obtain ⟨before, j, after, rfl, fits, unfit⟩ := exists_first h
      obtain ⟨front, rest, found, wanted, misfit, cut⟩ := ih unfit
      obtain ⟨behind, separate⟩ := exists_separated_cons Json.tokens j after
      refine ⟨_, rest ++ (behind ++ [.closeArray]), found, wanted, .item fits misfit, ?_⟩
      rw [Json.tokens, itemTokens_eq, separated_append, separate, cut]
      simp
    | _ => exact exists_misfit_here (by rw [Json.tokens]; rfl) (by simp [Admits])
  | object outer member ih =>
    cases j with
    | object members =>
      obtain ⟨before, ⟨name, j⟩, after, rfl, fits, unfit⟩ := exists_first h
      obtain ⟨front, rest, found, wanted, misfit, cut⟩ := ih unfit
      obtain ⟨behind, separate⟩ := exists_separated_cons (namedTokens Json.tokens) (name, j) after
      have shown : (object outer member).Misfit (.openObject :: (completed
          (namedTokens Json.tokens) before ++ .string name :: .colon :: front)) found wanted :=
        .member fits misfit
      refine ⟨_, rest ++ (behind ++ [.closeObject]), found, wanted, shown, ?_⟩
      rw [Json.tokens, memberTokens_eq, separated_append, separate, namedTokens, cut]
      simp
    | _ => exact exists_misfit_here (by rw [Json.tokens]; rfl) (by simp [Admits])

theorem Format.Misfit.bad_notMem {f : Format} {front : List Token} {found : Found} {wanted : Shape}
    (h : f.Misfit front found wanted) : Token.bad ∉ front := by
  induction h with
  | here kind =>
    intro mem
    obtain rfl := List.mem_singleton.mp mem
    nomatch kind
  | item fits more ih => simp [completed, ih, bad_notMem_tokens]
  | member fits more ih => simp [completed, namedTokens, ih, bad_notMem_tokens]

/-- The text goes up to a misfit, as tokens with white space between them. -/
def Format.Meets (f : Format) (s : List Char) (found : Found) (wanted : Shape) : Prop :=
  ∃ front rest, f.Misfit front found wanted ∧ Begins front s rest

section Texts

variable {α : Type} {read : Reader α} {f : Format} {value? : Json → Option α}

theorem Reader.run_eq (read : Reader α) (text : String) :
    read.run text = match read.result (lex text.toList) with
      | .error e => .error e
      | .ok (v, rest) => if rest.isEmpty then .ok v else .error .malformed := by
  unfold run result
  cases read (lex text.toList) <;> rfl

theorem Reader.Follows.run_eq_ok_iff (follows : read.Follows f value?) {text : String} {v : α} :
    read.run text = .ok v ↔ ∃ j, IsText j text.toList ∧ value? j = some v := by
  have tokens : read.run text = .ok v ↔ read.result (lex text.toList) = .ok (v, []) := by
    rw [Reader.run_eq]
    cases read.result (lex text.toList) with
    | error e => simp
    | ok r =>
      obtain ⟨v', rest⟩ := r
      cases rest <;> simp
  rw [tokens, follows.takes.ok_iff]
  refine exists_congr fun j => ?_
  rw [List.append_nil, lex_eq_tokens_iff, and_comm]

theorem Reader.Follows.run_eq_wrongShape_iff (follows : read.Follows f value?) {text : String}
    {found : Found} {wanted : Shape} :
    read.run text = .error (.wrongShape found wanted) ↔ f.Meets text.toList found wanted := by
  have tokens : read.run text = .error (.wrongShape found wanted) ↔
      read.result (lex text.toList) = .error (.wrongShape found wanted) := by
    rw [Reader.run_eq]
    cases read.result (lex text.toList) with
    | error e => simp
    | ok r =>
      obtain ⟨v, rest⟩ := r
      cases rest <;> simp
  rw [tokens, follows.takes.wrong_iff]
  constructor
  · rintro ⟨front, rest, misfit, cut⟩
    obtain ⟨after, begins, -⟩ := begins_of_lex cut misfit.bad_notMem
    exact ⟨front, after, misfit, begins⟩
  · rintro ⟨front, after, misfit, begins⟩
    exact ⟨front, lex after, misfit, begins.lex_eq⟩

/-- The text of a document that is not of the format meets a misfit. -/
theorem Format.exists_meets {j : Json} {s : List Char} (h : IsText j s) (unfit : ¬ f.Fits j) :
    ∃ front rest found wanted, f.Misfit front found wanted ∧ j.tokens = front ++ rest ∧
      f.Meets s found wanted := by
  obtain ⟨front, rest, found, wanted, misfit, cut⟩ := Format.exists_misfit unfit
  have begins : lex s = front ++ rest := by rw [lex_eq_tokens_iff.mpr h, cut]
  obtain ⟨after, begins, -⟩ := begins_of_lex begins misfit.bad_notMem
  exact ⟨front, rest, found, wanted, misfit, cut, front, after, misfit, begins⟩

end Texts

end SqlTutor.Json

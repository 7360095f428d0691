import SqlTutor.Proofs.Dataset.Format
import SqlTutor.Proofs.Json.Printing
import SqlTutor.Proofs.OrderedMap

/-!
Datasets that are written and read again. JSON has no infinities and nothing for what is not a
number, so these come back as null, and all other values come back as they were. That the digits of
a double are read as this double is assumed of the finite doubles at hand, since it does not hold of
all. What is read from a text has finite doubles only.
-/
namespace SqlTutor

open Json

section Parts

variable {P α β : Type} {value? : Json → Option β}

theorem exists_of_mem_mapM {value? : P → Option β} {pieces : List P} {values : List β} {b : β}
    (h : pieces.mapM value? = some values) (hb : b ∈ values) : ∃ p ∈ pieces, value? p = some b := by
  induction pieces generalizing values with
  | nil =>
    obtain rfl := Option.some.inj h
    exact absurd hb List.not_mem_nil
  | cons p pieces ih =>
    rw [List.mapM_cons] at h
    obtain ⟨first, value, h⟩ := Option.bind_eq_some_iff.mp h
    obtain ⟨others, values, h⟩ := Option.bind_eq_some_iff.mp h
    obtain rfl := Option.some.inj h
    rcases List.mem_cons.mp hb with rfl | later
    · exact ⟨p, List.mem_cons_self, value⟩
    · obtain ⟨q, hq, found⟩ := ih values later
      exact ⟨q, List.mem_cons_of_mem _ hq, found⟩

theorem exists_item {j : Json} {values : List β} {b : β} (h : arrayOf? value? j = some values)
    (hb : b ∈ values) : ∃ items, j = .array items ∧ ∃ item ∈ items, value? item = some b := by
  cases j with
  | array items => exact ⟨items, rfl, exists_of_mem_mapM h hb⟩
  | _ => nomatch h

theorem exists_member {j : Json} {members : List (String × β)} {m : String × β}
    (h : objectOf? value? j = some members) (hm : m ∈ members) :
    ∃ pieces, j = .object pieces ∧ ∃ item, (m.1, item) ∈ pieces ∧ value? item = some m.2 := by
  cases j with
  | object pieces =>
    obtain ⟨piece, hpiece, value⟩ := exists_of_mem_mapM h hm
    obtain ⟨b, read, rfl⟩ := Option.map_eq_some_iff.mp value
    exact ⟨pieces, rfl, piece.2, hpiece, read⟩
  | _ => exact absurd h (by simp [objectOf?])

/-- What an array holds stands in its text. -/
theorem exists_of_mem_arrayOf? {j : Json} {values : List β} {b : β}
    (h : arrayOf? value? j = some values) (hb : b ∈ values) :
    ∃ item, value? item = some b ∧ item.tokens ⊆ j.tokens := by
  obtain ⟨items, rfl, item, hitem, value⟩ := exists_item h hb
  refine ⟨item, value, fun t ht => ?_⟩
  have inside := subset_separated hitem ht
  simp [Json.tokens, itemTokens_eq, inside]

theorem exists_of_mem_objectOf? {j : Json} {members : List (String × β)} {m : String × β}
    (h : objectOf? value? j = some members) (hm : m ∈ members) :
    ∃ item, value? item = some m.2 ∧ item.tokens ⊆ j.tokens := by
  obtain ⟨pieces, rfl, item, hpiece, value⟩ := exists_member h hm
  refine ⟨item, value, fun t ht => ?_⟩
  have inside : t ∈ separated (namedTokens Json.tokens) pieces :=
    subset_separated hpiece (by simp [namedTokens, ht])
  simp [Json.tokens, memberTokens_eq, inside]

variable {write : α → Json} {back : α → β}

theorem arrayOf?_map (h : ∀ a, value? (write a) = some (back a)) (values : List α) :
    arrayOf? value? (.array (values.map write)) = some (values.map back) := by
  simp only [arrayOf?, List.mapM_map, Function.comp_def, h]
  exact List.mapM_pure

theorem objectOf?_map (h : ∀ a, value? (write a) = some (back a)) (members : List (String × α)) :
    objectOf? value? (.object (members.map fun m => (m.1, write m.2))) =
      some (members.map fun m => (m.1, back m.2)) := by
  simp only [objectOf?, List.mapM_map, Function.comp_def, h, Option.map_some]
  exact List.mapM_pure

end Parts

namespace Value

def floats : Value → List Double
  | .float x => [x]
  | _ => []

/-- The value with null for infinities and for what is not a number. -/
def finite : Value → Value
  | .float x => if x.isFinite then .float x else .null
  | v => v

theorem finite_eq_self {v : Value} (h : ∀ x ∈ v.floats, x.isFinite) : v.finite = v := by
  cases v with
  | float x => exact if_pos (h x List.mem_cons_self)
  | _ => rfl

theorem scalar?_toJson (v : Value) : scalar? v.toJson = some v.finite := by
  cases v with
  | int n =>
    have top : n.toInt ≤ Int64.maxValue.toInt := Int64.le_iff_toInt_le.mp (Int64.le_maxValue n)
    simp only [toJson, scalar?, Number.value, finite, if_pos top, Int64.ofInt_toInt]
  | float x =>
    by_cases number : x.isFinite
    · simp [toJson, finite, scalar?, Number.value, number]
    · simp [toJson, finite, scalar?, number]
  | _ => rfl

/-- The text of a scalar is one token. -/
theorem leads_toJson {v : Value} (h : ∀ x ∈ v.floats, x.isFinite → ReadsBack x) :
    ∀ t ∈ v.toJson.tokens, t.Leads t.text [] := by
  cases v with
  | null => exact List.forall_mem_singleton.mpr (.nullWord [])
  | bool b =>
    refine List.forall_mem_singleton.mpr ?_
    cases b with
    | false => exact .falseWord []
    | true => exact .trueWord []
  | int n =>
    have bottom := Int64.le_toInt n
    have top := Int64.toInt_lt n
    exact List.forall_mem_singleton.mpr (leads_int bottom (top.trans (by decide)))
  | float x =>
    by_cases number : x.isFinite
    · rw [toJson, if_pos number]
      exact List.forall_mem_singleton.mpr (leads_float (h x List.mem_cons_self number))
    · rw [toJson, if_neg number]
      exact List.forall_mem_singleton.mpr (.nullWord [])
  | text s => exact List.forall_mem_singleton.mpr (leads_string s)

end Value

theorem Json.Number.isFinite_of_value {x : Number} (h : x.Bounded) :
    ∀ y ∈ x.value.floats, y.isFinite := by
  intro y hy
  cases x with
  | int k =>
    rw [value] at hy
    split at hy
    · exact absurd hy List.not_mem_nil
    · obtain rfl := List.mem_singleton.mp hy
      exact Double.isFinite_ofRatio h _
  | float x =>
    obtain rfl := List.mem_singleton.mp hy
    exact h

/-- A scalar that stands in a text is finite. -/
theorem Json.isFinite_of_scalar? {j : Json} {v : Value} (h : scalar? j = some v)
    (bounded : ∀ n, Token.number n ∈ j.tokens → n.Bounded) : ∀ x ∈ v.floats, x.isFinite := by
  cases j with
  | array | object => nomatch h
  | number n =>
    obtain rfl := Option.some.inj h
    exact Number.isFinite_of_value (bounded n List.mem_cons_self)
  | _ =>
    obtain rfl := Option.some.inj h
    exact List.forall_mem_nil _

namespace Row

def floats (row : Row) : List Double := row.entries.flatMap fun column => column.2.floats

def finite (row : Row) : Row := row.mapValues Value.finite

theorem floats_subset {row : Row} {column : String × Value} (h : column ∈ row.entries) :
    column.2.floats ⊆ row.floats :=
  fun _ hx => List.mem_flatMap_of_mem h hx

theorem finite_eq_self {row : Row} (h : ∀ x ∈ row.floats, x.isFinite) : row.finite = row := by
  refine OrderedMap.mapValues_eq_self fun column hc => ?_
  exact Value.finite_eq_self fun x hx => h x (floats_subset hc hx)

theorem ofJson?_toJson (row : Row) : ofJson? row.toJson = some row.finite := by
  rw [ofJson?, toJson, objectOf?_map Value.scalar?_toJson]
  exact congrArg some (OrderedMap.ofList_entries row.finite)

theorem leads_toJson {row : Row} (h : ∀ x ∈ row.floats, x.isFinite → ReadsBack x) :
    ∀ t ∈ row.toJson.tokens, t.Leads t.text [] := by
  refine forall_mem_tokens_object (fun _ ht => leads_punctuation ht) ?_ ?_
  · exact fun m _ => leads_string m.1
  · intro m hm
    obtain ⟨column, hc, rfl⟩ := List.mem_map.mp hm
    exact Value.leads_toJson fun x hx => h x (floats_subset hc hx)

theorem isFinite_of_ofJson? {j : Json} {row : Row} (h : ofJson? j = some row)
    (bounded : ∀ n, Token.number n ∈ j.tokens → n.Bounded) : ∀ x ∈ row.floats, x.isFinite := by
  obtain ⟨members, read, rfl⟩ := Option.map_eq_some_iff.mp h
  intro x hx
  obtain ⟨column, hc, float⟩ := List.mem_flatMap.mp hx
  obtain ⟨item, value, part⟩ := exists_of_mem_objectOf? read (OrderedMap.mem_of_mem_ofList hc)
  exact isFinite_of_scalar? value (fun n hn => bounded n (part hn)) x float

end Row

namespace Dataset

/-- All doubles of a dataset. -/
def floats (d : Dataset) : List Double := d.entries.flatMap fun table => table.2.flatMap Row.floats

/-- The dataset with null for infinities and for what is not a number. -/
def finite (d : Dataset) : Dataset := d.mapValues fun rows => rows.map Row.finite

theorem floats_subset {d : Dataset} {table : String × List Row} (ht : table ∈ d.entries) {row : Row}
    (hr : row ∈ table.2) : row.floats ⊆ d.floats :=
  fun _ hx => List.mem_flatMap_of_mem ht (List.mem_flatMap_of_mem hr hx)

theorem finite_eq_self {d : Dataset} (h : ∀ x ∈ d.floats, x.isFinite) : d.finite = d := by
  refine OrderedMap.mapValues_eq_self fun table ht => ?_
  refine (List.map_congr_left fun row hr => ?_).trans (List.map_id table.2)
  exact Row.finite_eq_self fun x hx => h x (floats_subset ht hr hx)

theorem ofJson?_toJson (d : Dataset) : ofJson? d.toJson = some d.finite := by
  rw [ofJson?, toJson, objectOf?_map (arrayOf?_map Row.ofJson?_toJson)]
  exact congrArg some (OrderedMap.ofList_entries d.finite)

theorem isText_toJson {d : Dataset} (h : ∀ x ∈ d.floats, x.isFinite → ReadsBack x) :
    IsText d.toJson d.toJson.compact.toList := by
  refine isText_compact (forall_mem_tokens_object (fun _ ht => leads_punctuation ht) ?_ ?_)
  · exact fun m _ => leads_string m.1
  · intro m hm
    obtain ⟨table, ht, rfl⟩ := List.mem_map.mp hm
    refine forall_mem_tokens_array (fun _ ht => leads_punctuation ht) fun j hj => ?_
    obtain ⟨row, hr, rfl⟩ := List.mem_map.mp hj
    exact Row.leads_toJson fun x hx => h x (floats_subset ht hr hx)

theorem isFinite_of_ofJson? {j : Json} {d : Dataset} (h : ofJson? j = some d)
    (bounded : ∀ n, Token.number n ∈ j.tokens → n.Bounded) : ∀ x ∈ d.floats, x.isFinite := by
  obtain ⟨members, read, rfl⟩ := Option.map_eq_some_iff.mp h
  intro x hx
  obtain ⟨table, ht, hx⟩ := List.mem_flatMap.mp hx
  obtain ⟨row, hr, float⟩ := List.mem_flatMap.mp hx
  obtain ⟨rows, value, part⟩ := exists_of_mem_objectOf? read (OrderedMap.mem_of_mem_ofList ht)
  obtain ⟨item, value, inner⟩ := exists_of_mem_arrayOf? value hr
  exact Row.isFinite_of_ofJson? value (fun n hn => bounded n (part (inner hn))) x float

theorem ofText_toJson_finite {d : Dataset} (h : ∀ x ∈ d.floats, x.isFinite → ReadsBack x) :
    ofText d.toJson.compact = .ok d.finite :=
  follows_reader.run_eq_ok_iff.mpr ⟨d.toJson, isText_toJson h, ofJson?_toJson d⟩

theorem isFinite_of_ofText {text : String} {d : Dataset} (h : ofText text = .ok d) :
    ∀ x ∈ d.floats, x.isFinite := by
  obtain ⟨j, isText, value⟩ := follows_reader.run_eq_ok_iff.mp h
  exact isFinite_of_ofJson? value fun n hn => isText.bounded hn

/-- A dataset that is written and read again is the same, with null for doubles that are not
finite. A dataset that was read has none of these. -/
theorem ofText_toJson :
    (∀ d : Dataset, (∀ x ∈ d.floats, x.isFinite → ReadsBack x) →
      ofText d.toJson.compact = .ok d.finite) ∧
    (∀ d : Dataset, (∀ x ∈ d.floats, x.isFinite) → d.finite = d) ∧
    (∀ text d, ofText text = .ok d → (∀ x ∈ d.floats, x.isFinite) ∧
      ((∀ x ∈ d.floats, ReadsBack x) → ofText d.toJson.compact = .ok d)) := by
  refine ⟨fun d h => ofText_toJson_finite h, fun d h => finite_eq_self h, fun text d read => ?_⟩
  have finite := isFinite_of_ofText read
  refine ⟨finite, fun h => ?_⟩
  have again := ofText_toJson_finite fun x hx _ => h x hx
  rwa [finite_eq_self finite] at again

/-- A dataset with an empty table and an empty row, characters that are escaped, the least integer,
the negative zero and a double that is not finite. -/
def unusual : Dataset :=
  .ofList [("\"none\"\n", []), ("one", [.empty, .ofList [("", .float (Double.nan false)),
    ("zero", .float (.zero true)), ("least", .int Int64.minValue), ("\t", .text "\x01\\é")]])]

theorem ofText_toJson_unusual :
    (∀ x ∈ unusual.floats, x.isFinite → ReadsBack x) ∧ unusual.finite ≠ unusual ∧
      ofText unusual.toJson.compact = .ok unusual.finite ∧
      (∀ x ∈ unusual.finite.floats, x.isFinite) ∧ unusual.finite.finite = unusual.finite ∧
      (∀ x ∈ unusual.finite.floats, ReadsBack x) ∧
      ofText unusual.finite.toJson.compact = .ok unusual.finite := by
  have back : ∀ x ∈ unusual.floats, x.isFinite → ReadsBack x := by decide +kernel
  have backFinite : ∀ x ∈ unusual.finite.floats, ReadsBack x := by decide +kernel
  obtain ⟨reads, same, again⟩ := ofText_toJson
  obtain ⟨finite, unchanged⟩ := again _ _ (reads unusual back)
  refine ⟨back, by decide +kernel, reads unusual back, finite, same _ finite, backFinite, ?_⟩
  exact unchanged backFinite

end Dataset

end SqlTutor

import FeatureFlags.Proofs.PrintedText
import FeatureFlags.Record
import Mathlib.Data.List.Count

namespace FeatureFlags

namespace Json.Written

variable {α : Type}

/-- The fields of an object keep a value under a name. What is not kept is absent or null. -/
def Keeps (fields : List (String × Written)) (name : String) (write : α → Written) :
    Option α → Prop
  | some x => (name, write x) ∈ fields
  | none => ∀ w, (name, w) ∈ fields → w = .null

/-- No two fields of an object have this name. -/
def Single (fields : List (String × Written)) (name : String) : Prop :=
  fields.countP (fun (k, _) => k = name) ≤ 1

/-- A reader takes just what is written by `write`, which never writes null. -/
structure Reads (read : Written → Option α) (write : α → Written) : Prop where
  eq_some_iff : ∀ w x, read w = some x ↔ w = write x
  ne_null : ∀ x, write x ≠ .null

theorem reads_string : Reads string? .string where
  eq_some_iff w s := by cases w <;> simp [string?]
  ne_null _ := by simp

theorem reads_natural : Reads natural? (fun n => .number (.natural n)) where
  eq_some_iff w n := by
    cases w with
    | number m => cases m <;> simp [natural?]
    | _ => simp [natural?]
  ne_null _ := by simp

theorem Reads.optional?_eq_some_iff {read : Written → Option α} {write : α → Written}
    (reads : Reads read write) {w : Written} {value : Option α} :
    Written.optional? read w = some value ↔ w = value.elim .null write := by
  by_cases empty : w = .null
  · subst empty
    cases value with
    | none => simp [Written.optional?]
    | some x => simpa [Written.optional?] using (reads.ne_null x).symm
  · have there : Written.optional? read w = (read w).map some := by
      cases w <;> first | rfl | exact absurd rfl empty
    cases value with
    | none => simpa [there] using empty
    | some x => simp [there, reads.eq_some_iff]

variable {fields : List (String × Written)} {name : String}

/-- Whether a text gives an object. -/
def isObject : Written → Bool
  | .object _ => true
  | _ => false

theorem isObject_iff {w : Written} : w.isObject = true ↔ ∃ fields, w = .object fields := by
  cases w <;> simp [isObject]

/-- Of a name that does not repeat, the fields have one part. -/
theorem lookup_eq_some_iff_mem (single : Single fields name) {w : Written} :
    fields.lookup name = some w ↔ (name, w) ∈ fields := by
  rw [List.lookup_eq_some_iff]
  constructor
  · rintro ⟨before, after, rfl, -⟩
    exact List.mem_append_cons_self
  · intro within
    obtain ⟨before, after, rfl⟩ := List.append_of_mem within
    have free : before.countP (fun (k, _) => k = name) = 0 := by
      rw [Single, List.countP_append, List.countP_cons_of_pos (by simp)] at single
      omega
    refine ⟨before, after, rfl, fun (k, _) earlier => ?_⟩
    have other : ¬k = name := by simpa using List.countP_eq_zero.mp free _ earlier
    simpa using Ne.symm other

theorem lookup_eq_none_iff_notMem :
    fields.lookup name = none ↔ ∀ w, (name, w) ∉ fields := by
  rw [List.lookup_eq_none_iff]
  constructor
  · intro free w within
    simpa using free _ within
  · rintro free ⟨k, w⟩ within
    have other : name ≠ k := fun same => free w (same ▸ within)
    simpa using other

variable {read : Written → Option α} {write : α → Written} (reads : Reads read write)
  (single : Single fields name)
include reads single

theorem required?_eq_some_iff (x : α) :
    Parts.required? ⟨fun name => fields.lookup name⟩ name read = some x ↔
      (name, write x) ∈ fields := by
  rw [Parts.required?, Option.bind_eq_some_iff]
  simp only [reads.eq_some_iff, lookup_eq_some_iff_mem single, exists_eq_right]

theorem optional?_eq_some_iff (value : Option α) :
    Parts.optional? ⟨fun name => fields.lookup name⟩ name read = some value ↔
      Keeps fields name write value := by
  rw [Parts.optional?, Parts.orElse?]
  cases found : fields.lookup name with
  | none =>
    have absent := lookup_eq_none_iff_notMem.mp found
    cases value with
    | none => simpa [Keeps, found] using fun w within => absurd within (absent w)
    | some x => simp [Keeps, found, absent]
  | some w =>
    have only (v : Written) : (name, v) ∈ fields ↔ w = v := by
      rw [← lookup_eq_some_iff_mem single, found, Option.some.injEq]
    simp only [found, reads.optional?_eq_some_iff]
    cases value with
    | none => simp [Keeps, only]
    | some x => simp [Keeps, only]

end Json.Written

namespace Record

open Json Written

/-- The names that a record document knows. -/
def fieldNames : List String :=
  ["featureKey", "user", "rolloutId", "rolloutKey", "rolloutVariationId", "experimentId",
    "experimentKey", "experimentVariationId"]

/-- A 64-bit id as a document writes it. -/
def idJson (n : UInt64) : Json := .number (.natural n)

/-- A 64-bit id as it stands in a document that is read. -/
def writtenId (n : UInt64) : Written := .number (.natural n)

/-- The fields of an object write a record: no known name repeats, and each part of the record is
kept under its name. Nothing is said of their order or of other names. -/
structure Describes (fields : List (String × Written)) (record : Record) : Prop where
  single : ∀ name ∈ fieldNames, Single fields name
  featureKey : ("featureKey", .string record.featureKey) ∈ fields
  user : ("user", .string record.user) ∈ fields
  rolloutId : Keeps fields "rolloutId" writtenId record.rolloutId
  rolloutKey : Keeps fields "rolloutKey" .string record.rolloutKey
  rolloutVariation : Keeps fields "rolloutVariationId" writtenId record.rolloutVariation
  experimentId : Keeps fields "experimentId" writtenId record.experimentId
  experimentKey : Keeps fields "experimentKey" .string record.experimentKey
  experimentVariation : Keeps fields "experimentVariationId" writtenId record.experimentVariation

theorem read?_object_eq_some_iff {fields : List (String × Written)} {record : Record} :
    read? (.object fields) = some record ↔ Describes fields record := by
  have opened : read? (.object fields) = (Written.object fields).parts? fieldNames >>= _ := rfl
  by_cases single : ∀ name ∈ fieldNames, Single fields name
  · have parts : (Written.object fields).parts? fieldNames =
        some ⟨fun name => fields.lookup name⟩ := if_pos (by simpa [Single] using single)
    have text (name : String) (known : name ∈ fieldNames) :=
      required?_eq_some_iff reads_string (single name known)
    have key (name : String) (known : name ∈ fieldNames) :=
      optional?_eq_some_iff reads_string (single name known)
    have id (name : String) (known : name ∈ fieldNames) :=
      optional?_eq_some_iff reads_natural (single name known)
    simp only [opened, parts, Option.bind_eq_bind, Option.bind_some, Option.bind_eq_some_iff,
      Option.some.injEq,
      text "featureKey" (by decide), text "user" (by decide),
      id "rolloutId" (by decide), key "rolloutKey" (by decide),
      id "rolloutVariationId" (by decide), id "experimentId" (by decide),
      key "experimentKey" (by decide), id "experimentVariationId" (by decide)]
    constructor
    · rintro ⟨_, featureKey, _, user, _, rolloutId, _, rolloutKey, _, rolloutVariation, _,
        experimentId, _, experimentKey, _, experimentVariation, rfl⟩
      exact ⟨single, featureKey, user, rolloutId, rolloutKey, rolloutVariation, experimentId,
        experimentKey, experimentVariation⟩
    · intro d
      exact ⟨_, d.featureKey, _, d.user, _, d.rolloutId, _, d.rolloutKey, _, d.rolloutVariation, _,
        d.experimentId, _, d.experimentKey, _, d.experimentVariation, rfl⟩
  · have parts : (Written.object fields).parts? fieldNames = none :=
      if_neg (by simpa [Single] using single)
    simp only [opened, parts, Option.bind_eq_bind, Option.bind_none, reduceCtorEq, false_iff]
    exact fun d => single d.single

section Document

variable {α : Type}

/-- The field for a part that may be missing. -/
def kept (name : String) (write : α → Json) (value : Option α) : List (String × Json) :=
  value.toList.map fun x => (name, write x)

theorem mem_kept {name k : String} {write : α → Json} {value : Option α} {v : Json} :
    (k, v) ∈ kept name write value ↔ k = name ∧ ∃ x, value = some x ∧ v = write x := by
  cases value <;> simp [kept]

theorem names_kept (name : String) (write : α → Json) (value : Option α) :
    ((kept name write value).map Prod.fst).Sublist [name] := by
  cases value <;> simp [kept]

/-- The fields of a record's document. -/
def documentFields (record : Record) : List (String × Json) :=
  [("featureKey", .string record.featureKey), ("user", .string record.user)] ++
    kept "rolloutId" idJson record.rolloutId ++
    kept "rolloutKey" .string record.rolloutKey ++
    kept "rolloutVariationId" idJson record.rolloutVariation ++
    kept "experimentId" idJson record.experimentId ++
    kept "experimentKey" .string record.experimentKey ++
    kept "experimentVariationId" idJson record.experimentVariation

theorem document_eq (record : Record) : record.document = .object record.documentFields := rfl

variable (record : Record)

/-- A document has its names in their order, each at most once. -/
theorem names_documentFields : (record.documentFields.map Prod.fst).Sublist fieldNames := by
  simp only [documentFields, List.map_append]
  exact ((((((List.Sublist.refl _).append (names_kept ..)).append (names_kept ..)).append
    (names_kept ..)).append (names_kept ..)).append (names_kept ..)).append (names_kept ..)

theorem readsBack_documentFields : ∀ field ∈ record.documentFields, ReadsBack field.2 := by
  have id (name : String) (value : Option UInt64) :
      ∀ field ∈ kept name idJson value, ReadsBack field.2 := by
    rintro ⟨k, v⟩ within
    obtain ⟨-, n, -, rfl⟩ := mem_kept.mp within
    exact readsBack_natural n
  have key (name : String) (value : Option String) :
      ∀ field ∈ kept name .string value, ReadsBack field.2 := by
    rintro ⟨k, v⟩ within
    obtain ⟨-, s, -, rfl⟩ := mem_kept.mp within
    exact readsBack_string s
  simp only [documentFields, List.forall_mem_append, List.forall_mem_cons]
  exact ⟨⟨⟨⟨⟨⟨⟨readsBack_string _, readsBack_string _, nofun⟩, id _ _⟩, key _ _⟩, id _ _⟩, id _ _⟩,
    key _ _⟩, id _ _⟩

/-- A part that a document has just under its name is kept when the document is read. -/
theorem keeps_writtenFields {fields : List (String × Json)} {name : String} {value : Option α}
    (write : α → Json) (just : ∀ v, (name, v) ∈ fields ↔ ∃ x, value = some x ∧ v = write x) :
    Keeps (writtenFields fields) name (fun x => .ofScalar (write x)) value := by
  cases value with
  | none =>
    intro w within
    obtain ⟨⟨k, v⟩, written, same⟩ := List.mem_map.mp within
    obtain ⟨rfl, -⟩ := Prod.mk.inj same
    obtain ⟨_, missing, -⟩ := (just v).mp written
    cases missing
  | some x => exact List.mem_map.mpr ⟨_, (just _).mpr ⟨x, rfl, rfl⟩, rfl⟩

theorem describes_documentFields : Describes (writtenFields record.documentFields) record where
  single name known := by
    have fewer : (record.documentFields.map Prod.fst).countP (· = name) ≤
        fieldNames.countP (· = name) := (names_documentFields record).countP_le
    have once : ∀ name ∈ fieldNames, fieldNames.countP (· = name) ≤ 1 := by decide
    simpa [Single, writtenFields, List.countP_map, Function.comp_def] using
      fewer.trans (once name known)
  featureKey := List.mem_map.mpr ⟨("featureKey", .string _), by simp [documentFields], rfl⟩
  user := List.mem_map.mpr ⟨("user", .string _), by simp [documentFields], rfl⟩
  rolloutId := keeps_writtenFields idJson fun v => by simp [documentFields, mem_kept]
  rolloutKey := keeps_writtenFields .string fun v => by simp [documentFields, mem_kept]
  rolloutVariation := keeps_writtenFields idJson fun v => by simp [documentFields, mem_kept]
  experimentId := keeps_writtenFields idJson fun v => by simp [documentFields, mem_kept]
  experimentKey := keeps_writtenFields .string fun v => by simp [documentFields, mem_kept]
  experimentVariation := keeps_writtenFields idJson fun v => by simp [documentFields, mem_kept]

end Document

/-- A document that is written for a record is read as the record. -/
theorem ofText?_text (record : Record) : ofText? record.text = some record := by
  have read : Written.ofText? (Json.object record.documentFields).text =
      some (.object (writtenFields record.documentFields)) :=
    ofText?_object (show record.documentFields ≠ [] by simp [documentFields])
      record.readsBack_documentFields
  rw [ofText?, text, document_eq, read, Option.bind_some]
  exact read?_object_eq_some_iff.mpr record.describes_documentFields

/-- What is kept survives its text. The text of a record is read as the record, and so with the
decision, the experiment and the rollout that it keeps. An object is read as a record just if it
describes it: its fields may come in any order, what is not kept may be absent or null, and there
may be fields of other names. The text of a record that was read so is read as the same record. -/
theorem records_survive_their_texts (record : Record) :
    ofText? record.text = some record ∧
    (∀ read, ofText? record.text = some read → read.hasDecision = record.hasDecision ∧
      read.experiment? = record.experiment? ∧ read.rollout? = record.rollout?) ∧
    (∀ text fields, Written.ofText? text = some (.object fields) →
      (ofText? text = some record ↔ Describes fields record)) ∧
    ∀ text, ofText? text = some record → ofText? record.text = ofText? text := by
  refine ⟨ofText?_text record, fun read found => ?_, fun text fields written => ?_,
    fun text read => ?_⟩
  · obtain rfl := Option.some.inj ((ofText?_text record).symm.trans found)
    exact ⟨rfl, rfl, rfl⟩
  · rw [ofText?, written, Option.bind_some]
    exact read?_object_eq_some_iff
  · rw [read]
    exact ofText?_text record

/-- A record that is read from a document with its fields in another order, with a null and with a
name it does not know. -/
theorem reordered_record_survives :
    let text := "\x7b\"user\": \"zo\\u00eb\", \"seen\": [1, \x7b\x7d], \"rolloutId\": null, " ++
      "\"experimentVariationId\": 2, \"experimentKey\": \"price\", \"featureKey\": \"cart\"\x7d"
    let record : Record :=
      { featureKey := "cart", user := "zoë", experimentKey := some "price",
        experimentVariation := some 2 }
    ofText? text = some record ∧ record.experiment? = some ("price", 2) ∧
      (∃ fields, Written.ofText? text = some (.object fields) ∧ Describes fields record) ∧
      ofText? record.text = ofText? text := by
  intro text record
  obtain ⟨read, object⟩ : ofText? text = some record ∧
      (Written.ofText? text).any Written.isObject = true := by decide +kernel
  obtain ⟨w, written, kind⟩ := (Option.any_eq_true _ _).mp object
  obtain ⟨fields, rfl⟩ := isObject_iff.mp kind
  obtain ⟨-, -, describes, again⟩ := records_survive_their_texts record
  exact ⟨read, rfl, ⟨fields, written, (describes text fields written).mp read⟩, again text read⟩

end Record

end FeatureFlags

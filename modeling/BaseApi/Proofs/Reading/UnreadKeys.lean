import BaseApi.Proofs.Reading.Agreement
import BaseApi.Proofs.WithoutKey

/-!
# Keys that no record reads

A schema may carry more than is read from it. `Decoder.Spares` says of a decoder that it takes a
value for the same, or refuses it for the same reason, once a key has been left out of the value at
every depth. Each way of making decoders keeps this, except that a record reads its own keys. Main
statement: any key that is not among `BaseSchema.modelledKeys` can be left out
(`BaseSchema.loadJson_withoutKey`).
-/

namespace BaseApi

open Fallible

/-! ## Leaving a key out -/

namespace Json

/-- Arrays stay arrays and objects stay objects, and scalars are not touched. -/
theorem found_withoutKey (key : String) (value : Json) :
    Found.ofJson (value.withoutKey key) = Found.ofJson value := by
  cases value with
  | arr items => rw [withoutKey_arr]; rfl
  | obj members => rw [withoutKey_obj]; rfl
  | null | bool | num | str => rfl

end Json

/-! ## Decoders -/

namespace Decoder

open Json

variable {α β : Type} {key : String}

/-- The decoder gives the same result, or the same error, for a value without the key. -/
def Spares (decoder : Decoder α) (key : String) : Prop :=
  ∀ value : Json, decoder.ofJson (value.withoutKey key) = decoder.ofJson value

theorem mismatch_withoutKey (expected : Expected) (value : Json) :
    mismatch (α := α) expected (value.withoutKey key) = mismatch expected value := by
  rw [mismatch, mismatch, found_withoutKey]

theorem spares_text : text.Spares key := by
  intro value
  cases value with
  | arr items => exact mismatch_withoutKey .text (arr items)
  | obj members => exact mismatch_withoutKey .text (obj members)
  | null | bool | num | str => rfl

theorem Spares.map {decoder : Decoder α} (spares : decoder.Spares key) (f : α → β) :
    (decoder.map f).Spares key := by
  intro value
  exact congrArg (Except.map f) (spares value)

theorem Spares.optional {decoder : Decoder α} (spares : decoder.Spares key) :
    decoder.optional.Spares key := by
  intro value
  cases value with
  | arr items => exact spares.map some (arr items)
  | obj members => exact spares.map some (obj members)
  | null | bool | num | str => rfl

theorem Spares.list {decoder : Decoder α} (spares : decoder.Spares key) :
    decoder.list.Spares key := by
  intro value
  cases value with
  | arr items =>
      have each : decoder.ofJson ∘ withoutKey key = decoder.ofJson := funext spares
      rw [withoutKey_arr]
      show (items.map (withoutKey key)).mapM decoder.ofJson = items.mapM decoder.ofJson
      rw [List.mapM_map, each]
  | obj members => exact mismatch_withoutKey .sequence (obj members)
  | null | bool | num | str => rfl

end Decoder

/-! ## Records -/

namespace Record

open Json

variable {σ α : Type} {record : Record σ α} {key : String}

/-- The field has another key, and what it reads spares the key. -/
def FieldSpares (field : RecordField σ) (key : String) : Prop :=
  field.key ≠ key ∧ ∀ draft, (field.fill draft).Spares key

theorem field?_of_spares (spares : ∀ field ∈ record.fields, FieldSpares field key) :
    record.field? key = none := by
  rw [field?, List.find?_eq_none]
  intro field declared
  simpa using (spares field declared).1

theorem membersOfJson_withoutKeyMembers
    (spares : ∀ field ∈ record.fields, FieldSpares field key) (draft : σ)
    (members : List (String × Json)) :
    record.membersOfJson draft (withoutKeyMembers key members) =
      record.membersOfJson draft members := by
  induction members generalizing draft with
  | nil => rfl
  | cons member members ih =>
      obtain ⟨name, item⟩ := member
      rw [withoutKeyMembers]
      by_cases same : name = key
      · rw [if_pos same, ih, membersOfJson, same, field?_of_spares spares]
      · rw [if_neg same, membersOfJson, membersOfJson]
        cases known : record.field? name with
        | none => exact ih draft
        | some field =>
            have declared := (mem_of_field? known).1
            simp only [(spares field declared).2 draft item, ih]

theorem elementsOfJson_withoutKey {declared : List (RecordField σ)}
    (spares : ∀ field ∈ declared, FieldSpares field key) (count : Nat) (draft : σ)
    (items : List Json) :
    elementsOfJson declared count draft (items.map (withoutKey key)) =
      elementsOfJson declared count draft items := by
  induction declared generalizing count draft items with
  | nil => simp only [elementsOfJson]
  | cons field declared ih =>
      rw [List.forall_mem_cons] at spares
      cases items with
      | nil => rfl
      | cons item items =>
          simp only [List.map_cons, elementsOfJson, spares.1.2 draft item, ih spares.2]

theorem spares (fields : ∀ field ∈ record.fields, FieldSpares field key) :
    record.decoder.Spares key := by
  intro value
  cases value with
  | obj members =>
      rw [withoutKey_obj]
      simp only [decoder, membersOfJson_withoutKeyMembers fields]
  | arr items =>
      rw [withoutKey_arr]
      simp only [decoder, elementsOfJson_withoutKey fields, List.length_map]
  | null | bool | num | str => rfl

end Record

/-! ## The records of a schema -/

/-- The keys that the records of a schema have. -/
def BaseSchema.modelledKeys : List String :=
  ["id", "name", "tables", "fields", "type", "typeOptions", "options", "format", "relationship",
    "resultType", "result"]

section Schema

variable {key : String} (unmodelled : key ∉ BaseSchema.modelledKeys)

include unmodelled

theorem RecordField.slot_spares {σ α : Type} {name : String} {decoder : Decoder α}
    {get : σ → Option α} {set : σ → α → σ} (modelled : name ∈ BaseSchema.modelledKeys)
    (spares : decoder.Spares key) : Record.FieldSpares (slot name decoder get set) key :=
  ⟨ne_of_mem_of_not_mem modelled unmodelled, fun draft => spares.map (set draft)⟩

open RecordField

theorem ResultDescriptor.spares : ResultDescriptor.record.decoder.Spares key := by
  apply Record.spares
  simp only [record, List.forall_mem_cons]
  exact ⟨slot_spares unmodelled (by decide) Decoder.spares_text, by simp⟩

theorem TypeOptions.spares : TypeOptions.record.decoder.Spares key := by
  have text : (Decoder.text.optional).Spares key := Decoder.spares_text.optional
  have result := (ResultDescriptor.spares unmodelled).optional
  apply Record.spares
  simp only [record, List.forall_mem_cons]
  exact ⟨slot_spares unmodelled (by decide) text, slot_spares unmodelled (by decide) text,
    slot_spares unmodelled (by decide) text, slot_spares unmodelled (by decide) result, by simp⟩

theorem Column.spares : Column.record.decoder.Spares key := by
  have text : Decoder.text.Spares key := Decoder.spares_text
  have options := (TypeOptions.spares unmodelled).optional
  apply Record.spares
  simp only [record, List.forall_mem_cons]
  exact ⟨slot_spares unmodelled (by decide) text, slot_spares unmodelled (by decide) text,
    slot_spares unmodelled (by decide) options, slot_spares unmodelled (by decide) options, by simp⟩

theorem Table.spares : Table.record.decoder.Spares key := by
  have columns := (Column.spares unmodelled).list
  apply Record.spares
  simp only [record, List.forall_mem_cons]
  exact ⟨slot_spares unmodelled (by decide) Decoder.spares_text,
    slot_spares unmodelled (by decide) columns, by simp⟩

theorem BaseSchema.spares : BaseSchema.record.decoder.Spares key := by
  have text : Decoder.text.Spares key := Decoder.spares_text
  have tables := (Table.spares unmodelled).list
  apply Record.spares
  simp only [record, List.forall_mem_cons]
  exact ⟨slot_spares unmodelled (by decide) text, slot_spares unmodelled (by decide) text,
    slot_spares unmodelled (by decide) tables, by simp⟩

end Schema

/-- A value without a key that no record has is read as the value itself is: as the same schema, or
with the same error. Embedded tables stand under such a key, so without them a value gives the same
base and the same document, or the same failure. -/
theorem BaseSchema.loadJson_withoutKey (value : Json) :
    (∀ key, key ∉ modelledKeys → ofJson (value.withoutKey key) = ofJson value ∧
      loadJson (value.withoutKey key) = loadJson value) ∧
    loadJson value.withoutForeignTables = loadJson value ∧
    resolvedBaseOf value.withoutForeignTables = resolvedBaseOf value ∧
    ∀ options : DocumentOptions,
      (loadJson value.withoutForeignTables >>= fun schema => schema.document options) =
        (loadJson value >>= fun schema => schema.document options) := by
  have read (key : String) (unmodelled : key ∉ modelledKeys) :
      ofJson (value.withoutKey key) = ofJson value := spares unmodelled value
  have loaded (key : String) (unmodelled : key ∉ modelledKeys) :
      loadJson (value.withoutKey key) = loadJson value := by
    rw [loadJson, loadJson, read key unmodelled]
  have stripped : loadJson value.withoutForeignTables = loadJson value :=
    loaded Json.foreignTableKey (by decide)
  refine ⟨fun key unmodelled => ⟨read key unmodelled, loaded key unmodelled⟩, stripped, ?_, ?_⟩
  · rw [resolvedBaseOf, resolvedBaseOf, stripped]
  · intro options
    rw [stripped]

/-- A schema with an embedded table inside the options of a column, and with a second one inside the
first. -/
def embeddedTables : Json :=
  .obj [("id", .str "b"), ("name", .str "B"), ("tables", .arr [.obj [("name", .str "T"),
    ("fields", .arr [.obj [("name", .str "F"), ("type", .str "foreignKey"),
      ("typeOptions", .obj [("relationship", .str "many"), ("foreignTable", .obj [
        ("name", .null), ("foreignTable", .arr [])])])]])]])]

/-- The column that links is read and resolved, and its embedded tables do not matter. -/
theorem BaseSchema.loadJson_embeddedTables :
    "foreignTable" ∉ modelledKeys ∧ (ofJson embeddedTables).isOk = true ∧
      embeddedTables.withoutKey "foreignTable" = .obj [("id", .str "b"), ("name", .str "B"),
        ("tables", .arr [.obj [("name", .str "T"), ("fields", .arr [.obj [("name", .str "F"),
          ("type", .str "foreignKey"),
          ("typeOptions", .obj [("relationship", .str "many")])]])]])] ∧
      ofJson (embeddedTables.withoutKey "foreignTable") = ofJson embeddedTables := by
  refine ⟨by decide, rfl, rfl, ?_⟩
  exact ((BaseSchema.loadJson_withoutKey embeddedTables).1 "foreignTable" (by decide)).1

end BaseApi

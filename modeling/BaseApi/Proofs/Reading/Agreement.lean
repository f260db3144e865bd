import BaseApi.Command.Run
import BaseApi.Proofs.Reading.Records
import BaseApi.Proofs.Resolution.FirstFailure

/-!
# The text of a schema and its value

A schema can be loaded from a text, or from the value of the text. `BaseSchema.KeysOnce` says of the
tree that a text writes that no record of the schema repeats a key; other keys may repeat. Main
statement: exactly on these trees the two ways load the same schema, and then they resolve to the
same base or fail at the same column (`BaseSchema.loadText_iff_loadJson`).
-/

namespace BaseApi

open Fallible

/-! ## Slots -/

namespace RecordField

variable {σ α : Type} {key : String} {decoder : Decoder α} {get : σ → Option α} {set : σ → α → σ}

theorem slot_follows {once : Json → Prop} (follows : decoder.Follows once) :
    Record.FieldFollows (slot key decoder get set) (key, once) :=
  ⟨rfl, fun draft => follows.map (set draft)⟩

theorem slot_fillsAmong {all : List (RecordField σ)}
    (sets : ∀ draft read, ∀ other ∈ all, other.key = key ∨ other.isFilled draft = true →
      other.isFilled (set draft read) = true) :
    (slot key decoder get set).FillsAmong all := by
  intro draft next value taken
  obtain ⟨read, -, rfl⟩ := map_eq_ok_iff.mp taken
  exact sets draft read

end RecordField

/-! ## The records of a schema -/

/-- The tree of a result does not repeat its key. -/
def ResultDescriptor.KeysOnce : Json → Prop := Json.KeysOnce [("type", fun _ => True)]

/-- Neither the tree of options nor the result in it repeats a key of its own. -/
def TypeOptions.KeysOnce : Json → Prop :=
  Json.KeysOnce [("format", fun _ => True), ("relationship", fun _ => True),
    ("resultType", fun _ => True), ("result", ResultDescriptor.KeysOnce)]

/-- Neither the tree of a column nor the options in it repeat a key of their own. -/
def Column.KeysOnce : Json → Prop :=
  Json.KeysOnce [("name", fun _ => True), ("type", fun _ => True),
    ("typeOptions", TypeOptions.KeysOnce), ("options", TypeOptions.KeysOnce)]

/-- Neither the tree of a table nor a column in it repeats a key of its own. -/
def Table.KeysOnce : Json → Prop :=
  Json.KeysOnce [("name", fun _ => True), ("fields", Json.EachItem Column.KeysOnce)]

/-- Neither the tree of a schema nor a table in it repeats a key of its own. -/
def BaseSchema.KeysOnce : Json → Prop :=
  Json.KeysOnce [("id", fun _ => True), ("name", fun _ => True),
    ("tables", Json.EachItem Table.KeysOnce)]

section Records

open RecordField

theorem ResultDescriptor.isLawful_record : ResultDescriptor.record.IsLawful := by
  simp only [Record.IsLawful, record, List.forall_mem_cons]
  exact ⟨slot_fillsAmong (by simp [slot]), by simp⟩

theorem TypeOptions.isLawful_record : TypeOptions.record.IsLawful := by
  simp only [Record.IsLawful, record, List.forall_mem_cons]
  refine ⟨slot_fillsAmong ?_, slot_fillsAmong ?_, slot_fillsAmong ?_, slot_fillsAmong ?_, by simp⟩
    <;> simp [slot]

theorem Column.isLawful_record : Column.record.IsLawful := by
  simp only [Record.IsLawful, record, List.forall_mem_cons]
  refine ⟨slot_fillsAmong ?_, slot_fillsAmong ?_, slot_fillsAmong ?_, slot_fillsAmong ?_, by simp⟩
    <;> simp [slot]

theorem Table.isLawful_record : Table.record.IsLawful := by
  simp only [Record.IsLawful, record, List.forall_mem_cons]
  refine ⟨slot_fillsAmong ?_, slot_fillsAmong ?_, by simp⟩ <;> simp [slot]

theorem BaseSchema.isLawful_record : BaseSchema.record.IsLawful := by
  simp only [Record.IsLawful, record, List.forall_mem_cons]
  refine ⟨slot_fillsAmong ?_, slot_fillsAmong ?_, slot_fillsAmong ?_, by simp⟩ <;> simp [slot]

theorem ResultDescriptor.follows :
    ResultDescriptor.record.decoder.Follows ResultDescriptor.KeysOnce :=
  Record.follows isLawful_record (.cons (slot_follows Decoder.follows_text) .nil)

theorem TypeOptions.follows : TypeOptions.record.decoder.Follows TypeOptions.KeysOnce := by
  have text := Decoder.follows_text.optional trivial
  have result := ResultDescriptor.follows.optional trivial
  exact Record.follows isLawful_record (.cons (slot_follows text) (.cons (slot_follows text)
    (.cons (slot_follows text) (.cons (slot_follows result) .nil))))

theorem Column.follows : Column.record.decoder.Follows Column.KeysOnce := by
  have text := Decoder.follows_text
  have options := TypeOptions.follows.optional trivial
  exact Record.follows isLawful_record (.cons (slot_follows text) (.cons (slot_follows text)
    (.cons (slot_follows options) (.cons (slot_follows options) .nil))))

theorem Table.follows : Table.record.decoder.Follows Table.KeysOnce :=
  Record.follows isLawful_record (.cons (slot_follows Decoder.follows_text)
    (.cons (slot_follows Column.follows.list) .nil))

theorem BaseSchema.follows : BaseSchema.record.decoder.Follows BaseSchema.KeysOnce := by
  have text := Decoder.follows_text
  exact Record.follows isLawful_record (.cons (slot_follows text) (.cons (slot_follows text)
    (.cons (slot_follows Table.follows.list) .nil)))

end Records

/-! ## Whole texts -/

theorem Decoder.Follows.decodeText_eq_ok_iff {α : Type} {decoder : Decoder α} {once : Json → Prop}
    (follows : decoder.Follows once) {text : String} {tree : Json}
    (spelled : Json.Spells text tree) (result : α) :
    decoder.decodeText text = .ok result ↔ decoder.ofJson tree.merged = .ok result ∧ once tree := by
  obtain ⟨after, read, blank⟩ := spelled
  rw [decodeText, bind_eq_ok_iff]
  simp only [Json.finish_eq_ok_iff, Prod.exists, follows read (Nat.le_succ _)]
  constructor
  · rintro ⟨_, _, ⟨rfl, accepted, condition⟩, rfl, -⟩
    exact ⟨accepted, condition⟩
  · rintro ⟨accepted, condition⟩
    exact ⟨result, after, ⟨rfl, accepted, condition⟩, rfl, blank⟩

theorem BaseSchema.loadText_eq_ok_iff {text : String} {schema : BaseSchema} :
    loadText text = .ok schema ↔ ofText text = .ok schema := by
  unfold loadText
  split
  · next read => simp [read]
  · next refused => simp [refused]

theorem BaseSchema.loadJson_eq_ok_iff {value : Json} {schema : BaseSchema} :
    loadJson value = .ok schema ↔ ofJson value = .ok schema := by
  unfold loadJson
  split
  · next read => simp [read]
  · next refused => simp [refused]

/-- A text writes one tree, and merging its repeated keys gives the value of the text. The schema of
the text is that of the value, provided that no record in the tree repeats a key of its own. Then
text and value also resolve to the same base, or fail at the same column. -/
theorem BaseSchema.loadText_iff_loadJson {text : String} {value : Json}
    (parsed : Json.parse text = .ok value) :
    ∃ tree, Json.Spells text tree ∧ (∀ other, Json.Spells text other → other = tree) ∧
      tree.merged = value ∧
      (∀ schema, loadText text = .ok schema ↔ loadJson value = .ok schema ∧ KeysOnce tree) ∧
      ∀ schema, loadText text = .ok schema →
        (∃ base, ResolvedBase.ofText text = .ok base ∧ resolvedBaseOf value = .ok base) ∨
        ∃ table error, ResolvedBase.ofText text = .error (.column table error) ∧
          resolvedBaseOf value = .error {
            context := "Failed to convert Airtable schema"
            causes := (Failure.column table error).causes } := by
  obtain ⟨tree, spelled, rfl⟩ := Json.exists_spells_of_parse parsed
  have agree (schema : BaseSchema) :
      loadText text = .ok schema ↔ loadJson tree.merged = .ok schema ∧ KeysOnce tree := by
    rw [loadText_eq_ok_iff, loadJson_eq_ok_iff]
    exact BaseSchema.follows.decodeText_eq_ok_iff spelled schema
  refine ⟨tree, spelled, fun other also => also.unique spelled, rfl, agree, ?_⟩
  intro schema loaded
  have loadedJson := ((agree schema).mp loaded).1
  have fromText : ResolvedBase.ofText text = schema.resolve := by
    rw [ResolvedBase.ofText, loaded]
    rfl
  rw [fromText, resolvedBaseOf, loadedJson]
  cases resolved : schema.resolve with
  | ok base => exact .inl ⟨base, rfl, by simp only [resolved]⟩
  | error failure =>
      obtain ⟨table, error, rfl⟩ := eq_column_of_resolve resolved
      exact .inr ⟨table, error, rfl, by simp only [resolved]⟩

/-- A text that repeats a key of a record is refused, while its value has what came last. -/
example : BaseSchema.ofText r#"{"id":"b","name":"A","name":"B"}"# =
      .error (.duplicateField "name") ∧
    (Json.parse r#"{"id":"b","name":"A","name":"B"}"# >>= BaseSchema.ofJson) =
      .ok { id := "b", name := "B" } :=
  ⟨rfl, rfl⟩

/-- A text that repeats a key which no record has, and where a table and a column are arrays of
their fields. -/
def repeatedKeyText : String :=
  r#"{"id":"b","name":"B","x":[1],"x":[],"tables":[["T",[["F","text"]]]]}"#

/-- The value of `repeatedKeyText`. -/
def repeatedKeyValue : Json :=
  .obj [("id", .str "b"), ("name", .str "B"), ("x", .arr []),
    ("tables", .arr [.arr [.str "T", .arr [.arr [.str "F", .str "text"]]]])]

theorem BaseSchema.loadText_repeatedKeyText :
    Json.parse repeatedKeyText = .ok repeatedKeyValue ∧
    ∃ tree, Json.Spells repeatedKeyText tree ∧
      (∀ other, Json.Spells repeatedKeyText other → other = tree) ∧
      tree.merged = repeatedKeyValue ∧
      (∀ schema, loadText repeatedKeyText = .ok schema ↔
        loadJson repeatedKeyValue = .ok schema ∧ KeysOnce tree) ∧
      ∀ schema, loadText repeatedKeyText = .ok schema →
        (∃ base, ResolvedBase.ofText repeatedKeyText = .ok base ∧
          resolvedBaseOf repeatedKeyValue = .ok base) ∨
        ∃ table error, ResolvedBase.ofText repeatedKeyText = .error (.column table error) ∧
          resolvedBaseOf repeatedKeyValue = .error {
            context := "Failed to convert Airtable schema"
            causes := (Failure.column table error).causes } := by
  have parsed : Json.parse repeatedKeyText = .ok repeatedKeyValue := rfl
  exact ⟨parsed, BaseSchema.loadText_iff_loadJson parsed⟩

end BaseApi

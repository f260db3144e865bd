import BaseApi.Proofs.Reading.Agreement
import BaseApi.Proofs.Reading.Printed
import BaseApi.Schema.Encode

/-!
# Schemas that are written and read again

A schema is written so that it reads back as itself, from its value and from its text
(`BaseSchema.load_toJson`). The value of a record is read member by member: a field that is always
written by `Record.membersOfJson_slot`, one that may be left out by
`Record.membersOfJson_optionalMember`. The text reads as the value does because no object that is
written repeats a key.
-/

namespace BaseApi

open Fallible Json

/-! ## Reading what a field writes -/

namespace Record

variable {σ α β γ : Type} {record : Record σ α} {key : String} {decoder : Decoder β}
  {get : σ → Option β} {set : σ → β → σ} {draft : σ} {members : Entries Json}

/-- A field that has not come yet fills its slot. -/
theorem membersOfJson_slot (declared : record.field? key = some (.slot key decoder get set))
    (free : get draft = none) {value : Json} {read : β} (reads : decoder.ofJson value = .ok read) :
    record.membersOfJson draft ((key, value) :: members) =
      record.membersOfJson (set draft read) members := by
  simp [membersOfJson, declared, RecordField.slot, free, Decoder.map, reads, Except.map, bind,
    Except.bind]

/-- A field that may be left out fills its slot if it is there. -/
theorem membersOfJson_optionalMember
    (declared : record.field? key = some (.slot key decoder get set)) (free : get draft = none)
    {write : γ → Json} {read : γ → β}
    (reads : ∀ value, decoder.ofJson (write value) = .ok (read value)) (written : Option γ) :
    record.membersOfJson draft (optionalMember key (written.map write) ++ members) =
      record.membersOfJson (written.elim draft fun value => set draft (read value)) members := by
  cases written with
  | none => rfl
  | some value => exact membersOfJson_slot declared free (reads value)

end Record

theorem Decoder.list_ofJson_map {α : Type} {decoder : Decoder α} {write : α → Json}
    (reads : ∀ value, decoder.ofJson (write value) = .ok value) (values : List α) :
    decoder.list.ofJson (.arr (values.map write)) = .ok values := by
  show (values.map write).mapM decoder.ofJson = .ok values
  rw [mapM_eq_ok_iff, List.forall₂_map_left_iff, List.forall₂_same]
  exact fun value _ => reads value

/-! ## Reading what a record writes -/

section Values

open Record

/-- Whether a format is absent, null or given shows in what is written. -/
theorem TypeOptions.ofJson_toJson (options : TypeOptions) :
    record.decoder.ofJson options.toJson = .ok options := by
  obtain ⟨_ | _ | format, _ | relationship, _ | resultType, _ | result⟩ := options <;> rfl

theorem Column.ofJson_toJson (column : Column) :
    record.decoder.ofJson column.toJson = .ok column := by
  have reads (options : TypeOptions) :
      TypeOptions.record.decoder.optional.ofJson options.toJson = .ok (some options) :=
    congrArg (Except.map some) (TypeOptions.ofJson_toJson options)
  obtain ⟨name, tag, older, newer⟩ := column
  have free : ∀ draft : ColumnDraft, draft.options = none →
      (older.elim draft fun value => { draft with typeOptions := some (some value) }).options =
        none := by
    intro draft noOptions
    cases older <;> exact noOptions
  rw [toJson, ofJson_obj_eq_ok_iff, List.append_assoc, List.cons_append, List.cons_append,
    List.nil_append, membersOfJson_slot rfl rfl rfl, membersOfJson_slot rfl rfl rfl,
    membersOfJson_optionalMember rfl rfl reads, ← List.append_nil (optionalMember "options" _),
    membersOfJson_optionalMember rfl (free _ rfl) reads]
  refine ⟨_, rfl, ?_⟩
  cases older <;> cases newer <;> rfl

theorem Table.ofJson_toJson (table : Table) : record.decoder.ofJson table.toJson = .ok table := by
  have columns := Decoder.list_ofJson_map Column.ofJson_toJson table.columns
  rw [toJson, ofJson_obj_eq_ok_iff, membersOfJson_slot rfl rfl rfl,
    membersOfJson_slot rfl rfl columns]
  exact ⟨_, rfl, rfl⟩

theorem BaseSchema.ofJson_toJson (schema : BaseSchema) : ofJson schema.toJson = .ok schema := by
  have tables := Decoder.list_ofJson_map Table.ofJson_toJson schema.tables
  rw [toJson, ofJson, ofJson_obj_eq_ok_iff, membersOfJson_slot rfl rfl rfl,
    membersOfJson_slot rfl rfl rfl, membersOfJson_slot rfl rfl tables]
  exact ⟨_, rfl, rfl⟩

end Values

/-! ## What records are written as -/

namespace Json

theorem isRecordTree_of_mem_optionalMember {γ : Type} {write : γ → Json}
    (written : ∀ value, (write value).IsRecordTree) {key : String} {value : Option γ}
    {member : String × Json} (among : member ∈ optionalMember key (value.map write)) :
    member.2.IsRecordTree := by
  cases value with
  | none => exact absurd among List.not_mem_nil
  | some value =>
      rw [List.mem_singleton.mp among]
      exact written value

theorem isRecordTree_arr_map {γ : Type} {write : γ → Json}
    (written : ∀ value, (write value).IsRecordTree) (values : List γ) :
    (arr (values.map write)).IsRecordTree := by
  apply IsRecordTree.arr
  rw [List.forall_mem_map]
  exact fun value _ => written value

theorem isRecordTree_textOrNull (text : Option String) : (textOrNull text).IsRecordTree := by
  cases text with
  | none => exact .null
  | some text => exact .str text

end Json

theorem ResultDescriptor.isRecordTree_toJson (result : ResultDescriptor) :
    result.toJson.IsRecordTree := by
  refine .obj (by simp) ?_
  rw [List.forall_mem_singleton]
  exact .str result.tag

theorem TypeOptions.isRecordTree_toJson (options : TypeOptions) : options.toJson.IsRecordTree := by
  refine .obj ?_ ?_
  · -- The keys are among those of the record, in their order.
    have keys : ["format", "relationship", "resultType", "result"].Nodup := by decide
    simp only [Entries.keys_append]
    exact (((sublist_keys_optionalMember _ _).append (sublist_keys_optionalMember _ _)).append
      (sublist_keys_optionalMember _ _)).append (sublist_keys_optionalMember _ _) |>.nodup keys
  · simp only [List.forall_mem_append]
    exact ⟨⟨⟨fun _ => isRecordTree_of_mem_optionalMember isRecordTree_textOrNull,
      fun _ => isRecordTree_of_mem_optionalMember .str⟩,
      fun _ => isRecordTree_of_mem_optionalMember .str⟩,
      fun _ => isRecordTree_of_mem_optionalMember ResultDescriptor.isRecordTree_toJson⟩

theorem Column.isRecordTree_toJson (column : Column) : column.toJson.IsRecordTree := by
  refine .obj ?_ ?_
  · have keys : ["name", "type", "typeOptions", "options"].Nodup := by decide
    simp only [Entries.keys_append]
    exact (((List.Sublist.refl ["name", "type"]).append (sublist_keys_optionalMember _ _)).append
      (sublist_keys_optionalMember _ _)).nodup keys
  · simp only [List.forall_mem_append, List.forall_mem_cons]
    exact ⟨⟨⟨.str column.name, .str column.tag, by simp⟩,
      fun _ => isRecordTree_of_mem_optionalMember TypeOptions.isRecordTree_toJson⟩,
      fun _ => isRecordTree_of_mem_optionalMember TypeOptions.isRecordTree_toJson⟩

theorem Table.isRecordTree_toJson (table : Table) : table.toJson.IsRecordTree := by
  refine .obj (by simp) ?_
  simp only [List.forall_mem_cons]
  exact ⟨.str table.name, isRecordTree_arr_map Column.isRecordTree_toJson table.columns, by simp⟩

theorem BaseSchema.isRecordTree_toJson (schema : BaseSchema) : schema.toJson.IsRecordTree := by
  refine .obj (by simp) ?_
  simp only [List.forall_mem_cons]
  exact ⟨.str schema.id, .str schema.name,
    isRecordTree_arr_map Table.isRecordTree_toJson schema.tables, by simp⟩

/-! ## Keys that come once -/

theorem Json.IsRecordTree.eachItem {holds : Json → Prop}
    (nested : ∀ {tree : Json}, tree.IsRecordTree → holds tree) {tree : Json}
    (isRecordTree : tree.IsRecordTree) : EachItem holds tree := by
  cases isRecordTree with
  | arr each => exact fun item among => nested (each item among)
  | null | bool | str | obj => trivial

theorem Json.IsRecordTree.keysOnce {fields : Entries (Json → Prop)}
    (nested : ∀ field ∈ fields, ∀ {tree : Json}, tree.IsRecordTree → field.2 tree) {tree : Json}
    (isRecordTree : tree.IsRecordTree) : KeysOnce fields tree := by
  cases isRecordTree with
  | obj once each =>
      refine ⟨fun field _ => List.nodup_iff_count_le_one.mp once field.1, ?_⟩
      intro member among condition found
      obtain ⟨before, after, rfl, -⟩ := List.lookup_eq_some_iff.mp found
      exact nested _ (List.mem_append_right before List.mem_cons_self) (each member among)
  | arr each =>
      intro pair among
      obtain ⟨declared, item⟩ := List.of_mem_zip among
      exact nested pair.1 declared (each pair.2 item)
  | null | bool | str => trivial

theorem ResultDescriptor.keysOnce_of_isRecordTree {tree : Json} (isRecordTree : tree.IsRecordTree) :
    KeysOnce tree := by
  apply isRecordTree.keysOnce
  simp only [List.forall_mem_singleton, implies_true]

theorem TypeOptions.keysOnce_of_isRecordTree {tree : Json} (isRecordTree : tree.IsRecordTree) :
    KeysOnce tree := by
  apply isRecordTree.keysOnce
  simp only [List.forall_mem_cons]
  exact ⟨fun _ => trivial, fun _ => trivial, fun _ => trivial,
    ResultDescriptor.keysOnce_of_isRecordTree, by simp⟩

theorem Column.keysOnce_of_isRecordTree {tree : Json} (isRecordTree : tree.IsRecordTree) :
    KeysOnce tree := by
  apply isRecordTree.keysOnce
  simp only [List.forall_mem_cons]
  exact ⟨fun _ => trivial, fun _ => trivial, TypeOptions.keysOnce_of_isRecordTree,
    TypeOptions.keysOnce_of_isRecordTree, by simp⟩

theorem Table.keysOnce_of_isRecordTree {tree : Json} (isRecordTree : tree.IsRecordTree) :
    KeysOnce tree := by
  apply isRecordTree.keysOnce
  simp only [List.forall_mem_cons]
  exact ⟨fun _ => trivial, IsRecordTree.eachItem Column.keysOnce_of_isRecordTree, by simp⟩

theorem BaseSchema.keysOnce_of_isRecordTree {tree : Json} (isRecordTree : tree.IsRecordTree) :
    KeysOnce tree := by
  apply isRecordTree.keysOnce
  simp only [List.forall_mem_cons]
  exact ⟨fun _ => trivial, fun _ => trivial, IsRecordTree.eachItem Table.keysOnce_of_isRecordTree,
    by simp⟩

/-! ## Whole schemas -/

theorem BaseSchema.ofText_compact (schema : BaseSchema) :
    ofText schema.toJson.compact = .ok schema := by
  have isRecordTree := schema.isRecordTree_toJson
  have spelled : Spells schema.toJson.compact schema.toJson :=
    isRecordTree.spells_write Layout.isBlank_compact
  rw [ofText, BaseSchema.follows.decodeText_eq_ok_iff spelled, isRecordTree.merged]
  exact ⟨schema.ofJson_toJson, keysOnce_of_isRecordTree isRecordTree⟩

/-- What is written of the schema that a text has. -/
def BaseSchema.normalText (text : String) : Except Failure String :=
  (loadText text).map fun schema => schema.toJson.compact

/-- What is written of the schema that a value has. -/
def BaseSchema.normalJson (value : Json) : Except Failure Json := (loadJson value).map toJson

/-- A schema that is written reads back as itself, from its value and from its text. So what is
written of any text or value that has a schema is a normal form: it has the same schema, which is
written as the same again, and it resolves to the same base or fails at the same column. -/
theorem BaseSchema.load_toJson :
    (∀ schema : BaseSchema, loadJson schema.toJson = .ok schema ∧
      loadText schema.toJson.compact = .ok schema) ∧
    (∀ text normal, normalText text = .ok normal → normalText normal = .ok normal ∧
      loadText normal = loadText text ∧ ResolvedBase.ofText normal = ResolvedBase.ofText text) ∧
    ∀ value normal, normalJson value = .ok normal → normalJson normal = .ok normal ∧
      loadJson normal = loadJson value ∧ resolvedBaseOf normal = resolvedBaseOf value := by
  have fromJson (schema : BaseSchema) : loadJson schema.toJson = .ok schema :=
    loadJson_eq_ok_iff.mpr schema.ofJson_toJson
  have fromText (schema : BaseSchema) : loadText schema.toJson.compact = .ok schema :=
    loadText_eq_ok_iff.mpr schema.ofText_compact
  refine ⟨fun schema => ⟨fromJson schema, fromText schema⟩, ?_, ?_⟩
  · intro text normal written
    obtain ⟨schema, loaded, rfl⟩ := map_eq_ok_iff.mp written
    have same : loadText schema.toJson.compact = loadText text := by rw [fromText, loaded]
    refine ⟨?_, same, ?_⟩
    · rw [normalText, fromText]
      rfl
    · rw [ResolvedBase.ofText, ResolvedBase.ofText, same]
  · intro value normal written
    obtain ⟨schema, loaded, rfl⟩ := map_eq_ok_iff.mp written
    have same : loadJson schema.toJson = loadJson value := by rw [fromJson, loaded]
    refine ⟨?_, same, ?_⟩
    · rw [normalJson, fromJson]
      rfl
    · rw [resolvedBaseOf, resolvedBaseOf, same]

/-- A schema as an array of its fields, with an escaped name, a format that is null, empty options
and a key that no record has. -/
def arrayText : String :=
  r#"["b", "\u0001\/", [{"name": "T", "x": 1, "fields": [["N", "number", {"format": null}, {}]]}]]"#

/-- The schema of `arrayText`. -/
def arraySchema : BaseSchema where
  id := "b"
  name := "\x01/"
  tables := [{ name := "T", columns := [{
    name := "N"
    tag := "number"
    typeOptions := some { format := some none }
    options := some {} }] }]

/-- An object with the given text of its members. -/
def objectText (members : String) : String :=
  String.singleton '{' ++ members ++ String.singleton '}'

/-- What is written of `arraySchema`: objects without blanks, and a slash that needs no escape. -/
def arrayNormalText : String :=
  objectText (r#""id":"b","name":"\u0001/","tables":["# ++
    objectText (r#""name":"T","fields":["# ++
      r#"{"name":"N","type":"number","typeOptions":{"format":null},"options":{}}]"#) ++ "]")

theorem BaseSchema.load_arrayText :
    normalText arrayText = .ok arrayNormalText ∧ normalText arrayNormalText = .ok arrayNormalText ∧
      loadText arrayNormalText = loadText arrayText ∧
      ResolvedBase.ofText arrayNormalText = ResolvedBase.ofText arrayText := by
  have read : ofText arrayText = .ok arraySchema := by cbv
  have compact : arraySchema.toJson.compact = arrayNormalText := by cbv
  have written : normalText arrayText = .ok arrayNormalText := by
    rw [normalText, loadText_eq_ok_iff.mpr read, ← compact]
    rfl
  exact ⟨written, BaseSchema.load_toJson.2.1 arrayText arrayNormalText written⟩

end BaseApi

import Mathlib
import BaseApi.Proofs.SelfContained

/-!
# Maps of schemas that refer to themselves

A map of schemas is closed if it has every component schema that one of its schemas refers to
(`OrderedMap.IsClosed`). A registration appends five schemas and touches nothing else; they refer to
one another and to what the fields of the table refer to. So a registration keeps a map closed,
whatever is in the map and however it came there (`ResolvedTable.isClosed_register`), and a run of
registrations does (`isClosed_foldl_add`).
-/

namespace BaseApi

/-! ## The component schemas that a fragment refers to -/

/-- Every component schema that a fragment refers to is under one of some keys. A path to anything
else than a component schema does not count. -/
def Fragment.NamesAmong (fragment : Fragment) (keys : List String) : Prop :=
  ∀ name, componentPath ++ name ∈ fragment.references → name ∈ keys

namespace Fragment

variable {fragment : Fragment} {keys more : List String}

theorem NamesAmong.mono (among : fragment.NamesAmong keys) (grows : keys ⊆ more) :
    fragment.NamesAmong more :=
  fun name referred => grows (among name referred)

theorem namesAmong_scalar (type : ScalarType) (keys : List String) :
    (scalar type).NamesAmong keys :=
  fun _ referred => absurd referred List.not_mem_nil

theorem namesAmong_component {name : String} (present : name ∈ keys) :
    (component name).NamesAmong keys := by
  intro other referred
  have same : componentPath ++ other = componentPath ++ name := List.mem_singleton.mp referred
  rw [(String.append_right_inj _).mp same]
  exact present

theorem RefersWithin.namesAmong (within : fragment.RefersWithin keys) :
    fragment.NamesAmong keys := by
  intro name referred
  obtain ⟨key, present, same⟩ := within _ referred
  rw [(String.append_right_inj _).mp same]
  exact present

end Fragment

/-- The fields of a table refer to no component schemas but those under some keys. -/
def ResolvedTable.NamesAmong (table : ResolvedTable) (keys : List String) : Prop :=
  ∀ field ∈ table.fields, field.schema.NamesAmong keys

/-! ## Closed maps -/

/-- Every component schema that a schema of the map refers to is in the map. -/
def OrderedMap.IsClosed (schemas : OrderedMap ObjectSchema) : Prop :=
  ∀ entry ∈ schemas.entries, ∀ property ∈ entry.2.properties.entries,
    property.2.NamesAmong schemas.keys

/-- A closed map stays closed if what is appended refers to what is there then. -/
theorem OrderedMap.IsClosed.of_append {schemas grown : OrderedMap ObjectSchema}
    {added : Entries ObjectSchema} (closed : schemas.IsClosed)
    (append : grown.entries = schemas.entries ++ added)
    (among : ∀ entry ∈ added, ∀ property ∈ entry.2.properties.entries,
      property.2.NamesAmong grown.keys) : grown.IsClosed := by
  have grows : schemas.keys ⊆ grown.keys := by
    rw [keys, keys, append, Entries.keys_append]
    exact List.subset_append_left _ _
  intro entry member property inEntry
  rw [append] at member
  rcases List.mem_append.mp member with old | new
  · exact (closed entry old property inEntry).mono grows
  · exact among entry new property inEntry

theorem isClosed_standardSchemas : standardSchemas.IsClosed :=
  fun entry member property inEntry =>
    (refersWithin_standardSchemas entry member property inEntry).namesAmong

/-! ## Registration -/

/-- The schemas of a table refer to each other, and to what its fields refer to. -/
theorem ResolvedTable.namesAmong_recordSchemas {table : ResolvedTable} {names : RecordNames}
    {keys : List String} (fields : table.NamesAmong keys) (own : names.toList ⊆ keys) :
    ∀ entry ∈ table.recordSchemas names, ∀ property ∈ entry.2.properties.entries,
      property.2.NamesAmong keys := by
  apply forall_recordSchemas fun fragment => fragment.NamesAmong keys
  · exact fields
  · exact Fragment.namesAmong_scalar .string keys
  · exact Fragment.namesAmong_component (own (by simp [RecordNames.toList]))
  · exact Fragment.namesAmong_component (own (by simp [RecordNames.toList]))

theorem ResolvedTable.keys_subset_register (table : ResolvedTable)
    (schemas : OrderedMap ObjectSchema) : schemas.keys ⊆ (table.register schemas).2.keys := by
  rw [table.keys_register]
  exact List.subset_append_left _ _

/-- A registration keeps a map closed. -/
theorem ResolvedTable.isClosed_register {table : ResolvedTable}
    {schemas : OrderedMap ObjectSchema} (closed : schemas.IsClosed)
    (fields : table.NamesAmong schemas.keys) : (table.register schemas).2.IsClosed := by
  apply closed.of_append (table.entries_register schemas)
  apply namesAmong_recordSchemas
  · intro field member
    exact (fields field member).mono (table.keys_subset_register schemas)
  · rw [table.keys_register]
    exact List.subset_append_right _ _

/-- A registration appends five schemas to any map, under names that are distinct and that the map
did not have: those that are returned, the fields that are read and written first, then the record
and the bodies. What was there keeps its key, its schema and its place. If the map and the fields of
the table refer to no component schemas but those of the map, the map that results is closed. -/
theorem ResolvedTable.register_appends (table : ResolvedTable)
    (schemas : OrderedMap ObjectSchema) :
    ∃ names grown, table.register schemas = (names, grown) ∧
      grown.entries = schemas.entries ++ table.recordSchemas names ∧
      Entries.keys (table.recordSchemas names) =
        [names.readFields, names.writeFields, names.read, names.readRequestBody,
          names.writeRequestBody] ∧
      (Entries.keys (table.recordSchemas names)).Nodup ∧
      (∀ key ∈ Entries.keys (table.recordSchemas names), key ∉ schemas.keys) ∧
      (∀ key ∈ schemas.keys, grown.get? key = schemas.get? key) ∧
      (schemas.IsClosed → table.NamesAmong schemas.keys → grown.IsClosed) := by
  have entries := table.entries_register schemas
  obtain ⟨-, distinct, apart⟩ := List.nodup_append.mp (table.nodup_keys_register schemas)
  refine ⟨_, _, rfl, entries, rfl, distinct, ?_, ?_, isClosed_register⟩
  · intro key new present
    exact apart key present key new rfl
  · intro key present
    exact OrderedMap.get?_of_append entries present

-- Without the record of a table, its other schemas still take the names.
example :
    let table : ResolvedTable := { name := "A", identifier := "A", fields := [] }
    (table.register ((table.register .empty).2.erase "ReadA")).2.keys =
      ["ReadAFields", "WriteAFields", "ReadARequestBody", "WriteARequestBody", "ReadA2Fields",
        "WriteA2Fields", "ReadA2", "ReadA2RequestBody", "WriteA2RequestBody"] := by
  decide

/-! ## A run over the tables -/

/-- A run keeps the schemas closed if the fields of its tables refer to what was there before it. -/
theorem isClosed_foldl_add (method : UpdateMethod) {assembly : Assembly}
    {tables : List ResolvedTable} (closed : assembly.schemas.IsClosed)
    (fields : ∀ table ∈ tables, table.NamesAmong assembly.schemas.keys) :
    (tables.foldl (Assembly.add method) assembly).schemas.IsClosed := by
  induction tables generalizing assembly with
  | nil => exact closed
  | cons table rest ih =>
      rw [List.forall_mem_cons] at fields
      rw [List.foldl_cons]
      apply ih
      · exact ResolvedTable.isClosed_register closed fields.1
      · -- The tables to come may refer to what the first one has added, too.
        intro later member field inTable
        exact (fields.2 later member field inTable).mono (table.keys_subset_register _)

/-- The schemas of a document are closed, whatever the tables are called, if the fields refer to
shared schemas only. -/
theorem ResolvedBase.isClosed_schemas_document (base : ResolvedBase) (options : DocumentOptions)
    (fields : ∀ table ∈ base.tables, table.NamesAmong standardSchemas.keys) :
    (base.document options).components.schemas.IsClosed :=
  isClosed_foldl_add options.updateMethod isClosed_standardSchemas fields

end BaseApi

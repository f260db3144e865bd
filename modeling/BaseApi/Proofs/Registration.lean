import Mathlib
import BaseApi.Document.Assembly
import BaseApi.Proofs.FreeNames
import BaseApi.Proofs.Insertion

/-!
# Registration of tables

One registration appends five schemas under names that no schema has (`entries_register`). A run
over the tables of a base does so table after table, so the document lists the shared schemas and
then the schemas of each table in turn (`schemas_foldl_add`), and what a table has registered stays
as it is until the end (`ResolvedTable.storedUnder_of_subset`).
-/

namespace BaseApi

/-! ## One registration -/

theorem ResolvedTable.keys_recordSchemas (table : ResolvedTable) (names : RecordNames) :
    Entries.keys (table.recordSchemas names) = names.toList := rfl

theorem ResolvedTable.snd_register (table : ResolvedTable) (schemas : OrderedMap ObjectSchema) :
    (table.register schemas).2 =
      schemas.insertAll (table.recordSchemas (table.register schemas).1) := rfl

/-- The names of a table are new when it is registered. -/
theorem ResolvedTable.nodup_keys_register (table : ResolvedTable)
    (schemas : OrderedMap ObjectSchema) :
    (schemas.keys ++ (table.register schemas).1.toList).Nodup := by
  have free := RecordNames.areFree_iff.mp
    (RecordNames.areFree_firstFree schemas table.identifier)
  refine List.nodup_append.mpr ⟨schemas.nodup_keys, RecordNames.nodup_toList _, ?_⟩
  intro key present name member same
  exact free name member (same ▸ present)

/-- A registration appends the schemas of the table and changes nothing else. -/
theorem ResolvedTable.entries_register (table : ResolvedTable)
    (schemas : OrderedMap ObjectSchema) :
    (table.register schemas).2.entries =
      schemas.entries ++ table.recordSchemas (table.register schemas).1 := by
  rw [snd_register]
  apply OrderedMap.entries_insertAll
  rw [keys_recordSchemas]
  exact table.nodup_keys_register schemas

/-! ## A run over the tables -/

/-- The tables, each with the names under which it is registered if `schemas` are there before the
first. -/
def registrations (schemas : OrderedMap ObjectSchema) :
    List ResolvedTable → List (ResolvedTable × RecordNames)
  | [] => []
  | table :: rest =>
      let (names, registered) := table.register schemas
      (table, names) :: registrations registered rest

/-- The tables of a base, each with the names under which its document registers it. -/
def ResolvedBase.registered (base : ResolvedBase) : List (ResolvedTable × RecordNames) :=
  registrations standardSchemas base.tables

theorem map_fst_registrations (schemas : OrderedMap ObjectSchema) (tables : List ResolvedTable) :
    (registrations schemas tables).map Prod.fst = tables := by
  induction tables generalizing schemas with
  | nil => rfl
  | cons table rest ih => simp [registrations, ih]

/-- A run appends the schemas of each table in turn. -/
theorem schemas_foldl_add (method : UpdateMethod) (assembly : Assembly)
    (tables : List ResolvedTable) :
    (tables.foldl (Assembly.add method) assembly).schemas.entries =
      assembly.schemas.entries ++
        (registrations assembly.schemas tables).flatMap fun entry =>
          entry.1.recordSchemas entry.2 := by
  induction tables generalizing assembly with
  | nil => simp [registrations]
  | cons table rest ih =>
      have step : (assembly.add method table).schemas = (table.register assembly.schemas).2 := rfl
      rw [List.foldl_cons, ih, step, table.entries_register, List.append_assoc]
      rfl

/-! ## The schemas of a document -/

variable (base : ResolvedBase) (options : DocumentOptions)

theorem ResolvedBase.map_fst_registered : base.registered.map Prod.fst = base.tables :=
  map_fst_registrations standardSchemas base.tables

theorem ResolvedBase.mem_tables_of_mem_registered {base : ResolvedBase}
    {entry : ResolvedTable × RecordNames} (member : entry ∈ base.registered) :
    entry.1 ∈ base.tables := by
  rw [← base.map_fst_registered]
  exact List.mem_map_of_mem member

theorem ResolvedBase.length_registered : base.registered.length = base.tables.length := by
  rw [← base.map_fst_registered, List.length_map]

theorem ResolvedBase.entries_schemas_document :
    (base.document options).components.schemas.entries =
      standardSchemas.entries ++
        base.registered.flatMap fun entry => entry.1.recordSchemas entry.2 :=
  schemas_foldl_add options.updateMethod .start base.tables

theorem ResolvedBase.keys_schemas_document :
    (base.document options).components.schemas.keys =
      standardSchemas.keys ++ base.registered.flatMap fun entry => entry.2.toList := by
  rw [OrderedMap.keys, base.entries_schemas_document options, Entries.keys_append]
  simp only [Entries.keys, List.map_flatMap, OrderedMap.keys]
  rfl

/-- No two tables of a base are registered under the same names. -/
theorem ResolvedBase.pairwise_ne_registered :
    base.registered.Pairwise fun left right => left.2 ≠ right.2 := by
  -- The schemas of a document are under distinct names, whatever its options are.
  have nodup := (base.document {}).components.schemas.nodup_keys
  rw [← OrderedMap.keys, base.keys_schemas_document] at nodup
  have apart := (List.nodup_flatMap.mp (List.nodup_append.mp nodup).2.1).2
  refine apart.imp ?_
  intro left right disjoint same
  have first : left.2.readFields ∈ left.2.toList := List.mem_cons_self
  exact disjoint first (same ▸ first)

theorem ResolvedBase.nodup_identifiers_registered :
    (base.registered.map fun entry => entry.2.identifier).Nodup := by
  refine List.pairwise_map.mpr (base.pairwise_ne_registered.imp ?_)
  intro left right distinct same
  exact distinct (congrArg RecordNames.mk same)

/-- What `schemas` holds of a table that is registered under `names`: the schemas made of its own
fields, and the record and the bodies that refer to them. -/
structure ResolvedTable.StoredUnder (table : ResolvedTable) (names : RecordNames)
    (schemas : OrderedMap ObjectSchema) : Prop where
  readFields : schemas.get? names.readFields =
    some (.ofProperties (table.fields.map ResolvedField.property))
  writeFields : schemas.get? names.writeFields =
    some (.ofProperties (table.writable.map ResolvedField.property))
  read : (schemas.get? names.read).bind (·.properties.get? "fields") =
    some (.component names.readFields)
  readRequestBody : (schemas.get? names.readRequestBody).bind (·.properties.get? "fields") =
    some (.component names.readFields)
  writeRequestBody : (schemas.get? names.writeRequestBody).bind (·.properties.get? "fields") =
    some (.component names.writeFields)

theorem ResolvedTable.storedUnder_of_subset {table : ResolvedTable} {names : RecordNames}
    {schemas : OrderedMap ObjectSchema}
    (stored : table.recordSchemas names ⊆ schemas.entries) : table.StoredUnder names schemas := by
  have found : ∀ entry ∈ table.recordSchemas names, schemas.get? entry.1 = some entry.2 :=
    fun entry member => OrderedMap.get?_of_mem (stored member)
  simp only [recordSchemas, List.forall_mem_cons] at found
  obtain ⟨readFields, writeFields, read, readRequestBody, writeRequestBody, -⟩ := found
  refine ⟨readFields, writeFields, ?_, ?_, ?_⟩
  · rw [read]
    rfl
  · rw [readRequestBody]
    rfl
  · rw [writeRequestBody]
    rfl

/-- The document of a base holds every table under the names of its registration. -/
theorem ResolvedBase.storedUnder_of_mem_registered {entry : ResolvedTable × RecordNames}
    (member : entry ∈ base.registered) :
    entry.1.StoredUnder entry.2 (base.document options).components.schemas := by
  apply ResolvedTable.storedUnder_of_subset
  intro stored inTable
  rw [base.entries_schemas_document options]
  exact List.mem_append_right _ (List.mem_flatMap.mpr ⟨entry, member, inTable⟩)

/-- The schemas of a document are the shared ones and then five for each table, in the order of the
tables. No table changes a schema that was there before it. -/
theorem ResolvedBase.schemas_document :
    (base.document options).components.schemas.size = 4 + 5 * base.tables.length ∧
      base.registered.map Prod.fst = base.tables ∧
      (base.document options).components.schemas.keys =
        [ComponentName.thumbnail, ComponentName.thumbnails, ComponentName.attachment,
          ComponentName.deleted] ++ base.registered.flatMap (fun entry => entry.2.toList) ∧
      (base.document options).components.schemas.entries = standardSchemas.entries ++
        base.registered.flatMap (fun entry => entry.1.recordSchemas entry.2) ∧
      (∀ key ∈ standardSchemas.keys,
        (base.document options).components.schemas.get? key = standardSchemas.get? key) ∧
      ∀ entry ∈ base.registered,
        entry.1.StoredUnder entry.2 (base.document options).components.schemas := by
  have entries := base.entries_schemas_document options
  refine ⟨?_, base.map_fst_registered, base.keys_schemas_document options, entries, ?_,
    fun entry member => base.storedUnder_of_mem_registered options member⟩
  · have shared : standardSchemas.keys.length = 4 := rfl
    rw [← OrderedMap.length_keys, base.keys_schemas_document options, List.length_append, shared,
      ← base.length_registered]
    simp [List.length_flatMap, Nat.mul_comm]
  · intro key present
    exact OrderedMap.get?_of_append entries present

end BaseApi

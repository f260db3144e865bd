import BaseApi.Proofs.Command.AllOrNothing
import BaseApi.Proofs.FieldProperties
import BaseApi.Proofs.FieldShape

/-!
# Inspections and conversions of one schema file

An inspection and a conversion that prints a document start from the same base, which is in the
schema file, or from the same report of why there is none (`FileTree.baseAt`). So they accept the
same files and complain alike about all others. What an inspection lists of the tables of a schema
is what the document has of them: an entry for every five schemas after the shared ones, in their
order, with as many fields as there are properties if the names of the columns differ
(`BaseSchema.ListsAs`). Main statement: `inspection_agrees_conversion`.
-/

namespace BaseApi

/-! ## The base in a schema file -/

/-- The base in the schema file at a path, or the report of why there is none. -/
def FileTree.baseAt (tree : FileTree) (path : String) : Except Report ResolvedBase :=
  match tree.readText path with
  | .error error => .error (unreadable path error)
  | .ok text =>
      match schemaValue path text with
      | .error report => .error report
      | .ok value => resolvedBaseOf value

/-- The file at a path is there, it is text, the text is a JSON value, and the value is the
schema. -/
def FileTree.HoldsSchema (tree : FileTree) (path : String) (schema : BaseSchema) : Prop :=
  ∃ text value, tree.readText path = .ok text ∧ Json.parse text = .ok value ∧
    BaseSchema.loadJson value = .ok schema

theorem FileTree.baseAt_eq_ok_iff {tree : FileTree} {path : String} {base : ResolvedBase} :
    tree.baseAt path = .ok base ↔
      ∃ schema, tree.HoldsSchema path schema ∧ schema.resolve = .ok base := by
  unfold baseAt HoldsSchema
  constructor
  · intro found
    split at found
    · cases found
    · next text read =>
        split at found
        · cases found
        · next value parsed =>
            obtain ⟨schema, loaded, resolved⟩ := resolvedBaseOf_eq_ok_iff.mp found
            exact ⟨schema, ⟨text, value, read, schemaValue_eq_ok_iff.mp parsed, loaded⟩, resolved⟩
  · rintro ⟨schema, ⟨text, value, read, parsed, loaded⟩, resolved⟩
    rw [read]
    dsimp only
    rw [schemaValue_eq_ok_iff.mpr parsed]
    exact resolvedBaseOf_eq_ok_iff.mpr ⟨schema, loaded, resolved⟩

/-! ## What the two commands make of it -/

/-- The outcome of a run that prints a text made of a value, or reports why there is no value. What
comes on the error stream before that is the same in both cases. -/
def Outcome.ofResult {α : Type} (opening : String) (printed status : α → String) :
    Except Report α → Outcome
  | .error report => .failed opening report
  | .ok value => { stdout := printed value, stderr := opening ++ status value }

theorem Outcome.exit_ofResult_eq_zero_iff {α : Type} {opening : String}
    {printed status : α → String} {result : Except Report α} :
    (Outcome.ofResult opening printed status result).exit = 0 ↔ ∃ value, result = .ok value := by
  cases result with
  | error report => simp [ofResult, exit_failed_ne_zero]
  | ok value => simp [ofResult]

/-- The first status lines of an inspection. -/
def inspectOpening (path : String) (isVerbose : Bool) : String :=
  verboseLine isVerbose ++ announce ("Parsing Airtable schema: " ++ path)

theorem inspectOnTree_eq_ofResult (path : String) (isVerbose : Bool) (tree : FileTree) :
    inspectOnTree path isVerbose tree =
      (.ofResult (inspectOpening path isVerbose)
        (fun base => "\n✓ Parse successful!\n" ++ base.summary isVerbose) (fun _ => "")
        (tree.baseAt path), tree) := by
  rw [inspectOnTree_eq, FileTree.baseAt]
  cases tree.readText path with
  | error error => rfl
  | ok text =>
      dsimp only
      rw [inspection]
      cases schemaValue path text with
      | error report => rfl
      | ok value =>
          dsimp only
          cases resolvedBaseOf value with
          | error report => rfl
          | ok base => simp only [Outcome.ofResult, inspectOpening, String.append_empty]

/-- The conversion that prints the document of a schema file. -/
def printRequest (path : String) (method : UpdateMethod) (isCompact : Bool) : ConvertRequest :=
  { schema := path, updateMethod := method, isCompact }

theorem onTree_printRequest_eq_ofResult (path : String) (method : UpdateMethod)
    (isCompact isVerbose : Bool) (tree : FileTree) :
    (printRequest path method isCompact).onTree isVerbose tree =
      (.ofResult ((printRequest path method isCompact).opening isVerbose)
        (fun base => base.documentText { updateMethod := method } (!isCompact) ++ "\n")
        (fun base => resolvedLines isVerbose method base ++ confirm "Conversion complete!")
        (tree.baseAt path), tree) := by
  have schema : (printRequest path method isCompact).schema = path := rfl
  have format : (printRequest path method isCompact).format = .openApi := rfl
  have output : (printRequest path method isCompact).output = none := rfl
  rw [ConvertRequest.onTree_eq, FileTree.baseAt, schema]
  cases tree.readText path with
  | error error => rfl
  | ok text =>
      dsimp only
      rw [ConvertRequest.converted, schema, format, output]
      cases schemaValue path text with
      | error report => simp only [Outcome.ofResult, String.append_empty]
      | ok value =>
          dsimp only
          cases resolvedBaseOf value with
          | error report => simp only [Outcome.ofResult, String.append_empty]
          | ok base =>
              simp only [Outcome.ofResult, String.append_assoc]
              rfl

/-! ## Columns and their fields -/

/-- The columns that may be written. -/
def Table.writable (table : Table) : List Column :=
  table.columns.filter fun column => !column.isReadOnly

section Fields

variable {columns : List Column} {fields : List ResolvedField}
  (resolved : List.Forall₂ (fun column field => column.toField = .ok field) columns fields)

include resolved

theorem Column.map_name_of_toField :
    fields.map ResolvedField.name = columns.map Column.name := by
  induction resolved with
  | nil => rfl
  | cons first _ ih =>
      obtain ⟨fragment, -, rfl⟩ := Column.toField_eq_ok_iff.mp first
      rw [List.map_cons, List.map_cons, ih]

theorem Column.map_name_of_toField_filter :
    (fields.filter fun field => !field.readOnly).map ResolvedField.name =
      (columns.filter fun column => !column.isReadOnly).map Column.name := by
  induction resolved with
  | nil => rfl
  | @cons column field _ _ first _ ih =>
      obtain ⟨fragment, -, rfl⟩ := Column.toField_eq_ok_iff.mp first
      rw [List.filter_cons, List.filter_cons]
      cases column.isReadOnly with
      | true => exact ih
      | false => exact congrArg (column.name :: ·) ih

end Fields

/-! ## Listings -/

/-- The entry of a table in a listing. -/
def tableEntry (name identifier : String) (fieldCount writableCount : Nat) (details : String) :
    String :=
  "  • " ++ name ++ " (" ++ identifier ++ ") fields: " ++ toString fieldCount ++ ", writable: " ++
    toString writableCount ++ "\n" ++ details

/-- A table of a schema, what it resolves to, and the names that its schemas have in a document. -/
structure ListedTable where
  table : Table
  resolved : ResolvedTable
  names : RecordNames

namespace ListedTable

/-- How many fields are printed for the table. -/
def fieldCount (listed : ListedTable) : Nat := listed.table.columns.length

/-- How many of them are said to be writable. -/
def writableCount (listed : ListedTable) : Nat := listed.table.writable.length

/-- A line for each field, if more lines are asked for. -/
def details (isVerbose : Bool) (listed : ListedTable) : String :=
  if isVerbose then String.join (listed.resolved.fields.map ResolvedField.summary) else ""

/-- What is printed of the table. -/
def text (isVerbose : Bool) (listed : ListedTable) : String :=
  tableEntry listed.table.name (sanitize listed.table.name) listed.fieldCount listed.writableCount
    (listed.details isVerbose)

/-- The schemas under the names of the table are its own, and its columns are counted in them. -/
structure Describes (listed : ListedTable) (schemas : OrderedMap ObjectSchema) : Prop where
  resolves : listed.table.resolve = .ok listed.resolved
  stored : listed.resolved.StoredUnder listed.names schemas
  /-- All columns are properties where the table is read, and the writable ones where it is
  written, one by one if no two columns have the same name. -/
  counted : ∃ read write, schemas.get? listed.names.readFields = some read ∧
    schemas.get? listed.names.writeFields = some write ∧
    ((listed.table.columns.map Column.name).Nodup ↔ read.properties.size = listed.fieldCount) ∧
    ((listed.table.columns.map Column.name).Nodup → write.properties.size = listed.writableCount)

theorem exists_listed {tables : List Table}
    {registered : List (ResolvedTable × RecordNames)}
    (resolves : List.Forall₂ (fun table resolved => table.resolve = .ok resolved) tables
      (registered.map Prod.fst)) :
    ∃ listed : List ListedTable, listed.map ListedTable.table = tables ∧
      listed.map (fun entry => (entry.resolved, entry.names)) = registered ∧
      ∀ entry ∈ listed, entry.table.resolve = .ok entry.resolved := by
  rw [List.forall₂_map_right_iff] at resolves
  induction resolves with
  | nil => exact ⟨[], rfl, rfl, List.forall_mem_nil _⟩
  | @cons table entry tables registered first _ ih =>
      obtain ⟨listed, ofTables, ofEntries, each⟩ := ih
      refine ⟨⟨table, entry.1, entry.2⟩ :: listed, ?_, ?_, List.forall_mem_cons.mpr ⟨first, each⟩⟩
      · rw [List.map_cons, ofTables]
      · rw [List.map_cons, ofEntries]

section Resolved

variable {listed : ListedTable} (resolves : listed.table.resolve = .ok listed.resolved)

include resolves

theorem map_name_fields :
    listed.resolved.fields.map ResolvedField.name = listed.table.columns.map Column.name :=
  Column.map_name_of_toField (Table.resolve_eq_ok_iff.mp resolves).2.2

theorem map_name_writable :
    listed.resolved.writable.map ResolvedField.name = listed.table.writable.map Column.name :=
  Column.map_name_of_toField_filter (Table.resolve_eq_ok_iff.mp resolves).2.2

theorem length_fields : listed.resolved.fields.length = listed.fieldCount := by
  simpa [fieldCount] using congrArg List.length (map_name_fields resolves)

theorem length_writable : listed.resolved.writable.length = listed.writableCount := by
  simpa [writableCount] using congrArg List.length (map_name_writable resolves)

/-- The entry has the name of the table and the numbers of its columns in it. -/
theorem summary_eq_text (isVerbose : Bool) :
    listed.resolved.summary isVerbose = listed.text isVerbose := by
  obtain ⟨name, identifier, -⟩ := Table.resolve_eq_ok_iff.mp resolves
  have printed : listed.resolved.summary isVerbose =
      tableEntry listed.resolved.name listed.resolved.identifier listed.resolved.fields.length
        listed.resolved.writable.length (listed.details isVerbose) := rfl
  rw [printed, name, identifier, length_fields resolves, length_writable resolves]
  rfl

theorem describes_of_storedUnder {schemas : OrderedMap ObjectSchema}
    (stored : listed.resolved.StoredUnder listed.names schemas) : listed.Describes schemas := by
  refine ⟨resolves, stored, _, _, stored.readFields, stored.writeFields, ?_, ?_⟩
  · rw [← length_fields resolves, ← map_name_fields resolves]
    exact ObjectSchema.size_ofProperties_eq_iff.symm
  · intro distinct
    rw [← map_name_fields resolves] at distinct
    rw [← length_writable resolves]
    exact ObjectSchema.size_ofProperties_eq_iff.mpr (ResolvedTable.nodup_writable distinct)

end Resolved

end ListedTable

/-- What is printed of a base. -/
def baseEntry (name id : String) (tableCount : Nat) (entries : String) : String :=
  "\nBase:\n  Name: " ++ name ++ "\n  Id: " ++ id ++ "\n  Tables: " ++ toString tableCount ++
    "\n\nTables:\n" ++ entries

namespace BaseSchema

variable {schema : BaseSchema} {base : ResolvedBase} {listed : List ListedTable}

/-- What an inspection prints of a schema: its name and identifier, the number of its tables, and
an entry for each table. -/
def listing (schema : BaseSchema) (isVerbose : Bool) (listed : List ListedTable) : String :=
  "\n✓ Parse successful!\n" ++ baseEntry schema.name schema.id listed.length
    (String.join (listed.map (ListedTable.text isVerbose)))

/-- The tables of a schema are listed one by one, in the order in which a document has the five
schemas of each. -/
structure ListsAs (schema : BaseSchema) (document : Document) (listed : List ListedTable) :
    Prop where
  tables : listed.map ListedTable.table = schema.tables
  keys : document.components.schemas.keys =
    standardSchemas.keys ++ listed.flatMap fun entry => entry.names.toList
  size : 4 + 5 * listed.length = document.components.schemas.size
  describes : ∀ entry ∈ listed, entry.Describes document.components.schemas

section Resolved

variable (entries : listed.map (fun entry => (entry.resolved, entry.names)) = base.registered)
  (each : ∀ entry ∈ listed, entry.table.resolve = .ok entry.resolved)

include entries each

theorem summary_eq_listing (resolved : schema.resolve = .ok base) (isVerbose : Bool) :
    "\n✓ Parse successful!\n" ++ base.summary isVerbose = schema.listing isVerbose listed := by
  obtain ⟨id, name, -⟩ := resolve_eq_ok_iff.mp resolved
  have tables : base.tables = listed.map ListedTable.resolved := by
    rw [← base.map_fst_registered, ← entries, List.map_map]
    rfl
  have texts : base.tables.map (ResolvedTable.summary isVerbose) =
      listed.map (ListedTable.text isVerbose) := by
    rw [tables, List.map_map]
    apply List.map_congr_left
    intro entry member
    exact ListedTable.summary_eq_text (each entry member) isVerbose
  have printed : base.summary isVerbose = baseEntry base.name base.id base.tables.length
      (String.join (base.tables.map (ResolvedTable.summary isVerbose))) := rfl
  rw [printed, texts, id, name, tables, List.length_map]
  rfl

theorem listsAs_document (tables : listed.map ListedTable.table = schema.tables)
    (options : DocumentOptions) : schema.ListsAs (base.document options) listed := by
  have keys : (base.document options).components.schemas.keys =
      standardSchemas.keys ++ listed.flatMap fun entry => entry.names.toList := by
    rw [base.keys_schemas_document options, ← entries, List.flatMap_map]
  refine ⟨tables, keys, ?_, ?_⟩
  · have shared : standardSchemas.keys.length = 4 := rfl
    rw [← OrderedMap.length_keys, keys, List.length_append, shared]
    simp [List.length_flatMap, Nat.mul_comm]
  · intro entry member
    have registered : (entry.resolved, entry.names) ∈ base.registered := by
      rw [← entries]
      exact List.mem_map_of_mem member
    exact ListedTable.describes_of_storedUnder (each entry member)
      (base.storedUnder_of_mem_registered options registered)

end Resolved

end BaseSchema

/-! ## Verdicts -/

/-- There is a base in a file exactly if the file holds a schema that has a document. -/
theorem FileTree.exists_baseAt_iff {tree : FileTree} {path : String} {options : DocumentOptions} :
    (∃ base, tree.baseAt path = .ok base) ↔
      ∃ schema document, tree.HoldsSchema path schema ∧
        schema.document options = .ok document := by
  simp only [baseAt_eq_ok_iff, BaseSchema.document, Fallible.bind_eq_ok_iff,
    Fallible.pure_eq_ok_iff]
  constructor
  · rintro ⟨base, schema, holds, resolved⟩
    exact ⟨schema, _, holds, base, resolved, rfl⟩
  · rintro ⟨schema, _, holds, base, resolved, -⟩
    exact ⟨base, schema, holds, resolved⟩

/-- An inspection and a conversion that prints a document leave all files alone and accept the same
schema files, namely those that hold a schema with a document. Of any other file both give the same
report after their own status lines. Of a file that they accept, the inspection lists the tables as
the document has their schemas. -/
theorem inspection_agrees_conversion (tree : FileTree) (path : String) (method : UpdateMethod)
    (isCompact isVerbose otherwise : Bool) :
    ∃ inspected converted : Outcome,
      OnTree.outcome (Request.run (.inspect isVerbose path)) tree = (inspected, tree) ∧
      OnTree.outcome (Request.run (.convert otherwise (printRequest path method isCompact))) tree =
        (converted, tree) ∧
      (inspected.exit = 0 ↔ converted.exit = 0) ∧
      (inspected.exit = 0 ↔ ∃ schema document, tree.HoldsSchema path schema ∧
        schema.document { updateMethod := method } = .ok document) ∧
      (inspected.exit ≠ 0 → ∃ report : Report,
        inspected = .failed (inspectOpening path isVerbose) report ∧
        converted = .failed ((printRequest path method isCompact).opening otherwise) report) ∧
      (inspected.exit = 0 → ∃ schema document listed, tree.HoldsSchema path schema ∧
        schema.document { updateMethod := method } = .ok document ∧
        inspected.stdout = schema.listing isVerbose listed ∧
        converted.stdout = Json.write (.choose (!isCompact)) document.toJson ++ "\n" ∧
        schema.ListsAs document listed) := by
  refine ⟨_, _, inspectOnTree_eq_ofResult path isVerbose tree,
    onTree_printRequest_eq_ofResult path method isCompact otherwise tree, ?_, ?_, ?_, ?_⟩
  · rw [Outcome.exit_ofResult_eq_zero_iff, Outcome.exit_ofResult_eq_zero_iff]
  · rw [Outcome.exit_ofResult_eq_zero_iff]
    exact FileTree.exists_baseAt_iff
  · intro refused
    rw [Ne, Outcome.exit_ofResult_eq_zero_iff] at refused
    cases found : tree.baseAt path with
    | error report => exact ⟨report, rfl, rfl⟩
    | ok base => exact absurd ⟨base, found⟩ refused
  · intro accepted
    obtain ⟨base, found⟩ := Outcome.exit_ofResult_eq_zero_iff.mp accepted
    obtain ⟨schema, holds, resolved⟩ := FileTree.baseAt_eq_ok_iff.mp found
    have tables := (BaseSchema.resolve_eq_ok_iff.mp resolved).2.2
    rw [← base.map_fst_registered] at tables
    obtain ⟨listed, ofTables, entries, each⟩ := ListedTable.exists_listed tables
    rw [found]
    refine ⟨schema, base.document { updateMethod := method }, listed, holds, ?_, ?_, rfl,
      BaseSchema.listsAs_document entries each ofTables _⟩
    · rw [BaseSchema.document, resolved]
      rfl
    · exact BaseSchema.summary_eq_listing entries each resolved isVerbose

/-- A schema file with two tables whose names make one identifier. The first table has two columns
of one name. -/
def collidingTree : FileTree where
  entries := [(["base.json"], .file
    r#"["appX", "X", [["A B", [["N", "text"], ["N", "count"]]], ["AB", []]]]"#.toUTF8)]

/-- What is printed of the file of `collidingTree`. -/
def collidingText : String :=
  "\n✓ Parse successful!\n\nBase:\n  Name: X\n  Id: appX\n  Tables: 2\n\nTables:\n" ++
    "  • A B (AB) fields: 2, writable: 1\n" ++ "  • AB (AB) fields: 0, writable: 0\n"

/-- Both commands accept the file, and neither accepts a file that is not there. -/
theorem inspection_agrees_conversion_collidingTree :
    (∃ schema document listed, collidingTree.HoldsSchema "base.json" schema ∧
      schema.document { updateMethod := .put } = .ok document ∧
      collidingText = schema.listing false listed ∧
      (OnTree.outcome (Request.run (.convert true (printRequest "base.json" .put true)))
        collidingTree).1.stdout = document.toJson.compact ++ "\n" ∧
      schema.ListsAs document listed) ∧
    ∃ report : Report,
      (OnTree.outcome (Request.run (.inspect false "none.json")) collidingTree).1 =
        .failed (announce "Parsing Airtable schema: none.json") report ∧
      (OnTree.outcome (Request.run (.convert false (printRequest "none.json" .patch false)))
        collidingTree).1 = .failed (announce "Reading Airtable schema: none.json") report := by
  have printed : (OnTree.outcome (Request.run (.inspect false "base.json")) collidingTree).1.exit =
      0 ∧ (OnTree.outcome (Request.run (.inspect false "base.json")) collidingTree).1.stdout =
        collidingText := by
    decide +kernel
  have missing : (OnTree.outcome (Request.run (.inspect false "none.json"))
      collidingTree).1.exit ≠ 0 := by
    decide +kernel
  constructor
  · obtain ⟨inspected, converted, inspects, converts, -, -, -, lists⟩ :=
      inspection_agrees_conversion collidingTree "base.json" .put true false true
    rw [inspects] at printed
    rw [converts, ← printed.2]
    exact lists printed.1
  · obtain ⟨inspected, converted, inspects, converts, -, -, complains, -⟩ :=
      inspection_agrees_conversion collidingTree "none.json" .patch false false false
    rw [inspects] at missing ⊢
    rw [converts]
    exact complains missing

end BaseApi

import BaseApi.ColumnType.Resolve

/-!
# Resolved bases

A resolved base is a schema whose columns have been resolved: each table has an identifier that is
safe in the names of a document, and each field a fragment. `BaseSchema.resolve` makes it, and stops
at the first column without a type; the failure names the table and the column.
-/

namespace BaseApi

/-! ## Types -/

/-- A resolved column. -/
structure ResolvedField where
  name : String
  schema : Fragment
  /-- The server computes the field, so it cannot be written. -/
  readOnly : Bool
deriving DecidableEq, Inhabited

/-- A resolved table. -/
structure ResolvedTable where
  /-- The name as it stands in addresses. -/
  name : String
  /-- The name as it stands in the names of schemas and operations. -/
  identifier : String
  fields : List ResolvedField
deriving DecidableEq, Inhabited

/-- A resolved base. -/
structure ResolvedBase where
  id : String
  name : String
  tables : List ResolvedTable
deriving DecidableEq, Inhabited

/-- The fields that may be written. -/
def ResolvedTable.writable (table : ResolvedTable) : List ResolvedField :=
  table.fields.filter fun field => !field.readOnly

/-! ## Failures -/

/-- Why no document can be made of a schema. -/
inductive Failure where
  | reading (detail : String)
  | generation (detail : String)
  | column (table : String) (error : ColumnError)
deriving DecidableEq

def Failure.message : Failure → String
  | reading detail => "Parse error: " ++ detail
  | generation detail => "Generation error: " ++ detail
  | column table error => "Table " ++ table ++ ": " ++ error.message

/-! ## Resolution -/

def backtick : Char := '\x60'

/-- The characters that an identifier may not have. -/
def forbiddenInIdentifier : List Char :=
  [';', '/', '?', ':', '@', '=', '&', '"', ' ', '<', '>', '#', '%', '{', '}', '|', '\\', '^',
    '~', '[', ']', backtick]

/-- A name without the characters that an identifier may not have. -/
def sanitize (name : String) : String :=
  String.ofList (name.toList.filter fun c => !forbiddenInIdentifier.contains c)

/-- The field of a column. -/
def Column.toField (column : Column) : Except ColumnError ResolvedField := do
  pure { name := column.name, schema := ← column.resolve, readOnly := column.isReadOnly }

/-- The resolved table; the first column without a type makes it fail. -/
def Table.resolve (table : Table) : Except Failure ResolvedTable :=
  match table.columns.mapM Column.toField with
  | .ok fields => .ok { name := table.name, identifier := sanitize table.name, fields }
  | .error error => .error (.column table.name error)

/-- The resolved base; the first table that fails makes it fail. -/
def BaseSchema.resolve (schema : BaseSchema) : Except Failure ResolvedBase := do
  pure { id := schema.id, name := schema.name, tables := ← schema.tables.mapM Table.resolve }

end BaseApi

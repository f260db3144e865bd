import BaseApi.Json.Record
import BaseApi.Schema.Basic

/-!
# Reading a schema

Each record of a schema is described once, field by field. Names and tags have to be there; lists
may be left out, and an option may be left out or null. Only the number format tells a missing key
from null.
-/

namespace BaseApi

/-- The field, or its key if it is missing. -/
def requireField {α : Type} (key : String) : Option α → Except String α
  | some value => .ok value
  | none => .error key

/-! ## Results -/

/-- A result that is being read. -/
structure ResultDraft where
  tag : Option String := none

def ResultDescriptor.record : Record ResultDraft ResultDescriptor where
  name := "ResultDescriptor"
  blank := {}
  fields := [.slot "type" .text ResultDraft.tag fun draft tag => { draft with tag := some tag }]
  finish draft := do pure { tag := ← requireField "type" draft.tag }

/-! ## Options -/

/-- Options that are being read: each key that has come, with what it held. -/
structure OptionsDraft where
  format : Option (Option String) := none
  relationship : Option (Option String) := none
  resultType : Option (Option String) := none
  result : Option (Option ResultDescriptor) := none

def TypeOptions.record : Record OptionsDraft TypeOptions where
  name := "TypeOptions"
  blank := {}
  fields := [
    .slot "format" (.optional .text) OptionsDraft.format
      fun draft format => { draft with format := some format },
    .slot "relationship" (.optional .text) OptionsDraft.relationship
      fun draft relationship => { draft with relationship := some relationship },
    .slot "resultType" (.optional .text) OptionsDraft.resultType
      fun draft resultType => { draft with resultType := some resultType },
    .slot "result" (.optional ResultDescriptor.record.decoder) OptionsDraft.result
      fun draft result => { draft with result := some result }]
  finish draft := .ok {
    format := draft.format
    relationship := draft.relationship.join
    resultType := draft.resultType.join
    result := draft.result.join }

/-! ## Columns -/

/-- A column that is being read. -/
structure ColumnDraft where
  name : Option String := none
  tag : Option String := none
  typeOptions : Option (Option TypeOptions) := none
  options : Option (Option TypeOptions) := none

def Column.record : Record ColumnDraft Column where
  name := "Column"
  blank := {}
  fields := [
    .slot "name" .text ColumnDraft.name fun draft name => { draft with name := some name },
    .slot "type" .text ColumnDraft.tag fun draft tag => { draft with tag := some tag },
    .slot "typeOptions" (.optional TypeOptions.record.decoder) ColumnDraft.typeOptions
      fun draft typeOptions => { draft with typeOptions := some typeOptions },
    .slot "options" (.optional TypeOptions.record.decoder) ColumnDraft.options
      fun draft options => { draft with options := some options }]
  finish draft := do
    let name ← requireField "name" draft.name
    let tag ← requireField "type" draft.tag
    pure { name, tag, typeOptions := draft.typeOptions.join, options := draft.options.join }

/-! ## Tables -/

/-- A table that is being read. -/
structure TableDraft where
  name : Option String := none
  columns : Option (List Column) := none

def Table.record : Record TableDraft Table where
  name := "Table"
  blank := {}
  fields := [
    .slot "name" .text TableDraft.name fun draft name => { draft with name := some name },
    .slot "fields" (.list Column.record.decoder) TableDraft.columns
      fun draft columns => { draft with columns := some columns }]
  finish draft := do
    pure { name := ← requireField "name" draft.name, columns := draft.columns.getD [] }

/-! ## Bases -/

/-- A schema that is being read. -/
structure SchemaDraft where
  id : Option String := none
  name : Option String := none
  tables : Option (List Table) := none

def BaseSchema.record : Record SchemaDraft BaseSchema where
  name := "AirtableSchema"
  blank := {}
  fields := [
    .slot "id" .text SchemaDraft.id fun draft id => { draft with id := some id },
    .slot "name" .text SchemaDraft.name fun draft name => { draft with name := some name },
    .slot "tables" (.list Table.record.decoder) SchemaDraft.tables
      fun draft tables => { draft with tables := some tables }]
  finish draft := do
    let id ← requireField "id" draft.id
    let name ← requireField "name" draft.name
    pure { id, name, tables := draft.tables.getD [] }

/-! ## Entry points -/

def Column.ofJson : Json → Except ReadError Column := Column.record.decoder.ofJson

def BaseSchema.ofJson : Json → Except ReadError BaseSchema := BaseSchema.record.decoder.ofJson

def BaseSchema.ofText : String → Except ReadError BaseSchema :=
  BaseSchema.record.decoder.decodeText

end BaseApi

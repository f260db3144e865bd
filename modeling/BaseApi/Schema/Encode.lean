import BaseApi.Json.Basic
import BaseApi.Schema.Basic

/-!
# Writing a schema

Fields are written in the order of their declaration. An option that is absent is left out; a number
format that is there but null is written as null.
-/

namespace BaseApi

/-- A text, or null. -/
def Json.textOrNull : Option String → Json
  | some value => .str value
  | none => .null

def ResultDescriptor.toJson (result : ResultDescriptor) : Json := .obj [("type", .str result.tag)]

def TypeOptions.toJson (options : TypeOptions) : Json :=
  .obj (Json.optionalMember "format" (options.format.map Json.textOrNull) ++
    Json.optionalMember "relationship" (options.relationship.map Json.str) ++
    Json.optionalMember "resultType" (options.resultType.map Json.str) ++
    Json.optionalMember "result" (options.result.map ResultDescriptor.toJson))

def Column.toJson (column : Column) : Json :=
  .obj ([("name", .str column.name), ("type", .str column.tag)] ++
    Json.optionalMember "typeOptions" (column.typeOptions.map TypeOptions.toJson) ++
    Json.optionalMember "options" (column.options.map TypeOptions.toJson))

def Table.toJson (table : Table) : Json :=
  .obj [("name", .str table.name), ("fields", .arr (table.columns.map Column.toJson))]

def BaseSchema.toJson (schema : BaseSchema) : Json :=
  .obj [("id", .str schema.id), ("name", .str schema.name),
    ("tables", .arr (schema.tables.map Table.toJson))]

end BaseApi

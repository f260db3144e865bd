import BaseApi.Document.Encode
import BaseApi.Document.Operations
import BaseApi.Json.Printer

/-!
# Generating documents

`ResolvedBase.document` goes through the tables of a base in order: each registers its schemas and
adds its two paths. `BaseSchema.document` resolves a schema first, and gives no document if a column
has no type.
-/

namespace BaseApi

/-- What the tables of a base have contributed so far. -/
structure Assembly where
  schemas : OrderedMap ObjectSchema
  paths : OrderedMap PathItem

/-- Before the first table there are the shared schemas and no paths. -/
def Assembly.start : Assembly := { schemas := standardSchemas, paths := .empty }

/-- Adds a table: its schemas, then the path of its collection, then that of its items. -/
def Assembly.add (method : UpdateMethod) (assembly : Assembly) (table : ResolvedTable) :
    Assembly :=
  let (names, schemas) := table.register assembly.schemas
  { schemas
    paths := (assembly.paths.insert table.collectionAddress names.collectionItem).insert
      table.recordAddress (names.recordItem method) }

def openApiVersion : String := "3.0.0"

def ResolvedBase.document (base : ResolvedBase) (options : DocumentOptions) : Document :=
  let assembly := base.tables.foldl (Assembly.add options.updateMethod) .start
  { openapi := openApiVersion
    info := { title := "Airtable API for " ++ base.name, version := options.apiVersion }
    servers := [options.baseAddress base.id]
    components := { schemas := assembly.schemas, securitySchemes := standardSecurity }
    paths := assembly.paths }

/-- The document of a schema, if all of its columns have a type. -/
def BaseSchema.document (schema : BaseSchema) (options : DocumentOptions) :
    Except Failure Document := do
  pure ((← schema.resolve).document options)

/-- The layout of a text: with one entry a line, or without blanks. -/
def Json.Layout.choose (isPretty : Bool) : Json.Layout := if isPretty then .pretty else .compact

def ResolvedBase.documentText (base : ResolvedBase) (options : DocumentOptions)
    (isPretty : Bool) : String :=
  Json.write (.choose isPretty) (base.document options).toJson

end BaseApi

import BaseApi.ResolvedBase
import BaseApi.Document.Basic

/-!
# Schemas of records

A document starts with the schemas that all bases share, and every table adds five: the fields that
are read and written, the record that is read, and the bodies that carry either. Their names are
built from the identifier of the table. If one of them is taken, the identifier gets a number, so no
schema is ever overwritten.
-/

namespace BaseApi

/-! ## Schemas of every document -/

/-- The schemas that every document starts with. -/
def standardSchemas : OrderedMap ObjectSchema :=
  .ofList [
    (ComponentName.thumbnail,
      (ObjectSchema.ofProperties
        [("url", .string), ("width", .integer), ("height", .integer)]).require
        ["url", "width", "height"]),
    (ComponentName.thumbnails,
      (ObjectSchema.ofProperties
        [("large", .component ComponentName.thumbnail),
          ("small", .component ComponentName.thumbnail)]).require
        ["large", "small"]),
    (ComponentName.attachment,
      (ObjectSchema.ofProperties
        [("id", .string), ("size", .integer), ("url", .string), ("type", .string),
          ("filename", .string), ("thumbnails", .component ComponentName.thumbnails)]).require
        ["id", "size", "url", "type", "filename"]),
    (ComponentName.deleted,
      (ObjectSchema.ofProperties [("id", .string), ("deleted", .boolean)]).require
        ["id", "deleted"])]

/-- The name of the scheme that authorizes requests by a bearer token. -/
def bearerAuth : String := "BearerAuth"

/-- The security schemes of every document. -/
def standardSecurity : OrderedMap SecurityScheme :=
  .ofList [(bearerAuth, { type := "http", scheme := "bearer" })]

/-! ## Names -/

/-- The names of the schemas of a table, which are built from one identifier. -/
structure RecordNames where
  identifier : String
deriving DecidableEq, Inhabited

namespace RecordNames

def readFields (names : RecordNames) : String := "Read" ++ names.identifier ++ "Fields"

def writeFields (names : RecordNames) : String := "Write" ++ names.identifier ++ "Fields"

def read (names : RecordNames) : String := "Read" ++ names.identifier

/-- The body that carries fields that are read. -/
def readRequestBody (names : RecordNames) : String := "Read" ++ names.identifier ++ "RequestBody"

/-- The body that carries fields that are written. -/
def writeRequestBody (names : RecordNames) : String := "Write" ++ names.identifier ++ "RequestBody"

/-- The five names, in the order of registration. -/
def toList (names : RecordNames) : List String :=
  [names.readFields, names.writeFields, names.read, names.readRequestBody, names.writeRequestBody]

/-- The identifier that is tried after `attempt` others: the plain one, then the one followed by
2, 3, and so on. -/
def candidate (identifier : String) : Nat → RecordNames
  | 0 => { identifier }
  | attempt + 1 => { identifier := identifier ++ toString (attempt + 2) }

/-- Whether no schema has one of the names. -/
def areFree (names : RecordNames) (schemas : OrderedMap ObjectSchema) : Bool :=
  names.toList.all fun name => !schemas.contains name

/-- The first candidate whose names are free. A schema takes a name of one candidate at most, so one
of the first `schemas.size + 1` candidates is free. -/
def firstFree (schemas : OrderedMap ObjectSchema) (identifier : String) : RecordNames :=
  match (List.range (schemas.size + 1)).find? fun attempt =>
    (candidate identifier attempt).areFree schemas with
  | some attempt => candidate identifier attempt
  | none => candidate identifier (schemas.size + 1)

end RecordNames

/-! ## Registration -/

/-- The property of a field. -/
def ResolvedField.property (field : ResolvedField) : String × Fragment :=
  (field.name, field.schema)

/-- The five schemas of a table under their names. -/
def ResolvedTable.recordSchemas (table : ResolvedTable) (names : RecordNames) :
    Entries ObjectSchema :=
  [(names.readFields, .ofProperties (table.fields.map ResolvedField.property)),
    (names.writeFields, .ofProperties (table.writable.map ResolvedField.property)),
    (names.read, .ofProperties [("id", .string), ("createdTime", .string),
      ("fields", .component names.readFields)]),
    (names.readRequestBody, .ofProperties [("fields", .component names.readFields)]),
    (names.writeRequestBody, .ofProperties [("fields", .component names.writeFields)])]

/-- Adds the schemas of a table under names that are free; gives the names with the schemas. -/
def ResolvedTable.register (table : ResolvedTable) (schemas : OrderedMap ObjectSchema) :
    RecordNames × OrderedMap ObjectSchema :=
  let names := RecordNames.firstFree schemas table.identifier
  (names, (table.recordSchemas names).foldl (fun map entry => map.insert entry.1 entry.2) schemas)

end BaseApi

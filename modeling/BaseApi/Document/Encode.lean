import BaseApi.Document.Basic

/-!
# Writing a document

Members come in a fixed order. Required properties, parameters, a request body and methods are left
out where there are none.
-/

namespace BaseApi

def Json.ofEntries {α : Type} (toJson : α → Json) (entries : Entries α) : Json :=
  .obj (entries.map fun entry => (entry.1, toJson entry.2))

def Json.ofTexts (texts : List String) : Json := .arr (texts.map Json.str)

/-- The members of an object for a list that is left out when it is empty. -/
def Json.listMember {α : Type} (key : String) (toJson : α → Json) (items : List α) :
    List (String × Json) :=
  if items.isEmpty then [] else [(key, .arr (items.map toJson))]

def ObjectSchema.toJson (schema : ObjectSchema) : Json :=
  .obj (Json.listMember "required" Json.str schema.required ++
    [("properties", Json.ofEntries Fragment.toJson schema.properties.entries)])

def SecurityScheme.toJson (scheme : SecurityScheme) : Json :=
  .obj [("type", .str scheme.type), ("scheme", .str scheme.scheme)]

def ParameterLocation.name : ParameterLocation → String
  | query => "query"
  | path => "path"

def Parameter.toJson (parameter : Parameter) : Json :=
  .obj [("name", .str parameter.name), ("in", .str parameter.location.name),
    ("required", .bool parameter.required), ("schema", parameter.schema.toJson)]

def contentToJson (schema : Fragment) : Json := .obj [("schema", schema.toJson)]

def RequestBody.toJson (body : RequestBody) : Json :=
  .obj [("required", .bool body.required), ("content", Json.ofEntries contentToJson body.content)]

def Response.toJson (response : Response) : Json :=
  .obj [("description", .str response.description),
    ("content", Json.ofEntries contentToJson response.content)]

def Operation.toJson (operation : Operation) : Json :=
  .obj ([("operationId", .str operation.operationId),
      ("security", .arr (operation.security.map (Json.ofEntries Json.ofTexts)))] ++
    Json.listMember "parameters" Parameter.toJson operation.parameters ++
    Json.optionalMember "requestBody" (operation.requestBody.map RequestBody.toJson) ++
    [("responses", Json.ofEntries Response.toJson operation.responses)])

def PathItem.toJson (item : PathItem) : Json :=
  .obj (Json.optionalMember "get" (item.get.map Operation.toJson) ++
    Json.optionalMember "post" (item.post.map Operation.toJson) ++
    Json.optionalMember "put" (item.put.map Operation.toJson) ++
    Json.optionalMember "patch" (item.patch.map Operation.toJson) ++
    Json.optionalMember "delete" (item.delete.map Operation.toJson))

def schemasToJson (schemas : OrderedMap ObjectSchema) : Json :=
  Json.ofEntries ObjectSchema.toJson schemas.entries

def securitySchemesToJson (schemes : OrderedMap SecurityScheme) : Json :=
  Json.ofEntries SecurityScheme.toJson schemes.entries

def Document.toJson (document : Document) : Json :=
  .obj [("openapi", .str document.openapi),
    ("info", .obj [("title", .str document.info.title), ("version", .str document.info.version)]),
    ("servers", .arr (document.servers.map fun url => .obj [("url", .str url)])),
    ("components", .obj [("schemas", schemasToJson document.components.schemas),
      ("securitySchemes", securitySchemesToJson document.components.securitySchemes)]),
    ("paths", Json.ofEntries PathItem.toJson document.paths.entries)]

end BaseApi

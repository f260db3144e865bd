import BaseApi.Fragment

/-!
# API documents

The part of an API description that a base needs: metadata, one server, component schemas, one
security scheme, and paths with their operations. Schemas, properties and paths are ordered maps, so
a document lists them in the order of tables and columns.
-/

namespace BaseApi

/-- A component schema: an object with named properties. -/
structure ObjectSchema where
  required : List String := []
  properties : OrderedMap Fragment := .empty
deriving DecidableEq, Inhabited

/-- The schema with the given properties, put one after the other; none is required. -/
def ObjectSchema.ofProperties (properties : Entries Fragment) : ObjectSchema :=
  { properties := .ofList properties }

/-- The schema with the given required properties instead of its own. -/
def ObjectSchema.require (schema : ObjectSchema) (required : List String) : ObjectSchema :=
  { schema with required }

/-- A way to authorize requests. -/
structure SecurityScheme where
  /-- The kind of the scheme. -/
  type : String
  /-- The scheme of the authorization header. -/
  scheme : String
deriving DecidableEq, Inhabited

/-- Where a parameter of an operation stands. -/
inductive ParameterLocation where
  | query
  | path
deriving DecidableEq, Inhabited

/-- A parameter of an operation. -/
structure Parameter where
  name : String
  location : ParameterLocation
  required : Bool
  schema : Fragment
deriving DecidableEq, Inhabited

/-- What a request carries: contents by their type. -/
structure RequestBody where
  required : Bool
  content : Entries Fragment
deriving DecidableEq, Inhabited

/-- What a response carries: contents by their type. -/
structure Response where
  description : String
  content : Entries Fragment
deriving DecidableEq, Inhabited

/-- An operation on a path. -/
structure Operation where
  operationId : String
  /-- Each requirement names schemes, with the scopes asked of each. -/
  security : List (Entries (List String))
  parameters : List Parameter := []
  requestBody : Option RequestBody := none
  responses : Entries Response
deriving DecidableEq, Inhabited

/-- The operations on a path, by method. -/
structure PathItem where
  get : Option Operation := none
  post : Option Operation := none
  put : Option Operation := none
  patch : Option Operation := none
  delete : Option Operation := none
deriving DecidableEq, Inhabited

/-- The operations of a path, in the order of the document. -/
def PathItem.operations (item : PathItem) : List Operation :=
  [item.get, item.post, item.put, item.patch, item.delete].filterMap id

/-- Title and version of an API. -/
structure Info where
  title : String
  version : String
deriving DecidableEq, Inhabited

/-- The reusable parts of a document. -/
structure Components where
  schemas : OrderedMap ObjectSchema
  securitySchemes : OrderedMap SecurityScheme
deriving DecidableEq, Inhabited

/-- An API document. -/
structure Document where
  openapi : String
  info : Info
  servers : List String
  components : Components
  paths : OrderedMap PathItem
deriving DecidableEq, Inhabited

end BaseApi

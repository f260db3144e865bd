import BaseApi.Json.Basic

/-!
# Schema fragments

What the document says about one field: a scalar type, an array of fragments, or a reference to a
component schema. `Fragment.toJson` writes each in its own shape.
-/

namespace BaseApi

/-! ## Scalars -/

/-- A primitive type of the document. -/
inductive ScalarType where
  | number
  | integer
  | string
  | boolean
deriving DecidableEq, Inhabited

def ScalarType.name : ScalarType → String
  | number => "number"
  | integer => "integer"
  | string => "string"
  | boolean => "boolean"

/-! ## Names of component schemas -/

namespace ComponentName

def thumbnail : String := "AirtableThumbnail"

/-- The schema of the thumbnails of an attachment. -/
def thumbnails : String := "AirtableThumbnails"

def attachment : String := "AirtableAttachment"

/-- The schema of the answer to a deletion. -/
def deleted : String := "AirtableDeleted"

end ComponentName

/-! ## Fragments -/

/-- The schema of a single field. -/
inductive Fragment where
  | scalar (type : ScalarType)
  | array (items : Fragment)
  /-- A reference by path. -/
  | ref (path : String)
deriving DecidableEq, Inhabited

namespace Fragment

/-- What every path to a component schema starts with. -/
def componentPath : String := "#/components/schemas/"

def number : Fragment := scalar .number

def integer : Fragment := scalar .integer

def string : Fragment := scalar .string

def boolean : Fragment := scalar .boolean

/-- A reference to the component schema with a name. -/
def component (name : String) : Fragment := ref (componentPath ++ name)

/-- The primitive type of a fragment that is nothing but one. -/
def scalar? : Fragment → Option ScalarType
  | scalar type => some type
  | _ => none

def toJson : Fragment → Json
  | scalar type => .obj [("type", .str type.name)]
  | array items => .obj [("type", .str "array"), ("items", items.toJson)]
  | ref path => .obj [("$ref", .str path)]

end Fragment

end BaseApi

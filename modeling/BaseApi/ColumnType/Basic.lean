import BaseApi.Fragment
import BaseApi.Schema.Basic

/-!
# Types of columns

A `ColumnType` is a classified column: it carries only the options that mean something for its type.
Most types are plain, that is, they resolve to one fixed fragment; numbers, links and the three
indirections carry more. The rules of the indirections speak of tags, which `Tag` names.
-/

namespace BaseApi

/-! ## Tags -/

namespace Tag

def number : String := "number"

/-- The tag of a link to records of another table. -/
def foreignKey : String := "foreignKey"

def lookup : String := "lookup"

def formula : String := "formula"

def rollup : String := "rollup"

end Tag

/-! ## Plain types -/

/-- A type that resolves to one fixed fragment. -/
inductive PlainType where
  | currency
  | percent
  | multipleLookupValues
  | multipleRecordLinks
  | count
  | autoNumber
  | multilineText
  | text
  | richText
  | date
  | dateTime
  | phone
  | enum
  | select
  | singleSelect
  | singleLineText
  | createdTime
  | lastModifiedTime
  | url
  | multipleAttachments
  | multiSelect
  | checkbox
  | multipleAttachment
  | attachment
deriving DecidableEq, Inhabited

namespace PlainType

/-- The plain type with a tag. -/
def ofTag? : String → Option PlainType
  | "currency" => some currency
  | "percent" => some percent
  | "multipleLookupValues" => some multipleLookupValues
  | "multipleRecordLinks" => some multipleRecordLinks
  | "count" => some count
  | "autoNumber" => some autoNumber
  | "multilineText" => some multilineText
  | "text" => some text
  | "richText" => some richText
  | "date" => some date
  | "dateTime" => some dateTime
  | "phone" => some phone
  | "enum" => some enum
  | "select" => some select
  | "singleSelect" => some singleSelect
  | "singleLineText" => some singleLineText
  | "createdTime" => some createdTime
  | "lastModifiedTime" => some lastModifiedTime
  | "url" => some url
  | "multipleAttachments" => some multipleAttachments
  | "multiSelect" => some multiSelect
  | "checkbox" => some checkbox
  | "multipleAttachment" => some multipleAttachment
  | "attachment" => some attachment
  | _ => none

def fragment : PlainType → Fragment
  | currency | percent => .number
  | count | autoNumber => .integer
  | multilineText | text | richText | date | dateTime | phone | enum | select | singleSelect
  | singleLineText | createdTime | lastModifiedTime | url => .string
  | checkbox => .boolean
  | multipleLookupValues | multipleRecordLinks | multipleAttachments | multiSelect =>
      .array .string
  | attachment => .component ComponentName.attachment
  | multipleAttachment => .array (.component ComponentName.attachment)

end PlainType

/-! ## Classified types -/

/-- What an indirection resolves through: the tag of its result, and the options that the result is
typed with. -/
structure Indirection where
  tag : String
  options : TypeOptions
deriving DecidableEq, Inhabited

/-- The format of a number. -/
inductive NumberFormat where
  | integer
  | duration
  | decimal
  | currency
  | percent
  | unspecified
  /-- The format is there but says nothing, so the type is that of the result. -/
  | derived (result : Indirection)
deriving DecidableEq, Inhabited

/-- How many records a link column links to. -/
inductive Relationship where
  | one
  | many
deriving DecidableEq, Inhabited

/-- The type of a column. -/
inductive ColumnType where
  | plain (type : PlainType)
  | number (format : NumberFormat)
  | foreignKey (relationship : Relationship)
  | lookup (result : Indirection)
  | formula (result : Indirection)
  | rollup (result : Indirection)
deriving DecidableEq, Inhabited

/-! ## Failures -/

/-- Why a column has no type. -/
inductive ColumnFault where
  | unknownType (tag : String)
  | unknownFormat (format : String)
  | unknownRelationship (relationship : String)
  /-- A lookup cannot have a result of this type. -/
  | unsupportedLookup (resultType : String)
  /-- A formula, a rollup or a number cannot have a result of this type. -/
  | invalidIndirection (resultType : String)
deriving DecidableEq

/-- A fault together with the column that has it. -/
structure ColumnError where
  column : String
  fault : ColumnFault
deriving DecidableEq

/-- The tag, format or relationship that a fault is about. -/
def ColumnFault.detail : ColumnFault → String
  | unknownType detail | unknownFormat detail | unknownRelationship detail
  | unsupportedLookup detail | invalidIndirection detail => detail

/-- The wording of a failure, which names the column and the detail. -/
def ColumnError.message (error : ColumnError) : String :=
  match error.fault with
  | .unknownType tag =>
      "Unable to infer the type of column " ++ error.column ++ ": unknown type " ++ tag
  | .unknownFormat format =>
      "Unable to infer the type of column " ++ error.column ++ ": unknown numerical format " ++
        format
  | .unknownRelationship relationship =>
      "Unknown relationship type " ++ relationship ++ " in column " ++ error.column
  | .unsupportedLookup resultType =>
      "Column " ++ error.column ++
        " is unsupported. Lookup type columns cannot have result type " ++ resultType
  | .invalidIndirection resultType =>
      "Column " ++ error.column ++
        " is invalid. Rollup and Formula type columns cannot have result type " ++ resultType

end BaseApi

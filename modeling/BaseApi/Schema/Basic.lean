/-!
# The schema of a base

A base has tables, a table has columns, and a column has a type tag with options whose meaning
depends on the tag. Only what decides the type of a column is kept.
-/

namespace BaseApi

/-- What a computed column yields: the tag of the result's type. -/
structure ResultDescriptor where
  tag : String
deriving DecidableEq, Inhabited

/-- Options of a column type. -/
structure TypeOptions where
  /-- The number format: nothing if there is no such key, `some none` if the key holds null. -/
  format : Option (Option String) := none
  /-- How many records a link column links to. -/
  relationship : Option String := none
  /-- The tag of the result type of a lookup. -/
  resultType : Option String := none
  /-- The result of a formula or a rollup. -/
  result : Option ResultDescriptor := none
deriving DecidableEq, Inhabited

/-- A column of a table. -/
structure Column where
  name : String
  /-- The tag that names the column's type. -/
  tag : String
  typeOptions : Option TypeOptions := none
  /-- Options in the newer shape of a schema, where a formula keeps its result. -/
  options : Option TypeOptions := none
deriving DecidableEq, Inhabited

/-- A table of a base. -/
structure Table where
  name : String
  columns : List Column := []
deriving DecidableEq, Inhabited

/-- The schema of a base. -/
structure BaseSchema where
  /-- The identifier of the base, which ends the address of its API. -/
  id : String
  name : String
  tables : List Table := []
deriving DecidableEq, Inhabited

end BaseApi

import BaseApi.ColumnType.Basic

/-!
# Classifying columns

`ColumnType.ofColumn` finds the type of a column from its tag and reads the options that the type
needs. It fails for an unknown tag and for options that do not determine the type.
-/

namespace BaseApi

/-- Stands in a failure for an option that is absent. -/
def missingDetail : String := "<missing>"

def Column.fail {α : Type} (column : Column) (fault : ColumnFault) : Except ColumnError α :=
  .error { column := column.name, fault }

/-- The format of a number column. A format that is null or empty defers to the result, whose
options are the column's without the format. -/
def NumberFormat.ofColumn (column : Column) : Except ColumnError NumberFormat :=
  match column.typeOptions with
  | none => .ok .unspecified
  | some options =>
      match options.format.map (·.getD "") with
      | none => .ok .unspecified
      | some "integer" => .ok .integer
      | some "duration" => .ok .duration
      | some "decimal" => .ok .decimal
      | some "currency" => .ok .currency
      | some "percent" => .ok .percent
      | some "" =>
          match options.result with
          | some result =>
              .ok (.derived { tag := result.tag, options := { options with format := none } })
          | none => column.fail (.unknownFormat missingDetail)
      | some format => column.fail (.unknownFormat format)

def Relationship.ofColumn (column : Column) : Except ColumnError Relationship :=
  match column.typeOptions.bind TypeOptions.relationship with
  | some "one" => .ok .one
  | some "many" => .ok .many
  | relationship => column.fail (.unknownRelationship (relationship.getD missingDetail))

/-- The result of a lookup column, which has a type of its own only through its result type. -/
def Indirection.ofLookup (column : Column) : Except ColumnError Indirection :=
  match column.typeOptions with
  | some options =>
      match options.resultType with
      | some tag => .ok { tag, options }
      | none => column.fail (.unknownType missingDetail)
  | none => column.fail (.unknownType missingDetail)

/-- The result of a formula or a rollup: of the newer options, else of the type options, else their
result type. The options that it was found in type the result. -/
def Indirection.ofComputed (column : Column) : Except ColumnError Indirection :=
  let resultIn := fun options : TypeOptions =>
    options.result.map fun result : ResultDescriptor =>
      ({ tag := result.tag, options } : Indirection)
  let resultTypeIn := fun options : TypeOptions =>
    options.resultType.map fun tag => ({ tag, options } : Indirection)
  match column.options.bind resultIn <|> column.typeOptions.bind resultIn <|>
      column.typeOptions.bind resultTypeIn with
  | some result => .ok result
  | none => column.fail (.unknownType column.tag)

def ColumnType.ofColumn (column : Column) : Except ColumnError ColumnType :=
  if column.tag = Tag.number then (NumberFormat.ofColumn column).map .number
  else if column.tag = Tag.foreignKey then (Relationship.ofColumn column).map .foreignKey
  else if column.tag = Tag.lookup then (Indirection.ofLookup column).map .lookup
  else if column.tag = Tag.formula then (Indirection.ofComputed column).map .formula
  else if column.tag = Tag.rollup then (Indirection.ofComputed column).map .rollup
  else
    match PlainType.ofTag? column.tag with
    | some type => .ok (.plain type)
    | none => column.fail (.unknownType column.tag)

end BaseApi

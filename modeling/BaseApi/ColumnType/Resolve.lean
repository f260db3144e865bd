import BaseApi.ColumnType.Classify

/-!
# Resolving column types

`ColumnType.resolve` gives the fragment of a type. An indirection resolves the column that stands
for its result, so the definition is recursive; it ends because `ColumnType.rank` falls with every
step. A lookup ranks above what it may look up, a formula or rollup above a lookup, and a number
that defers to its result clears its format, after which no number defers again.
-/

namespace BaseApi

/-! ## Synthetic columns -/

/-- The column that stands for the result of an indirection of a column named `name`. -/
def Indirection.column (result : Indirection) (name : String) : Column :=
  { name, tag := result.tag, typeOptions := some result.options }

@[simp] theorem Indirection.typeOptions_column (result : Indirection) (name : String) :
    (result.column name).typeOptions = some result.options := rfl

/-! ## The rank of a type -/

/-- One if the options make a number defer to its result, zero if not. -/
def TypeOptions.deferral (options : TypeOptions) : Nat :=
  if options.format.map (·.getD "") = some "" then 1 else 0

/-- What falls when a type is resolved through its result. -/
def ColumnType.rank : ColumnType → Nat
  | plain _ => 0
  | foreignKey _ => 0
  | lookup result => 3 * result.options.deferral + 1
  | formula result => 3 * result.options.deferral + 2
  | rollup result => 3 * result.options.deferral + 2
  | number (.derived result) => 3 * result.options.deferral + 2
  | number _ => 0

theorem NumberFormat.rank_ofColumn {column : Column} {options : TypeOptions}
    (given : column.typeOptions = some options) {format : NumberFormat}
    (classified : NumberFormat.ofColumn column = .ok format) :
    (ColumnType.number format).rank ≤ 2 * options.deferral := by
  unfold NumberFormat.ofColumn at classified
  simp only [given] at classified
  split at classified
  case h_7 empty =>
    split at classified
    · cases classified
      simp [ColumnType.rank, TypeOptions.deferral, empty]
    · cases classified
  case h_8 => cases classified
  all_goals
    cases classified
    simp [ColumnType.rank]

/-- A type that is no indirection by its tag ranks below every indirection with the same options. -/
theorem ColumnType.rank_ofColumn_of_ne {column : Column} {options : TypeOptions}
    (given : column.typeOptions = some options) (notFormula : column.tag ≠ Tag.formula)
    (notRollup : column.tag ≠ Tag.rollup) (notLookup : column.tag ≠ Tag.lookup)
    {type : ColumnType} (classified : ColumnType.ofColumn column = .ok type) :
    type.rank ≤ 2 * options.deferral := by
  unfold ColumnType.ofColumn at classified
  simp only [notFormula, notRollup, notLookup, if_false] at classified
  split at classified
  · cases format : NumberFormat.ofColumn column with
    | error error => simp [format, Except.map] at classified
    | ok value =>
        simp only [format, Except.map, Except.ok.injEq] at classified
        exact classified ▸ NumberFormat.rank_ofColumn given format
  · split at classified
    · cases relationship : Relationship.ofColumn column with
      | error error => simp [relationship, Except.map] at classified
      | ok value =>
          simp only [relationship, Except.map, Except.ok.injEq] at classified
          simp [← classified, rank]
    · split at classified
      · cases classified; simp [rank]
      · cases classified

/-- A type that is neither a formula nor a rollup by its tag ranks below a formula with the same
options. -/
theorem ColumnType.rank_ofColumn_lt {column : Column} {options : TypeOptions}
    (given : column.typeOptions = some options) (notFormula : column.tag ≠ Tag.formula)
    (notRollup : column.tag ≠ Tag.rollup) {type : ColumnType}
    (classified : ColumnType.ofColumn column = .ok type) :
    type.rank < 3 * options.deferral + 2 := by
  by_cases isLookup : column.tag = Tag.lookup
  · have notNumber : Tag.lookup ≠ Tag.number := by decide
    have notLink : Tag.lookup ≠ Tag.foreignKey := by decide
    simp only [ColumnType.ofColumn, isLookup, notNumber, notLink, if_false, if_true,
      Indirection.ofLookup, given] at classified
    cases resultType : options.resultType with
    | none => simp [resultType, Column.fail, Except.map] at classified
    | some tag =>
        simp only [resultType, Except.map, Except.ok.injEq] at classified
        simp [← classified, rank]
  · have := rank_ofColumn_of_ne given notFormula notRollup isLookup classified
    omega

/-! ## Resolution -/

/-- The tags that a lookup refuses to look up. -/
def Tag.notLookedUp : List String :=
  ["multipleAttachment", "attachment", Tag.formula, Tag.rollup, Tag.lookup]

/-- The tags that a computed result may not have. -/
def Tag.notComputed : List String := [Tag.formula, Tag.rollup]

/-- The fragment of a number format that does not defer to a result. -/
def NumberFormat.fragment : NumberFormat → Fragment
  | integer | duration => .integer
  | decimal | currency | percent | unspecified | derived _ => .number

/-- The fragment of a type; `name` is the column that a failure names. -/
def ColumnType.resolve (name : String) : ColumnType → Except ColumnError Fragment
  | plain type => .ok type.fragment
  | foreignKey _ => .ok (.array .string)
  | lookup result =>
      if result.tag = Tag.foreignKey then .ok (.array .string)
      else if _refused : result.tag ∈ Tag.notLookedUp then
        .error { column := name, fault := .unsupportedLookup result.tag }
      else
        match _classified : ofColumn (result.column name) with
        | .error error => .error error
        | .ok type =>
            match resolve name type with
            | .error error => .error error
            | .ok (.scalar scalar) => .ok (.array (.scalar scalar))
            | .ok _ => .error { column := name, fault := .unsupportedLookup result.tag }
  | number (.derived result) | formula result | rollup result =>
      if _refused : result.tag ∈ Tag.notComputed then
        .error { column := name, fault := .invalidIndirection result.tag }
      else
        match _classified : ofColumn (result.column name) with
        | .error error => .error error
        | .ok type => resolve name type
  | number format => .ok format.fragment
termination_by type => type.rank
decreasing_by
  · simp only [Tag.notLookedUp, List.mem_cons, List.not_mem_nil, not_or] at _refused
    have := rank_ofColumn_of_ne (result.typeOptions_column name) _refused.2.2.1 _refused.2.2.2.1
      _refused.2.2.2.2.1 _classified
    change type.rank < 3 * result.options.deferral + 1
    omega
  all_goals
    simp only [Tag.notComputed, List.mem_cons, List.not_mem_nil, not_or] at _refused
    exact rank_ofColumn_lt (result.typeOptions_column name) _refused.1 _refused.2.1 _classified

def Column.resolve (column : Column) : Except ColumnError Fragment := do
  (← ColumnType.ofColumn column).resolve column.name

/-! ## Columns that the server computes -/

/-- The tags of columns that the server computes. -/
def Tag.readOnly : List String :=
  [Tag.rollup, Tag.lookup, Tag.formula, "count", "autoNumber", "attachment", "multipleAttachment"]

/-- Whether a tag names a column that the server computes. -/
def Tag.isReadOnly (tag : String) : Bool := Tag.readOnly.contains tag

/-- Whether the server computes a column, which its tag alone decides. -/
def Column.isReadOnly (column : Column) : Bool := Tag.isReadOnly column.tag

end BaseApi

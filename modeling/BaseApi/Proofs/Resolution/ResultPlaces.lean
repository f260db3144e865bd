import Mathlib
import BaseApi.Proofs.Resolution.Unfolding

/-!
# Where a formula keeps its result

A formula or a rollup holds its result in the newer options, or in the older ones as a result, or,
in the oldest shape, in the older ones as a result type. The first two make no difference, and are
no different from a column of the type of the result (`Column.resolve_eq_of_holdsResult`). The third
one hands on options without a result and with another result type. So it differs where the type of
the result reads these: it fails for a lookup and for a number that defers
(`Column.resolve_ne_ok_of_holdsResultType`). Every other type reads the format or the relationship
at most (`Indirection.resolve_column_congr`).
-/

namespace BaseApi

/-! ## Places -/

/-- The options with a result of a type. -/
def TypeOptions.withResult (options : TypeOptions) (tag : String) : TypeOptions :=
  { options with result := some { tag } }

/-- The options with the type of a result in place of the result. -/
def TypeOptions.withResultType (options : TypeOptions) (tag : String) : TypeOptions :=
  { options with resultType := some tag, result := none }

/-- A column called `name` with the tag `outer` holds a result of the type `tag` among `options`: in
its newer options, whatever the older ones are, or in its older ones, if there is no result in the
newer ones. -/
inductive Column.HoldsResult (name outer tag : String) (options : TypeOptions) : Column → Prop
  | newer (older : Option TypeOptions) : HoldsResult name outer tag options
      { name, tag := outer, typeOptions := older, options := some (options.withResult tag) }
  | older (newer : Option TypeOptions) (absent : newer.bind TypeOptions.result = none) :
      HoldsResult name outer tag options
        { name, tag := outer, typeOptions := some (options.withResult tag), options := newer }

/-- The column holds the result as a result type among its older options, if there is no result in
the newer ones. -/
inductive Column.HoldsResultType (name outer tag : String) (options : TypeOptions) : Column → Prop
  | mk (newer : Option TypeOptions) (absent : newer.bind TypeOptions.result = none) :
      HoldsResultType name outer tag options
        { name, tag := outer, typeOptions := some (options.withResultType tag), options := newer }

/-! ## The result that is found -/

variable {name outer tag : String} {options : TypeOptions} {column legacy : Column}

theorem Column.HoldsResult.ofComputed_eq (holds : HoldsResult name outer tag options column) :
    Indirection.ofComputed column = .ok { tag, options := options.withResult tag } := by
  cases holds with
  | newer older => rfl
  | older newer absent =>
      cases newer with
      | none => rfl
      | some newer =>
          have noResult : newer.result = none := absent
          simp [Indirection.ofComputed, noResult, TypeOptions.withResult]

theorem Column.HoldsResultType.ofComputed_eq
    (holds : HoldsResultType name outer tag options legacy) :
    Indirection.ofComputed legacy = .ok { tag, options := options.withResultType tag } := by
  obtain ⟨newer, absent⟩ := holds
  cases newer with
  | none => rfl
  | some newer =>
      have noResult : newer.result = none := absent
      simp [Indirection.ofComputed, noResult, TypeOptions.withResultType]

theorem Column.HoldsResult.names (holds : HoldsResult name outer tag options column) :
    column.name = name ∧ column.tag = outer := by
  cases holds <;> exact ⟨rfl, rfl⟩

theorem Column.HoldsResultType.names (holds : HoldsResultType name outer tag options legacy) :
    legacy.name = name ∧ legacy.tag = outer := by
  cases holds
  exact ⟨rfl, rfl⟩

/-- A formula or a rollup takes over the result that is found for it. -/
theorem Column.exists_computed_of_ofComputed {result : Indirection}
    (computed : column.tag = Tag.formula ∨ column.tag = Tag.rollup)
    (found : Indirection.ofComputed column = .ok result) :
    ∃ type, ColumnType.ofColumn column = .ok type ∧ type.computed? = some result := by
  rcases computed with isFormula | isRollup
  · refine ⟨.formula result, ?_, rfl⟩
    rw [ColumnType.ofColumn_formula isFormula, found]
    rfl
  · refine ⟨.rollup result, ?_, rfl⟩
    rw [ColumnType.ofColumn_rollup isRollup, found]
    rfl

theorem Column.resolve_of_ofComputed {result : Indirection}
    (computed : column.tag = Tag.formula ∨ column.tag = Tag.rollup)
    (found : Indirection.ofComputed column = .ok result) :
    column.resolve =
      if result.tag ∈ Tag.notComputed then
        .error { column := column.name, fault := .invalidIndirection result.tag }
      else (result.column column.name).resolve := by
  obtain ⟨type, classified, takesOver⟩ := exists_computed_of_ofComputed computed found
  rw [resolve_of_ok classified]
  exact ColumnType.resolve_of_computed column.name takesOver

/-! ## What a type reads -/

/-- The newer options matter to formulas and rollups only. -/
theorem Column.resolve_congr_options (notFormula : column.tag ≠ Tag.formula)
    (notRollup : column.tag ≠ Tag.rollup) (newer : Option TypeOptions) :
    ({ column with options := newer } : Column).resolve = column.resolve := by
  have same :
      ColumnType.ofColumn { column with options := newer } = ColumnType.ofColumn column := by
    rw [ColumnType.ofColumn, ColumnType.ofColumn, if_neg notFormula, if_neg notRollup]
    dsimp only
    rw [if_neg notFormula, if_neg notRollup]
    rfl
  rw [resolve, resolve, same]

theorem NumberFormat.ofColumn_congr {left right : Column} {leftOptions rightOptions : TypeOptions}
    (names : left.name = right.name) (leftGiven : left.typeOptions = some leftOptions)
    (rightGiven : right.typeOptions = some rightOptions)
    (format : leftOptions.format = rightOptions.format)
    (speaks : leftOptions.format.map (·.getD "") ≠ some "") :
    NumberFormat.ofColumn left = NumberFormat.ofColumn right := by
  rw [format] at speaks
  rw [NumberFormat.ofColumn, NumberFormat.ofColumn, leftGiven, rightGiven]
  simp only [format]
  split
  case h_7 empty => exact absurd empty speaks
  case h_8 => simp only [Column.fail, names]
  all_goals rfl

theorem Relationship.ofColumn_congr {left right : Column} (names : left.name = right.name)
    (relationship : left.typeOptions.bind TypeOptions.relationship =
      right.typeOptions.bind TypeOptions.relationship) :
    Relationship.ofColumn left = Relationship.ofColumn right := by
  rw [Relationship.ofColumn, Relationship.ofColumn, relationship]
  simp only [Column.fail, names]

/-- A type that is no indirection and does not defer reads nothing but the format and the
relationship. -/
theorem Indirection.resolve_column_congr {left right : TypeOptions}
    (format : left.format = right.format) (relationship : left.relationship = right.relationship)
    (accepted : tag ∉ Tag.notComputed) (notLookup : tag ≠ Tag.lookup)
    (speaks : tag = Tag.number → left.format.map (·.getD "") ≠ some "") :
    (Indirection.column { tag, options := left } name).resolve =
      (Indirection.column { tag, options := right } name).resolve := by
  obtain ⟨notFormula, notRollup⟩ := Tag.not_mem_notComputed_iff.mp accepted
  let leftColumn := Indirection.column { tag, options := left } name
  let rightColumn := Indirection.column { tag, options := right } name
  have same : ColumnType.ofColumn leftColumn = ColumnType.ofColumn rightColumn := by
    by_cases isNumber : tag = Tag.number
    · have formats : NumberFormat.ofColumn leftColumn = NumberFormat.ofColumn rightColumn :=
        NumberFormat.ofColumn_congr rfl rfl rfl format (speaks isNumber)
      rw [ColumnType.ofColumn_number isNumber, ColumnType.ofColumn_number isNumber, formats]
    · by_cases isLink : tag = Tag.foreignKey
      · have relationships :
            Relationship.ofColumn leftColumn = Relationship.ofColumn rightColumn :=
          Relationship.ofColumn_congr rfl relationship
        rw [ColumnType.ofColumn_foreignKey isLink, ColumnType.ofColumn_foreignKey isLink,
          relationships]
      · have plain : tag ∉ ColumnType.structuredTags := by
          simp [ColumnType.structuredTags, *]
        rw [ColumnType.ofColumn_plain plain, ColumnType.ofColumn_plain plain]
        rfl
  show leftColumn.resolve = rightColumn.resolve
  rw [Column.resolve, Column.resolve, same]
  rfl

/-! ## Outcomes -/

/-- A result resolves alike in both places: to what a column of its type resolves to. -/
theorem Column.resolve_eq_of_holdsResult (computed : outer = Tag.formula ∨ outer = Tag.rollup)
    (holds : HoldsResult name outer tag options column) :
    column.resolve =
      if tag ∈ Tag.notComputed then
        .error { column := name, fault := .invalidIndirection tag }
      else (Indirection.column { tag, options := options.withResult tag } name).resolve := by
  obtain ⟨rfl, rfl⟩ := holds.names
  exact resolve_of_ofComputed computed holds.ofComputed_eq

theorem Column.resolve_eq_of_holdsResultType (computed : outer = Tag.formula ∨ outer = Tag.rollup)
    (holds : HoldsResultType name outer tag options legacy) :
    legacy.resolve =
      if tag ∈ Tag.notComputed then
        .error { column := name, fault := .invalidIndirection tag }
      else (Indirection.column { tag, options := options.withResultType tag } name).resolve := by
  obtain ⟨rfl, rfl⟩ := holds.names
  exact resolve_of_ofComputed computed holds.ofComputed_eq

/-- A lookup whose result type is that of a lookup looks up a lookup. -/
theorem Indirection.resolve_column_withResultType_lookup :
    (Indirection.column { tag := Tag.lookup, options := options.withResultType Tag.lookup }
        name).resolve =
      .error { column := name, fault := .unsupportedLookup Tag.lookup } := by
  let result : Indirection := { tag := Tag.lookup, options := options.withResultType Tag.lookup }
  have classified : ColumnType.ofColumn (result.column name) = .ok (.lookup result) := by
    rw [ColumnType.ofColumn_lookup_of_some rfl (result.typeOptions_column name)]
    rfl
  have notLink : result.tag ≠ Tag.foreignKey := (by decide : Tag.lookup ≠ Tag.foreignKey)
  have refused : result.tag ∈ Tag.notLookedUp := (by decide : Tag.lookup ∈ Tag.notLookedUp)
  show (result.column name).resolve = _
  rw [Column.resolve_of_ok classified, ColumnType.resolve_lookup, if_neg notLink, if_pos refused]
  rfl

/-- A number that defers finds no result to defer to. -/
theorem Indirection.resolve_column_withResultType_number
    (defers : options.format.map (·.getD "") = some "") :
    (Indirection.column { tag := Tag.number, options := options.withResultType Tag.number }
        name).resolve =
      .error { column := name, fault := .unknownFormat missingDetail } := by
  let result : Indirection := { tag := Tag.number, options := options.withResultType Tag.number }
  have format : NumberFormat.ofColumn (result.column name) =
      (result.column name).fail (.unknownFormat missingDetail) := by
    have defersToo : (options.withResultType Tag.number).format.map (·.getD "") = some "" := defers
    rw [NumberFormat.ofColumn, typeOptions_column]
    dsimp only [result]
    rw [defersToo]
    rfl
  have classified : ColumnType.ofColumn (result.column name) =
      (NumberFormat.ofColumn (result.column name)).map .number := ColumnType.ofColumn_number rfl
  rw [format] at classified
  exact Column.resolve_of_error classified

/-- The oldest shape makes no difference to a type that reads neither a result nor a result type. -/
theorem Column.resolve_eq_of_holdsResultType_of_holdsResult
    (computed : outer = Tag.formula ∨ outer = Tag.rollup)
    (holds : HoldsResult name outer tag options column)
    (holdsType : HoldsResultType name outer tag options legacy) (notLookup : tag ≠ Tag.lookup)
    (speaks : tag = Tag.number → options.format.map (·.getD "") ≠ some "") :
    legacy.resolve = column.resolve := by
  rw [resolve_eq_of_holdsResult computed holds, resolve_eq_of_holdsResultType computed holdsType]
  split
  · rfl
  · next accepted =>
      exact Indirection.resolve_column_congr rfl rfl accepted notLookup speaks

/-- To the others it makes one: the column fails. -/
theorem Column.resolve_ne_ok_of_holdsResultType
    (computed : outer = Tag.formula ∨ outer = Tag.rollup)
    (holdsType : HoldsResultType name outer tag options legacy)
    (reads : tag = Tag.lookup ∨ tag = Tag.number ∧ options.format.map (·.getD "") = some "")
    (fragment : Fragment) : legacy.resolve ≠ .ok fragment := by
  rw [resolve_eq_of_holdsResultType computed holdsType]
  rcases reads with rfl | ⟨rfl, defers⟩
  · rw [if_neg (by decide), Indirection.resolve_column_withResultType_lookup]
    exact fun same => by cases same
  · rw [if_neg (by decide), Indirection.resolve_column_withResultType_number defers]
    exact fun same => by cases same

/-- A formula or a rollup has the same outcome wherever it holds a result of a type, and that is the
outcome of a column of the type with the same options, if the type is no formula and no rollup. If
it has a fragment where it holds the result as a result type, it has that fragment there, too. -/
theorem Column.resolve_resultPlaces (computed : outer = Tag.formula ∨ outer = Tag.rollup)
    (name tag : String) (options : TypeOptions) :
    (∀ left right, HoldsResult name outer tag options left →
      HoldsResult name outer tag options right → left.resolve = right.resolve) ∧
    (tag ≠ Tag.formula → tag ≠ Tag.rollup → ∀ column newer,
      HoldsResult name outer tag options column →
        column.resolve = Column.resolve
          { name, tag, typeOptions := some (options.withResult tag), options := newer }) ∧
    ∀ column legacy fragment, HoldsResult name outer tag options column →
      HoldsResultType name outer tag options legacy → legacy.resolve = .ok fragment →
        column.resolve = .ok fragment := by
  refine ⟨?_, ?_, ?_⟩
  · intro left right holdsLeft holdsRight
    rw [resolve_eq_of_holdsResult computed holdsLeft, resolve_eq_of_holdsResult computed holdsRight]
  · intro notFormula notRollup column newer holds
    have accepted : tag ∉ Tag.notComputed := Tag.not_mem_notComputed_iff.mpr ⟨notFormula, notRollup⟩
    rw [resolve_eq_of_holdsResult computed holds, if_neg accepted]
    let result : Indirection := { tag, options := options.withResult tag }
    exact (resolve_congr_options (show (result.column name).tag ≠ _ from notFormula)
      (show (result.column name).tag ≠ _ from notRollup) newer).symm
  · intro column legacy fragment holds holdsType resolved
    by_cases reads : tag = Tag.lookup ∨ tag = Tag.number ∧ options.format.map (·.getD "") = some ""
    · exact absurd resolved (resolve_ne_ok_of_holdsResultType computed holdsType reads fragment)
    · push Not at reads
      rw [← resolve_eq_of_holdsResultType_of_holdsResult computed holds holdsType reads.1 reads.2]
      exact resolved

/-- A rollup of a duration has the same fragment as a result type and as a result next to another
result type, which is not read. -/
theorem Column.resolve_resultPlaces_duration :
    (Tag.rollup = Tag.formula ∨ Tag.rollup = Tag.rollup) ∧
      Column.resolve
        { name := "Delay", tag := Tag.rollup
          typeOptions := some { format := some (some "duration"), resultType := some "number" } } =
        .ok .integer ∧
      Column.resolve
        { name := "Delay", tag := Tag.rollup
          options := some
            { format := some (some "duration"), resultType := some "lookup"
              result := some ⟨"number"⟩ } } = .ok .integer := by
  have legacy : Column.resolve
      { name := "Delay", tag := Tag.rollup
        typeOptions := some { format := some (some "duration"), resultType := some "number" } } =
      .ok .integer := by cbv
  let options : TypeOptions := { format := some (some "duration"), resultType := some "lookup" }
  have computed : Tag.rollup = Tag.formula ∨ Tag.rollup = Tag.rollup := .inr rfl
  have places := Column.resolve_resultPlaces computed "Delay" "number" options
  exact ⟨computed, legacy, places.2.2 _ _ _ (.newer none) (.mk none rfl) legacy⟩

end BaseApi

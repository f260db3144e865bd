import Mathlib
import BaseApi.Proofs.Resolution.Unfolding

/-!
# Resolution without recursion

`Column.verdict` says what a column resolves to by cases on its tag and its options, without
resolving another column. It can, as the recursion comes back to a number at most once: a number
whose format says nothing may stand for a lookup of a number, but the format is cleared by then, and
a number without a format is just a number. So the verdict on a number is a parameter of the cases
for lookups and results (`Verdict.lookThrough`, `Verdict.resultThrough`), which are used first with
the number that has no format (`Verdict.number`) and then with that verdict (`Verdict.look`).
-/

namespace BaseApi

/-- What is found about a column: its fragment, or what is wrong with it. -/
abbrev Verdict := Except ColumnFault Fragment

namespace Verdict

/-! ## The cases -/

/-- The verdict on a tag that is no number and no indirection. -/
def leaf (tag : String) (options : Option TypeOptions) : Verdict :=
  match tag with
  | "currency" | "percent" => .ok .number
  | "count" | "autoNumber" => .ok .integer
  | "multilineText" | "text" | "richText" | "date" | "dateTime" | "phone" | "enum" | "select"
  | "singleSelect" | "singleLineText" | "createdTime" | "lastModifiedTime" | "url" => .ok .string
  | "checkbox" => .ok .boolean
  | "multipleLookupValues" | "multipleRecordLinks" | "multipleAttachments" | "multiSelect" =>
      .ok (.array .string)
  | "attachment" => .ok (.component ComponentName.attachment)
  | "multipleAttachment" => .ok (.array (.component ComponentName.attachment))
  | "foreignKey" =>
      match options.bind TypeOptions.relationship with
      | some "one" | some "many" => .ok (.array .string)
      | some relationship => .error (.unknownRelationship relationship)
      | none => .error (.unknownRelationship "<missing>")
  | _ => .error (.unknownType tag)

/-- The verdict on a lookup with a result type, from that on the result: an array of a scalar. -/
def wrap (resultType : String) : Verdict → Verdict
  | .error fault => .error fault
  | .ok (.scalar scalar) => .ok (.array (.scalar scalar))
  | .ok _ => .error (.unsupportedLookup resultType)

/-- The verdict on a lookup, from that on a number with the same options. -/
def lookThrough (number : Verdict) (options : TypeOptions) : Verdict :=
  match options.resultType with
  | none => .error (.unknownType "<missing>")
  | some "foreignKey" => .ok (.array .string)
  | some "number" => wrap "number" number
  | some tag =>
      if tag ∈ ["multipleAttachment", "attachment", "formula", "rollup", "lookup"] then
        .error (.unsupportedLookup tag)
      else wrap tag (leaf tag (some options))

/-- The verdict on the result of a formula, a rollup or a number that defers, from that on a number
with the same options. -/
def resultThrough (number : Verdict) (tag : String) (options : TypeOptions) : Verdict :=
  match tag with
  | "formula" | "rollup" => .error (.invalidIndirection tag)
  | "number" => number
  | "lookup" => lookThrough number options
  | _ => leaf tag (some options)

/-- The verdict on a number. One with a null or empty format has the type of its result, for which
the format is gone. -/
def number : Option TypeOptions → Verdict
  | none => .ok .number
  | some options =>
      match options.format with
      | none => .ok .number
      | some (some "integer") | some (some "duration") => .ok .integer
      | some (some "decimal") | some (some "currency") | some (some "percent") => .ok .number
      | some none | some (some "") =>
          match options.result with
          | none => .error (.unknownFormat "<missing>")
          | some result => resultThrough (.ok .number) result.tag { options with format := none }
      | some (some format) => .error (.unknownFormat format)

/-- The verdict on a lookup. -/
def look (options : TypeOptions) : Verdict := lookThrough (number (some options)) options

/-- The verdict on the result of a formula or a rollup. -/
def result (tag : String) (options : TypeOptions) : Verdict :=
  resultThrough (number (some options)) tag options

/-- A verdict as it is reported for a column. -/
def named (name : String) (verdict : Verdict) : Except ColumnError Fragment :=
  verdict.mapError fun fault => { column := name, fault }

end Verdict

/-- The result of a formula or a rollup, with the options that it was found in: the type of a result
in the newer options, or in the older ones, or a result type in the older ones. -/
def Column.foundResult (column : Column) : Option (String × TypeOptions) :=
  match column.options.bind TypeOptions.result, column.options with
  | some result, some options => some (result.tag, options)
  | _, _ =>
      match column.typeOptions with
      | none => none
      | some options =>
          match options.result, options.resultType with
          | some result, _ => some (result.tag, options)
          | none, some tag => some (tag, options)
          | none, none => none

/-- What a column resolves to, by cases. -/
def Column.verdict (column : Column) : Verdict :=
  match column.tag with
  | "number" => .number column.typeOptions
  | "lookup" =>
      match column.typeOptions with
      | none => .error (.unknownType "<missing>")
      | some options => .look options
  | "formula" | "rollup" =>
      match column.foundResult with
      | none => .error (.unknownType column.tag)
      | some (tag, options) => .result tag options
  | tag => .leaf tag column.typeOptions

/-! ## Resolution follows the cases -/

namespace Verdict

theorem ofComputed_eq (column : Column) :
    Indirection.ofComputed column =
      match column.foundResult with
      | some (tag, options) => .ok { tag, options }
      | none => column.fail (.unknownType column.tag) := by
  unfold Indirection.ofComputed Column.foundResult
  cases newer : column.options.bind TypeOptions.result with
  | some result =>
      obtain ⟨options, given, found⟩ := Option.bind_eq_some_iff.mp newer
      simp [given, found]
  | none =>
      -- The newer options have no result, so the older ones decide.
      have unfound : column.options.bind (fun options => options.result.map fun result =>
          ({ tag := result.tag, options } : Indirection)) = none := by
        simpa using newer
      cases older : column.typeOptions with
      | none => simp [unfound]
      | some options =>
          cases found : options.result <;> cases typed : options.resultType <;>
            simp [unfound, found, typed]

theorem leaf_eq {tag : String} (other : tag ∉ ColumnType.structuredTags)
    (options : Option TypeOptions) :
    leaf tag options =
      match PlainType.ofTag? tag with
      | some type => .ok type.fragment
      | none => .error (.unknownType tag) := by
  fun_cases PlainType.ofTag? tag with
  | case25 =>
      -- No plain tag, and no link, so `leaf` comes to its last case.
      unfold leaf
      split <;> first | rfl | contradiction
  | _ => rfl

theorem named_wrap (name resultType : String) (verdict : Verdict) :
    named name (wrap resultType verdict) =
      ColumnType.wrapLookedUp name resultType (named name verdict) := by
  cases verdict with
  | error fault => rfl
  | ok fragment => cases fragment <;> rfl

theorem resolve_foreignKey {column : Column} (tag : column.tag = Tag.foreignKey) :
    column.resolve = named column.name (leaf Tag.foreignKey column.typeOptions) := by
  have classified := ColumnType.ofColumn_foreignKey tag
  unfold Relationship.ofColumn at classified
  simp only [leaf, Tag.foreignKey]
  split at classified
  · next one =>
      rw [Column.resolve_of_settled classified rfl, one]
      rfl
  · next many =>
      rw [Column.resolve_of_settled classified rfl, many]
      rfl
  · next notOne notMany =>
      -- Two cases of the verdict are excluded, and two are those of a failure.
      rw [Column.resolve_of_error classified]
      split
      · next one => exact absurd one notOne
      · next many => exact absurd many notMany
      · next given => rw [given]; rfl
      · next missing => rw [missing]; rfl

/-- The tags of which `leaf` gives the verdict. -/
def IsLeaf (tag : String) : Prop :=
  tag ≠ Tag.number ∧ tag ≠ Tag.lookup ∧ tag ≠ Tag.formula ∧ tag ≠ Tag.rollup

theorem resolve_leaf {column : Column} (other : IsLeaf column.tag) :
    column.resolve = named column.name (leaf column.tag column.typeOptions) := by
  obtain ⟨notNumber, notLookup, notFormula, notRollup⟩ := other
  by_cases link : column.tag = Tag.foreignKey
  · rw [resolve_foreignKey link, link]
  · have plain : column.tag ∉ ColumnType.structuredTags := by
      simp [ColumnType.structuredTags, *]
    have classified := ColumnType.ofColumn_plain plain
    rw [leaf_eq plain]
    cases found : PlainType.ofTag? column.tag with
    | none =>
        rw [found] at classified
        exact Column.resolve_of_error classified
    | some type =>
        rw [found] at classified
        exact Column.resolve_of_settled classified rfl

/-- The numbers with these options resolve to this verdict. -/
def OnNumbers (options : TypeOptions) (number : Verdict) : Prop :=
  ∀ column : Column, column.tag = Tag.number → column.typeOptions = some options →
    column.resolve = named column.name number

theorem resolve_lookup {column : Column} {options : TypeOptions} {resultType : String}
    (tag : column.tag = Tag.lookup) (given : column.typeOptions = some options)
    (found : options.resultType = some resultType) :
    column.resolve =
      if resultType = Tag.foreignKey then .ok (.array .string)
      else if resultType ∈ Tag.notLookedUp then
        .error { column := column.name, fault := .unsupportedLookup resultType }
      else
        ColumnType.wrapLookedUp column.name resultType
          (Indirection.column { tag := resultType, options } column.name).resolve := by
  have classified := ColumnType.ofColumn_lookup_of_some tag given
  rw [found] at classified
  rw [Column.resolve_of_ok classified]
  exact ColumnType.resolve_lookup column.name { tag := resultType, options }

theorem resolve_lookThrough {options : TypeOptions} {number : Verdict}
    (onNumbers : OnNumbers options number) {column : Column} (tag : column.tag = Tag.lookup)
    (given : column.typeOptions = some options) :
    column.resolve = named column.name (lookThrough number options) := by
  unfold lookThrough
  split
  · next missing =>
      have classified := ColumnType.ofColumn_lookup_of_some tag given
      rw [missing] at classified
      exact Column.resolve_of_error classified
  · next link =>
      rw [resolve_lookup tag given link]
      exact if_pos rfl
  · next isNumber =>
      rw [resolve_lookup tag given isNumber, if_neg (by decide), if_neg (by decide),
        onNumbers _ rfl rfl, named_wrap]
      rfl
  · next resultType notLink notNumber found =>
      rw [resolve_lookup tag given found, if_neg (show resultType ≠ Tag.foreignKey from notLink)]
      -- The verdict spells out the tags that resolution has a name for.
      have spelledOut : Tag.notLookedUp =
          ["multipleAttachment", "attachment", "formula", "rollup", "lookup"] := rfl
      rw [← spelledOut]
      by_cases refused : resultType ∈ Tag.notLookedUp
      · rw [if_pos refused, if_pos refused]
        rfl
      · obtain ⟨notFormula, notRollup, notLookup⟩ := Tag.ne_of_not_mem_notLookedUp refused
        rw [if_neg refused, if_neg refused, named_wrap,
          resolve_leaf ⟨notNumber, notLookup, notFormula, notRollup⟩]
        rfl

theorem resolve_resultThrough {options : TypeOptions} {number : Verdict}
    (onNumbers : OnNumbers options number) (name tag : String) :
    (if tag ∈ Tag.notComputed then
        .error { column := name, fault := .invalidIndirection tag }
      else (Indirection.column { tag, options } name).resolve) =
      named name (resultThrough number tag options) := by
  fun_cases resultThrough number tag options with
  | case1 => rfl
  | case2 => rfl
  | case3 =>
      rw [if_neg (by decide), onNumbers _ rfl rfl]
      rfl
  | case4 =>
      rw [if_neg (by decide), resolve_lookThrough onNumbers rfl rfl]
      rfl
  | case5 _ notFormula notRollup notNumber notLookup =>
      have accepted : tag ∉ Tag.notComputed :=
        Tag.not_mem_notComputed_iff.mpr ⟨notFormula, notRollup⟩
      rw [if_neg accepted, resolve_leaf ⟨notNumber, notLookup, notFormula, notRollup⟩]
      rfl

theorem resolve_number_of_no_format {column : Column} (tag : column.tag = Tag.number)
    (noFormat : column.typeOptions.bind TypeOptions.format = none) :
    column.resolve = .ok .number := by
  have classified : ColumnType.ofColumn column = .ok (.number .unspecified) := by
    rw [ColumnType.ofColumn_number tag, NumberFormat.ofColumn]
    cases given : column.typeOptions with
    | none => rfl
    | some options =>
        rw [given] at noFormat
        have absent : options.format = none := noFormat
        simp [absent, Except.map]
  exact Column.resolve_of_settled classified rfl

theorem onNumbers_of_no_format {options : TypeOptions} (noFormat : options.format = none) :
    OnNumbers options (.ok .number) := by
  intro column tag given
  apply resolve_number_of_no_format tag
  rw [given]
  exact noFormat

/-- A number that defers to its result resolves to that of the result without the format. -/
theorem resolve_number_of_empty {column : Column} {options : TypeOptions}
    (tag : column.tag = Tag.number) (given : column.typeOptions = some options)
    (empty : options.format.map (·.getD "") = some "") :
    column.resolve = named column.name
      (match options.result with
        | none => .error (.unknownFormat "<missing>")
        | some result =>
            resultThrough (.ok .number) result.tag { options with format := none }) := by
  have classified := ColumnType.ofColumn_number tag
  rw [NumberFormat.ofColumn, given] at classified
  simp only [empty] at classified
  split
  · next missing =>
      rw [missing] at classified
      exact Column.resolve_of_error classified
  · next result found =>
      rw [found] at classified
      rw [Column.resolve_of_ok classified, ColumnType.resolve_of_computed _ rfl]
      -- The format is gone, so a number among the results is a plain number.
      exact resolve_resultThrough (onNumbers_of_no_format rfl) _ _

theorem resolve_number {column : Column} (tag : column.tag = Tag.number) :
    column.resolve = named column.name (number column.typeOptions) := by
  cases given : column.typeOptions with
  | none =>
      apply resolve_number_of_no_format tag
      rw [given]
      rfl
  | some options =>
      have classified := ColumnType.ofColumn_number tag
      rw [NumberFormat.ofColumn, given] at classified
      dsimp only at classified
      simp only [number]
      -- Classification and verdict go by the same formats, in the same order.
      split
      · next absent =>
          apply resolve_number_of_no_format tag
          rw [given]
          exact absent
      · next integer =>
          rw [integer] at classified
          exact Column.resolve_of_settled classified rfl
      · next duration =>
          rw [duration] at classified
          exact Column.resolve_of_settled classified rfl
      · next decimal =>
          rw [decimal] at classified
          exact Column.resolve_of_settled classified rfl
      · next currency =>
          rw [currency] at classified
          exact Column.resolve_of_settled classified rfl
      · next percent =>
          rw [percent] at classified
          exact Column.resolve_of_settled classified rfl
      · next null =>
          apply resolve_number_of_empty tag given
          rw [null]
          rfl
      · next blank =>
          apply resolve_number_of_empty tag given
          rw [blank]
          rfl
      · next format _ _ _ _ _ _ found =>
          rw [found] at classified
          apply Column.resolve_of_error
          rw [classified]
          simp [Except.map, Column.fail]

theorem onNumbers (options : TypeOptions) : OnNumbers options (number (some options)) := by
  intro column tag given
  rw [resolve_number tag, given]

/-- A formula or a rollup resolves to the result that is found for it. -/
theorem resolve_computed {column : Column} {type : Indirection → ColumnType}
    (computed : ∀ result, (type result).computed? = some result)
    (classified : ColumnType.ofColumn column = (Indirection.ofComputed column).map type) :
    column.resolve = named column.name
      (match column.foundResult with
        | none => .error (.unknownType column.tag)
        | some (tag, options) => result tag options) := by
  rw [ofComputed_eq] at classified
  cases found : column.foundResult with
  | none =>
      rw [found] at classified
      exact Column.resolve_of_error classified
  | some result =>
      obtain ⟨tag, options⟩ := result
      rw [found] at classified
      rw [Column.resolve_of_ok classified, ColumnType.resolve_of_computed _ (computed _)]
      exact resolve_resultThrough (onNumbers options) column.name tag

end Verdict

/-- Every column resolves to its verdict. -/
theorem Column.resolve_eq_verdict (column : Column) :
    column.resolve = Verdict.named column.name column.verdict := by
  unfold verdict
  split
  · next tag => exact Verdict.resolve_number tag
  · next tag =>
      cases given : column.typeOptions with
      | none =>
          have classified := ColumnType.ofColumn_lookup tag
          rw [Indirection.ofLookup, given] at classified
          exact resolve_of_error classified
      | some options => exact Verdict.resolve_lookThrough (Verdict.onNumbers options) tag given
  · next tag =>
      exact Verdict.resolve_computed (fun _ => rfl) (ColumnType.ofColumn_formula tag)
  · next tag =>
      exact Verdict.resolve_computed (fun _ => rfl) (ColumnType.ofColumn_rollup tag)
  · next notNumber notLookup notFormula notRollup =>
      exact Verdict.resolve_leaf ⟨notNumber, notLookup, notFormula, notRollup⟩

end BaseApi

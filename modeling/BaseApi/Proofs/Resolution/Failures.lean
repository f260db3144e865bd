import Mathlib
import BaseApi.Proofs.Fallible
import BaseApi.Proofs.Resolution.Unfolding

/-!
# What a failure points to

A failure of resolution can arise far from the column that was to be resolved, in a column that
stands for a result of a result. Yet it has the name of the first column, because every column on
the way keeps it, and its detail is a text of the first column, because every column on the way is
made of texts of the one before (`Column.pointsInto_of_resolve_error`).
-/

namespace BaseApi

open Fallible

/-! ## Texts of a column -/

/-- A text that stands in options: a format, a relationship, a result type or the type of a
result. -/
inductive TypeOptions.HasText (options : TypeOptions) (text : String) : Prop
  | format : options.format = some (some text) → HasText options text
  | relationship : options.relationship = some text → HasText options text
  | resultType : options.resultType = some text → HasText options text
  | result : options.result = some { tag := text } → HasText options text

/-- A text that stands in a column: its tag, or a text of its older or newer options. -/
inductive Column.HasText (column : Column) (text : String) : Prop
  | tag : column.tag = text → HasText column text
  | typeOptions {options : TypeOptions} : column.typeOptions = some options → options.HasText text →
      HasText column text
  | options {options : TypeOptions} : column.options = some options → options.HasText text →
      HasText column text

/-- A failure names a column, and its detail is a text of the column, if it is not that a text is
missing. -/
structure ColumnError.PointsInto (error : ColumnError) (column : Column) : Prop where
  column_eq : error.column = column.name
  detail : error.fault.detail = missingDetail ∨ column.HasText error.fault.detail

theorem Column.pointsInto_of_fail {α : Type} {column : Column} {fault : ColumnFault}
    {error : ColumnError} (failed : column.fail (α := α) fault = .error error)
    (detail : fault.detail = missingDetail ∨ column.HasText fault.detail) :
    error.PointsInto column := by
  cases failed
  exact ⟨rfl, detail⟩

/-! ## Classification -/

theorem NumberFormat.pointsInto_of_ofColumn_error {column : Column} {error : ColumnError}
    (failed : NumberFormat.ofColumn column = .error error) : error.PointsInto column := by
  unfold NumberFormat.ofColumn at failed
  split at failed
  · cases failed
  · next options given =>
      split at failed
      case h_7 =>
        split at failed
        · cases failed
        · exact Column.pointsInto_of_fail failed (.inl rfl)
      case h_8 format _ _ _ _ _ notEmpty found =>
        refine Column.pointsInto_of_fail failed (.inr (.typeOptions given (.format ?_)))
        obtain ⟨written, present, rfl⟩ := Option.map_eq_some_iff.mp found
        cases written with
        | none => exact absurd rfl notEmpty
        | some text => exact present
      all_goals cases failed

theorem Relationship.pointsInto_of_ofColumn_error {column : Column} {error : ColumnError}
    (failed : Relationship.ofColumn column = .error error) : error.PointsInto column := by
  unfold Relationship.ofColumn at failed
  split at failed
  · cases failed
  · cases failed
  · refine Column.pointsInto_of_fail failed ?_
    cases found : column.typeOptions.bind TypeOptions.relationship with
    | none => exact .inl rfl
    | some text =>
        obtain ⟨options, given, present⟩ := Option.bind_eq_some_iff.mp found
        exact .inr (.typeOptions given (.relationship present))

theorem Indirection.pointsInto_of_ofLookup_error {column : Column} {error : ColumnError}
    (failed : Indirection.ofLookup column = .error error) : error.PointsInto column := by
  unfold Indirection.ofLookup at failed
  split at failed
  · split at failed
    · cases failed
    · exact Column.pointsInto_of_fail failed (.inl rfl)
  · exact Column.pointsInto_of_fail failed (.inl rfl)

theorem Indirection.pointsInto_of_ofComputed_error {column : Column} {error : ColumnError}
    (failed : Indirection.ofComputed column = .error error) : error.PointsInto column := by
  simp only [Indirection.ofComputed] at failed
  split at failed
  · cases failed
  · exact Column.pointsInto_of_fail failed (.inr (.tag rfl))

theorem ColumnType.pointsInto_of_ofColumn_error {column : Column} {error : ColumnError}
    (failed : ofColumn column = .error error) : error.PointsInto column := by
  by_cases structured : column.tag ∈ structuredTags
  · simp only [structuredTags, List.mem_cons, List.not_mem_nil, or_false] at structured
    rcases structured with tag | tag | tag | tag | tag
    · rw [ofColumn_number tag, map_eq_error_iff] at failed
      exact NumberFormat.pointsInto_of_ofColumn_error failed
    · rw [ofColumn_foreignKey tag, map_eq_error_iff] at failed
      exact Relationship.pointsInto_of_ofColumn_error failed
    · rw [ofColumn_lookup tag, map_eq_error_iff] at failed
      exact Indirection.pointsInto_of_ofLookup_error failed
    · rw [ofColumn_formula tag, map_eq_error_iff] at failed
      exact Indirection.pointsInto_of_ofComputed_error failed
    · rw [ofColumn_rollup tag, map_eq_error_iff] at failed
      exact Indirection.pointsInto_of_ofComputed_error failed
  · rw [ofColumn_plain structured] at failed
    split at failed
    · cases failed
    · exact Column.pointsInto_of_fail failed (.inr (.tag rfl))

/-! ## Results -/

/-- The result that a type resolves through. -/
def ColumnType.result? : ColumnType → Option Indirection
  | lookup result => some result
  | type => type.computed?

/-- An indirection of a column is made of texts of the column: it has a result or a result type of
some options of the column, and these options, maybe without the format. -/
structure Indirection.IsMadeOf (result : Indirection) (column : Column) : Prop where
  tag : column.HasText result.tag
  options : ∀ text, result.options.HasText text → column.HasText text

/-- The column that stands for the result has no texts but those of the column. -/
theorem Indirection.IsMadeOf.hasText_of_column {result : Indirection} {column : Column}
    {name text : String} (made : result.IsMadeOf column) (has : (result.column name).HasText text) :
    column.HasText text := by
  cases has with
  | tag same => exact same ▸ made.tag
  | typeOptions given inOptions =>
      cases given
      exact made.options text inOptions
  | options given => cases given

theorem NumberFormat.isMadeOf_of_ofColumn {column : Column} {result : Indirection}
    (classified : NumberFormat.ofColumn column = .ok (.derived result)) :
    result.IsMadeOf column := by
  rcases NumberFormat.cases_of_ofColumn classified with
    ⟨scalar, settled⟩ | ⟨options, descriptor, given, -, found, same⟩
  · cases settled
  · cases same
    refine ⟨.typeOptions given (.result found), ?_⟩
    -- The format is gone, and nothing else has changed.
    intro text has
    cases has with
    | format present => cases present
    | relationship present => exact .typeOptions given (.relationship present)
    | resultType present => exact .typeOptions given (.resultType present)
    | result present => exact .typeOptions given (.result present)

theorem Indirection.isMadeOf_of_ofLookup {column : Column} {result : Indirection}
    (classified : Indirection.ofLookup column = .ok result) : result.IsMadeOf column := by
  unfold Indirection.ofLookup at classified
  split at classified
  · next options given =>
      split at classified
      · next tag found =>
          cases classified
          exact ⟨.typeOptions given (.resultType found), fun _ has => .typeOptions given has⟩
      · cases classified
  · cases classified

theorem Indirection.isMadeOf_of_ofComputed {column : Column} {result : Indirection}
    (classified : Indirection.ofComputed column = .ok result) : result.IsMadeOf column := by
  simp only [Indirection.ofComputed] at classified
  split at classified
  · next found =>
      cases classified
      simp only [Option.orElse_eq_some, Option.bind_eq_some_iff, Option.map_eq_some_iff] at found
      rcases found with newer | ⟨-, older | ⟨-, oldest⟩⟩
      · obtain ⟨options, given, held, present, rfl⟩ := newer
        exact ⟨.options given (.result present), fun _ has => .options given has⟩
      · obtain ⟨options, given, held, present, rfl⟩ := older
        exact ⟨.typeOptions given (.result present), fun _ has => .typeOptions given has⟩
      · obtain ⟨options, given, tag, present, rfl⟩ := oldest
        exact ⟨.typeOptions given (.resultType present), fun _ has => .typeOptions given has⟩
  · cases classified

/-- The type of a column resolves through what is made of the column. -/
theorem ColumnType.isMadeOf_of_ofColumn {column : Column} {type : ColumnType}
    {result : Indirection} (classified : ofColumn column = .ok type)
    (resolvesThrough : type.result? = some result) : result.IsMadeOf column := by
  by_cases structured : column.tag ∈ structuredTags
  · simp only [structuredTags, List.mem_cons, List.not_mem_nil, or_false] at structured
    rcases structured with tag | tag | tag | tag | tag
    · rw [ofColumn_number tag, map_eq_ok_iff] at classified
      obtain ⟨format, classified, rfl⟩ := classified
      cases format with
      | derived inner =>
          cases resolvesThrough
          exact NumberFormat.isMadeOf_of_ofColumn classified
      | _ => cases resolvesThrough
    · rw [ofColumn_foreignKey tag, map_eq_ok_iff] at classified
      obtain ⟨relationship, -, rfl⟩ := classified
      cases resolvesThrough
    · rw [ofColumn_lookup tag, map_eq_ok_iff] at classified
      obtain ⟨inner, classified, rfl⟩ := classified
      cases resolvesThrough
      exact Indirection.isMadeOf_of_ofLookup classified
    · rw [ofColumn_formula tag, map_eq_ok_iff] at classified
      obtain ⟨inner, classified, rfl⟩ := classified
      cases resolvesThrough
      exact Indirection.isMadeOf_of_ofComputed classified
    · rw [ofColumn_rollup tag, map_eq_ok_iff] at classified
      obtain ⟨inner, classified, rfl⟩ := classified
      cases resolvesThrough
      exact Indirection.isMadeOf_of_ofComputed classified
  · rw [ofColumn_plain structured] at classified
    split at classified
    · cases classified
      cases resolvesThrough
    · cases classified

/-! ## Resolution -/

/-- What points into the column that stands for a result points into the column that has it. -/
theorem ColumnError.PointsInto.of_result {error : ColumnError} {column : Column}
    {type : ColumnType} {result : Indirection}
    (points : error.PointsInto (result.column column.name))
    (classified : ColumnType.ofColumn column = .ok type)
    (resolvesThrough : type.result? = some result) : error.PointsInto column := by
  have made := ColumnType.isMadeOf_of_ofColumn classified resolvesThrough
  exact ⟨points.column_eq, points.detail.imp_right made.hasText_of_column⟩

/-- A refusal of a result points into the column that stands for it. -/
theorem Indirection.pointsInto_of_refused {result : Indirection} {name : String}
    {fault : ColumnFault} (detail : fault.detail = result.tag) :
    ColumnError.PointsInto { column := name, fault } (result.column name) :=
  ⟨rfl, .inr (.tag detail.symm)⟩

/-- A failure points into the column if that of its type points into the column for the result. -/
theorem Column.pointsInto_of_type {column : Column} {error : ColumnError}
    (ofType : ∀ type, ColumnType.ofColumn column = .ok type →
      type.resolve column.name = .error error →
        ∃ result, type.result? = some result ∧ error.PointsInto (result.column column.name))
    (failed : column.resolve = .error error) : error.PointsInto column := by
  rcases bind_eq_error_iff.mp failed with unclassified | ⟨type, classified, failedType⟩
  · exact ColumnType.pointsInto_of_ofColumn_error unclassified
  · obtain ⟨result, through, points⟩ := ofType type classified failedType
    exact points.of_result classified through

theorem ColumnType.result?_of_computed {type : ColumnType} {result : Indirection}
    (computed : type.computed? = some result) : type.result? = some result := by
  unfold computed? at computed
  split at computed <;> cases computed <;> rfl

/-- A type that fails has a result, and its failure points into the column that stands for that. -/
theorem ColumnType.exists_pointsInto_of_resolve_error {name : String} {type : ColumnType}
    {error : ColumnError} (failed : type.resolve name = .error error) :
    ∃ result, type.result? = some result ∧ error.PointsInto (result.column name) := by
  induction type using resultInduction name with
  | settled type fragment settled =>
      rw [resolve_of_settled name settled] at failed
      cases failed
  | lookup result ih =>
      refine ⟨result, rfl, ?_⟩
      rw [resolve_lookup] at failed
      split at failed
      · cases failed
      · split at failed
        · cases failed
          exact Indirection.pointsInto_of_refused rfl
        · next accepted =>
            unfold wrapLookedUp at failed
            split at failed
            · next failedResult =>
                cases failed
                exact Column.pointsInto_of_type (ih accepted) failedResult
            · cases failed
            · cases failed
              exact Indirection.pointsInto_of_refused rfl
  | computed type result computed ih =>
      refine ⟨result, result?_of_computed computed, ?_⟩
      rw [resolve_of_computed name computed] at failed
      split at failed
      · cases failed
        exact Indirection.pointsInto_of_refused rfl
      · next accepted => exact Column.pointsInto_of_type (ih accepted) failed

/-- A failure to resolve a column points into the column, at whatever depth it arose. -/
theorem Column.pointsInto_of_resolve_error {column : Column} {error : ColumnError}
    (failed : column.resolve = .error error) : error.PointsInto column :=
  pointsInto_of_type (fun _ _ => ColumnType.exists_pointsInto_of_resolve_error) failed

theorem Column.column_of_resolve_error {column : Column} {error : ColumnError}
    (failed : column.resolve = .error error) : error.column = column.name :=
  (pointsInto_of_resolve_error failed).column_eq

end BaseApi

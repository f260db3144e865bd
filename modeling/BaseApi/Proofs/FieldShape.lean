import Mathlib
import BaseApi.Proofs.Fallible
import BaseApi.Proofs.Resolution.Unfolding
import BaseApi.ResolvedBase

/-!
# Fragments of fields

A column resolves to a scalar, to an array of scalars, to an attachment or to an array of them,
through however many indirections (`ColumnType.isFieldShape_of_resolve`). So the only reference in a
field of a resolved base is that to an attachment.
-/

namespace BaseApi

/-! ## Shapes -/

/-- What the fragment of a field can be. -/
inductive Fragment.IsFieldShape : Fragment → Prop where
  | scalar (type : ScalarType) : IsFieldShape (.scalar type)
  | scalars (type : ScalarType) : IsFieldShape (.array (.scalar type))
  | attachment : IsFieldShape (.component ComponentName.attachment)
  | attachments : IsFieldShape (.array (.component ComponentName.attachment))

namespace ColumnType

theorem isFieldShape_of_settled {type : ColumnType} {fragment : Fragment}
    (settled : type.settled? = some fragment) : fragment.IsFieldShape := by
  unfold settled? at settled
  split at settled <;> cases settled
  case h_1 plain => cases plain <;> constructor
  case h_2 => constructor
  case h_7 format _ => cases format <;> constructor

/-- A lookup yields an array of scalars or nothing. -/
theorem eq_array_scalar_of_resolve_lookup {name : String} {result : Indirection}
    {fragment : Fragment} (resolved : resolve name (.lookup result) = .ok fragment) :
    ∃ type, fragment = .array (.scalar type) := by
  rw [resolve_lookup] at resolved
  split at resolved
  · cases resolved
    exact ⟨.string, rfl⟩
  · split at resolved
    · cases resolved
    · unfold wrapLookedUp at resolved
      split at resolved
      · cases resolved
      · cases resolved
        exact ⟨_, rfl⟩
      · cases resolved

/-- Whatever a type resolves to can be the fragment of a field. -/
theorem isFieldShape_of_resolve {name : String} {type : ColumnType} {fragment : Fragment}
    (resolved : type.resolve name = .ok fragment) : fragment.IsFieldShape := by
  induction type using resultInduction name with
  | settled type own settled =>
      rw [resolve_of_settled name settled, Except.ok.injEq] at resolved
      exact resolved ▸ isFieldShape_of_settled settled
  | lookup result ih =>
      obtain ⟨scalar, rfl⟩ := eq_array_scalar_of_resolve_lookup resolved
      exact .scalars scalar
  | computed type result computed ih =>
      rw [resolve_of_computed name computed] at resolved
      split at resolved
      · cases resolved
      · next accepted =>
          obtain ⟨inner, classified, resolvedInner⟩ := Fallible.bind_eq_ok_iff.mp resolved
          exact ih accepted inner classified resolvedInner

end ColumnType

theorem Column.isFieldShape_of_resolve {column : Column} {fragment : Fragment}
    (resolved : column.resolve = .ok fragment) : fragment.IsFieldShape := by
  obtain ⟨type, -, resolvedType⟩ := Fallible.bind_eq_ok_iff.mp resolved
  exact ColumnType.isFieldShape_of_resolve resolvedType

/-! ## References -/

/-- The paths to which a fragment refers. -/
def Fragment.references : Fragment → List String
  | scalar _ => []
  | array items => items.references
  | ref path => [path]

/-- The fragment of a field refers to nothing but the schema of an attachment. -/
theorem Fragment.IsFieldShape.eq_of_mem_references {fragment : Fragment}
    (shape : fragment.IsFieldShape) {reference : String}
    (member : reference ∈ fragment.references) :
    reference = componentPath ++ ComponentName.attachment := by
  cases shape with
  | scalar type => exact absurd member List.not_mem_nil
  | scalars type => exact absurd member List.not_mem_nil
  | attachment => exact List.mem_singleton.mp member
  | attachments => exact List.mem_singleton.mp member

/-! ## Resolved tables -/

theorem Column.toField_eq_ok_iff {column : Column} {field : ResolvedField} :
    column.toField = .ok field ↔
      ∃ fragment, column.resolve = .ok fragment ∧
        field = { name := column.name, schema := fragment, readOnly := column.isReadOnly } := by
  simp only [toField, Fallible.bind_eq_ok_iff, Fallible.pure_eq_ok_iff, @eq_comm _ _ field]

theorem Table.resolve_eq_ok_iff {table : Table} {resolved : ResolvedTable} :
    table.resolve = .ok resolved ↔
      resolved.name = table.name ∧ resolved.identifier = sanitize table.name ∧
        List.Forall₂ (fun column field => column.toField = .ok field) table.columns
          resolved.fields := by
  rw [← Fallible.mapM_eq_ok_iff, resolve]
  cases fields : table.columns.mapM Column.toField with
  | error error => simp
  | ok fields =>
      obtain ⟨name, identifier, columns⟩ := resolved
      simp only [Except.ok.injEq, ResolvedTable.mk.injEq]
      exact ⟨fun ⟨h1, h2, h3⟩ => ⟨h1.symm, h2.symm, h3⟩, fun ⟨h1, h2, h3⟩ => ⟨h1.symm, h2.symm, h3⟩⟩

theorem BaseSchema.resolve_eq_ok_iff {schema : BaseSchema} {base : ResolvedBase} :
    schema.resolve = .ok base ↔
      base.id = schema.id ∧ base.name = schema.name ∧
        List.Forall₂ (fun table resolved => table.resolve = .ok resolved) schema.tables
          base.tables := by
  simp only [resolve, Fallible.bind_eq_ok_iff, Fallible.pure_eq_ok_iff, ← Fallible.mapM_eq_ok_iff]
  constructor
  · rintro ⟨tables, resolved, rfl⟩
    exact ⟨rfl, rfl, resolved⟩
  · rintro ⟨id, name, resolved⟩
    exact ⟨base.tables, resolved, by rw [← id, ← name]⟩

end BaseApi

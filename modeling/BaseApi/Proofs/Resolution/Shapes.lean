import Mathlib
import BaseApi.Proofs.FieldShape
import BaseApi.Proofs.Resolution.Depth

/-!
# Arrays are made once

Of all the types that resolution comes to on its way (`ColumnType.Reaches`), only a lookup makes an
array of what it finds, and it takes nothing but a scalar. All other steps pass a fragment on as it
is. So between two types on the way a fragment is wrapped at most once
(`ColumnType.Reaches.resolve_eq`), and a lookup that is reached through formulas, rollups and
numbers is not wrapped again.
-/

namespace BaseApi

/-! ## Shapes of fields -/

theorem Fragment.isFieldShape_iff {fragment : Fragment} :
    fragment.IsFieldShape ↔
      (∃ scalar, fragment = .scalar scalar) ∨ (∃ scalar, fragment = .array (.scalar scalar)) ∨
        fragment = .component ComponentName.attachment ∨
        fragment = .array (.component ComponentName.attachment) := by
  constructor
  · intro shape
    cases shape with
    | scalar type => exact .inl ⟨type, rfl⟩
    | scalars type => exact .inr (.inl ⟨type, rfl⟩)
    | attachment => exact .inr (.inr (.inl rfl))
    | attachments => exact .inr (.inr (.inr rfl))
  · intro shape
    rcases shape with ⟨type, rfl⟩ | ⟨type, rfl⟩ | rfl | rfl
    · exact .scalar type
    · exact .scalars type
    · exact .attachment
    · exact .attachments

namespace ColumnType

/-- A lookup of a plain type with a scalar fragment resolves to an array of that. -/
theorem resolve_lookup_of_scalar (name tag : String) {type : PlainType} {scalar : ScalarType}
    (plain : PlainType.ofTag? tag = some type) (own : type.fragment = .scalar scalar)
    (other : tag ∉ structuredTags) (accepted : tag ∉ Tag.notLookedUp) (options : TypeOptions) :
    resolve name (.lookup { tag, options }) = .ok (.array (.scalar scalar)) := by
  let result : Indirection := { tag, options }
  have tagged : PlainType.ofTag? (result.column name).tag = some type := plain
  have classified : ofColumn (result.column name) = .ok (.plain type) := by
    rw [ofColumn_plain (show (result.column name).tag ∉ structuredTags from other), tagged]
  have resolved : (result.column name).resolve = .ok (.scalar scalar) :=
    Column.resolve_of_settled classified (congrArg some own)
  have notLink : tag ≠ Tag.foreignKey := by
    intro link
    exact other (by simp [link, structuredTags])
  rw [resolve_lookup, if_neg notLink, if_neg accepted, resolved]
  rfl

/-- Every shape of a field is that of some type. -/
theorem exists_resolve_of_isFieldShape (name : String) {fragment : Fragment}
    (shape : fragment.IsFieldShape) : ∃ type, resolve name type = .ok fragment := by
  have lookedUp := resolve_lookup_of_scalar name
  cases shape with
  | scalar type =>
      cases type with
      | number => exact ⟨.plain .currency, resolve_of_settled name rfl⟩
      | integer => exact ⟨.plain .count, resolve_of_settled name rfl⟩
      | string => exact ⟨.plain .text, resolve_of_settled name rfl⟩
      | boolean => exact ⟨.plain .checkbox, resolve_of_settled name rfl⟩
  | scalars type =>
      cases type with
      | number => exact ⟨_, lookedUp "currency" rfl rfl (by decide) (by decide) {}⟩
      | integer => exact ⟨_, lookedUp "count" rfl rfl (by decide) (by decide) {}⟩
      | string => exact ⟨_, lookedUp "text" rfl rfl (by decide) (by decide) {}⟩
      | boolean => exact ⟨_, lookedUp "checkbox" rfl rfl (by decide) (by decide) {}⟩
  | attachment => exact ⟨.plain .attachment, resolve_of_settled name rfl⟩
  | attachments => exact ⟨.plain .multipleAttachment, resolve_of_settled name rfl⟩

/-! ## One step -/

variable {name : String} {type : ColumnType} {fragment : Fragment}

/-- The second fragment is the first, or the first is a scalar and the second an array of it. -/
def WrapsOnce (inner outer : Fragment) : Prop :=
  outer = inner ∨ ∃ scalar, inner = .scalar scalar ∧ outer = .array (.scalar scalar)

theorem WrapsOnce.trans {first second third : Fragment} (inner : WrapsOnce first second)
    (outer : WrapsOnce second third) : WrapsOnce first third := by
  rcases inner with rfl | ⟨scalar, rfl, rfl⟩
  · exact outer
  · -- The array that is there is no scalar, so it is not wrapped again.
    rcases outer with rfl | ⟨other, array, -⟩
    · exact .inr ⟨scalar, rfl, rfl⟩
    · cases array

/-- An array stays as it is. -/
theorem WrapsOnce.eq_of_array {items outer : Fragment} (wraps : WrapsOnce (.array items) outer) :
    outer = .array items := by
  rcases wraps with same | ⟨scalar, array, -⟩
  · exact same
  · cases array

theorem wrapsOnce_of_wrapLookedUp {resultType : String} {outcome : Except ColumnError Fragment}
    (wrapped : wrapLookedUp name resultType outcome = .ok fragment) :
    ∃ inner, outcome = .ok inner ∧ WrapsOnce inner fragment := by
  unfold wrapLookedUp at wrapped
  split at wrapped
  · cases wrapped
  · next scalar =>
      cases wrapped
      exact ⟨.scalar scalar, rfl, .inr ⟨scalar, rfl, rfl⟩⟩
  · cases wrapped

/-- If a type resolves, then so does the column that it activates, to what it passes on or wraps. -/
theorem Activates.resolve_eq {column : Column} (activates : type.Activates name column)
    (resolved : type.resolve name = .ok fragment) :
    ∃ inner, column.resolve = .ok inner ∧ WrapsOnce inner fragment := by
  cases activates with
  | lookup notLink accepted =>
      rw [resolve_lookup, if_neg notLink, if_neg accepted] at resolved
      exact wrapsOnce_of_wrapLookedUp resolved
  | computed computed accepted =>
      rw [resolve_of_computed name computed, if_neg accepted] at resolved
      exact ⟨fragment, resolved, .inl rfl⟩

theorem Activates.name_eq {column : Column} (activates : type.Activates name column) :
    column.name = name := by
  cases activates <;> rfl

/-! ## All steps -/

/-- Resolving a type for a column called `name` comes to another type: to the type itself, or to one
that the type of the column comes to which is resolved on the way. -/
inductive Reaches (name : String) : ColumnType → ColumnType → Prop
  | refl (type : ColumnType) : Reaches name type type
  | step {type inner last : ColumnType} {column : Column} : type.Activates name column →
      ofColumn column = .ok inner → Reaches name inner last → Reaches name type last

/-- If a type resolves, then so does every type that it comes to, and its fragment is passed on or
wrapped once. -/
theorem Reaches.resolve_eq {last : ColumnType} (reaches : Reaches name type last)
    (resolved : type.resolve name = .ok fragment) :
    ∃ inner, last.resolve name = .ok inner ∧ WrapsOnce inner fragment := by
  induction reaches generalizing fragment with
  | refl type => exact ⟨fragment, resolved, .inl rfl⟩
  | step activates classified _ ih =>
      obtain ⟨middle, resolvedColumn, outer⟩ := activates.resolve_eq resolved
      rw [Column.resolve_of_ok classified, activates.name_eq] at resolvedColumn
      obtain ⟨innermost, resolvedLast, inner⟩ := ih resolvedColumn
      exact ⟨innermost, resolvedLast, inner.trans outer⟩

/-- A type that comes to a lookup resolves to what the lookup does. -/
theorem Reaches.resolve_of_lookup {result : Indirection}
    (reaches : Reaches name type (.lookup result))
    (resolved : type.resolve name = .ok fragment) :
    resolve name (.lookup result) = .ok fragment := by
  obtain ⟨inner, resolvedLookup, wraps⟩ := reaches.resolve_eq resolved
  obtain ⟨scalar, rfl⟩ := eq_array_scalar_of_resolve_lookup resolvedLookup
  rw [wraps.eq_of_array]
  exact resolvedLookup

/-- A type resolves to a scalar, to an array of a scalar, to an attachment or to an array of
attachments; there are types for all of these, and for nothing else. A lookup resolves to an array
of a scalar if it resolves at all, and so does every type that comes to a lookup, at any depth. -/
theorem resolved_shapes (name : String) :
    (∀ fragment, (∃ type, resolve name type = .ok fragment) ↔
      (∃ scalar, fragment = .scalar scalar) ∨ (∃ scalar, fragment = .array (.scalar scalar)) ∨
        fragment = .component ComponentName.attachment ∨
        fragment = .array (.component ComponentName.attachment)) ∧
    (∀ result fragment, resolve name (.lookup result) = .ok fragment →
      ∃ scalar, fragment = .array (.scalar scalar)) ∧
    ∀ type result fragment, Reaches name type (.lookup result) →
      resolve name type = .ok fragment →
      resolve name (.lookup result) = .ok fragment ∧
        ∃ scalar, fragment = .array (.scalar scalar) := by
  refine ⟨?_, fun _ _ => eq_array_scalar_of_resolve_lookup, ?_⟩
  · intro fragment
    rw [← Fragment.isFieldShape_iff]
    constructor
    · rintro ⟨type, resolved⟩
      exact isFieldShape_of_resolve resolved
    · exact exists_resolve_of_isFieldShape name
  · intro type result fragment reaches resolved
    have same := reaches.resolve_of_lookup resolved
    exact ⟨same, eq_array_scalar_of_resolve_lookup same⟩

-- A number that defers to a lookup of counts has the array of the lookup.
example : Column.resolveWithin 3
    { name := "Counts", tag := "number", typeOptions := some
        { format := some none, resultType := some "count", result := some ⟨"lookup"⟩ } } =
      some (.ok (.array .integer)) := by
  rfl

end ColumnType

end BaseApi

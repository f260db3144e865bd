import Mathlib
import BaseApi.ColumnType.Resolve

/-!
# One step of resolution

What classification makes of each tag, and what resolution makes of each type, in terms of
`Column.resolve` for the column that stands for the result. Proofs about resolution start from these
equations, so they do not open the definitions again.
-/

namespace BaseApi

/-! ## Classification by tag -/

namespace ColumnType

variable {column : Column}

theorem ofColumn_number (tag : column.tag = Tag.number) :
    ofColumn column = (NumberFormat.ofColumn column).map .number := by
  rw [ofColumn, if_pos tag]

theorem ofColumn_foreignKey (tag : column.tag = Tag.foreignKey) :
    ofColumn column = (Relationship.ofColumn column).map .foreignKey := by
  rw [ofColumn, tag, if_neg (by decide), if_pos rfl]

theorem ofColumn_lookup (tag : column.tag = Tag.lookup) :
    ofColumn column = (Indirection.ofLookup column).map .lookup := by
  rw [ofColumn, tag, if_neg (by decide), if_neg (by decide), if_pos rfl]

theorem ofColumn_lookup_of_some {options : TypeOptions} (tag : column.tag = Tag.lookup)
    (given : column.typeOptions = some options) :
    ofColumn column =
      match options.resultType with
      | some tag => .ok (.lookup { tag, options })
      | none => column.fail (.unknownType missingDetail) := by
  rw [ofColumn_lookup tag, Indirection.ofLookup, given]
  cases found : options.resultType with
  | none => simp [found, Column.fail, Except.map]
  | some resultType => simp [found, Except.map]

theorem ofColumn_formula (tag : column.tag = Tag.formula) :
    ofColumn column = (Indirection.ofComputed column).map .formula := by
  rw [ofColumn, tag, if_neg (by decide), if_neg (by decide), if_neg (by decide), if_pos rfl]

theorem ofColumn_rollup (tag : column.tag = Tag.rollup) :
    ofColumn column = (Indirection.ofComputed column).map .rollup := by
  rw [ofColumn, tag, if_neg (by decide), if_neg (by decide), if_neg (by decide),
    if_neg (by decide), if_pos rfl]

/-- The tags whose type depends on more than the tag. -/
def structuredTags : List String :=
  [Tag.number, Tag.foreignKey, Tag.lookup, Tag.formula, Tag.rollup]

theorem ofColumn_plain (other : column.tag ∉ structuredTags) :
    ofColumn column =
      match PlainType.ofTag? column.tag with
      | some type => .ok (.plain type)
      | none => column.fail (.unknownType column.tag) := by
  simp only [structuredTags, List.mem_cons, List.not_mem_nil, or_false, not_or] at other
  obtain ⟨notNumber, notLink, notLookup, notFormula, notRollup⟩ := other
  rw [ofColumn, if_neg notNumber, if_neg notLink, if_neg notLookup, if_neg notFormula]
  exact if_neg notRollup

end ColumnType

/-! ## Refused results -/

/-- What a lookup looks up is no indirection by its tag. -/
theorem Tag.ne_of_not_mem_notLookedUp {tag : String} (accepted : tag ∉ notLookedUp) :
    tag ≠ formula ∧ tag ≠ rollup ∧ tag ≠ lookup := by
  simp only [notLookedUp, List.mem_cons, List.not_mem_nil, or_false, not_or] at accepted
  exact accepted.2.2

theorem Tag.not_mem_notComputed_iff {tag : String} :
    tag ∉ notComputed ↔ tag ≠ formula ∧ tag ≠ rollup := by
  simp only [notComputed, List.mem_cons, List.not_mem_nil, or_false, not_or]

/-! ## Resolution by type -/

theorem Column.resolve_of_error {column : Column} {error : ColumnError}
    (classified : ColumnType.ofColumn column = .error error) : column.resolve = .error error := by
  rw [resolve, classified]
  rfl

theorem Column.resolve_of_ok {column : Column} {type : ColumnType}
    (classified : ColumnType.ofColumn column = .ok type) :
    column.resolve = type.resolve column.name := by
  rw [resolve, classified]
  rfl

namespace ColumnType

variable (name : String)

/-- What a lookup with a result type makes of the fragment of its result. -/
def wrapLookedUp (resultType : String) :
    Except ColumnError Fragment → Except ColumnError Fragment
  | .error error => .error error
  | .ok (.scalar scalar) => .ok (.array (.scalar scalar))
  | .ok _ => .error { column := name, fault := .unsupportedLookup resultType }

/-- The fragment of a type that needs no other column. -/
def settled? : ColumnType → Option Fragment
  | plain type => some type.fragment
  | foreignKey _ => some (.array .string)
  | number (.derived _) | lookup _ | formula _ | rollup _ => none
  | number format => some format.fragment

/-- The result whose type a type takes over: that of a formula, of a rollup, or of a number that
defers to it. -/
def computed? : ColumnType → Option Indirection
  | number (.derived result) | formula result | rollup result => some result
  | _ => none

/-- A type has a fragment of its own, or wraps that of a result, or takes it over. -/
theorem trichotomy (type : ColumnType) :
    (∃ fragment, type.settled? = some fragment) ∨ (∃ result, type = .lookup result) ∨
      ∃ result, type.computed? = some result := by
  cases type with
  | plain type => exact .inl ⟨_, rfl⟩
  | foreignKey relationship => exact .inl ⟨_, rfl⟩
  | lookup result => exact .inr (.inl ⟨result, rfl⟩)
  | formula result => exact .inr (.inr ⟨result, rfl⟩)
  | rollup result => exact .inr (.inr ⟨result, rfl⟩)
  | number format =>
      cases format with
      | derived result => exact .inr (.inr ⟨result, rfl⟩)
      | _ => exact .inl ⟨_, rfl⟩

theorem rank_of_computed {type : ColumnType} {result : Indirection}
    (computed : type.computed? = some result) :
    type.rank = 3 * result.options.deferral + 2 := by
  unfold computed? at computed
  split at computed <;> cases computed <;> rw [rank]

theorem resolve_of_settled {type : ColumnType} {fragment : Fragment}
    (settled : type.settled? = some fragment) : resolve name type = .ok fragment := by
  unfold settled? at settled
  split at settled <;> cases settled <;> simp [resolve]

theorem resolve_lookup (result : Indirection) :
    resolve name (.lookup result) =
      if result.tag = Tag.foreignKey then .ok (.array .string)
      else if result.tag ∈ Tag.notLookedUp then
        .error { column := name, fault := .unsupportedLookup result.tag }
      else wrapLookedUp name result.tag (result.column name).resolve := by
  rw [resolve]
  split
  · rfl
  · split
    · rfl
    · split
      · next error classified => rw [Column.resolve_of_error classified]; rfl
      · next type classified =>
          rw [Column.resolve_of_ok classified]
          have same : (result.column name).name = name := rfl
          rw [same]
          cases resolve name type with
          | error error => rfl
          | ok fragment => cases fragment <;> rfl

theorem resolve_of_computed {type : ColumnType} {result : Indirection}
    (computed : type.computed? = some result) :
    resolve name type =
      if result.tag ∈ Tag.notComputed then
        .error { column := name, fault := .invalidIndirection result.tag }
      else (result.column name).resolve := by
  have shape : type = .number (.derived result) ∨ type = .formula result ∨
      type = .rollup result := by
    unfold computed? at computed
    split at computed <;> cases computed <;> simp
  rcases shape with rfl | rfl | rfl <;>
    (rw [resolve]
     split
     · rfl
     · split
       · next error classified => rw [Column.resolve_of_error classified]
       · next type classified => rw [Column.resolve_of_ok classified]; rfl)

/-- Induction along the results through which a type is resolved for a column called `name`: what
holds of the type of an accepted result holds of the type that resolves through it. -/
theorem resultInduction {holds : ColumnType → Prop}
    (settled : ∀ type fragment, type.settled? = some fragment → holds type)
    (lookup : ∀ result : Indirection, (result.tag ∉ Tag.notLookedUp →
      ∀ inner, ofColumn (result.column name) = .ok inner → holds inner) → holds (.lookup result))
    (computed : ∀ type result, type.computed? = some result → (result.tag ∉ Tag.notComputed →
      ∀ inner, ofColumn (result.column name) = .ok inner → holds inner) → holds type)
    (type : ColumnType) : holds type := by
  -- The type of an accepted result has a lower rank.
  induction ranked : type.rank using Nat.strong_induction_on generalizing type with
  | _ rank ih =>
    rcases type.trichotomy with ⟨fragment, known⟩ | ⟨result, rfl⟩ | ⟨result, known⟩
    · exact settled type fragment known
    · refine lookup result fun accepted inner classified => ih _ ?_ inner rfl
      obtain ⟨notFormula, notRollup, notLookup⟩ := Tag.ne_of_not_mem_notLookedUp accepted
      have lower := rank_ofColumn_of_ne (result.typeOptions_column name) notFormula notRollup
        notLookup classified
      have looked : rank = 3 * result.options.deferral + 1 := by rw [← ranked, ColumnType.rank]
      omega
    · refine computed type result known fun accepted inner classified => ih _ ?_ inner rfl
      obtain ⟨notFormula, notRollup⟩ := Tag.not_mem_notComputed_iff.mp accepted
      rw [← ranked, rank_of_computed known]
      exact rank_ofColumn_lt (result.typeOptions_column name) notFormula notRollup classified

end ColumnType

theorem Column.resolve_of_settled {column : Column} {type : ColumnType} {fragment : Fragment}
    (classified : ColumnType.ofColumn column = .ok type)
    (settled : type.settled? = some fragment) : column.resolve = .ok fragment := by
  rw [resolve_of_ok classified]
  exact ColumnType.resolve_of_settled column.name settled

/-- A number has a scalar of its own, or defers to its result, for which the format is cleared. -/
theorem NumberFormat.cases_of_ofColumn {column : Column} {format : NumberFormat}
    (classified : NumberFormat.ofColumn column = .ok format) :
    (∃ type, (ColumnType.number format).settled? = some (.scalar type)) ∨
      ∃ options result, column.typeOptions = some options ∧
        options.format.map (·.getD "") = some "" ∧ options.result = some result ∧
        format = .derived { tag := result.tag, options := { options with format := none } } := by
  unfold NumberFormat.ofColumn at classified
  split at classified
  · cases classified
    exact .inl ⟨_, rfl⟩
  · next options given =>
      split at classified
      case h_7 empty =>
        split at classified <;> cases classified
        next result found => exact .inr ⟨options, result, given, empty, found, rfl⟩
      case h_8 => cases classified
      all_goals
        cases classified
        exact .inl ⟨_, rfl⟩

end BaseApi

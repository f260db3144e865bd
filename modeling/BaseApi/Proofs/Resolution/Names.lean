import Mathlib
import BaseApi.Proofs.Resolution.Failures

/-!
# What the name of a column decides

Two columns that differ in nothing but their names resolve alike: they have the same fragment, or
the same fault, each under its own name (`SameButName`). Every step of resolution keeps this,
because it hands the name on and looks at nothing but the rest. So the name of a column decides
nothing but the name in a failure.
-/

namespace BaseApi

/-! ## Outcomes that differ in a name -/

/-- The outcome for a column called `left` and that for one called `right`: the same value, or the
same fault under either name. -/
inductive SameButName (left right : String) {α : Type} :
    Except ColumnError α → Except ColumnError α → Prop
  | ok (value : α) : SameButName left right (.ok value) (.ok value)
  | error (fault : ColumnFault) :
      SameButName left right (.error { column := left, fault }) (.error { column := right, fault })

namespace SameButName

variable {left right : String} {α β : Type} {first second : Except ColumnError α}

theorem map (same : SameButName left right first second) (f : α → β) :
    SameButName left right (first.map f) (second.map f) := by
  cases same with
  | ok value => exact .ok (f value)
  | error fault => exact .error fault

theorem bind (same : SameButName left right first second) {next next' : α → Except ColumnError β}
    (follows : ∀ value, first = .ok value → SameButName left right (next value) (next' value)) :
    SameButName left right (first >>= next) (second >>= next') := by
  cases same with
  | ok value => exact follows value rfl
  | error fault => exact .error fault

/-- The value is the same, or the fault is. -/
theorem exists_or_exists (same : SameButName left right first second) :
    (∃ value, first = .ok value ∧ second = .ok value) ∨
      ∃ fault, first = .error { column := left, fault } ∧
        second = .error { column := right, fault } := by
  cases same with
  | ok value => exact .inl ⟨value, rfl, rfl⟩
  | error fault => exact .inr ⟨fault, rfl, rfl⟩

end SameButName

/-! ## Classification -/

/-- The column under another name. -/
def Column.renamed (column : Column) (name : String) : Column := { column with name }

variable (column : Column) (name : String)

theorem NumberFormat.sameButName_ofColumn :
    SameButName column.name name (ofColumn column) (ofColumn (column.renamed name)) := by
  unfold ofColumn
  dsimp only [Column.renamed]
  split
  · exact .ok _
  · split
    case h_7 =>
      split
      · exact .ok _
      · exact .error _
    case h_8 => exact .error _
    all_goals exact .ok _

theorem Relationship.sameButName_ofColumn :
    SameButName column.name name (ofColumn column) (ofColumn (column.renamed name)) := by
  unfold ofColumn
  dsimp only [Column.renamed]
  split
  · exact .ok _
  · exact .ok _
  · exact .error _

theorem Indirection.sameButName_ofLookup :
    SameButName column.name name (ofLookup column) (ofLookup (column.renamed name)) := by
  unfold ofLookup
  dsimp only [Column.renamed]
  split
  · split
    · exact .ok _
    · exact .error _
  · exact .error _

theorem Indirection.sameButName_ofComputed :
    SameButName column.name name (ofComputed column) (ofComputed (column.renamed name)) := by
  unfold ofComputed
  dsimp only [Column.renamed]
  split
  · exact .ok _
  · exact .error _

theorem ColumnType.sameButName_ofColumn :
    SameButName column.name name (ofColumn column) (ofColumn (column.renamed name)) := by
  by_cases structured : column.tag ∈ structuredTags
  · simp only [structuredTags, List.mem_cons, List.not_mem_nil, or_false] at structured
    rcases structured with tag | tag | tag | tag | tag
    · rw [ofColumn_number tag, ofColumn_number (show (column.renamed name).tag = _ from tag)]
      exact (NumberFormat.sameButName_ofColumn column name).map _
    · rw [ofColumn_foreignKey tag,
        ofColumn_foreignKey (show (column.renamed name).tag = _ from tag)]
      exact (Relationship.sameButName_ofColumn column name).map _
    · rw [ofColumn_lookup tag, ofColumn_lookup (show (column.renamed name).tag = _ from tag)]
      exact (Indirection.sameButName_ofLookup column name).map _
    · rw [ofColumn_formula tag, ofColumn_formula (show (column.renamed name).tag = _ from tag)]
      exact (Indirection.sameButName_ofComputed column name).map _
    · rw [ofColumn_rollup tag, ofColumn_rollup (show (column.renamed name).tag = _ from tag)]
      exact (Indirection.sameButName_ofComputed column name).map _
  · rw [ofColumn_plain structured,
      ofColumn_plain (show (column.renamed name).tag ∉ _ from structured)]
    dsimp only [Column.renamed]
    split
    · exact .ok _
    · exact .error _

/-! ## Resolution -/

theorem ColumnType.sameButName_wrapLookedUp {left right resultType : String}
    {first second : Except ColumnError Fragment} (same : SameButName left right first second) :
    SameButName left right (wrapLookedUp left resultType first)
      (wrapLookedUp right resultType second) := by
  cases same with
  | error fault => exact .error fault
  | ok fragment =>
      cases fragment with
      | scalar type => exact .ok _
      | array items => exact .error _
      | ref path => exact .error _

/-- The column for a result is the same for both columns, but for the name. -/
theorem Indirection.sameButName_resolve_column (result : Indirection) {left right : String}
    (ofType : ∀ inner, ColumnType.ofColumn (result.column left) = .ok inner →
      SameButName left right (inner.resolve left) (inner.resolve right)) :
    SameButName left right (result.column left).resolve (result.column right).resolve :=
  (ColumnType.sameButName_ofColumn (result.column left) right).bind ofType

/-- A type resolves alike for columns with any two names. -/
theorem ColumnType.sameButName_resolve (type : ColumnType) (left right : String) :
    SameButName left right (type.resolve left) (type.resolve right) := by
  induction type using resultInduction left with
  | settled type fragment settled =>
      rw [resolve_of_settled left settled, resolve_of_settled right settled]
      exact .ok fragment
  | lookup result ih =>
      rw [resolve_lookup, resolve_lookup]
      split
      · exact .ok _
      · split
        · exact .error _
        · next accepted =>
            exact sameButName_wrapLookedUp (result.sameButName_resolve_column (ih accepted))
  | computed type result computed ih =>
      rw [resolve_of_computed left computed, resolve_of_computed right computed]
      split
      · exact .error _
      · next accepted => exact result.sameButName_resolve_column (ih accepted)

/-- So do columns that differ in their names only. -/
theorem Column.sameButName_resolve :
    SameButName column.name name column.resolve (column.renamed name).resolve :=
  (ColumnType.sameButName_ofColumn column name).bind
    fun type _ => type.sameButName_resolve column.name name

/-- The name of a column decides nothing but the name in a failure: under any two names a type has
the same fragment, or the same fault, and so has a column. A failure to resolve a column has the
name of the column, and its detail is `<missing>` or a text that stands in the column: its tag, or a
format, a relationship, a result type or the type of a result in its older or newer options. -/
theorem resolution_points_into_column :
    (∀ (type : ColumnType) (left right : String),
      (∃ fragment, type.resolve left = .ok fragment ∧ type.resolve right = .ok fragment) ∨
        ∃ fault, type.resolve left = .error { column := left, fault } ∧
          type.resolve right = .error { column := right, fault }) ∧
    (∀ (column : Column) (name : String),
      (∃ fragment, column.resolve = .ok fragment ∧
          Column.resolve { column with name } = .ok fragment) ∨
        ∃ fault, column.resolve = .error { column := column.name, fault } ∧
          Column.resolve { column with name } = .error { column := name, fault }) ∧
    ∀ (column : Column) (error : ColumnError), column.resolve = .error error →
      error.column = column.name ∧
        (error.fault.detail = "<missing>" ∨ column.HasText error.fault.detail) := by
  refine ⟨?_, ?_, ?_⟩
  · intro type left right
    exact (type.sameButName_resolve left right).exists_or_exists
  · intro column name
    exact (column.sameButName_resolve name).exists_or_exists
  · intro column error failed
    have points := Column.pointsInto_of_resolve_error failed
    exact ⟨points.column_eq, points.detail⟩

-- The format fails three columns away from the formula, in a number that is looked up.
example : Column.resolve
    { name := "Total", tag := "formula"
      options := some
        { format := some (some "bogus"), resultType := some "number"
          result := some ⟨"lookup"⟩ } } =
      .error { column := "Total", fault := .unknownFormat "bogus" } := by
  cbv

end BaseApi

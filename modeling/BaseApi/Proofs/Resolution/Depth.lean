import Mathlib
import BaseApi.Proofs.Resolution.Unfolding

/-!
# How deep resolution nests

Resolving a column resolves at most one other on the way, the one that stands for its result
(`Column.Activates`). `Column.resolveWithin` is the resolver cut off at a depth; it gives up exactly
if that many further columns are activated in a chain (`Column.resolveWithin_eq_none_iff`).

The options that are handed on never shrink, and a tag can come back. What falls is
`ColumnType.nesting`: a lookup is above everything that it may look up, a formula or a rollup above
a lookup, and a number that defers has cleared the format for the number that may come after it
(`ColumnType.nesting_lt_of_activates`). So five columns are the most (`Column.length_le_five`).
-/

namespace BaseApi

/-! ## The resolver cut off at a depth -/

/-- What resolution makes of a type if `resolveResult` resolves the column that stands for its
result, and nothing if `resolveResult` gives nothing. -/
def ColumnType.resolveWith (resolveResult : Column → Option (Except ColumnError Fragment))
    (name : String) : ColumnType → Option (Except ColumnError Fragment)
  | plain type => some (.ok type.fragment)
  | foreignKey _ => some (.ok (.array .string))
  | lookup result =>
      if result.tag = Tag.foreignKey then some (.ok (.array .string))
      else if result.tag ∈ Tag.notLookedUp then
        some (.error { column := name, fault := .unsupportedLookup result.tag })
      else (resolveResult (result.column name)).map (wrapLookedUp name result.tag)
  | number (.derived result) | formula result | rollup result =>
      if result.tag ∈ Tag.notComputed then
        some (.error { column := name, fault := .invalidIndirection result.tag })
      else resolveResult (result.column name)
  | number format => some (.ok format.fragment)

/-- Resolves a column with at most `depth` columns in a chain of activations, itself among them. -/
def Column.resolveWithin : Nat → Column → Option (Except ColumnError Fragment)
  | 0, _ => none
  | depth + 1, column =>
      match ColumnType.ofColumn column with
      | .error error => some (.error error)
      | .ok type => type.resolveWith (resolveWithin depth) column.name

theorem ColumnType.resolveWith_of_settled {type : ColumnType} {fragment : Fragment}
    (settled : type.settled? = some fragment)
    (resolveResult : Column → Option (Except ColumnError Fragment)) (name : String) :
    type.resolveWith resolveResult name = some (.ok fragment) := by
  unfold settled? at settled
  split at settled <;> cases settled <;> simp [resolveWith]

theorem ColumnType.resolveWith_of_computed {type : ColumnType} {result : Indirection}
    (computed : type.computed? = some result)
    (resolveResult : Column → Option (Except ColumnError Fragment)) (name : String) :
    type.resolveWith resolveResult name =
      if result.tag ∈ Tag.notComputed then
        some (.error { column := name, fault := .invalidIndirection result.tag })
      else resolveResult (result.column name) := by
  unfold computed? at computed
  split at computed <;> cases computed <;> rw [resolveWith]

/-! ## Activations -/

/-- Resolving a type for a column called `name` resolves the column `inner` on the way. -/
inductive ColumnType.Activates (name : String) : ColumnType → Column → Prop
  | lookup {result : Indirection} : result.tag ≠ Tag.foreignKey → result.tag ∉ Tag.notLookedUp →
      Activates name (.lookup result) (result.column name)
  | computed {type : ColumnType} {result : Indirection} : type.computed? = some result →
      result.tag ∉ Tag.notComputed → Activates name type (result.column name)

/-- Resolving the column `outer` resolves the column `inner` on the way. -/
def Column.Activates (outer inner : Column) : Prop :=
  ∃ type, ColumnType.ofColumn outer = .ok type ∧ type.Activates outer.name inner

/-- A step gives up exactly if the column that it activates is given up. -/
theorem ColumnType.resolveWith_eq_none_iff
    {resolveResult : Column → Option (Except ColumnError Fragment)} {name : String}
    {type : ColumnType} :
    type.resolveWith resolveResult name = none ↔
      ∃ inner, type.Activates name inner ∧ resolveResult inner = none := by
  constructor
  · intro gaveUp
    rcases type.trichotomy with ⟨fragment, settled⟩ | ⟨result, rfl⟩ | ⟨result, computed⟩
    · rw [resolveWith_of_settled settled] at gaveUp
      cases gaveUp
    · rw [resolveWith] at gaveUp
      split at gaveUp
      · cases gaveUp
      · next notLink =>
          split at gaveUp
          · cases gaveUp
          · next accepted =>
              exact ⟨_, .lookup notLink accepted, Option.map_eq_none_iff.mp gaveUp⟩
    · rw [resolveWith_of_computed computed] at gaveUp
      split at gaveUp
      · cases gaveUp
      · next accepted => exact ⟨_, .computed computed accepted, gaveUp⟩
  · rintro ⟨inner, activates, gaveUp⟩
    cases activates with
    | lookup notLink accepted =>
        rw [resolveWith, if_neg notLink, if_neg accepted, gaveUp, Option.map_none]
    | computed computed accepted =>
        rw [resolveWith_of_computed computed, if_neg accepted, gaveUp]

/-- The resolver is cut off exactly if the columns that are activated in a chain, the first one
among them, are more than `depth`. -/
theorem Column.resolveWithin_eq_none_iff {depth : Nat} {column : Column} :
    column.resolveWithin depth = none ↔
      ∃ chain : List Column, chain.length = depth ∧ (column :: chain).IsChain Activates := by
  induction depth generalizing column with
  | zero => exact ⟨fun _ => ⟨[], rfl, List.isChain_singleton column⟩, fun _ => rfl⟩
  | succ depth ih =>
      constructor
      · intro gaveUp
        rw [resolveWithin] at gaveUp
        split at gaveUp
        · cases gaveUp
        · next type classified =>
            -- The chain of the column that is activated goes on from this one.
            obtain ⟨inner, activates, innerGaveUp⟩ :=
              ColumnType.resolveWith_eq_none_iff.mp gaveUp
            obtain ⟨chain, length, nested⟩ := ih.mp innerGaveUp
            exact ⟨inner :: chain, by rw [List.length_cons, length],
              .cons_cons ⟨type, classified, activates⟩ nested⟩
      · rintro ⟨chain, length, nested⟩
        obtain ⟨inner, rest, rfl⟩ := List.exists_cons_of_length_eq_add_one length
        rw [List.isChain_cons_cons] at nested
        obtain ⟨⟨type, classified, activates⟩, nested⟩ := nested
        have innerGaveUp := ih.mpr ⟨rest, Nat.succ.inj length, nested⟩
        rw [resolveWithin, classified]
        exact ColumnType.resolveWith_eq_none_iff.mpr ⟨inner, activates, innerGaveUp⟩

/-- Where a step is not cut off, it does what the resolver does. -/
theorem ColumnType.resolveWith_eq_some
    {resolveResult : Column → Option (Except ColumnError Fragment)}
    (faithful : ∀ column outcome, resolveResult column = some outcome → column.resolve = outcome)
    {name : String} {type : ColumnType} {outcome : Except ColumnError Fragment}
    (resolved : type.resolveWith resolveResult name = some outcome) :
    type.resolve name = outcome := by
  rcases type.trichotomy with ⟨fragment, settled⟩ | ⟨result, rfl⟩ | ⟨result, computed⟩
  · rw [resolveWith_of_settled settled] at resolved
    rw [resolve_of_settled name settled]
    exact Option.some.inj resolved
  · rw [resolveWith] at resolved
    rw [resolve_lookup]
    split at resolved
    · next link => rw [if_pos link]; exact Option.some.inj resolved
    · next notLink =>
        rw [if_neg notLink]
        split at resolved
        · next refused => rw [if_pos refused]; exact Option.some.inj resolved
        · next accepted =>
            obtain ⟨inner, innerResolved, rfl⟩ := Option.map_eq_some_iff.mp resolved
            rw [if_neg accepted, faithful _ _ innerResolved]
  · rw [resolveWith_of_computed computed] at resolved
    rw [resolve_of_computed name computed]
    split at resolved
    · next refused => rw [if_pos refused]; exact Option.some.inj resolved
    · next accepted => rw [if_neg accepted]; exact faithful _ _ resolved

/-- Where the resolver is not cut off, it agrees with the one that never is. -/
theorem Column.resolve_of_resolveWithin {depth : Nat} {column : Column}
    {outcome : Except ColumnError Fragment}
    (resolved : column.resolveWithin depth = some outcome) : column.resolve = outcome := by
  induction depth generalizing column outcome with
  | zero => cases resolved
  | succ depth ih =>
      rw [resolveWithin] at resolved
      split at resolved
      · next error classified =>
          cases resolved
          exact resolve_of_error classified
      · next type classified =>
          rw [resolve_of_ok classified]
          exact ColumnType.resolveWith_eq_some (fun _ _ => ih) resolved

/-! ## The depth -/

/-- How many columns are activated in a chain when a type is resolved, at most. -/
def ColumnType.nesting : ColumnType → Nat
  | plain _ => 0
  | foreignKey _ => 0
  | lookup result => 2 * result.options.deferral + 1
  | formula result => 2 * result.options.deferral + 2
  | rollup result => 2 * result.options.deferral + 2
  | number (.derived result) => 2 * result.options.deferral + 2
  | number _ => 0

theorem TypeOptions.deferral_le_one (options : TypeOptions) : options.deferral ≤ 1 := by
  unfold deferral
  split <;> omega

theorem ColumnType.nesting_of_settled {type : ColumnType} {fragment : Fragment}
    (settled : type.settled? = some fragment) : type.nesting = 0 := by
  unfold settled? at settled
  split at settled <;> cases settled <;> simp [nesting]

theorem ColumnType.nesting_of_computed {type : ColumnType} {result : Indirection}
    (computed : type.computed? = some result) :
    type.nesting = 2 * result.options.deferral + 2 := by
  unfold computed? at computed
  split at computed <;> cases computed <;> rw [nesting]

theorem ColumnType.nesting_le_four (type : ColumnType) : type.nesting ≤ 4 := by
  rcases type.trichotomy with ⟨fragment, settled⟩ | ⟨result, rfl⟩ | ⟨result, computed⟩
  · rw [nesting_of_settled settled]
    omega
  · have := result.options.deferral_le_one
    rw [nesting]
    omega
  · have := result.options.deferral_le_one
    rw [nesting_of_computed computed]
    omega

/-- A type that is no indirection by its tag nests less deep than every indirection with the same
options. -/
theorem ColumnType.nesting_ofColumn_of_ne {column : Column} {options : TypeOptions}
    (given : column.typeOptions = some options) (notFormula : column.tag ≠ Tag.formula)
    (notRollup : column.tag ≠ Tag.rollup) (notLookup : column.tag ≠ Tag.lookup)
    {type : ColumnType} (classified : ofColumn column = .ok type) :
    type.nesting ≤ 2 * options.deferral := by
  have ranked := rank_ofColumn_of_ne given notFormula notRollup notLookup classified
  have : type.nesting ≤ type.rank := by
    rcases type.trichotomy with ⟨fragment, settled⟩ | ⟨result, rfl⟩ | ⟨result, computed⟩
    · simp [nesting_of_settled settled]
    · rw [nesting, rank]
      omega
    · rw [nesting_of_computed computed, rank_of_computed computed]
      omega
  omega

theorem ColumnType.nesting_ofColumn_lookup {column : Column} {options : TypeOptions}
    (given : column.typeOptions = some options) (isLookup : column.tag = Tag.lookup)
    {type : ColumnType} (classified : ofColumn column = .ok type) :
    type.nesting = 2 * options.deferral + 1 := by
  rw [ofColumn_lookup_of_some isLookup given] at classified
  split at classified
  · cases classified
    rw [nesting]
  · cases classified

/-- Each activation lowers the nesting. -/
theorem ColumnType.nesting_lt_of_activates {name : String} {type inner : ColumnType}
    {column : Column} (activates : type.Activates name column)
    (classified : ofColumn column = .ok inner) : inner.nesting < type.nesting := by
  cases activates with
  | @lookup result notLink accepted =>
      obtain ⟨notFormula, notRollup, notLookup⟩ := Tag.ne_of_not_mem_notLookedUp accepted
      have := nesting_ofColumn_of_ne (result.typeOptions_column name) notFormula notRollup
        notLookup classified
      rw [nesting]
      omega
  | @computed _ result computed accepted =>
      obtain ⟨notFormula, notRollup⟩ := Tag.not_mem_notComputed_iff.mp accepted
      rw [nesting_of_computed computed]
      -- Only a lookup comes close to the type that takes over its result.
      by_cases isLookup : result.tag = Tag.lookup
      · have := nesting_ofColumn_lookup (result.typeOptions_column name) isLookup classified
        omega
      · have := nesting_ofColumn_of_ne (result.typeOptions_column name) notFormula notRollup
          isLookup classified
        omega

/-- A chain of activations is no longer than the nesting of the type that starts it. -/
theorem ColumnType.length_le_nesting {name : String} {type : ColumnType} {first : Column}
    {rest : List Column} (activates : type.Activates name first)
    (nested : (first :: rest).IsChain Column.Activates) :
    (first :: rest).length ≤ type.nesting := by
  induction rest generalizing type name first with
  | nil =>
      cases activates with
      | lookup => simp [nesting]
      | computed computed => simp [nesting_of_computed computed]
  | cons next rest ih =>
      rw [List.isChain_cons_cons] at nested
      obtain ⟨⟨inner, classified, innerActivates⟩, nested⟩ := nested
      -- The first column costs one level, and the rest stays below what is left.
      have falls := nesting_lt_of_activates activates classified
      have tail := ih innerActivates nested
      rw [List.length_cons]
      omega

theorem ColumnType.length_le_four {name : String} {type : ColumnType} {first : Column}
    {rest : List Column} (activates : type.Activates name first)
    (nested : (first :: rest).IsChain Column.Activates) : (first :: rest).length ≤ 4 :=
  (length_le_nesting activates nested).trans type.nesting_le_four

theorem Column.length_le_five {chain : List Column} (nested : chain.IsChain Activates) :
    chain.length ≤ 5 := by
  match chain with
  | [] => simp
  | [_] => simp
  | outer :: first :: rest =>
      rw [List.isChain_cons_cons] at nested
      obtain ⟨⟨type, -, activates⟩, nested⟩ := nested
      have inner := ColumnType.length_le_four activates nested
      rw [List.length_cons]
      omega

/-- No column has more than five columns resolved in a chain, itself among them, and no type more
than four, whether or not a column can have the type. So the resolver that is cut off there is never
cut off. -/
theorem resolution_nesting :
    (∀ column : Column, column.resolveWithin 5 = some column.resolve) ∧
      (∀ (type : ColumnType) (name : String),
        type.resolveWith (Column.resolveWithin 4) name = some (type.resolve name)) ∧
      (∀ chain : List Column, chain.IsChain Column.Activates → chain.length ≤ 5) ∧
      ∀ (type : ColumnType) (name : String) (first : Column) (rest : List Column),
        type.Activates name first → (first :: rest).IsChain Column.Activates →
          (first :: rest).length ≤ 4 := by
  refine ⟨?_, ?_, fun _ nested => Column.length_le_five nested,
    fun _ _ _ _ activates nested => ColumnType.length_le_four activates nested⟩
  · intro column
    cases resolved : column.resolveWithin 5 with
    | none =>
        obtain ⟨chain, length, nested⟩ := Column.resolveWithin_eq_none_iff.mp resolved
        have := Column.length_le_five nested
        rw [List.length_cons, length] at this
        omega
    | some outcome => rw [Column.resolve_of_resolveWithin resolved]
  · intro type name
    cases resolved : type.resolveWith (Column.resolveWithin 4) name with
    | none =>
        obtain ⟨first, activates, gaveUp⟩ := ColumnType.resolveWith_eq_none_iff.mp resolved
        obtain ⟨chain, length, nested⟩ := Column.resolveWithin_eq_none_iff.mp gaveUp
        have := ColumnType.length_le_four activates nested
        rw [List.length_cons, length] at this
        omega
    | some outcome =>
        rw [ColumnType.resolveWith_eq_some (fun _ _ => Column.resolve_of_resolveWithin) resolved]

-- A formula of a lookup of a number that defers to a lookup of a number: five columns are reached.
example : Column.resolveWithin 4
    { name := "Deep", tag := "formula", typeOptions := some
        { format := some none, resultType := some "number", result := some ⟨"lookup"⟩ } } =
      none := by
  rfl

end BaseApi

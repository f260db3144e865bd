import BaseApi.Proofs.ReadBack
import BaseApi.Proofs.WithoutKey

/-!
# Texts of fragments

A fragment is written as an object of one of three shapes (`Fragment.Shape.Fits`), and an array has
the object of its items inside. Wherever a fragment stands in a text, and whatever follows it,
nothing but this fragment is read there (`Fragment.eq_of_render_append`). So a text belongs to one
fragment at most, and what is written has as many objects inside one another as there are arrays
around the innermost fragment, and one more: `Fragment.text_unambiguous`.
-/

namespace BaseApi

open Json

theorem Json.Layout.isBlank_choose (isPretty : Bool) : (Layout.choose isPretty).IsBlank := by
  cases isPretty with
  | true => exact isBlank_pretty
  | false => exact isBlank_compact

/-! ## Shapes -/

/-- The names of the primitive types. -/
def ScalarType.names : List String := ["number", "integer", "string", "boolean"]

theorem ScalarType.name_mem_names (type : ScalarType) : type.name ∈ names := by
  cases type <;> decide

namespace Fragment

/-- A way to write a fragment. -/
inductive Shape where
  | scalar
  | array
  | reference
deriving DecidableEq

/-- The value is an object of the shape, with these members and no others. -/
inductive Shape.Fits : Shape → Json → Prop where
  | scalar {name : String} (known : name ∈ ScalarType.names) :
      Fits .scalar (.obj [("type", .str name)])
  | array (items : Json) : Fits .array (.obj [("type", .str "array"), ("items", items)])
  | reference (path : String) : Fits .reference (.obj [("$ref", .str path)])

/-- The keys of the objects of a shape. -/
def Shape.keys : Shape → List String
  | .scalar => ["type"]
  | .array => ["type", "items"]
  | .reference => ["$ref"]

theorem Shape.keys_injective : Function.Injective keys := by
  intro first second
  cases first <;> cases second <;> decide

theorem Shape.Fits.exists_members {shape : Shape} {value : Json} (fits : shape.Fits value) :
    ∃ members, value = .obj members ∧ Entries.keys members = shape.keys := by
  cases fits with
  | scalar known => exact ⟨_, rfl, rfl⟩
  | array items => exact ⟨_, rfl, rfl⟩
  | reference path => exact ⟨_, rfl, rfl⟩

/-- No value is of two shapes. -/
theorem Shape.Fits.unique {first second : Shape} {value : Json} (fits : first.Fits value)
    (fitsToo : second.Fits value) : first = second := by
  obtain ⟨members, rfl, keys⟩ := fits.exists_members
  obtain ⟨_, ⟨⟩, keysToo⟩ := fitsToo.exists_members
  exact Shape.keys_injective (keys.symm.trans keysToo)

def shape : Fragment → Shape
  | .scalar _ => .scalar
  | .array _ => .array
  | .ref _ => .reference

theorem fits_toJson (fragment : Fragment) : fragment.shape.Fits fragment.toJson := by
  cases fragment with
  | scalar type => exact .scalar type.name_mem_names
  | array items => exact .array items.toJson
  | ref path => exact .reference path

theorem fits_toJson_iff {fragment : Fragment} {shape : Shape} :
    shape.Fits fragment.toJson ↔ shape = fragment.shape := by
  constructor
  · intro fits
    exact fits.unique fragment.fits_toJson
  · rintro rfl
    exact fragment.fits_toJson

/-! ## Levels -/

/-- How many arrays lie around the innermost fragment. -/
def arrayLevels : Fragment → Nat
  | .scalar _ | .ref _ => 0
  | .array items => items.arrayLevels + 1

theorem shape_eq_array_iff {fragment : Fragment} :
    fragment.shape = .array ↔ 0 < fragment.arrayLevels := by
  cases fragment <;> simp [shape, arrayLevels]

/-- The fragment inside so many arrays. -/
def inside? : Nat → Fragment → Option Fragment
  | 0, fragment => some fragment
  | depth + 1, .array items => items.inside? depth
  | _ + 1, .scalar _ => none
  | _ + 1, .ref _ => none

/-- The path that goes from an array to its items so many times. -/
def itemsPath (depth : Nat) : List Step := List.replicate depth (.member "items")

/-- The path leads to what is inside the arrays. -/
theorem at?_itemsPath (fragment : Fragment) (depth : Nat) :
    fragment.toJson.at? (itemsPath depth) = (fragment.inside? depth).map toJson := by
  induction depth generalizing fragment with
  | zero => rfl
  | succ depth ih =>
      cases fragment with
      | scalar type => rfl
      | ref path => rfl
      | array items => exact ih items

theorem inside?_of_arrayLevels_lt {fragment : Fragment} {depth : Nat}
    (deeper : fragment.arrayLevels < depth) : fragment.inside? depth = none := by
  induction depth generalizing fragment with
  | zero => exact absurd deeper (Nat.not_lt_zero _)
  | succ depth ih =>
      cases fragment with
      | scalar type => rfl
      | ref path => rfl
      | array items =>
          rw [arrayLevels] at deeper
          exact ih (by omega)

/-- Each array that is opened takes one level. -/
theorem exists_inside?_of_le {fragment : Fragment} {depth : Nat}
    (within : depth ≤ fragment.arrayLevels) :
    ∃ inner, fragment.inside? depth = some inner ∧
      inner.arrayLevels + depth = fragment.arrayLevels := by
  induction depth generalizing fragment with
  | zero => exact ⟨fragment, rfl, rfl⟩
  | succ depth ih =>
      cases fragment with
      | scalar type => exact absurd within (Nat.not_succ_le_zero _)
      | ref path => exact absurd within (Nat.not_succ_le_zero _)
      | array items =>
          rw [arrayLevels] at within ⊢
          have inItems : depth ≤ items.arrayLevels := by omega
          obtain ⟨inner, found, levels⟩ := ih inItems
          exact ⟨inner, found, by omega⟩

/-! ## Texts -/

theorem toJson_injective : Function.Injective toJson := by
  intro first second same
  have read := first.ofJson?_toJson
  rw [same, second.ofJson?_toJson] at read
  exact (Option.some.inj read).symm

/-- Two texts that start with fragments, in any layouts and at any depths, are equal only if the
fragments and what follows them are. -/
theorem eq_of_render_append {layout other : Layout} (blank : layout.IsBlank)
    (otherBlank : other.IsBlank) {first second : Fragment} {depth otherDepth : Nat}
    {rest otherRest : List Char}
    (same : render layout depth first.toJson ++ rest =
      render other otherDepth second.toJson ++ otherRest) : first = second ∧ rest = otherRest := by
  have read := first.isPlain_toJson.isRecordTree.reads_render blank depth rest
  have readToo := second.isPlain_toJson.isRecordTree.reads_render otherBlank otherDepth otherRest
  rw [same] at read
  obtain ⟨trees, rests⟩ := read.unique readToo
  exact ⟨toJson_injective trees, rests⟩

/-- The first key of an object comes right after what the layout puts before it. -/
theorem render_opens (layout : Layout) (fragment : Fragment) :
    ∃ rest, render layout 0 fragment.toJson = '{' :: (layout.newline 1 ++ '"' :: rest) := by
  cases fragment with
  | scalar type => exact ⟨_, rfl⟩
  | array items => exact ⟨_, rfl⟩
  | ref path => exact ⟨_, rfl⟩

theorem choose_eq_of_render_eq {first second : Fragment} {isPretty alsoPretty : Bool}
    (same : render (.choose isPretty) 0 first.toJson =
      render (.choose alsoPretty) 0 second.toJson) : isPretty = alsoPretty := by
  obtain ⟨rest, opens⟩ := render_opens (.choose isPretty) first
  obtain ⟨otherRest, opensToo⟩ := render_opens (.choose alsoPretty) second
  rw [opens, opensToo] at same
  -- After the brace there is a quote in one layout, and the end of a line in the other.
  cases isPretty <;> cases alsoPretty <;>
    simp [Layout.choose, Layout.compact, Layout.pretty] at same ⊢

/-- A text is that of one fragment in one layout at most. At every level of what is written there is
an object of exactly one of the three shapes: an array for each of the fragment's array levels, with
the next level as its items, and inside them a primitive type or a reference, which has no items. -/
theorem text_unambiguous :
    (∀ (first second : Fragment) (isPretty alsoPretty : Bool),
      write (.choose isPretty) first.toJson = write (.choose alsoPretty) second.toJson ↔
        first = second ∧ isPretty = alsoPretty) ∧
    ∀ (fragment : Fragment) (depth : Nat),
      (fragment.arrayLevels < depth → fragment.toJson.at? (itemsPath depth) = none) ∧
      (depth ≤ fragment.arrayLevels → ∃ (inner : Fragment) (shape : Shape),
        fragment.toJson.at? (itemsPath depth) = some inner.toJson ∧
        (∀ other : Shape, other.Fits inner.toJson ↔ other = shape) ∧
        (shape = .array ↔ depth < fragment.arrayLevels)) := by
  refine ⟨?_, ?_⟩
  · intro first second isPretty alsoPretty
    constructor
    · intro same
      have chars := String.ofList_injective same
      have fragments := eq_of_render_append (Layout.isBlank_choose isPretty)
        (Layout.isBlank_choose alsoPretty) (congrArg (· ++ []) chars)
      exact ⟨fragments.1, choose_eq_of_render_eq chars⟩
    · rintro ⟨rfl, rfl⟩
      rfl
  · intro fragment depth
    rw [fragment.at?_itemsPath]
    refine ⟨?_, ?_⟩
    · intro deeper
      rw [inside?_of_arrayLevels_lt deeper]
      rfl
    · intro within
      obtain ⟨inner, found, levels⟩ := exists_inside?_of_le within
      refine ⟨inner, inner.shape, by rw [found]; rfl, fun other => fits_toJson_iff, ?_⟩
      rw [shape_eq_array_iff]
      omega

-- A reference whose path looks like the text of an array is still a reference.
example :
    (ref r#"","items":["#).toJson.compact =
      String.singleton '{' ++ r#""$ref":"\",\"items\":[""# ++ String.singleton '}' := by
  decide

end Fragment

end BaseApi

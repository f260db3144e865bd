import Mathlib
import BaseApi.Proofs.Command.Rendering
import BaseApi.Proofs.Insertion

/-!
# Values without a key

What leaving a key out does to a value can be said in two ways. By paths: no path through the key
leads anywhere, and every other path leads as far as before, to a value that agrees with the one
before in all but the key (`withoutKey_paths`). By equations: keys can be left out in any order, a
key that has been left out can be left out again, and exactly the values that do not have the key
stay as they are (`withoutKey_compose`).
-/

namespace BaseApi

namespace Entries

variable {α β : Type}

theorem lookup_remove_self (key : String) (entries : Entries α) :
    (remove key entries).lookup key = none := by
  rw [List.lookup_eq_none_iff]
  intro entry member
  rw [bne_comm]
  exact (List.mem_filter.mp member).2

theorem lookup_remove_of_ne {key other : String} (ne : other ≠ key) (entries : Entries α) :
    (remove key entries).lookup other = entries.lookup other := by
  induction entries with
  | nil => rfl
  | cons entry rest ih =>
      by_cases same : entry.1 = key
      · have dropped : remove key (entry :: rest) = remove key rest :=
          List.filter_cons_of_neg (by simp [same])
        rw [dropped, ih, List.lookup_cons, beq_false_of_ne (same ▸ ne)]
      · have kept : remove key (entry :: rest) = entry :: remove key rest :=
          List.filter_cons_of_pos (by simp [same])
        rw [kept, List.lookup_cons, List.lookup_cons, ih]

theorem keys_remove (key : String) (entries : Entries α) :
    keys (remove key entries) = (keys entries).filter (· ≠ key) := by
  rw [keys, keys, remove, List.filter_map]
  congr 1
  apply List.filter_congr
  intro entry _
  show (entry.1 != key) = decide (entry.1 ≠ key)
  rw [bne, decide_not, beq_eq_decide]

theorem remove_comm (key other : String) (entries : Entries α) :
    remove other (remove key entries) = remove key (remove other entries) :=
  List.filter_comm _ _ entries

theorem remove_mapValues (f : α → β) (key : String) (entries : Entries α) :
    remove key (mapValues f entries) = mapValues f (remove key entries) :=
  List.filter_map

theorem remove_eq_self {key : String} {entries : Entries α} (absent : key ∉ keys entries) :
    remove key entries = entries := by
  apply List.filter_eq_self.mpr
  intro entry among
  rw [bne_iff_ne]
  intro same
  exact absent (same ▸ List.mem_map_of_mem among)

end Entries

namespace Json

/-! ## One level -/

theorem withoutKeyItems_eq (key : String) (items : List Json) :
    withoutKeyItems key items = items.map (withoutKey key) := by
  induction items with
  | nil => rfl
  | cons item items ih => rw [withoutKeyItems, List.map_cons, ih]

theorem withoutKey_arr (key : String) (items : List Json) :
    withoutKey key (arr items) = arr (items.map (withoutKey key)) := by
  rw [withoutKey, withoutKeyItems_eq]

theorem withoutKey_obj (key : String) (members : List (String × Json)) :
    withoutKey key (obj members) = obj (withoutKeyMembers key members) := by
  rw [withoutKey]

theorem withoutKeyMembers_eq (key : String) (members : List (String × Json)) :
    withoutKeyMembers key members =
      Entries.mapValues (withoutKey key) (Entries.remove key members) := by
  induction members with
  | nil => rfl
  | cons member members ih =>
      obtain ⟨name, item⟩ := member
      rw [withoutKeyMembers, ih]
      by_cases same : name = key
      · rw [if_pos same, Entries.remove, Entries.remove, List.filter_cons_of_neg (by simp [same])]
      · rw [if_neg same, Entries.remove, Entries.remove, List.filter_cons_of_pos (by simp [same])]
        rfl

/-- An object loses the member with the key, and the values of the others lose it. -/
theorem withoutKey_obj_eq (key : String) (members : List (String × Json)) :
    withoutKey key (obj members) =
      obj (Entries.mapValues (withoutKey key) (Entries.remove key members)) := by
  rw [withoutKey_obj, withoutKeyMembers_eq]

/-- The value is neither an array nor an object. -/
def IsScalar : Json → Prop
  | arr _ | obj _ => False
  | _ => True

theorem withoutKey_of_isScalar {value : Json} (scalar : value.IsScalar) (key : String) :
    value.withoutKey key = value := by
  cases value with
  | arr items => exact scalar.elim
  | obj members => exact scalar.elim
  | null | bool | num | str => rfl

/-- Induction on a value: a container has what all of its parts have. -/
theorem partsInduction {holds : Json → Prop} (scalar : ∀ value, value.IsScalar → holds value)
    (arr : ∀ items, (∀ item ∈ items, holds item) → holds (arr items))
    (obj : ∀ members, (∀ member ∈ members, holds (Prod.snd member)) → holds (obj members))
    (value : Json) : holds value :=
  -- A list of items or members has the property if each of its entries has it.
  Json.rec (scalar null trivial) (fun value => scalar (bool value) trivial)
    (fun value => scalar (num value) trivial) (fun value => scalar (str value) trivial)
    arr obj
    (List.forall_mem_nil holds) (fun _ _ head tail => List.forall_mem_cons.mpr ⟨head, tail⟩)
    (List.forall_mem_nil fun member => holds (Prod.snd member))
    (fun _ _ head tail => List.forall_mem_cons.mpr ⟨head, tail⟩) (fun _ _ inside => inside) value

/-! ## Paths -/

/-- A step from a container to one of its parts. -/
inductive Step where
  /-- To the value of a member. -/
  | member (name : String)
  /-- To the item at an index. -/
  | item (index : Nat)
deriving DecidableEq

/-- The part of a value to which a step leads. -/
def Step.part? : Step → Json → Option Json
  | member name, value => value.get? name
  | item index, value => value.item? index

/-- The value to which a path leads, step after step. -/
def at? (value : Json) : List Step → Option Json
  | [] => some value
  | step :: path => (step.part? value).bind fun part => part.at? path

/-- The values are of the same kind, and equal but for what their parts are: equal scalars, arrays
of the same length, or objects with the same keys in the same order, less `key`. -/
inductive AgreesBut (key : String) : Json → Json → Prop where
  | scalar {value : Json} (scalar : value.IsScalar) : AgreesBut key value value
  | arr {items kept : List Json} (length : kept.length = items.length) :
      AgreesBut key (arr items) (arr kept)
  | obj {members kept : List (String × Json)}
      (keys : Entries.keys kept = (Entries.keys members).filter (· ≠ key)) :
      AgreesBut key (obj members) (obj kept)

theorem agreesBut_withoutKey (key : String) (value : Json) :
    AgreesBut key value (value.withoutKey key) := by
  cases value with
  | arr items =>
      rw [withoutKey_arr]
      exact .arr (List.length_map _)
  | obj members =>
      rw [withoutKey_obj_eq]
      exact .obj (by rw [Entries.keys_mapValues, Entries.keys_remove])
  | null | bool | num | str => exact .scalar trivial

theorem Step.part?_withoutKey_self (key : String) (value : Json) :
    (Step.member key).part? (value.withoutKey key) = none := by
  cases value with
  | obj members =>
      rw [withoutKey_obj_eq]
      show (Entries.mapValues (withoutKey key) (Entries.remove key members)).lookup key = none
      rw [Entries.lookup_mapValues, Entries.lookup_remove_self]
      rfl
  | arr items => rw [withoutKey_arr]; rfl
  | null | bool | num | str => rfl

/-- A step that is not to the key leads to the same part, without the key. -/
theorem Step.part?_withoutKey_of_ne {key : String} {step : Step} (ne : step ≠ .member key)
    (value : Json) :
    step.part? (value.withoutKey key) = (step.part? value).map (withoutKey key) := by
  cases value with
  | arr items =>
      rw [withoutKey_arr]
      cases step with
      | member name => rfl
      | item index => exact List.getElem?_map
  | obj members =>
      rw [withoutKey_obj_eq]
      cases step with
      | item index => rfl
      | member name =>
          have differs : name ≠ key := fun same => ne (congrArg Step.member same)
          show (Entries.mapValues (withoutKey key) (Entries.remove key members)).lookup name = _
          rw [Entries.lookup_mapValues, Entries.lookup_remove_of_ne differs]
          rfl
  | null | bool | num | str => cases step <;> rfl

theorem at?_withoutKey_of_mem {key : String} {path : List Step} (through : .member key ∈ path)
    (value : Json) : (value.withoutKey key).at? path = none := by
  induction path generalizing value with
  | nil => exact absurd through List.not_mem_nil
  | cons step path ih =>
      rw [at?]
      -- The first step to the key is the one that fails.
      by_cases here : step = .member key
      · rw [here, Step.part?_withoutKey_self]
        rfl
      · have later := (List.mem_cons.mp through).resolve_left (Ne.symm here)
        rw [Step.part?_withoutKey_of_ne here, Option.bind_map, Option.bind_eq_none_iff]
        intro part _
        exact ih later part

theorem at?_withoutKey_of_not_mem {key : String} {path : List Step}
    (around : .member key ∉ path) (value : Json) :
    (value.withoutKey key).at? path = (value.at? path).map (withoutKey key) := by
  induction path generalizing value with
  | nil => rfl
  | cons step path ih =>
      rw [List.mem_cons, not_or] at around
      rw [at?, at?, Step.part?_withoutKey_of_ne (Ne.symm around.1), Option.bind_map,
        Option.map_bind]
      congr 1
      funext part
      exact ih around.2 part

/-- A path through the key leads nowhere once the key has been left out. Any other path leads
somewhere exactly if it did before, and where it leads, nothing but the key is missing. -/
theorem withoutKey_paths (key : String) (value : Json) (path : List Step) :
    (.member key ∈ path → (value.withoutKey key).at? path = none) ∧
      (.member key ∉ path →
        Option.Rel (AgreesBut key) (value.at? path) ((value.withoutKey key).at? path)) := by
  refine ⟨fun through => at?_withoutKey_of_mem through value, ?_⟩
  intro around
  rw [at?_withoutKey_of_not_mem around]
  cases value.at? path with
  | none => exact .none
  | some part => exact .some (agreesBut_withoutKey key part)

-- Neither a text that equals the key nor a container that has nothing left is touched.
example :
    (obj [("a", null), ("b", arr [obj [("a", null)], str "a"])]).withoutKey "a" =
      obj [("b", arr [obj [], str "a"])] := rfl

/-! ## Members at any depth -/

/-- An object in the value, at any depth, has a member with the key. -/
inductive HasMember (key : String) : Json → Prop where
  | here {members : List (String × Json)} (named : key ∈ Entries.keys members) :
      HasMember key (obj members)
  | ofItem {items : List Json} {item : Json} (among : item ∈ items)
      (inside : HasMember key item) : HasMember key (arr items)
  | ofMember {members : List (String × Json)} {member : String × Json}
      (among : member ∈ members) (inside : HasMember key member.2) : HasMember key (obj members)

theorem IsScalar.not_hasMember {value : Json} (scalar : value.IsScalar) (key : String) :
    ¬ value.HasMember key := by
  intro has
  cases has <;> exact scalar

theorem not_hasMember_arr_iff {key : String} {items : List Json} :
    ¬ (arr items).HasMember key ↔ ∀ item ∈ items, ¬ item.HasMember key := by
  constructor
  · intro without item among inside
    exact without (.ofItem among inside)
  · intro each has
    cases has with
    | ofItem among inside => exact each _ among inside

theorem not_hasMember_obj_iff {key : String} {members : List (String × Json)} :
    ¬ (obj members).HasMember key ↔
      key ∉ Entries.keys members ∧ ∀ member ∈ members, ¬ member.2.HasMember key := by
  constructor
  · intro without
    exact ⟨fun named => without (.here named),
      fun member among inside => without (.ofMember among inside)⟩
  · rintro ⟨unnamed, each⟩ has
    cases has with
    | here named => exact unnamed named
    | ofMember among inside => exact each _ among inside

theorem not_hasMember_withoutKey (key : String) (value : Json) :
    ¬ (value.withoutKey key).HasMember key := by
  induction value using partsInduction with
  | scalar value scalar =>
      rw [withoutKey_of_isScalar scalar]
      exact scalar.not_hasMember key
  | arr items ih =>
      rw [withoutKey_arr, not_hasMember_arr_iff, List.forall_mem_map]
      exact ih
  | obj members ih =>
      rw [withoutKey_obj_eq, not_hasMember_obj_iff, Entries.keys_mapValues,
        Entries.keys_remove, Entries.mapValues, List.forall_mem_map]
      refine ⟨by simp, ?_⟩
      intro member kept
      exact ih member (List.mem_of_mem_filter kept)

/-- A value stays as it is exactly if it does not have the key. -/
theorem withoutKey_eq_self_iff {key : String} {value : Json} :
    value.withoutKey key = value ↔ ¬ value.HasMember key := by
  constructor
  · intro same
    rw [← same]
    exact not_hasMember_withoutKey key value
  · intro without
    induction value using partsInduction with
    | scalar value scalar => exact withoutKey_of_isScalar scalar key
    | arr items ih =>
        rw [not_hasMember_arr_iff] at without
        have parts : ∀ item ∈ items, item.withoutKey key = item :=
          fun item among => ih item among (without item among)
        rw [withoutKey_arr, List.map_congr_left parts, List.map_id']
    | obj members ih =>
        -- No member is dropped, and none is changed.
        rw [not_hasMember_obj_iff] at without
        have parts : ∀ member ∈ members, member.2.withoutKey key = id member.2 :=
          fun member among => ih member among (without.2 member among)
        rw [withoutKey_obj_eq, Entries.remove_eq_self without.1, Entries.mapValues_congr parts,
          Entries.mapValues_id]

/-! ## Leaving out several keys -/

theorem withoutKey_comm (key other : String) (value : Json) :
    (value.withoutKey key).withoutKey other = (value.withoutKey other).withoutKey key := by
  induction value using partsInduction with
  | scalar value scalar =>
      rw [withoutKey_of_isScalar scalar, withoutKey_of_isScalar scalar,
        withoutKey_of_isScalar scalar]
  | arr items ih =>
      simp only [withoutKey_arr, List.map_map]
      congr 1
      exact List.map_congr_left ih
  | obj members ih =>
      simp only [withoutKey_obj_eq, Entries.remove_mapValues, Entries.mapValues_mapValues,
        Entries.remove_comm key other]
      congr 1
      apply Entries.mapValues_congr
      intro member kept
      exact ih member (List.mem_of_mem_filter (List.mem_of_mem_filter kept))

/-- Keys are left out in any order and as often as one likes, and a value without a key is left as
it is, and no other. So the export of a schema without embedded tables is the schema as it was. -/
theorem withoutKey_compose (value : Json) (key other : String) :
    (value.withoutKey key).withoutKey other = (value.withoutKey other).withoutKey key ∧
      (value.withoutKey key).withoutKey key = value.withoutKey key ∧
      (value.withoutKey key = value ↔ ¬ value.HasMember key) ∧
      ∀ (request : ConvertRequest) (isVerbose : Bool) (content : String),
        request.format = .airtable → parse content = .ok value →
          ¬ value.HasMember foreignTableKey →
            (request.render isVerbose content).2 = .ok (write request.layout value) := by
  refine ⟨withoutKey_comm key other value,
    withoutKey_eq_self_iff.mpr (not_hasMember_withoutKey key value), withoutKey_eq_self_iff, ?_⟩
  intro request isVerbose content format parsed without
  have stripped : value.withoutForeignTables = value := withoutKey_eq_self_iff.mpr without
  have renders := ConvertRequest.Renders.airtable format parsed
  rw [stripped, ← request.layout_eq] at renders
  exact ConvertRequest.render_eq_ok_iff.mpr renders

end Json

end BaseApi

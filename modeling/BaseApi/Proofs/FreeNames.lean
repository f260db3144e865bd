import Mathlib
import BaseApi.Document.RecordSchemas

/-!
# Free names for a table

The five names of a table are its identifier between two affixes. A verb in front is told from the
other by its first letter, and a number at the end of an identifier from what follows by its first
character that is no digit. So a name determines the candidate that it belongs to
(`candidate_eq_of_mem_toList`): every schema blocks one candidate at most, and the search finds a
free one among the first `schemas.size + 1` (`firstFree_spec`).
-/

namespace BaseApi.RecordNames

/-! ## Affixes -/

/-- What stands before and after the identifier in the five names, in the order of registration. -/
def affixes : List (String × String) :=
  [("Read", "Fields"), ("Write", "Fields"), ("Read", ""), ("Read", "RequestBody"),
    ("Write", "RequestBody")]

theorem nodup_affixes : affixes.Nodup := by decide

theorem toList_eq_map_affixes (names : RecordNames) :
    names.toList = affixes.map fun affix => affix.1 ++ (names.identifier ++ affix.2) := by
  simp [toList, affixes, readFields, writeFields, read, readRequestBody, writeRequestBody,
    String.append_assoc]

@[simp] theorem length_toList (names : RecordNames) : names.toList.length = 5 := rfl

theorem verb_of_mem_affixes {affix : String × String} (member : affix ∈ affixes) :
    affix.1 = "Read" ∨ affix.1 = "Write" := by
  revert affix
  decide

/-- The verb in front of a name can be read off the name. -/
theorem verb_append_inj {left right : String × String} (leftMember : left ∈ affixes)
    (rightMember : right ∈ affixes) {rest rest' : String}
    (same : left.1 ++ rest = right.1 ++ rest') : left.1 = right.1 ∧ rest = rest' := by
  have letters := congrArg String.toList same
  rcases verb_of_mem_affixes leftMember with hl | hl <;>
    rcases verb_of_mem_affixes rightMember with hr | hr <;>
      rw [hl, hr] at letters ⊢
  · exact ⟨rfl, String.toList_inj.mp (by simpa using letters)⟩
  · simp at letters
  · simp at letters
  · exact ⟨rfl, String.toList_inj.mp (by simpa using letters)⟩

/-- The five names of a table are distinct, whatever its identifier is. -/
theorem nodup_toList (names : RecordNames) : names.toList.Nodup := by
  rw [toList_eq_map_affixes]
  refine nodup_affixes.map_on ?_
  intro left leftMember right rightMember same
  obtain ⟨verb, rest⟩ := verb_append_inj leftMember rightMember same
  exact Prod.ext verb ((String.append_right_inj _).mp rest)

/-! ## Numbers at the end of an identifier -/

/-- What the candidate that is tried after `attempt` others adds to the identifier. -/
def numeral : Nat → String
  | 0 => ""
  | attempt + 1 => toString (attempt + 2)

theorem identifier_candidate (identifier : String) (attempt : Nat) :
    (candidate identifier attempt).identifier = identifier ++ numeral attempt := by
  cases attempt with
  | zero => simp [candidate, numeral]
  | succ attempt => rfl

theorem isDigit_of_mem_numeral {attempt : Nat} {c : Char}
    (member : c ∈ (numeral attempt).toList) : c.isDigit = true := by
  cases attempt with
  | zero => simp [numeral] at member
  | succ attempt =>
      rw [numeral, Nat.toString_eq_repr, Nat.toList_repr] at member
      exact Nat.isDigit_of_mem_toDigits (by decide) (by decide) member

theorem numeral_injective : Function.Injective numeral := by
  intro first second same
  have nonempty : ∀ n : Nat, toString n ≠ "" := by
    intro n empty
    have digits := congrArg String.toList empty
    rw [Nat.toString_eq_repr, Nat.toList_repr] at digits
    exact Nat.toDigits_ne_nil digits
  cases first with
  | zero =>
      cases second with
      | zero => rfl
      | succ second => exact absurd same.symm (nonempty _)
  | succ first =>
      cases second with
      | zero => exact absurd same (nonempty _)
      | succ second =>
          have := Nat.repr_injective same
          omega

/-- The number at the end of an identifier can be read off the name. -/
theorem takeWhile_isDigit_numeral (attempt : Nat) {affix : String × String}
    (member : affix ∈ affixes) :
    (numeral attempt ++ affix.2).toList.takeWhile Char.isDigit = (numeral attempt).toList := by
  have ending : affix.2.toList.takeWhile Char.isDigit = [] := by
    revert affix
    decide
  rw [String.toList_append,
    List.takeWhile_append_of_pos fun c hc => isDigit_of_mem_numeral hc, ending, List.append_nil]

theorem numeral_append_inj {left right : String × String} (leftMember : left ∈ affixes)
    (rightMember : right ∈ affixes) {first second : Nat}
    (same : numeral first ++ left.2 = numeral second ++ right.2) : first = second := by
  have digits := congrArg (fun text => text.toList.takeWhile Char.isDigit) same
  simp only [takeWhile_isDigit_numeral _ leftMember, takeWhile_isDigit_numeral _ rightMember]
    at digits
  exact numeral_injective (String.toList_inj.mp digits)

/-- A name belongs to one candidate at most. -/
theorem candidate_eq_of_mem_toList {key identifier : String} {first second : Nat}
    (inFirst : key ∈ (candidate identifier first).toList)
    (inSecond : key ∈ (candidate identifier second).toList) : first = second := by
  rw [toList_eq_map_affixes, identifier_candidate] at inFirst inSecond
  obtain ⟨left, leftMember, rfl⟩ := List.mem_map.mp inFirst
  obtain ⟨right, rightMember, same⟩ := List.mem_map.mp inSecond
  obtain ⟨-, rest⟩ := verb_append_inj rightMember leftMember same
  rw [String.append_assoc, String.append_assoc] at rest
  exact (numeral_append_inj rightMember leftMember ((String.append_right_inj _).mp rest)).symm

/-! ## The search -/

theorem areFree_iff {names : RecordNames} {schemas : OrderedMap ObjectSchema} :
    names.areFree schemas = true ↔ ∀ name ∈ names.toList, name ∉ schemas.keys := by
  simp [areFree, OrderedMap.contains]

theorem not_areFree_iff {names : RecordNames} {schemas : OrderedMap ObjectSchema} :
    names.areFree schemas = false ↔ ∃ name ∈ names.toList, name ∈ schemas.keys := by
  rw [← Bool.not_eq_true, areFree_iff]
  push Not
  rfl

/-- If each of `count` attempts is blocked by something, and nothing blocks two of them, there are
`count` things at least. -/
theorem le_length_of_blocked (blocks : Nat → String → Prop) {blockers : List String} {count : Nat}
    (unique : ∀ first second blocker, blocks first blocker → blocks second blocker →
      first = second)
    (taken : ∀ attempt < count, ∃ blocker ∈ blockers, blocks attempt blocker) :
    count ≤ blockers.length := by
  choose! blocker among blocked using taken
  have distinct : ((List.range count).map blocker).Nodup := by
    refine List.nodup_range.map_on ?_
    intro first firstBound second secondBound same
    rw [List.mem_range] at firstBound secondBound
    exact unique _ _ _ (blocked first firstBound) (same ▸ blocked second secondBound)
  have contained : (List.range count).map blocker ⊆ blockers := by
    intro key member
    obtain ⟨attempt, bound, rfl⟩ := List.mem_map.mp member
    exact among attempt (List.mem_range.mp bound)
  simpa using distinct.length_le_of_subset contained

/-- Each of `count` candidates that are not free is blocked by a schema of its own. -/
theorem le_size_of_not_areFree {schemas : OrderedMap ObjectSchema} {identifier : String}
    {count : Nat}
    (taken : ∀ attempt < count, (candidate identifier attempt).areFree schemas = false) :
    count ≤ schemas.size := by
  have blocked : ∀ attempt < count,
      ∃ name ∈ schemas.keys, name ∈ (candidate identifier attempt).toList := by
    intro attempt bound
    obtain ⟨name, belongs, present⟩ := not_areFree_iff.mp (taken attempt bound)
    exact ⟨name, present, belongs⟩
  rw [← OrderedMap.length_keys]
  -- A schema cannot block two candidates, as its name belongs to one at most.
  exact le_length_of_blocked (fun attempt name => name ∈ (candidate identifier attempt).toList)
    (fun _ _ _ => candidate_eq_of_mem_toList) blocked

/-- The search yields the first free candidate, after at most as many others as there are
schemas. -/
theorem firstFree_spec (schemas : OrderedMap ObjectSchema) (identifier : String) :
    ∃ attempt ≤ schemas.size, firstFree schemas identifier = candidate identifier attempt ∧
      (candidate identifier attempt).areFree schemas = true ∧
      ∀ earlier < attempt, (candidate identifier earlier).areFree schemas = false := by
  unfold firstFree
  cases found : (List.range (schemas.size + 1)).find? fun attempt =>
      (candidate identifier attempt).areFree schemas with
  | none =>
      -- Then more candidates are blocked than there are schemas to block them.
      simp only [List.find?_range_eq_none, Bool.not_eq_true'] at found
      have := le_size_of_not_areFree found
      omega
  | some attempt =>
      simp only [List.find?_range_eq_some, Bool.not_eq_true', List.mem_range] at found
      obtain ⟨free, bound, earlier⟩ := found
      exact ⟨attempt, by omega, rfl, free, earlier⟩

theorem areFree_firstFree (schemas : OrderedMap ObjectSchema) (identifier : String) :
    (firstFree schemas identifier).areFree schemas = true := by
  obtain ⟨attempt, -, found, free, -⟩ := firstFree_spec schemas identifier
  rw [found]
  exact free

end BaseApi.RecordNames

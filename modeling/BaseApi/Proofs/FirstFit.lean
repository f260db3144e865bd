import Mathlib
import BaseApi.Proofs.Registration

/-!
# First fit

The names under which a table is registered depend on identifiers alone. Tables registered under two
identifiers have a schema name in common exactly if the identifiers conflict, that is, if they are
equal or one is the other with an ending of a schema name (`exists_common_name_iff`). So the search
for free names gives each table the first of its candidates that conflicts with no identifier before
it, and as an identifier conflicts with one candidate at most, the number of a table is bounded by
its place (`ResolvedBase.registered_firstFit`).
-/

namespace BaseApi

namespace RecordNames

/-! ## Conflicts -/

/-- What a schema name may have after the identifier, besides nothing. -/
def endings : List String := ["Fields", "RequestBody"]

/-- Two identifiers that cannot both be registered. -/
def Conflicts (left right : String) : Prop :=
  left = right ∨ ∃ ending ∈ endings, left = right ++ ending ∨ right = left ++ ending

instance (left right : String) : Decidable (Conflicts left right) :=
  inferInstanceAs (Decidable (_ ∨ ∃ ending ∈ endings, _))

theorem snd_eq_or_mem_endings {affix : String × String} (member : affix ∈ affixes) :
    affix.2 = "" ∨ affix.2 ∈ endings := by
  revert affix
  decide

/-- Every ending follows an identifier after the verb that reads. -/
theorem read_mem_affixes {ending : String} (member : ending ∈ endings) :
    ("Read", ending) ∈ affixes := by
  revert ending
  decide

theorem endings_inj {left right : String} (leftMember : left ∈ endings)
    (rightMember : right ∈ endings) {identifier identifier' : String}
    (same : identifier ++ left = identifier' ++ right) : left = right := by
  -- The two endings have different last letters.
  have last := congrArg (fun text => text.toList.getLast?) same
  simp only [endings, List.mem_cons, List.not_mem_nil, or_false] at leftMember rightMember
  rcases leftMember with rfl | rfl <;> rcases rightMember with rfl | rfl <;> first
    | rfl
    | simp at last

theorem length_pos_of_mem_endings {ending : String} (member : ending ∈ endings) :
    0 < ending.length := by
  revert ending
  decide

/-- Tables have a schema name in common exactly if their identifiers conflict. -/
theorem exists_common_name_iff {left right : RecordNames} :
    (∃ name ∈ left.toList, name ∈ right.toList) ↔
      Conflicts left.identifier right.identifier := by
  simp only [toList_eq_map_affixes, List.mem_map]
  constructor
  · rintro ⟨-, ⟨first, firstMember, rfl⟩, second, secondMember, same⟩
    obtain ⟨-, rest⟩ := verb_append_inj secondMember firstMember same
    rcases snd_eq_or_mem_endings firstMember with firstEmpty | firstEnding <;>
      rcases snd_eq_or_mem_endings secondMember with secondEmpty | secondEnding
    · rw [firstEmpty, secondEmpty, String.append_empty, String.append_empty] at rest
      exact .inl rest.symm
    · rw [firstEmpty, String.append_empty] at rest
      exact .inr ⟨_, secondEnding, .inl rest.symm⟩
    · rw [secondEmpty, String.append_empty] at rest
      exact .inr ⟨_, firstEnding, .inr rest⟩
    · rw [endings_inj secondEnding firstEnding rest, String.append_left_inj] at rest
      exact .inl rest.symm
  · have plain : ("Read", "") ∈ affixes := by decide
    rintro (same | ⟨ending, member, longer | longer⟩)
    · exact ⟨_, ⟨_, plain, rfl⟩, _, plain, by rw [same]⟩
    · exact ⟨_, ⟨_, plain, rfl⟩, _, read_mem_affixes member, by rw [longer, String.append_empty]⟩
    · exact ⟨_, ⟨_, read_mem_affixes member, rfl⟩, _, plain, by rw [longer, String.append_empty]⟩

/-! ## Candidates -/

/-- An identifier with an ending is no candidate that has a number. -/
theorem eq_zero_of_append_ending {ending : String} (member : ending ∈ endings)
    {identifier before : String} {attempt : Nat}
    (same : (candidate identifier attempt).identifier = before ++ ending) : attempt = 0 := by
  cases attempt with
  | zero => rfl
  | succ attempt =>
      rw [identifier_candidate] at same
      have last := congrArg (fun text => text.toList.getLast?) same
      have digits : (numeral (attempt + 1)).toList ≠ [] := by
        intro empty
        have := numeral_injective (String.toList_inj.mp empty : _ = numeral 0)
        omega
      have digit := isDigit_of_mem_numeral (List.getLast_mem digits)
      -- The candidate ends in a digit, the ending in a letter.
      simp only [endings, List.mem_cons, List.not_mem_nil, or_false] at member
      rw [String.toList_append, List.getLast?_append_of_ne_nil _ digits,
        List.getLast?_eq_some_getLast digits] at last
      rcases member with rfl | rfl <;>
        (simp at last
         rw [last] at digit
         exact absurd digit (by decide))

/-- An identifier that conflicts with a candidate is the candidate, with an ending or not, or the
candidate has no number. -/
theorem Conflicts.candidate_cases {taken identifier : String} {attempt : Nat}
    (conflict : Conflicts taken (candidate identifier attempt).identifier) :
    (∃ affix ∈ affixes, taken = identifier ++ (numeral attempt ++ affix.2)) ∨
      attempt = 0 ∧ ∃ ending ∈ endings, identifier = taken ++ ending := by
  rcases conflict with same | ⟨ending, member, longer | longer⟩
  · refine .inl ⟨("Read", ""), by decide, ?_⟩
    rw [same, identifier_candidate, String.append_empty]
  · refine .inl ⟨_, read_mem_affixes member, ?_⟩
    rw [longer, identifier_candidate, String.append_assoc]
  · obtain rfl := eq_zero_of_append_ending member longer
    exact .inr ⟨rfl, ending, member, longer⟩

/-- An identifier conflicts with one candidate at most. -/
theorem Conflicts.candidate_unique {taken identifier : String} {first second : Nat}
    (inFirst : Conflicts taken (candidate identifier first).identifier)
    (inSecond : Conflicts taken (candidate identifier second).identifier) : first = second := by
  -- An identifier is not longer than itself.
  have shorter : ∀ {rest ending : String}, ending ∈ endings →
      taken = identifier ++ rest → identifier ≠ taken ++ ending := by
    intro rest ending member longer below
    have lengths := congrArg String.length (longer ▸ below)
    rw [String.length_append, String.length_append] at lengths
    have := length_pos_of_mem_endings member
    omega
  rcases inFirst.candidate_cases with ⟨left, leftMember, longerLeft⟩ | ⟨rfl, _, member, below⟩ <;>
    rcases inSecond.candidate_cases with
      ⟨right, rightMember, longerRight⟩ | ⟨rfl, _, member', below'⟩
  · have rest := (String.append_right_inj _).mp (longerLeft.symm.trans longerRight)
    exact numeral_append_inj leftMember rightMember rest
  · exact absurd below' (shorter member' longerLeft)
  · exact absurd below (shorter member longerRight)
  · rfl

/-! ## First fit -/

/-- `assigned` is the candidate of `identifier` that is tried after `attempt` others, and the first
that conflicts with none of `taken`. -/
structure FirstFit (taken : List String) (identifier : String) (attempt : Nat)
    (assigned : String) : Prop where
  assigned_eq : assigned = (candidate identifier attempt).identifier
  apart : ∀ other ∈ taken, ¬ Conflicts other assigned
  first : ∀ earlier < attempt,
    ∃ other ∈ taken, Conflicts other (candidate identifier earlier).identifier

/-- Each candidate that is passed over conflicts with an identifier of its own. -/
theorem FirstFit.attempt_le {taken : List String} {identifier assigned : String} {attempt : Nat}
    (fit : FirstFit taken identifier attempt assigned) : attempt ≤ taken.length :=
  le_length_of_blocked
    (fun earlier other => Conflicts other (candidate identifier earlier).identifier)
    (fun _ _ _ inFirst inSecond => inFirst.candidate_unique inSecond) fit.first

/-- A first fit is plain, or it has a number that its place bounds. -/
theorem FirstFit.suffix {taken : List String} {identifier assigned : String} {attempt : Nat}
    (fit : FirstFit taken identifier attempt assigned) :
    assigned = identifier ∨ ∃ suffix, 2 ≤ suffix ∧ suffix ≤ taken.length + 1 ∧
      assigned = identifier ++ toString suffix := by
  have bound := fit.attempt_le
  cases attempt with
  | zero => exact .inl fit.assigned_eq
  | succ attempt => exact .inr ⟨attempt + 2, by omega, by omega, fit.assigned_eq⟩

/-- A first fit is not plain only if the plain identifier is taken. -/
theorem FirstFit.conflicts_of_ne {taken : List String} {identifier assigned : String}
    {attempt : Nat} (fit : FirstFit taken identifier attempt assigned)
    (renamed : assigned ≠ identifier) : ∃ other ∈ taken, Conflicts other identifier := by
  cases attempt with
  | zero => exact absurd fit.assigned_eq renamed
  | succ attempt => exact fit.first 0 (Nat.succ_pos attempt)

/-! ## The search as a first fit -/

/-- The shared schemas block no names of a table. -/
theorem disjoint_standardSchemas_toList (names : RecordNames) :
    standardSchemas.keys.Disjoint names.toList := by
  intro key shared member
  rw [toList_eq_map_affixes] at member
  obtain ⟨affix, affixMember, rfl⟩ := List.mem_map.mp member
  have initial : ∀ key ∈ standardSchemas.keys, key.toList.head? = some 'A' := by decide
  have letter := initial _ shared
  rcases verb_of_mem_affixes affixMember with verb | verb <;> simp [verb] at letter

/-- Names are free beside the shared schemas and those of other names exactly if the identifiers do
not conflict. -/
theorem areFree_iff_not_conflicts {names : RecordNames} {schemas : OrderedMap ObjectSchema}
    {taken : List RecordNames}
    (held : schemas.keys = standardSchemas.keys ++ taken.flatMap toList) :
    names.areFree schemas = true ↔
      ∀ other ∈ taken.map identifier, ¬ Conflicts other names.identifier := by
  rw [areFree_iff, held, List.forall_mem_map]
  constructor
  · intro free other member conflict
    obtain ⟨name, inOther, inNames⟩ := exists_common_name_iff.mpr conflict
    exact free name inNames
      (List.mem_append_right _ (List.mem_flatMap.mpr ⟨other, member, inOther⟩))
  · intro apart name inNames present
    rcases List.mem_append.mp present with shared | inTaken
    · exact disjoint_standardSchemas_toList names shared inNames
    · obtain ⟨other, member, inOther⟩ := List.mem_flatMap.mp inTaken
      exact apart other member (exists_common_name_iff.mp ⟨name, inOther, inNames⟩)

theorem firstFit_firstFree {schemas : OrderedMap ObjectSchema} {taken : List RecordNames}
    (held : schemas.keys = standardSchemas.keys ++ taken.flatMap toList) (plain : String) :
    ∃ attempt, FirstFit (taken.map identifier) plain attempt
      (firstFree schemas plain).identifier := by
  obtain ⟨attempt, -, found, free, earlier⟩ := firstFree_spec schemas plain
  refine ⟨attempt, congrArg identifier found, ?_, ?_⟩
  · rw [found]
    exact (areFree_iff_not_conflicts held).mp free
  · intro other before
    by_contra unblocked
    push Not at unblocked
    have free := (areFree_iff_not_conflicts held).mpr unblocked
    rw [earlier other before] at free
    exact absurd free (by decide)

/-- Nothing but the keys of the schemas decides which names are free. -/
theorem firstFree_congr {left right : OrderedMap ObjectSchema} (same : left.keys = right.keys)
    (identifier : String) : firstFree left identifier = firstFree right identifier := by
  have sizes : left.size = right.size := by
    rw [← OrderedMap.length_keys, same, OrderedMap.length_keys]
  simp only [firstFree, areFree, OrderedMap.contains, same, sizes]

end RecordNames

/-! ## A run over the tables -/

theorem ResolvedTable.keys_register (table : ResolvedTable) (schemas : OrderedMap ObjectSchema) :
    (table.register schemas).2.keys = schemas.keys ++ (table.register schemas).1.toList := by
  rw [OrderedMap.keys, table.entries_register, Entries.keys_append, table.keys_recordSchemas]
  rfl

/-- When a table comes up, there are the schemas from before the run and those of the tables before
it. -/
theorem firstFree_of_registrations {schemas : OrderedMap ObjectSchema}
    {tables : List ResolvedTable} {before after : List (ResolvedTable × RecordNames)}
    {entry : ResolvedTable × RecordNames}
    (split : registrations schemas tables = before ++ entry :: after) :
    ∃ held : OrderedMap ObjectSchema,
      held.keys = schemas.keys ++ (before.map Prod.snd).flatMap RecordNames.toList ∧
        entry.2 = RecordNames.firstFree held entry.1.identifier := by
  induction before generalizing schemas tables with
  | nil =>
      cases tables with
      | nil => simp [registrations] at split
      | cons table rest =>
          rw [registrations, List.nil_append, List.cons.injEq] at split
          exact ⟨schemas, by simp, split.1 ▸ rfl⟩
  | cons head before ih =>
      cases tables with
      | nil => simp [registrations] at split
      | cons table rest =>
          rw [registrations, List.cons_append, List.cons.injEq] at split
          obtain ⟨held, keys, found⟩ := ih split.2
          refine ⟨held, ?_, found⟩
          rw [keys, table.keys_register, ← split.1, List.map_cons, List.flatMap_cons,
            List.append_assoc]

theorem map_snd_registrations_congr {left right : OrderedMap ObjectSchema}
    {tables tables' : List ResolvedTable} (keys : left.keys = right.keys)
    (identifiers : tables.map ResolvedTable.identifier = tables'.map ResolvedTable.identifier) :
    (registrations left tables).map Prod.snd = (registrations right tables').map Prod.snd := by
  induction tables generalizing left right tables' with
  | nil =>
      obtain rfl := List.map_eq_nil_iff.mp identifiers.symm
      rfl
  | cons table rest ih =>
      obtain ⟨table', rest', rfl, same, restSame⟩ := List.map_eq_cons_iff.mp identifiers.symm
      have names : (table.register left).1 = (table'.register right).1 := by
        simp only [ResolvedTable.register, same, RecordNames.firstFree_congr keys]
      have keysNow : (table.register left).2.keys = (table'.register right).2.keys := by
        rw [table.keys_register, table'.keys_register, keys, names]
      simp only [registrations, List.map_cons, names, ih keysNow restSame.symm]

/-- Each table of a document is registered under the first of its candidates that conflicts with no
identifier before it, whatever else the tables are: the first under its own identifier, another
under a number only if its own conflicts with one before it, and the table at a place under a number
that is no greater than the place. -/
theorem ResolvedBase.registered_firstFit (base : ResolvedBase) :
    base.registered.map Prod.fst = base.tables ∧
      (∀ options, (base.document options).components.schemas.keys =
        standardSchemas.keys ++ (base.registered.map Prod.snd).flatMap RecordNames.toList) ∧
      (∀ before entry after, base.registered = before ++ entry :: after →
        let taken := before.map fun earlier => earlier.2.identifier
        (∃ attempt, RecordNames.FirstFit taken entry.1.identifier attempt entry.2.identifier) ∧
          (before = [] → entry.2.identifier = entry.1.identifier) ∧
          (entry.2.identifier ≠ entry.1.identifier →
            ∃ earlier ∈ taken, RecordNames.Conflicts earlier entry.1.identifier) ∧
          (entry.2.identifier = entry.1.identifier ∨
            ∃ suffix, 2 ≤ suffix ∧ suffix ≤ before.length + 1 ∧
              entry.2.identifier = entry.1.identifier ++ toString suffix)) ∧
      (base.registered.map fun entry => entry.2.identifier).Nodup ∧
      ∀ other : ResolvedBase,
        other.tables.map ResolvedTable.identifier = base.tables.map ResolvedTable.identifier →
          other.registered.map Prod.snd = base.registered.map Prod.snd := by
  refine ⟨base.map_fst_registered, ?_, ?_, base.nodup_identifiers_registered, ?_⟩
  · intro options
    rw [base.keys_schemas_document options, List.flatMap_map]
  · intro before entry after split taken
    obtain ⟨held, keys, found⟩ := firstFree_of_registrations split
    have fit := RecordNames.firstFit_firstFree keys entry.1.identifier
    rw [← found, List.map_map] at fit
    obtain ⟨attempt, fit⟩ := fit
    refine ⟨⟨attempt, fit⟩, ?_, fit.conflicts_of_ne, ?_⟩
    · intro isFirst
      have none : attempt ≤ 0 := by simpa [isFirst] using fit.attempt_le
      obtain rfl := Nat.le_zero.mp none
      exact fit.assigned_eq
    · simpa using fit.suffix
  · intro other identifiers
    exact map_snd_registrations_congr rfl identifiers

end BaseApi

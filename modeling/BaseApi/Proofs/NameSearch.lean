import Mathlib
import BaseApi.Proofs.FreeNames

/-!
# The search for free names, turn by turn

The search starts with the plain identifier and the number 2. While a name at hand is taken, it
takes up the next number (`Search.Reaches`). Every turn is blocked by a schema that blocks no other,
so there are at most as many turns as schemas, whatever keys these have: the search ends, at the
least number whose names are free, and that number and the counter stay small
(`firstFree_leastNumber`).
-/

namespace BaseApi.RecordNames

/-! ## Turns -/

/-- Where a search stands: the names at hand, and the number that is taken up next. -/
structure Search where
  names : RecordNames
  counter : Nat
deriving DecidableEq

namespace Search

/-- The search before the first turn. -/
def start (identifier : String) : Search := { names := { identifier }, counter := 2 }

/-- The search with the next number. -/
def turn (identifier : String) (search : Search) : Search where
  names := { identifier := identifier ++ toString search.counter }
  counter := search.counter + 1

variable {schemas : OrderedMap ObjectSchema} {identifier : String} {turns : Nat} {search : Search}

/-- A search among `schemas` stands somewhere after a number of turns, each of which it has made
because a name at hand was taken. -/
inductive Reaches (schemas : OrderedMap ObjectSchema) (identifier : String) :
    Nat → Search → Prop where
  | start : Reaches schemas identifier 0 (start identifier)
  | turn {turns : Nat} {search : Search} (before : Reaches schemas identifier turns search)
      (taken : search.names.areFree schemas = false) :
      Reaches schemas identifier (turns + 1) (search.turn identifier)

/-- After `turns` turns the next candidate is at hand. -/
theorem Reaches.eq_candidate (reached : Reaches schemas identifier turns search) :
    search = { names := candidate identifier turns, counter := turns + 2 } := by
  induction reached with
  | start => rfl
  | turn before taken ih =>
      subst ih
      rfl

theorem Reaches.taken_of_lt (reached : Reaches schemas identifier turns search) :
    ∀ earlier < turns, (candidate identifier earlier).areFree schemas = false := by
  induction reached with
  | start => exact fun _ before => absurd before (Nat.not_lt_zero _)
  | @turn turns search before taken ih =>
      intro earlier le
      rcases Nat.lt_succ_iff_lt_or_eq.mp le with lt | rfl
      · exact ih earlier lt
      · rwa [before.eq_candidate] at taken

theorem reaches_of_taken
    (taken : ∀ earlier < turns, (candidate identifier earlier).areFree schemas = false) :
    Reaches schemas identifier turns
      { names := candidate identifier turns, counter := turns + 2 } := by
  induction turns with
  | zero => exact .start
  | succ turns ih =>
      have before := ih fun earlier lt => taken earlier (Nat.lt_succ_of_lt lt)
      exact before.turn (taken turns (Nat.lt_succ_self turns))

/-- A search makes at most one turn for each schema. -/
theorem Reaches.turns_le (reached : Reaches schemas identifier turns search) :
    turns ≤ schemas.size :=
  le_size_of_not_areFree reached.taken_of_lt

/-- Where the names at hand are free, the search has found what it looks for. -/
theorem Reaches.firstFree_eq (reached : Reaches schemas identifier turns search)
    (free : search.names.areFree schemas = true) :
    firstFree schemas identifier = search.names := by
  obtain ⟨attempt, -, found, freeThere, takenBefore⟩ := firstFree_spec schemas identifier
  have taken := reached.taken_of_lt
  rw [reached.eq_candidate] at free ⊢
  rcases Nat.lt_trichotomy attempt turns with lt | rfl | lt
  · rw [taken attempt lt] at freeThere
    exact absurd freeThere Bool.false_ne_true
  · exact found
  · rw [takenBefore turns lt] at free
    exact absurd free Bool.false_ne_true

end Search

/-! ## The number that is found -/

/-- The search is left after a bounded number of turns, and no 32-bit counter overflows before if
there are fewer than 2³¹ - 2 schemas. It finds the names of the plain identifier if all five are
free, and those of the identifier with the least number from 2 on whose names are all free if not;
the number exceeds that of the schemas by one at most. -/
theorem firstFree_leastNumber (schemas : OrderedMap ObjectSchema) (identifier : String) :
    ((∃ turns search, Search.Reaches schemas identifier turns search ∧
        search.names.areFree schemas = true) ∧
      ∀ turns search, Search.Reaches schemas identifier turns search →
        turns ≤ schemas.size ∧
          (schemas.size < 2 ^ 31 - 2 → (Int32.ofNat search.counter).toInt = search.counter) ∧
          (search.names.areFree schemas = true → firstFree schemas identifier = search.names)) ∧
    ((∀ name ∈ (RecordNames.mk identifier).toList, name ∉ schemas.keys) ∧
        firstFree schemas identifier = { identifier } ∨
      (∃ name ∈ (RecordNames.mk identifier).toList, name ∈ schemas.keys) ∧
        ∃ number, 2 ≤ number ∧ number ≤ schemas.size + 1 ∧
          firstFree schemas identifier = { identifier := identifier ++ toString number } ∧
          (∀ name ∈ (RecordNames.mk (identifier ++ toString number)).toList,
            name ∉ schemas.keys) ∧
          ∀ smaller, 2 ≤ smaller → smaller < number →
            ∃ name ∈ (RecordNames.mk (identifier ++ toString smaller)).toList,
              name ∈ schemas.keys) := by
  obtain ⟨attempt, bound, found, free, taken⟩ := firstFree_spec schemas identifier
  refine ⟨⟨⟨attempt, _, Search.reaches_of_taken taken, free⟩, ?_⟩, ?_⟩
  · intro turns search reached
    refine ⟨reached.turns_le, fun small => ?_, reached.firstFree_eq⟩
    have fits : turns + 2 < 2 ^ 31 := by
      have := reached.turns_le
      omega
    rw [reached.eq_candidate]
    exact Int32.toInt_ofNat_of_lt fits
  · cases attempt with
    | zero => exact .inl ⟨areFree_iff.mp free, found⟩
    | succ attempt =>
        refine .inr ⟨not_areFree_iff.mp (taken 0 (Nat.succ_pos attempt)), attempt + 2, by omega,
          by omega, found, areFree_iff.mp free, ?_⟩
        intro smaller two le
        obtain ⟨earlier, rfl⟩ := Nat.exists_eq_add_of_le' two
        exact not_areFree_iff.mp (taken (earlier + 1) (by omega))

end BaseApi.RecordNames

import BaseApi.Proofs.Reading.Grammar

/-!
# Values that are passed over

A value that can be read can be passed over, and both end at the same place (`Reads.skipValue`). The
converse does not hold: passing over leaves the range of numbers and the pairing of surrogates
unchecked.
-/

namespace BaseApi.Json

open Fallible

theorem skipValue_skipBlanks (fuel : Nat) (cs : List Char) :
    skipValue fuel (skipBlanks cs) = skipValue fuel cs := by
  cases fuel with
  | zero => rfl
  | succ fuel => rw [skipValue, skipValue, skipBlanks_skipBlanks]

theorem ReadsScalar.skipScalar {cs rest : List Char} {value : Json}
    (token : ReadsScalar cs value rest) : Json.skipScalar cs = .ok rest := by
  cases token with
  | null letters | yes letters | no letters => exact letters
  | text body => exact skipString_of_stringBody body
  | numeral starts digits =>
      obtain ⟨notN, notT, notF, notQuote, -, -⟩ := ne_of_startsNumber starts
      simp [Json.skipScalar, starts, skipNumber_of_number digits]

theorem skipValue_of_token (fuel : Nat) {cs rest : List Char} {value : Json}
    (token : ReadsScalar (skipBlanks cs) value rest) :
    skipValue (fuel + 1) cs = skipScalar (skipBlanks cs) := by
  rw [skipValue]
  split
  · next opens => exact absurd token (ReadsScalar.not_opens (.inl rfl) opens)
  · next opens => exact absurd token (ReadsScalar.not_opens (.inr rfl) opens)
  · rfl

theorem skipKey_skipBlanks (cs : List Char) : skipKey (skipBlanks cs) = skipKey cs := by
  rw [skipKey, skipKey, skipBlanks_skipBlanks]

theorem skipKey_eq_ok {cs start named valued : List Char} {key : String}
    (quoted : skipBlanks cs = '"' :: start) (name : stringBody [] start = .ok (key, named))
    (separator : colon named = .ok valued) : skipKey cs = .ok valued := by
  rw [skipKey, quoted]
  exact bind_eq_ok_iff.mpr ⟨named, skipString_of_stringBody name, separator⟩

/-! ## One step of the walk -/

theorem skipElements_of_closed (fuel : Nat) {first : Bool} {cs rest : List Char}
    (next : nextElement first cs = .ok (.closed rest)) :
    skipElements (fuel + 1) first cs = .ok rest := by
  rw [nextElement_eq_closed_iff] at next
  cases first <;> simp [skipElements, next]

theorem skipElements_of_entry (fuel : Nat) {first : Bool} {cs start : List Char}
    (next : nextElement first cs = .ok (.entry start)) :
    skipElements (fuel + 1) first cs = skipValue fuel start >>= skipElements fuel false := by
  unfold nextElement at next
  split at next
  · cases next
  · cases next
  · next text continues =>
      split at next
      · cases next
      · cases next
      · cases next
        simp [skipElements, continues, skipValue_skipBlanks]
  · next filled unclosed =>
      cases next
      simp [skipElements]
  · cases next

theorem skipMembers_of_closed (fuel : Nat) {first : Bool} {cs rest : List Char}
    (next : nextMember first cs = .ok (.closed rest)) :
    skipMembers (fuel + 1) first cs = .ok rest := by
  rw [nextMember_eq_closed_iff] at next
  cases first <;> simp [skipMembers, next]

theorem skipMembers_of_entry (fuel : Nat) {first : Bool} {cs start named valued : List Char}
    {key : String} (next : nextMember first cs = .ok (.entry start))
    (name : stringBody [] start = .ok (key, named)) (separator : colon named = .ok valued) :
    skipMembers (fuel + 1) first cs = skipValue fuel valued >>= skipMembers fuel false := by
  obtain ⟨text, quoted, place⟩ := nextMember_eq_entry next
  have passed := skipKey_eq_ok quoted name separator
  rcases place with ⟨rfl, rfl⟩ | ⟨rfl, continues⟩
  · rw [← skipKey_skipBlanks, quoted] at passed
    simp [skipMembers, quoted, passed, bind, Except.bind]
  · simp only [skipMembers, continues, passed]
    rfl

/-! ## The walk -/

mutual

/-- What can be read can be passed over, in two steps for each character. -/
theorem Reads.skipValue {cs rest : List Char} {tree : Json} {fuel : Nat} :
    Reads cs tree rest → 2 * cs.length ≤ fuel → Json.skipValue fuel cs = .ok rest
  | read, enough => by
      have progress := read.length_lt
      obtain ⟨fuel, rfl⟩ := Nat.exists_eq_add_one.mpr (show 0 < fuel by omega)
      -- The bracket of a container pays for this step and for the one at the container's end.
      match read with
      | .scalar token => exact (skipValue_of_token fuel token).trans token.skipScalar
      | .array opens elements =>
          have shorter := length_lt_of_skipBlanks opens
          rw [Json.skipValue, opens]
          exact elements.skipElements (by omega)
      | .object opens entries =>
          have shorter := length_lt_of_skipBlanks opens
          rw [Json.skipValue, opens]
          exact entries.skipMembers (by omega)

theorem ReadsElements.skipElements {first : Bool} {cs rest : List Char} {items : List Json}
    {fuel : Nat} :
    ReadsElements first cs items rest → 2 * cs.length < fuel →
      Json.skipElements fuel first cs = .ok rest
  | .closed next, enough => by
      obtain ⟨fuel, rfl⟩ := Nat.exists_eq_add_one.mpr (show 0 < fuel by omega)
      exact skipElements_of_closed fuel next
  | .entry next head tail, enough => by
      obtain ⟨fuel, rfl⟩ := Nat.exists_eq_add_one.mpr (show 0 < fuel by omega)
      have started := length_le_of_nextElement next
      have progress := head.length_lt
      rw [skipElements_of_entry fuel next]
      exact bind_eq_ok_iff.mpr ⟨_, head.skipValue (by omega), tail.skipElements (by omega)⟩

theorem ReadsMembers.skipMembers {first : Bool} {cs rest : List Char}
    {members : List (String × Json)} {fuel : Nat} :
    ReadsMembers first cs members rest → 2 * cs.length < fuel →
      Json.skipMembers fuel first cs = .ok rest
  | .closed next, enough => by
      obtain ⟨fuel, rfl⟩ := Nat.exists_eq_add_one.mpr (show 0 < fuel by omega)
      exact skipMembers_of_closed fuel next
  | .entry next name separator head tail, enough => by
      obtain ⟨fuel, rfl⟩ := Nat.exists_eq_add_one.mpr (show 0 < fuel by omega)
      have started := length_lt_of_member next name separator
      have progress := head.length_lt
      rw [skipMembers_of_entry fuel next name separator]
      exact bind_eq_ok_iff.mpr ⟨_, head.skipValue (by omega), tail.skipMembers (by omega)⟩

end

end BaseApi.Json

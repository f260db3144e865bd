import BaseApi.Proofs.Reading.Walks

/-!
# Text and its value

Reading a text as a value merges the members that repeat a key: `Json.merged` does so at every depth
of a tree. Main statement: a text that is read as a value spells a tree, and the value is that tree
merged (`exists_spells_of_parse`).
-/

namespace BaseApi.Json

open Fallible

/-! ## Merging repeated keys -/

mutual

/-- The value in which each key of an object comes once, at its first place and with its last
value. -/
def merged : Json → Json
  | arr items => arr (mergedItems items)
  | obj members => obj (Entries.merge (mergedMembers members))
  | scalar => scalar

def mergedItems : List Json → List Json
  | [] => []
  | item :: items => merged item :: mergedItems items

def mergedMembers : List (String × Json) → List (String × Json)
  | [] => []
  | (key, item) :: members => (key, merged item) :: mergedMembers members

end

theorem mergedItems_eq (items : List Json) : mergedItems items = items.map merged := by
  induction items with
  | nil => rfl
  | cons item items ih => rw [mergedItems, List.map_cons, ih]

theorem mergedMembers_eq (members : List (String × Json)) :
    mergedMembers members = members.map fun member => (member.1, merged member.2) := by
  induction members with
  | nil => rfl
  | cons member members ih => rw [mergedMembers, List.map_cons, ih]

theorem merged_arr (items : List Json) : merged (arr items) = arr (items.map merged) := by
  rw [merged, mergedItems_eq]

theorem merged_obj (members : List (String × Json)) :
    merged (obj members) =
      obj (Entries.merge (members.map fun member => (member.1, merged member.2))) := by
  rw [merged, mergedMembers_eq]

theorem keys_map_merged (members : List (String × Json)) :
    Entries.keys (members.map fun member => (member.1, merged member.2)) =
      Entries.keys members := by
  simp [Entries.keys]

theorem ReadsScalar.merged {cs rest : List Char} {value : Json}
    (token : ReadsScalar cs value rest) : value.merged = value := by
  cases token <;> rfl

/-! ## Reading a value -/

section Containers

variable {limit depth : Nat}
  (sound : ∀ {cs rest : List Char} {result : Json}, value limit depth cs = .ok (result, rest) →
    ∃ tree, Reads cs tree rest ∧ tree.merged = result)

include sound

theorem exists_readsElements_of_value {cs rest : List Char} {read : List Json}
    (walked : foldArray (fun (read : List Json) rest => do
      let (item, rest) ← value limit depth rest
      pure (item :: read, rest)) limit true [] cs = .ok (read, rest)) :
    ∃ items, ReadsElements true cs items rest ∧ read.reverse = items.map merged := by
  have element : ∀ (read next : List Json) (cs rest : List Char),
      (do
        let (item, rest) ← value limit depth cs
        pure (item :: read, rest)) = Except.ok (next, rest) →
      ∃ item, Reads cs item rest ∧ ∃ result, item.merged = result ∧ next = result :: read := by
    intro read next cs rest taken
    obtain ⟨⟨result, after⟩, value, same⟩ := bind_eq_ok_iff.mp taken
    cases same
    obtain ⟨tree, reads, merge⟩ := sound value
    exact ⟨tree, reads, result, merge, rfl⟩
  obtain ⟨items, elements, folded⟩ := exists_readsElements_of_foldArray
    (fun read item next => ∃ result, item.merged = result ∧ next = result :: read) element walked
  obtain ⟨results, related, rfl⟩ := folds_cons_iff.mp folded
  have same : items.map merged = results := by
    simpa only [List.forall₂_eq_eq_eq] using List.forall₂_map_left_iff.mpr related
  exact ⟨items, elements, by rw [List.append_nil, List.reverse_reverse, same]⟩

theorem exists_readsMembers_of_value {cs rest : List Char} {read : Entries Json}
    (walked : foldObject (fun key (read : Entries Json) rest => do
      let (item, rest) ← value limit depth (← colon rest)
      pure (Entries.put key item read, rest)) limit true [] cs = .ok (read, rest)) :
    ∃ members, ReadsMembers true cs members rest ∧
      read = Entries.merge (members.map fun member => (member.1, member.2.merged)) := by
  have member : ∀ (key : String) (read next : Entries Json) (cs rest : List Char),
      (do
        let (item, rest) ← value limit depth (← colon cs)
        pure (Entries.put key item read, rest)) = Except.ok (next, rest) →
      ∃ valued item, colon cs = .ok valued ∧ Reads valued item rest ∧
        Entries.put key item.merged read = next := by
    intro key read next cs rest taken
    obtain ⟨valued, separator, taken⟩ := bind_eq_ok_iff.mp taken
    obtain ⟨⟨result, after⟩, value, same⟩ := bind_eq_ok_iff.mp taken
    cases same
    obtain ⟨tree, reads, rfl⟩ := sound value
    exact ⟨valued, tree, separator, reads, rfl⟩
  obtain ⟨members, entries, folded⟩ := exists_readsMembers_of_foldObject
    (fun read member next => Entries.put member.1 member.2.merged read = next) member walked
  refine ⟨members, entries, ?_⟩
  rw [← folds_function_iff.mp folded, Entries.merge, List.foldl_map]

end Containers

/-- What is read as a value is a tree, merged. -/
theorem exists_reads_of_value {limit depth : Nat} {cs rest : List Char} {result : Json}
    (read : value limit depth cs = .ok (result, rest)) :
    ∃ tree, Reads cs tree rest ∧ tree.merged = result := by
  induction depth generalizing cs result rest with
  | zero =>
      unfold value at read
      split at read
      · cases read
      · contradiction
      · cases read
      · contradiction
      · have token := scalar_eq_ok_iff.mp read
        exact ⟨result, .scalar token, token.merged⟩
  | succ depth ih =>
      unfold value at read
      split at read
      · contradiction
      · next opens same =>
        cases same
        obtain ⟨⟨read, after⟩, walked, same⟩ := bind_eq_ok_iff.mp read
        cases same
        obtain ⟨items, elements, same⟩ := exists_readsElements_of_value ih walked
        exact ⟨arr items, .array opens elements, by rw [merged_arr, same]⟩
      · contradiction
      · next opens same =>
        cases same
        obtain ⟨⟨read, after⟩, walked, same⟩ := bind_eq_ok_iff.mp read
        cases same
        obtain ⟨members, entries, same⟩ := exists_readsMembers_of_value ih walked
        exact ⟨obj members, .object opens entries, by rw [merged_obj, same]⟩
      · have token := scalar_eq_ok_iff.mp read
        exact ⟨result, .scalar token, token.merged⟩

theorem finish_eq_ok_iff {α : Type} {read : α × List Char} {result : α} :
    finish read = .ok result ↔ read.1 = result ∧ skipBlanks read.2 = [] := by
  unfold finish
  split
  next value rest =>
    by_cases blank : skipBlanks rest = [] <;> simp [blank, refuse]

theorem exists_spells_of_parse {text : String} {result : Json}
    (parsed : parse text = .ok result) : ∃ tree, Spells text tree ∧ tree.merged = result := by
  obtain ⟨⟨_, rest⟩, read, finished⟩ := bind_eq_ok_iff.mp parsed
  obtain ⟨rfl, blank⟩ := finish_eq_ok_iff.mp finished
  obtain ⟨tree, reads, same⟩ := exists_reads_of_value read
  exact ⟨tree, ⟨rest, reads, blank⟩, same⟩

end BaseApi.Json

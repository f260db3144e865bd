import Mathlib
import BaseApi.OrderedMap

/-!
# Inserting many entries

`OrderedMap.insertAll` inserts a list of entries one after the other. While every key is new the
entries are appended as they are (`entries_insertAll`); an entry whose key is there already replaces
another one, so something is lost. `total_insertAll_eq_iff` says so for any way of weighing entries:
the weights add up exactly if every key is new. `Entries.merge` puts a list together in the same
way: its keys are those of the list, each where it first came (`Entries.keys_merge`), and nothing
changes about keys that come once (`Entries.filter_merge`). What is done to all values alike may be
done before or after (`OrderedMap.entries_insertAll_mapValues`).
-/

namespace BaseApi

namespace Entries

variable {α : Type}

theorem lookup_eq_some_of_mem {entries : Entries α} (nodup : (keys entries).Nodup)
    {key : String} {value : α} (member : (key, value) ∈ entries) :
    entries.lookup key = some value := by
  induction entries with
  | nil => simp at member
  | cons entry rest ih =>
      rw [keys_cons, List.nodup_cons] at nodup
      rcases List.mem_cons.mp member with same | inRest
      · simp [List.lookup, ← same]
      · have inKeys : key ∈ keys rest := List.mem_map_of_mem (f := Prod.fst) inRest
        have differs : (key == entry.1) = false := by
          rw [beq_eq_false_iff_ne]
          exact fun same => nodup.1 (same ▸ inKeys)
        rw [List.lookup, differs]
        exact ih nodup.2 inRest

/-! ## Weights -/

variable (weight : α → Nat)

/-- The weights of all values together. -/
def total (entries : Entries α) : Nat := (entries.map fun entry => weight entry.2).sum

@[simp] theorem total_nil : total weight ([] : Entries α) = 0 := rfl

@[simp] theorem total_cons (entry : String × α) (rest : Entries α) :
    total weight (entry :: rest) = weight entry.2 + total weight rest := rfl

@[simp] theorem total_append (first second : Entries α) :
    total weight (first ++ second) = total weight first + total weight second := by
  simp [total]

theorem total_one (entries : Entries α) : total (fun _ => 1) entries = entries.length := by
  simp [total]

theorem total_put_of_not_mem {key : String} {entries : Entries α} (absent : key ∉ keys entries)
    (value : α) : total weight (put key value entries) = total weight entries + weight value := by
  simp [put_of_not_mem absent]

/-- A value that is replaced is lost. -/
theorem total_put_lt_of_mem {key : String} {entries : Entries α} (present : key ∈ keys entries)
    (value : α) (positive : ∀ entry ∈ entries, 0 < weight entry.2) :
    total weight (put key value entries) < total weight entries + weight value := by
  induction entries with
  | nil => simp at present
  | cons entry rest ih =>
      have head := positive entry List.mem_cons_self
      by_cases same : entry.1 = key
      · simp only [put, same, if_true, total_cons]
        omega
      · rw [keys_cons, List.mem_cons] at present
        have inRest := present.resolve_left (Ne.symm same)
        have tail := ih inRest fun entry member => positive entry (List.mem_cons_of_mem _ member)
        simp only [put, same, if_false, total_cons]
        omega

theorem mem_put {key : String} {value : α} {entries : Entries α} {entry : String × α}
    (member : entry ∈ put key value entries) : entry ∈ entries ∨ entry = (key, value) := by
  induction entries with
  | nil => exact .inr (by simpa [put] using member)
  | cons head rest ih =>
      by_cases same : head.1 = key
      · rw [put, if_pos same, List.mem_cons] at member
        rcases member with rfl | inRest
        · exact .inr rfl
        · exact .inl (List.mem_cons_of_mem _ inRest)
      · rw [put, if_neg same, List.mem_cons] at member
        rcases member with rfl | inRest
        · exact .inl List.mem_cons_self
        · exact (ih inRest).imp_left (List.mem_cons_of_mem _)

/-! ## Merging -/

theorem merge_append_singleton (entries : Entries α) (entry : String × α) :
    merge (entries ++ [entry]) = put entry.1 entry.2 (merge entries) := by
  rw [merge, List.foldl_append]
  rfl

theorem mem_of_mem_merge {entries : Entries α} {entry : String × α}
    (member : entry ∈ merge entries) : entry ∈ entries := by
  induction entries using List.reverseRecOn with
  | nil => exact member
  | append_singleton entries last ih =>
      rw [merge_append_singleton] at member
      rcases mem_put member with old | rfl
      · exact List.mem_append_left _ (ih old)
      · exact List.mem_append_right _ List.mem_cons_self

theorem filter_put_of_not {keeps : String → Bool} {key : String} (dropped : keeps key = false)
    (value : α) (entries : Entries α) :
    (put key value entries).filter (fun entry => keeps entry.1) =
      entries.filter fun entry => keeps entry.1 := by
  induction entries with
  | nil => simp [put, dropped]
  | cons entry rest ih =>
      by_cases same : entry.1 = key
      · simp [put, same, dropped]
      · simp [put, same, List.filter_cons, ih]

/-- Merging changes nothing about keys that come once. -/
theorem filter_merge {keeps : String → Bool} {entries : Entries α}
    (once : ∀ key, keeps key = true → (keys entries).count key ≤ 1) :
    (merge entries).filter (fun entry => keeps entry.1) =
      entries.filter fun entry => keeps entry.1 := by
  induction entries using List.reverseRecOn with
  | nil => rfl
  | append_singleton entries entry ih =>
      simp only [keys_append, keys_cons, keys_nil, List.count_append] at once
      have before := ih fun key kept => (Nat.le_add_right _ _).trans (once key kept)
      rw [merge_append_singleton, List.filter_append, ← before]
      cases kept : keeps entry.1 with
      | false => simp [filter_put_of_not kept, kept]
      | true =>
          have absent : entry.1 ∉ keys (merge entries) := by
            intro present
            obtain ⟨other, inMerge, same⟩ := List.mem_map.mp present
            have earlier : entry.1 ∈ keys entries :=
              List.mem_map.mpr ⟨other, mem_of_mem_merge inMerge, same⟩
            have twice := once entry.1 kept
            rw [List.count_singleton_self] at twice
            have positive := List.count_pos_iff.mpr earlier
            omega
          rw [put_of_not_mem absent, List.filter_append]

theorem merge_eq_self {entries : Entries α} (once : (keys entries).Nodup) :
    merge entries = entries := by
  have kept := @filter_merge _ (fun _ => true) entries fun key _ =>
    List.nodup_iff_count_le_one.mp once key
  simpa using kept

/-- A key stays where it first came. -/
theorem keys_merge (entries : Entries α) : keys (merge entries) = (keys entries).eraseDups := by
  induction entries using List.reverseRecOn with
  | nil => rfl
  | append_singleton entries entry ih =>
      have there : entry.1 ∈ keys (merge entries) ↔ entry.1 ∈ keys entries := by
        rw [ih, List.mem_eraseDups]
      rw [merge_append_singleton, keys_append, List.eraseDups_append, ← ih]
      -- The last entry adds its key only if no entry before it has the key.
      by_cases present : entry.1 ∈ keys entries
      · simp [keys_put_of_mem (there.mpr present), List.removeAll, present]
      · simp [keys_put_of_not_mem (mt there.mp present), List.removeAll, present,
          List.eraseDups_cons]

/-! ## Changing the values -/

variable {β : Type}

/-- The entries with other values, made of theirs. -/
def mapValues (f : α → β) (entries : Entries α) : Entries β :=
  entries.map fun entry => (entry.1, f entry.2)

@[simp] theorem keys_mapValues (f : α → β) (entries : Entries α) :
    keys (mapValues f entries) = keys entries := by
  simp [keys, mapValues]

theorem mapValues_id (entries : Entries α) : mapValues id entries = entries :=
  List.map_id entries

theorem mapValues_mapValues {γ : Type} (f : α → β) (g : β → γ) (entries : Entries α) :
    mapValues g (mapValues f entries) = mapValues (g ∘ f) entries :=
  List.map_map

theorem mapValues_congr {f g : α → β} {entries : Entries α}
    (same : ∀ entry ∈ entries, f entry.2 = g entry.2) :
    mapValues f entries = mapValues g entries := by
  apply List.map_congr_left
  intro entry among
  rw [same entry among]

theorem lookup_mapValues (f : α → β) (entries : Entries α) (key : String) :
    (mapValues f entries).lookup key = (entries.lookup key).map f := by
  induction entries with
  | nil => rfl
  | cons entry rest ih =>
      show List.lookup key ((entry.1, f entry.2) :: mapValues f rest) = _
      rw [List.lookup_cons, List.lookup_cons, ih]
      cases key == entry.1 <;> rfl

theorem put_mapValues (f : α → β) (key : String) (value : α) (entries : Entries α) :
    put key (f value) (mapValues f entries) = mapValues f (put key value entries) := by
  induction entries with
  | nil => rfl
  | cons entry rest ih =>
      show put key (f value) ((entry.1, f entry.2) :: mapValues f rest) = _
      by_cases same : entry.1 = key
      · rw [put, put, if_pos same, if_pos same]
        rfl
      · rw [put, put, if_neg same, if_neg same, ih]
        rfl

end Entries

namespace OrderedMap

variable {α : Type}

/-- Inserts the entries of a list one after the other. -/
def insertAll (map : OrderedMap α) (entries : Entries α) : OrderedMap α :=
  entries.foldl (fun map entry => map.insert entry.1 entry.2) map

@[simp] theorem insertAll_nil (map : OrderedMap α) : map.insertAll [] = map := rfl

@[simp] theorem insertAll_cons (map : OrderedMap α) (entry : String × α) (rest : Entries α) :
    map.insertAll (entry :: rest) = (map.insert entry.1 entry.2).insertAll rest := rfl

theorem insertAll_append (map : OrderedMap α) (first second : Entries α) :
    map.insertAll (first ++ second) = (map.insertAll first).insertAll second :=
  List.foldl_append

theorem keys_insert_of_not_mem {map : OrderedMap α} {key : String} (absent : key ∉ map.keys)
    (value : α) : (map.insert key value).keys = map.keys ++ [key] :=
  Entries.keys_put_of_not_mem absent value

theorem entries_insertAll_eq (map : OrderedMap α) (entries : Entries α) :
    (map.insertAll entries).entries =
      entries.foldl (fun merged entry => Entries.put entry.1 entry.2 merged) map.entries := by
  induction entries generalizing map with
  | nil => rfl
  | cons entry rest ih => exact ih (map.insert entry.1 entry.2)

/-- A list is made a map by inserting it into the empty one. -/
theorem ofList_eq (entries : Entries α) : ofList entries = empty.insertAll entries := by
  apply ext
  rw [entries_insertAll_eq]
  rfl

/-- Entries whose values are changed give the map whose values are changed. -/
theorem entries_insertAll_mapValues {β : Type} (f : α → β) {map : OrderedMap α}
    {changed : OrderedMap β} (same : changed.entries = Entries.mapValues f map.entries)
    (entries : Entries α) :
    (changed.insertAll (Entries.mapValues f entries)).entries =
      Entries.mapValues f (map.insertAll entries).entries := by
  rw [entries_insertAll_eq, entries_insertAll_eq, same]
  show (entries.map fun entry => (entry.1, f entry.2)).foldl _ _ = _
  rw [List.foldl_map]
  exact List.foldl_hom (Entries.mapValues f) fun merged entry =>
    Entries.put_mapValues f entry.1 entry.2 merged

theorem get?_of_mem {map : OrderedMap α} {key : String} {value : α}
    (member : (key, value) ∈ map.entries) : map.get? key = some value :=
  Entries.lookup_eq_some_of_mem map.nodup_keys member

/-- What is appended does not change what is there. -/
theorem get?_of_append {map grown : OrderedMap α} {more : Entries α}
    (append : grown.entries = map.entries ++ more) {key : String} (present : key ∈ map.keys) :
    grown.get? key = map.get? key := by
  obtain ⟨⟨_, value⟩, member, rfl⟩ := List.mem_map.mp present
  rw [get?_of_mem member]
  apply get?_of_mem
  rw [append]
  exact List.mem_append_left more member

/-- New entries go to the end as they are. -/
theorem entries_insertAll {map : OrderedMap α} {entries : Entries α}
    (new : (map.keys ++ Entries.keys entries).Nodup) :
    (map.insertAll entries).entries = map.entries ++ entries := by
  induction entries generalizing map with
  | nil => simp
  | cons entry rest ih =>
      have absent : entry.1 ∉ map.keys := fun present =>
        (List.nodup_append.mp new).2.2 _ present _ (by simp) rfl
      have keysNow := keys_insert_of_not_mem absent entry.2
      rw [insertAll_cons, ih (by simpa [keysNow] using new),
        entries_insert_of_not_mem map absent]
      simp

/-- Nothing is in the map but what was there and what was inserted. -/
theorem mem_entries_insertAll {map : OrderedMap α} {entries : Entries α} {entry : String × α}
    (member : entry ∈ (map.insertAll entries).entries) : entry ∈ map.entries ∨ entry ∈ entries := by
  induction entries generalizing map with
  | nil => exact .inl member
  | cons head rest ih =>
      rcases ih member with inNow | inRest
      · rcases Entries.mem_put inNow with old | rfl
        · exact .inl old
        · exact .inr List.mem_cons_self
      · exact .inr (List.mem_cons_of_mem _ inRest)

/-- The last entry with a key gives its value. -/
theorem get?_insertAll (map : OrderedMap α) (entries : Entries α) (key : String) :
    (map.insertAll entries).get? key = (entries.reverse.lookup key).or (map.get? key) := by
  induction entries generalizing map with
  | nil => simp
  | cons entry rest ih =>
      rw [insertAll_cons, ih, List.reverse_cons, List.lookup_append, Option.or_assoc]
      congr 1
      by_cases same : key = entry.1
      · subst same
        simp [get?_insert_self, List.lookup]
      · have differs : (key == entry.1) = false := beq_eq_false_iff_ne.mpr same
        simp [get?_insert_of_ne map same, List.lookup, differs]

/-- The last entry of a list with a key gives its value. -/
theorem get?_ofList (entries : Entries α) (key : String) :
    (ofList entries).get? key = entries.reverse.lookup key := by
  rw [ofList_eq, get?_insertAll]
  exact Option.or_none

section Weights

variable (weight : α → Nat)

theorem weight_pos_of_mem_insert {map : OrderedMap α} {new : String × α}
    (there : ∀ entry ∈ map.entries, 0 < weight entry.2) (coming : 0 < weight new.2) :
    ∀ entry ∈ (map.insert new.1 new.2).entries, 0 < weight entry.2 := by
  intro entry member
  rcases Entries.mem_put member with old | rfl
  · exact there entry old
  · exact coming

theorem total_insertAll_le {map : OrderedMap α} {entries : Entries α}
    (there : ∀ entry ∈ map.entries, 0 < weight entry.2)
    (coming : ∀ entry ∈ entries, 0 < weight entry.2) :
    Entries.total weight (map.insertAll entries).entries ≤
      Entries.total weight map.entries + Entries.total weight entries := by
  induction entries generalizing map with
  | nil => simp
  | cons entry rest ih =>
      rw [List.forall_mem_cons] at coming
      have step : Entries.total weight (map.insert entry.1 entry.2).entries ≤
          Entries.total weight map.entries + weight entry.2 := by
        by_cases present : entry.1 ∈ map.keys
        · exact (Entries.total_put_lt_of_mem weight present entry.2 there).le
        · exact (Entries.total_put_of_not_mem weight present entry.2).le
      have run := ih (weight_pos_of_mem_insert weight there coming.1) coming.2
      rw [insertAll_cons, Entries.total_cons]
      omega

/-- The weights add up exactly if every key is new. -/
theorem total_insertAll_eq_iff {map : OrderedMap α} {entries : Entries α}
    (there : ∀ entry ∈ map.entries, 0 < weight entry.2)
    (coming : ∀ entry ∈ entries, 0 < weight entry.2) :
    Entries.total weight (map.insertAll entries).entries =
        Entries.total weight map.entries + Entries.total weight entries ↔
      (map.keys ++ Entries.keys entries).Nodup := by
  constructor
  · intro balanced
    induction entries generalizing map with
    | nil => simpa [keys] using map.nodup_keys
    | cons entry rest ih =>
        rw [List.forall_mem_cons] at coming
        have thereNow := weight_pos_of_mem_insert weight there coming.1
        have run := total_insertAll_le weight thereNow coming.2
        rw [insertAll_cons, Entries.total_cons] at balanced
        by_cases present : entry.1 ∈ map.keys
        · -- The value that the entry replaces is missing in the end.
          have lost : Entries.total weight (map.insert entry.1 entry.2).entries <
              Entries.total weight map.entries + weight entry.2 :=
            Entries.total_put_lt_of_mem weight present entry.2 there
          omega
        · have kept : Entries.total weight (map.insert entry.1 entry.2).entries =
              Entries.total weight map.entries + weight entry.2 :=
            Entries.total_put_of_not_mem weight present entry.2
          have new := ih thereNow coming.2 (by omega)
          simpa [keys_insert_of_not_mem present] using new
  · intro new
    rw [entries_insertAll new, Entries.total_append]

end Weights

/-- A list is made a map of as many entries exactly if no key comes twice. -/
theorem size_ofList_eq_iff {entries : Entries α} :
    (ofList entries).size = entries.length ↔ (Entries.keys entries).Nodup := by
  -- Weighing every entry as one counts them.
  have counted := @total_insertAll_eq_iff α (fun _ => 1) empty entries (fun _ _ => one_pos)
    (fun _ _ => one_pos)
  rw [← ofList_eq, Entries.total_one, Entries.total_one, Entries.total_one] at counted
  simpa [empty, size, keys] using counted

end OrderedMap

end BaseApi

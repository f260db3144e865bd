/-!
# Insertion-ordered maps with text keys

An `Entries α` is a list of key/value pairs; `Entries.put` replaces the value of a key that is
already there, in place, and appends a key that is not. An `OrderedMap α` is such a list without a
repeated key. Component schemas, properties and paths are ordered maps, so a document lists them in
the order in which they were declared.

Main statements: `Entries.keys_put_of_mem` and `Entries.keys_put_of_not_mem` say what a `put` does
to the keys, `Entries.lookup_put_self` and `Entries.lookup_put_of_ne` what it does to the values.
-/

namespace BaseApi

/-- Key/value pairs in the order in which they were written. -/
abbrev Entries (α : Type) := List (String × α)

namespace Entries

variable {α : Type}

def keys (entries : Entries α) : List String := entries.map Prod.fst

/-- Gives `key` the value `value`: in its first place if it is there, at the end if it is not. -/
def put (key : String) (value : α) : Entries α → Entries α
  | [] => [(key, value)]
  | entry :: rest => if entry.1 = key then (key, value) :: rest else entry :: put key value rest

/-- Drops every pair with the key `key`; the others keep their order. -/
def remove (key : String) (entries : Entries α) : Entries α :=
  entries.filter fun entry => entry.1 != key

/-- Puts the pairs of a list one after the other, so a key keeps its first place and its last
value. -/
def merge (entries : Entries α) : Entries α :=
  entries.foldl (fun merged entry => put entry.1 entry.2 merged) []

/-! ## Keys -/

@[simp] theorem keys_nil : keys ([] : Entries α) = [] := rfl

@[simp] theorem keys_cons (entry : String × α) (rest : Entries α) :
    keys (entry :: rest) = entry.1 :: keys rest := rfl

@[simp] theorem keys_append (first second : Entries α) :
    keys (first ++ second) = keys first ++ keys second := by
  simp [keys]

theorem put_of_not_mem {key : String} {entries : Entries α} (absent : key ∉ keys entries)
    (value : α) : put key value entries = entries ++ [(key, value)] := by
  induction entries with
  | nil => rfl
  | cons entry rest ih =>
      simp only [keys_cons, List.mem_cons, not_or] at absent
      simp [put, Ne.symm absent.1, ih absent.2]

theorem keys_put_of_not_mem {key : String} {entries : Entries α} (absent : key ∉ keys entries)
    (value : α) : keys (put key value entries) = keys entries ++ [key] := by
  simp [put_of_not_mem absent]

theorem keys_put_of_mem {key : String} {entries : Entries α} (present : key ∈ keys entries)
    (value : α) : keys (put key value entries) = keys entries := by
  induction entries with
  | nil => simp at present
  | cons entry rest ih =>
      by_cases same : entry.1 = key
      · simp [put, same]
      · simp only [keys_cons, List.mem_cons] at present
        have inRest := present.resolve_left (Ne.symm same)
        simp [put, same, ih inRest]

theorem nodup_keys_put {entries : Entries α} (nodup : (keys entries).Nodup) (key : String)
    (value : α) : (keys (put key value entries)).Nodup := by
  by_cases present : key ∈ keys entries
  · rwa [keys_put_of_mem present]
  · rw [keys_put_of_not_mem present, List.nodup_append]
    refine ⟨nodup, by simp, ?_⟩
    intro k hk k' hk' same
    simp only [List.mem_singleton] at hk'
    exact present (hk' ▸ same ▸ hk)

theorem nodup_keys_remove {entries : Entries α} (nodup : (keys entries).Nodup) (key : String) :
    (keys (remove key entries)).Nodup :=
  nodup.sublist ((List.filter_sublist (l := entries)).map Prod.fst)

theorem nodup_keys_merge (entries : Entries α) : (keys (merge entries)).Nodup := by
  suffices grow : ∀ merged : Entries α, (keys merged).Nodup →
      (keys (entries.foldl (fun m entry => put entry.1 entry.2 m) merged)).Nodup from
    grow [] List.nodup_nil
  induction entries with
  | nil => exact fun _ nodup => nodup
  | cons entry rest ih => exact fun _ nodup => ih _ (nodup_keys_put nodup _ _)

/-! ## Values -/

theorem lookup_put_self (key : String) (value : α) (entries : Entries α) :
    (put key value entries).lookup key = some value := by
  induction entries with
  | nil => simp [put]
  | cons entry rest ih =>
      obtain ⟨name, old⟩ := entry
      by_cases same : name = key
      · simp [put, same]
      · have differs : (key == name) = false := by simpa using Ne.symm same
        simp [put, same, List.lookup_cons, differs, ih]

theorem lookup_put_of_ne {key other : String} (ne : other ≠ key) (value : α)
    (entries : Entries α) : (put key value entries).lookup other = entries.lookup other := by
  induction entries with
  | nil =>
      have differs : (other == key) = false := by simpa using ne
      simp [put, List.lookup_cons, differs]
  | cons entry rest ih =>
      obtain ⟨name, old⟩ := entry
      by_cases same : name = key
      · have differs : (other == key) = false := by simpa using ne
        simp [put, same, List.lookup_cons, differs]
      · simp [put, same, List.lookup_cons, ih]

end Entries

/-- A map from texts to `α` that remembers the order in which its keys came. -/
structure OrderedMap (α : Type) where
  entries : Entries α := []
  nodup_keys : (Entries.keys entries).Nodup := by exact List.nodup_nil

namespace OrderedMap

variable {α : Type}

def empty : OrderedMap α := {}

instance : Inhabited (OrderedMap α) := ⟨empty⟩

instance [DecidableEq α] : DecidableEq (OrderedMap α) := fun left right =>
  if same : left.entries = right.entries then
    isTrue (by cases left; cases right; cases same; rfl)
  else isFalse (fun equal => same (equal ▸ rfl))

def keys (map : OrderedMap α) : List String := Entries.keys map.entries

def size (map : OrderedMap α) : Nat := map.entries.length

def get? (map : OrderedMap α) (key : String) : Option α := map.entries.lookup key

def contains (map : OrderedMap α) (key : String) : Bool := map.keys.contains key

/-- Gives `key` the value `value`; a key that is already there keeps its place. -/
def insert (map : OrderedMap α) (key : String) (value : α) : OrderedMap α :=
  ⟨Entries.put key value map.entries, Entries.nodup_keys_put map.nodup_keys key value⟩

/-- The map without `key`; the other keys keep their order. -/
def erase (map : OrderedMap α) (key : String) : OrderedMap α :=
  ⟨Entries.remove key map.entries, Entries.nodup_keys_remove map.nodup_keys key⟩

/-- The map with the pairs of a list, put one after the other. -/
def ofList (entries : Entries α) : OrderedMap α :=
  ⟨Entries.merge entries, Entries.nodup_keys_merge entries⟩

@[ext] theorem ext {left right : OrderedMap α} (same : left.entries = right.entries) :
    left = right := by
  cases left; cases right; cases same; rfl

theorem length_keys (map : OrderedMap α) : map.keys.length = map.size := by
  simp [keys, size, Entries.keys]

theorem get?_insert_self (map : OrderedMap α) (key : String) (value : α) :
    (map.insert key value).get? key = some value :=
  Entries.lookup_put_self key value map.entries

theorem get?_insert_of_ne (map : OrderedMap α) {key other : String} (ne : other ≠ key)
    (value : α) : (map.insert key value).get? other = map.get? other :=
  Entries.lookup_put_of_ne ne value map.entries

theorem entries_insert_of_not_mem (map : OrderedMap α) {key : String} (absent : key ∉ map.keys)
    (value : α) : (map.insert key value).entries = map.entries ++ [(key, value)] :=
  Entries.put_of_not_mem absent value

end OrderedMap

end BaseApi

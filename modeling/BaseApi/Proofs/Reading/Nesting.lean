import BaseApi.Proofs.Reading.Printed

/-!
# How deep values go

`Json.nesting` says how many containers of a value lie inside one another. A text that spells a
value is parsed exactly if the value does not go deeper than the parser, and what is read is the
value merged (`parse_eq_ok_iff`). So a value without numbers and repeated keys that is not too deep
is read back from every text that it is written as (`IsPlain.parse_write`).
-/

namespace BaseApi.Json

open Fallible

/-! ## Nesting -/

mutual

/-- How many containers lie inside one another. -/
def nesting : Json → Nat
  | arr items => nestingOfItems items + 1
  | obj members => nestingOfMembers members + 1
  | _ => 0

def nestingOfItems : List Json → Nat
  | [] => 0
  | item :: items => max (nesting item) (nestingOfItems items)

def nestingOfMembers : List (String × Json) → Nat
  | [] => 0
  | (_, item) :: members => max (nesting item) (nestingOfMembers members)

end

theorem nesting_arr_le_iff {items : List Json} {depth : Nat} :
    (arr items).nesting ≤ depth + 1 ↔ ∀ item ∈ items, item.nesting ≤ depth := by
  rw [nesting, Nat.add_le_add_iff_right]
  induction items with
  | nil => simp [nestingOfItems]
  | cons item items ih => rw [nestingOfItems, Nat.max_le, ih, List.forall_mem_cons]

theorem nesting_obj_le_iff {members : List (String × Json)} {depth : Nat} :
    (obj members).nesting ≤ depth + 1 ↔ ∀ member ∈ members, member.2.nesting ≤ depth := by
  rw [nesting, Nat.add_le_add_iff_right]
  induction members with
  | nil => simp [nestingOfMembers]
  | cons member members ih => rw [nestingOfMembers, Nat.max_le, ih, List.forall_mem_cons]

theorem ReadsScalar.nesting_eq {cs rest : List Char} {tree : Json}
    (token : ReadsScalar cs tree rest) : tree.nesting = 0 := by
  cases token <;> rw [nesting] <;> simp

/-! ## Reading to a depth -/

/-- Steps that each put an item to a state, if they accept it. -/
theorem folds_accepted_iff {σ ι : Type} {next : σ → ι → σ} {accepts : ι → Prop} {items : List ι}
    {state last : σ} :
    Folds (fun state item result => accepts item ∧ next state item = result) state items last ↔
      (∀ item ∈ items, accepts item) ∧ items.foldl next state = last := by
  induction items generalizing state with
  | nil => simp [Folds]
  | cons item items ih =>
      rw [Folds, List.foldl_cons, List.forall_mem_cons]
      constructor
      · rintro ⟨_, ⟨accepted, rfl⟩, others⟩
        obtain ⟨allAccepted, folded⟩ := ih.mp others
        exact ⟨⟨accepted, allAccepted⟩, folded⟩
      · rintro ⟨⟨accepted, allAccepted⟩, folded⟩
        exact ⟨_, ⟨accepted, rfl⟩, ih.mpr ⟨allAccepted, folded⟩⟩

section Containers

variable {limit depth : Nat}
  (reads : ∀ {start after : List Char} {item : Json}, Reads start item after →
    start.length ≤ limit → ∀ (result : Json) (rest : List Char),
      value limit depth start = .ok (result, rest) ↔
        rest = after ∧ item.nesting ≤ depth ∧ item.merged = result)

include reads

theorem foldArray_value_eq_ok_iff {cs after : List Char} {items : List Json}
    (elements : ReadsElements true cs items after) (short : cs.length ≤ limit)
    (read : List Json) (rest : List Char) :
    foldArray (fun (read : List Json) rest => do
        let (item, rest) ← value limit depth rest
        pure (item :: read, rest)) limit true [] cs = .ok (read, rest) ↔
      rest = after ∧ (∀ item ∈ items, item.nesting ≤ depth) ∧
        (items.map merged).reverse = read := by
  have element : ∀ {start after : List Char} {item : Json}, Reads start item after →
      start.length ≤ limit → ∀ (read next : List Json) (rest : List Char),
        (do
          let (item, rest) ← value limit depth start
          pure (item :: read, rest)) = Except.ok (next, rest) ↔
        rest = after ∧ ∃ result, (item.nesting ≤ depth ∧ item.merged = result) ∧
          next = result :: read := by
    intro start after item head bound read next rest
    rw [bind_eq_ok_iff, Prod.exists]
    constructor
    · rintro ⟨result, _, taken, same⟩
      cases same
      obtain ⟨rfl, accepted⟩ := (reads head bound _ _).mp taken
      exact ⟨rfl, result, accepted, rfl⟩
    · rintro ⟨rfl, result, accepted, rfl⟩
      exact ⟨result, rest, (reads head bound _ _).mpr ⟨rfl, accepted⟩, rfl⟩
  rw [foldArray_eq_ok_iff element elements short short, folds_cons_iff]
  simp only [List.forall₂_and_left, List.append_nil]
  have results : ∀ read, List.Forall₂ (fun item result => merged item = result) items read ↔
      items.map merged = read := by
    intro read
    rw [← List.forall₂_map_left_iff (R := Eq), List.forall₂_eq_eq_eq]
  simp only [results]
  constructor
  · rintro ⟨same, _, ⟨accepted, rfl⟩, rfl⟩
    exact ⟨same, accepted, rfl⟩
  · rintro ⟨same, accepted, rfl⟩
    exact ⟨same, _, ⟨accepted, rfl⟩, rfl⟩

theorem foldObject_value_eq_ok_iff {cs after : List Char} {members : List (String × Json)}
    (entries : ReadsMembers true cs members after) (short : cs.length ≤ limit)
    (read : Entries Json) (rest : List Char) :
    foldObject (fun key (read : Entries Json) rest => do
        let (item, rest) ← value limit depth (← colon rest)
        pure (Entries.put key item read, rest)) limit true [] cs = .ok (read, rest) ↔
      rest = after ∧ (∀ member ∈ members, member.2.nesting ≤ depth) ∧
        Entries.merge (members.map fun member => (member.1, member.2.merged)) = read := by
  have member : ∀ {named valued after : List Char} {item : Json}, colon named = .ok valued →
      Reads valued item after → valued.length ≤ limit →
      ∀ (key : String) (read next : Entries Json) (rest : List Char),
        (do
          let (item, rest) ← value limit depth (← colon named)
          pure (Entries.put key item read, rest)) = Except.ok (next, rest) ↔
        rest = after ∧ item.nesting ≤ depth ∧ Entries.put key item.merged read = next := by
    intro named valued after item separator head bound key read next rest
    rw [separator, bind_eq_ok_iff]
    simp only [bind_eq_ok_iff, Prod.exists]
    constructor
    · rintro ⟨_, ⟨⟩, result, _, taken, same⟩
      cases same
      obtain ⟨rfl, accepted, rfl⟩ := (reads head bound _ _).mp taken
      exact ⟨rfl, accepted, rfl⟩
    · rintro ⟨rfl, accepted, rfl⟩
      exact ⟨valued, rfl, _, rest, (reads head bound _ _).mpr ⟨rfl, accepted, rfl⟩, rfl⟩
  have folded : Folds (fun (read : Entries Json) (member : String × Json) next =>
      member.2.nesting ≤ depth ∧ Entries.put member.1 member.2.merged read = next)
      [] members read ↔
      (∀ member ∈ members, member.2.nesting ≤ depth) ∧
        members.foldl (fun read member => Entries.put member.1 member.2.merged read) [] = read :=
    folds_accepted_iff
  rw [Entries.merge, List.foldl_map, ← folded]
  exact foldObject_eq_ok_iff member entries short short [] read rest

end Containers

theorem value_of_token {limit depth : Nat} {cs after : List Char} {tree : Json}
    (token : ReadsScalar (skipBlanks cs) tree after) :
    value limit depth cs = scalar (skipBlanks cs) := by
  unfold value
  split
  · next opens => exact absurd token (ReadsScalar.not_opens (.inl rfl) opens)
  · next opens => exact absurd token (ReadsScalar.not_opens (.inl rfl) opens)
  · next opens => exact absurd token (ReadsScalar.not_opens (.inr rfl) opens)
  · next opens => exact absurd token (ReadsScalar.not_opens (.inr rfl) opens)
  · rfl

theorem value_token_eq_ok_iff {limit depth : Nat} {cs after : List Char} {tree : Json}
    (token : ReadsScalar (skipBlanks cs) tree after) (result : Json) (rest : List Char) :
    value limit depth cs = .ok (result, rest) ↔
      rest = after ∧ tree.nesting ≤ depth ∧ tree.merged = result := by
  rw [value_of_token token, scalar_eq_ok_iff.mpr token, token.nesting_eq, token.merged]
  simp [eq_comm, and_comm]

/-- A value at the start of a text is read exactly if it is not too deep. -/
theorem value_eq_ok_iff {limit depth : Nat} {cs after : List Char} {tree : Json}
    (reads : Reads cs tree after) (short : cs.length ≤ limit) (result : Json)
    (rest : List Char) :
    value limit depth cs = .ok (result, rest) ↔
      rest = after ∧ tree.nesting ≤ depth ∧ tree.merged = result := by
  induction depth generalizing cs after tree result rest with
  | zero =>
      cases reads with
      | scalar token => exact value_token_eq_ok_iff token result rest
      | array opens elements => simp [value, opens, refuse, nesting]
      | object opens entries => simp [value, opens, refuse, nesting]
  | succ depth ih =>
      cases reads with
      | scalar token => exact value_token_eq_ok_iff token result rest
      | array opens elements =>
          have inner := (length_lt_of_skipBlanks opens).le.trans short
          have walk := foldArray_value_eq_ok_iff ih elements inner
          rw [nesting_arr_le_iff, merged_arr, value.eq_2 limit cs _ depth opens]
          simp only [bind_eq_ok_iff, Prod.exists, walk]
          constructor
          · rintro ⟨_, _, ⟨rfl, accepted, rfl⟩, same⟩
            cases same
            exact ⟨rfl, accepted, by rw [List.reverse_reverse]⟩
          · rintro ⟨rfl, accepted, rfl⟩
            exact ⟨_, rest, ⟨rfl, accepted, rfl⟩, by rw [List.reverse_reverse]; rfl⟩
      | object opens entries =>
          have inner := (length_lt_of_skipBlanks opens).le.trans short
          have walk := foldObject_value_eq_ok_iff ih entries inner
          rw [nesting_obj_le_iff, merged_obj, value.eq_4 limit cs _ depth opens]
          simp only [bind_eq_ok_iff, Prod.exists, walk]
          constructor
          · rintro ⟨_, _, ⟨rfl, accepted, rfl⟩, same⟩
            cases same
            exact ⟨rfl, accepted, rfl⟩
          · rintro ⟨rfl, accepted, rfl⟩
            exact ⟨_, rest, ⟨rfl, accepted, rfl⟩, rfl⟩

/-! ## Whole texts -/

/-- A text that spells a value is parsed exactly if the value is not too deep, and what is read is
the value merged. -/
theorem parse_eq_ok_iff {text : String} {tree : Json} (spelled : Spells text tree)
    (result : Json) :
    parse text = .ok result ↔ tree.nesting ≤ maxDepth ∧ tree.merged = result := by
  obtain ⟨after, reads, blank⟩ := spelled
  have bound : text.toList.length ≤ text.toList.length + 1 := Nat.le_succ _
  have read := @value_eq_ok_iff _ maxDepth _ _ _ reads bound
  rw [parse]
  simp only [bind_eq_ok_iff, Prod.exists, finish_eq_ok_iff, read]
  constructor
  · rintro ⟨_, _, ⟨rfl, accepted, rfl⟩, rfl, -⟩
    exact ⟨accepted, rfl⟩
  · rintro ⟨accepted, rfl⟩
    exact ⟨_, after, ⟨rfl, accepted, rfl⟩, rfl, blank⟩

/-! ## Plain values -/

/-- There is no number, no repeated key, and there are at most `depth` containers inside one
another. -/
structure IsPlain (depth : Nat) (tree : Json) : Prop where
  isRecordTree : tree.IsRecordTree
  nesting_le : tree.nesting ≤ depth

namespace IsPlain

variable {depth more : Nat} {tree : Json}

theorem mono (plain : tree.IsPlain depth) (le : depth ≤ more) : tree.IsPlain more :=
  ⟨plain.isRecordTree, plain.nesting_le.trans le⟩

theorem bool (value : Bool) : (Json.bool value).IsPlain depth := ⟨.bool value, by simp [nesting]⟩

theorem str (text : String) : (Json.str text).IsPlain depth := ⟨.str text, by simp [nesting]⟩

theorem arr {items : List Json} (each : ∀ item ∈ items, item.IsPlain depth) :
    (Json.arr items).IsPlain (depth + 1) where
  isRecordTree := .arr fun item member => (each item member).isRecordTree
  nesting_le := nesting_arr_le_iff.mpr fun item member => (each item member).nesting_le

theorem obj {members : List (String × Json)} (once : (Entries.keys members).Nodup)
    (each : ∀ member ∈ members, member.2.IsPlain depth) : (Json.obj members).IsPlain (depth + 1)
    where
  isRecordTree := .obj once fun member among => (each member among).isRecordTree
  nesting_le := nesting_obj_le_iff.mpr fun member among => (each member among).nesting_le

/-- A plain value that is not too deep reads back from what is written, in either layout. -/
theorem parse_write (plain : tree.IsPlain maxDepth) {layout : Layout} (blank : layout.IsBlank) :
    parse (write layout tree) = .ok tree :=
  (parse_eq_ok_iff (plain.isRecordTree.spells_write blank) tree).mpr
    ⟨plain.nesting_le, plain.isRecordTree.merged⟩

end IsPlain

end BaseApi.Json

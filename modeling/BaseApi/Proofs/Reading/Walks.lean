import BaseApi.Proofs.Reading.Grammar

/-!
# Walks through containers

A walk hands the elements or members of a container to a reader, one after the other, and the
reader takes each into a state. When each reading is known by a relation between the states before
and after, the whole walk is known by the chain of these relations (`Json.Folds`): from a walk that
succeeds to the entries it has read, and from the entries to the exact success of the walk.
-/

namespace BaseApi.Json

open Fallible

variable {σ ι : Type}

/-! ## Chains of steps -/

/-- The items lead from one state to another, a step for each. -/
def Folds (step : σ → ι → σ → Prop) : σ → List ι → σ → Prop
  | state, [], last => state = last
  | state, item :: items, last => ∃ next, step state item next ∧ Folds step next items last

theorem folds_function_iff {next : σ → ι → σ} {items : List ι} {state last : σ} :
    Folds (fun state item result => next state item = result) state items last ↔
      items.foldl next state = last := by
  induction items generalizing state with
  | nil => rfl
  | cons item items ih =>
      rw [Folds, List.foldl_cons]
      constructor
      · rintro ⟨_, rfl, others⟩
        exact ih.mp others
      · intro folded
        exact ⟨_, rfl, ih.mpr folded⟩

/-- Steps that each put a result in front of those before make the list of the results, the last
one first. -/
theorem folds_cons_iff {ρ : Type} {takes : ι → ρ → Prop} {items : List ι} {read last : List ρ} :
    Folds (fun read item next => ∃ result, takes item result ∧ next = result :: read)
        read items last ↔
      ∃ results, List.Forall₂ takes items results ∧ last = results.reverse ++ read := by
  induction items generalizing read with
  | nil => simp [Folds, eq_comm]
  | cons item items ih =>
      rw [Folds]
      constructor
      · rintro ⟨_, ⟨result, taken, rfl⟩, others⟩
        obtain ⟨results, related, rfl⟩ := ih.mp others
        exact ⟨result :: results, .cons taken related, by simp⟩
      · rintro ⟨_, related, rfl⟩
        obtain ⟨result, results, taken, others, rfl⟩ := List.forall₂_cons_left_iff.mp related
        exact ⟨_, ⟨result, taken, rfl⟩, ih.mpr ⟨results, others, by simp⟩⟩

/-! ## One step of a walk -/

theorem foldArray_of_closed {element : σ → Scan σ} {limit : Nat} {first : Bool} {state : σ}
    {cs rest : List Char} (next : nextElement first cs = .ok (.closed rest)) :
    foldArray element (limit + 1) first state cs = .ok (state, rest) := by
  rw [foldArray, next]
  rfl

theorem foldArray_of_entry {element : σ → Scan σ} {limit : Nat} {first : Bool} {state : σ}
    {cs start : List Char} (next : nextElement first cs = .ok (.entry start)) :
    foldArray element (limit + 1) first state cs =
      element state start >>= fun read => foldArray element limit false read.1 read.2 := by
  rw [foldArray, next]
  rfl

theorem foldObject_of_closed {member : String → σ → Scan σ} {limit : Nat} {first : Bool} {state : σ}
    {cs rest : List Char} (next : nextMember first cs = .ok (.closed rest)) :
    foldObject member (limit + 1) first state cs = .ok (state, rest) := by
  rw [foldObject, next]
  rfl

theorem foldObject_of_entry {member : String → σ → Scan σ} {limit : Nat} {first : Bool} {state : σ}
    {cs start named : List Char} {key : String} (next : nextMember first cs = .ok (.entry start))
    (name : stringBody [] start = .ok (key, named)) :
    foldObject member (limit + 1) first state cs =
      member key state named >>= fun read => foldObject member limit false read.1 read.2 := by
  rw [foldObject, next]
  simp only [bind, Except.bind, name]

/-! ## From a walk to the entries -/

theorem exists_readsElements_of_foldArray {element : σ → Scan σ} (step : σ → Json → σ → Prop)
    (sound : ∀ (state next : σ) (cs rest : List Char), element state cs = .ok (next, rest) →
      ∃ item, Reads cs item rest ∧ step state item next)
    {limit : Nat} {first : Bool} {state last : σ} {cs rest : List Char}
    (walked : foldArray element limit first state cs = .ok (last, rest)) :
    ∃ items, ReadsElements first cs items rest ∧ Folds step state items last := by
  induction limit generalizing first state cs with
  | zero => cases walked
  | succ limit ih =>
      obtain ⟨walk, next, walked⟩ := bind_eq_ok_iff.mp walked
      cases walk with
      | closed after =>
          cases walked
          exact ⟨[], .closed next, rfl⟩
      | entry start =>
          obtain ⟨⟨state', after⟩, read, walked⟩ := bind_eq_ok_iff.mp walked
          obtain ⟨item, head, taken⟩ := sound _ _ _ _ read
          obtain ⟨items, tail, others⟩ := ih walked
          exact ⟨item :: items, .entry next head tail, state', taken, others⟩

theorem exists_readsMembers_of_foldObject {member : String → σ → Scan σ}
    (step : σ → String × Json → σ → Prop)
    (sound : ∀ (key : String) (state next : σ) (cs rest : List Char),
      member key state cs = .ok (next, rest) →
      ∃ valued item, colon cs = .ok valued ∧ Reads valued item rest ∧ step state (key, item) next)
    {limit : Nat} {first : Bool} {state last : σ} {cs rest : List Char}
    (walked : foldObject member limit first state cs = .ok (last, rest)) :
    ∃ members, ReadsMembers first cs members rest ∧ Folds step state members last := by
  induction limit generalizing first state cs with
  | zero => cases walked
  | succ limit ih =>
      obtain ⟨walk, next, walked⟩ := bind_eq_ok_iff.mp walked
      cases walk with
      | closed after =>
          cases walked
          exact ⟨[], .closed next, rfl⟩
      | entry start =>
          obtain ⟨⟨key, named⟩, name, walked⟩ := bind_eq_ok_iff.mp walked
          obtain ⟨⟨state', after⟩, read, walked⟩ := bind_eq_ok_iff.mp walked
          obtain ⟨valued, item, separator, head, taken⟩ := sound _ _ _ _ _ read
          obtain ⟨members, tail, others⟩ := ih walked
          exact ⟨(key, item) :: members, .entry next name separator head tail,
            state', taken, others⟩

/-! ## From the entries to a walk -/

/-- An entry that is read takes one step, and the walk goes on from there. -/
theorem bind_eq_ok_iff_folds {step : σ → ι → σ → Prop} {first : Except ReadError (σ × List Char)}
    {walk : σ → Scan σ} {state : σ} {item : ι} {items : List ι} {middle after : List Char}
    (read : ∀ (next : σ) (rest : List Char),
      first = .ok (next, rest) ↔ rest = middle ∧ step state item next)
    {last : σ} {rest : List Char}
    (others : ∀ next, walk next middle = .ok (last, rest) ↔
      rest = after ∧ Folds step next items last) :
    (first >>= fun read => walk read.1 read.2) = .ok (last, rest) ↔
      rest = after ∧ Folds step state (item :: items) last := by
  rw [bind_eq_ok_iff, Prod.exists]
  constructor
  · rintro ⟨next, _, taken, walked⟩
    obtain ⟨rfl, taken⟩ := (read next _).mp taken
    obtain ⟨rfl, folded⟩ := (others next).mp walked
    exact ⟨rfl, next, taken, folded⟩
  · rintro ⟨rfl, next, taken, folded⟩
    exact ⟨next, middle, (read next middle).mpr ⟨rfl, taken⟩, (others next).mpr ⟨rfl, folded⟩⟩

/-- A walk over an array succeeds exactly along a chain of steps. The limit of the walk falls at
each element, while the one of the reader, `bound`, stays. -/
theorem foldArray_eq_ok_iff {element : σ → Scan σ} {step : σ → Json → σ → Prop} {bound : Nat}
    (reads : ∀ {start after : List Char} {item : Json}, Reads start item after →
      start.length ≤ bound → ∀ (state next : σ) (rest : List Char),
        element state start = .ok (next, rest) ↔ rest = after ∧ step state item next)
    {limit : Nat} {first : Bool} {cs after : List Char} {items : List Json}
    (elements : ReadsElements first cs items after) (short : cs.length ≤ bound)
    (enough : cs.length ≤ limit) (state last : σ) (rest : List Char) :
    foldArray element limit first state cs = .ok (last, rest) ↔
      rest = after ∧ Folds step state items last := by
  induction items generalizing limit first cs state with
  | nil =>
      obtain ⟨limit, rfl⟩ := Nat.exists_eq_add_one.mpr (elements.length_lt.pos.trans_le enough)
      cases elements with
      | closed next =>
          rw [foldArray_of_closed next, Except.ok.injEq, Prod.mk.injEq, and_comm,
            eq_comm (a := after)]
          rfl
  | cons item items ih =>
      obtain ⟨limit, rfl⟩ := Nat.exists_eq_add_one.mpr (elements.length_lt.pos.trans_le enough)
      cases elements with
      | @entry _ _ start middle _ _ _ next head tail =>
          have started : start.length ≤ cs.length := length_le_of_nextElement next
          have progress : middle.length < start.length := head.length_lt
          have read := reads head (started.trans short) state
          have others := ih tail (by omega) (show middle.length ≤ limit by omega)
          rw [foldArray_of_entry next]
          exact bind_eq_ok_iff_folds read others

/-- A walk over an object succeeds exactly along a chain of steps. -/
theorem foldObject_eq_ok_iff {member : String → σ → Scan σ} {step : σ → String × Json → σ → Prop}
    {bound : Nat}
    (reads : ∀ {named valued after : List Char} {item : Json}, colon named = .ok valued →
      Reads valued item after → valued.length ≤ bound →
      ∀ (key : String) (state next : σ) (rest : List Char),
        member key state named = .ok (next, rest) ↔ rest = after ∧ step state (key, item) next)
    {limit : Nat} {first : Bool} {cs after : List Char} {members : List (String × Json)}
    (entries : ReadsMembers first cs members after) (short : cs.length ≤ bound)
    (enough : cs.length ≤ limit) (state last : σ) (rest : List Char) :
    foldObject member limit first state cs = .ok (last, rest) ↔
      rest = after ∧ Folds step state members last := by
  induction members generalizing limit first cs state with
  | nil =>
      obtain ⟨limit, rfl⟩ := Nat.exists_eq_add_one.mpr (entries.length_lt.pos.trans_le enough)
      cases entries with
      | closed next =>
          rw [foldObject_of_closed next, Except.ok.injEq, Prod.mk.injEq, and_comm,
            eq_comm (a := after)]
          rfl
  | cons entry members ih =>
      obtain ⟨limit, rfl⟩ := Nat.exists_eq_add_one.mpr (entries.length_lt.pos.trans_le enough)
      cases entries with
      | @entry _ _ _ _ valued middle _ key item _ next name separator head tail =>
          have started : valued.length < cs.length := length_lt_of_member next name separator
          have progress : middle.length < valued.length := head.length_lt
          have read := reads separator head (started.le.trans short) key state
          have others := ih tail (by omega) (show middle.length ≤ limit by omega)
          rw [foldObject_of_entry next name]
          exact bind_eq_ok_iff_folds read others

end BaseApi.Json

import Mathlib

/-!
# Computations that may fail

A computation made of others succeeds exactly if all of its parts do, one after the other. Proofs
about readers and resolutions take successes apart with these equivalences.
-/

namespace BaseApi.Fallible

variable {ε α β : Type}

theorem bind_eq_ok_iff {first : Except ε α} {next : α → Except ε β} {result : β} :
    (first >>= next) = .ok result ↔ ∃ value, first = .ok value ∧ next value = .ok result := by
  cases first with
  | error fault => simp [bind, Except.bind]
  | ok value => simp [bind, Except.bind]

theorem map_eq_ok_iff {f : α → β} {first : Except ε α} {result : β} :
    first.map f = .ok result ↔ ∃ value, first = .ok value ∧ f value = result := by
  cases first with
  | error fault => simp [Except.map]
  | ok value => simp [Except.map]

theorem pure_eq_ok_iff {value result : α} :
    (pure value : Except ε α) = .ok result ↔ value = result := by
  simp [pure, Except.pure]

theorem bind_eq_error_iff {first : Except ε α} {next : α → Except ε β} {fault : ε} :
    (first >>= next) = .error fault ↔
      first = .error fault ∨ ∃ value, first = .ok value ∧ next value = .error fault := by
  cases first with
  | error fault => simp [bind, Except.bind]
  | ok value => simp [bind, Except.bind]

theorem map_eq_error_iff {f : α → β} {first : Except ε α} {fault : ε} :
    first.map f = .error fault ↔ first = .error fault := by
  cases first with
  | error fault => simp [Except.map]
  | ok value => simp [Except.map]

/-- A list is worked through exactly if each element is. -/
theorem mapM_eq_ok_iff {f : α → Except ε β} {items : List α} {results : List β} :
    items.mapM f = .ok results ↔
      List.Forall₂ (fun item result => f item = .ok result) items results := by
  induction items generalizing results with
  | nil =>
      rw [List.mapM_nil, pure_eq_ok_iff, List.forall₂_nil_left_iff]
      exact eq_comm
  | cons item items ih =>
      simp only [List.mapM_cons, bind_eq_ok_iff, pure_eq_ok_iff, ih, List.forall₂_cons_left_iff]
      constructor
      · rintro ⟨result, first, rest, others, rfl⟩
        exact ⟨result, rest, first, others, rfl⟩
      · rintro ⟨result, rest, first, others, rfl⟩
        exact ⟨result, first, rest, others, rfl⟩

theorem exists_mapM_eq_ok_iff {f : α → Except ε β} {items : List α} :
    (∃ results, items.mapM f = .ok results) ↔ ∀ item ∈ items, ∃ result, f item = .ok result := by
  induction items with
  | nil => simp [pure, Except.pure]
  | cons item items ih =>
      simp only [List.mapM_cons, bind_eq_ok_iff, pure_eq_ok_iff, List.forall_mem_cons, ← ih]
      constructor
      · rintro ⟨_, result, first, results, others, -⟩
        exact ⟨⟨result, first⟩, results, others⟩
      · rintro ⟨⟨result, first⟩, results, others⟩
        exact ⟨_, result, first, results, others, rfl⟩

/-- An element of a list does not pass, and all before it do. -/
def IsFirstWithout (passes : α → Prop) (items : List α) (item : α) : Prop :=
  ∃ before after, items = before ++ item :: after ∧ (∀ other ∈ before, passes other) ∧ ¬ passes item

theorem isFirstWithout_cons_iff {passes : α → Prop} {head item : α} {items : List α} :
    IsFirstWithout passes (head :: items) item ↔
      ¬ passes head ∧ item = head ∨ passes head ∧ IsFirstWithout passes items item := by
  constructor
  · rintro ⟨_ | ⟨other, before⟩, after, same, passed, fails⟩
    · cases same
      exact .inl ⟨fails, rfl⟩
    · cases same
      rw [List.forall_mem_cons] at passed
      exact .inr ⟨passed.1, before, after, rfl, passed.2, fails⟩
  · rintro (⟨fails, rfl⟩ | ⟨passed, before, after, rfl, others, fails⟩)
    · exact ⟨[], items, rfl, by simp, fails⟩
    · exact ⟨head :: before, after, rfl, List.forall_mem_cons.mpr ⟨passed, others⟩, fails⟩

/-- A list is worked through up to the first element that fails. -/
theorem mapM_eq_error_iff {f : α → Except ε β} {items : List α} {fault : ε} :
    items.mapM f = .error fault ↔
      ∃ item, IsFirstWithout (fun other => ∃ result, f other = .ok result) items item ∧
        f item = .error fault := by
  induction items with
  | nil => simp [IsFirstWithout, pure, Except.pure]
  | cons head items ih =>
      simp only [List.mapM_cons, bind_eq_error_iff, isFirstWithout_cons_iff, ih]
      cases result : f head with
      | error other => simp [result]
      | ok value => simp [pure, Except.pure]

/-- Each element of the second list is related to one of the first. -/
theorem exists_of_mem_right {relation : α → β → Prop} {items : List α} {results : List β}
    (related : List.Forall₂ relation items results) {result : β} (member : result ∈ results) :
    ∃ item ∈ items, relation item result := by
  induction related with
  | nil => exact absurd member List.not_mem_nil
  | cons first _ ih =>
      rcases List.mem_cons.mp member with rfl | inRest
      · exact ⟨_, List.mem_cons_self, first⟩
      · obtain ⟨item, among, found⟩ := ih inRest
        exact ⟨item, List.mem_cons_of_mem _ among, found⟩

end BaseApi.Fallible

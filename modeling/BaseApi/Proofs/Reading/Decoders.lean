import BaseApi.Json.Decoder
import BaseApi.Proofs.Reading.Skipping
import BaseApi.Proofs.Reading.Values

/-!
# Decoders of texts and of values

A decoder reads a text and the value of that text alike, except that the text may be refused for a
key that comes twice. `Decoder.Follows` says so: from a text that reads as a tree, the decoder gives
what it gives from the merged tree, provided that the tree satisfies a condition of its own. Each
way of making decoders keeps this.
-/

namespace BaseApi

/-- Each element of an array satisfies a condition; any other value does. -/
def Json.EachItem (holds : Json → Prop) : Json → Prop
  | arr items => ∀ item ∈ items, holds item
  | _ => True

namespace Decoder

open Fallible Json

variable {α β : Type}

/-- From a text the decoder gives what it gives from the value of the text, provided that the tree
of the text satisfies `once`. -/
def Follows (decoder : Decoder α) (once : Json → Prop) : Prop :=
  ∀ ⦃limit : Nat⦄ ⦃cs after : List Char⦄ ⦃tree : Json⦄, Reads cs tree after → cs.length ≤ limit →
    ∀ (result : α) (rest : List Char), decoder.ofText limit cs = .ok (result, rest) ↔
      rest = after ∧ decoder.ofJson tree.merged = .ok result ∧ once tree

theorem mismatchInText_ne_ok (expected : Expected) (cs : List Char) (result : α) :
    mismatchInText expected cs ≠ .ok result := by
  intro accepted
  obtain ⟨_, -, refused⟩ := bind_eq_ok_iff.mp accepted
  cases refused

/-! ## Texts and options -/

theorem text_ofText_iff {limit : Nat} {cs : List Char} {read : String × List Char} :
    text.ofText limit cs = .ok read ↔
      ∃ inner, skipBlanks cs = '"' :: inner ∧ stringBody [] inner = .ok read := by
  simp only [text]
  split
  · next inner opens => simp [opens]
  · next other =>
      constructor
      · intro accepted
        exact absurd accepted (mismatchInText_ne_ok _ _ _)
      · rintro ⟨inner, opens, -⟩
        exact absurd opens (other inner)

theorem follows_text : text.Follows fun _ => True := by
  intro limit cs after tree read short result rest
  rw [text_ofText_iff]
  constructor
  · rintro ⟨inner, opens, body⟩
    obtain ⟨value, rfl, body'⟩ := read.eq_str opens
    cases body.symm.trans body'
    exact ⟨rfl, rfl, trivial⟩
  · rintro ⟨rfl, accepted, -⟩
    cases tree with
    | str value =>
        cases accepted
        obtain ⟨inner, opens⟩ := read.opens_str
        obtain ⟨_, ⟨⟩, body⟩ := read.eq_str opens
        exact ⟨inner, opens, body⟩
    | null | bool | num | arr | obj => cases accepted

theorem Follows.map {decoder : Decoder α} {once : Json → Prop} (follows : decoder.Follows once)
    (f : α → β) : (decoder.map f).Follows once := by
  intro limit cs after tree read short result rest
  simp only [Decoder.map, map_eq_ok_iff, Prod.exists, Prod.mk.injEq, follows read short]
  constructor
  · rintro ⟨value, _, ⟨rfl, accepted, condition⟩, rfl, rfl⟩
    exact ⟨rfl, ⟨value, accepted, rfl⟩, condition⟩
  · rintro ⟨rfl, ⟨value, accepted, rfl⟩, condition⟩
    exact ⟨value, rest, ⟨rfl, accepted, condition⟩, rfl, rfl⟩

theorem Follows.optional {decoder : Decoder α} {once : Json → Prop} (follows : decoder.Follows once)
    (onNull : once null) : decoder.optional.Follows once := by
  intro limit cs after tree read short result rest
  by_cases isNull : tree = null
  · subst isNull
    obtain ⟨inner, opens⟩ := read.opens_null
    have letters := (read.eq_null opens).2
    have fromText : decoder.optional.ofText limit cs = .ok (none, after) := by
      simp only [Decoder.optional, opens, letters]
      rfl
    rw [fromText]
    constructor
    · rintro ⟨⟩
      exact ⟨rfl, rfl, onNull⟩
    · rintro ⟨rfl, ⟨⟩, -⟩
      rfl
  · have fromText : decoder.optional.ofText limit cs =
        (decoder.map some).ofText limit (skipBlanks cs) := by
      simp only [Decoder.optional]
      split
      · next opens => exact absurd (read.eq_null opens).1 isNull
      · rfl
    have fromJson : decoder.optional.ofJson tree.merged =
        (decoder.map some).ofJson tree.merged := by
      cases tree with
      | null => contradiction
      | bool | num | str | arr | obj => rfl
    rw [fromText, fromJson]
    exact follows.map some read.skipBlanks ((length_skipBlanks_le cs).trans short) result rest

/-! ## Lists -/

theorem list_ofText_iff {decoder : Decoder α} {limit : Nat} {cs rest : List Char}
    {results : List α} :
    decoder.list.ofText limit cs = .ok (results, rest) ↔
      ∃ inner, skipBlanks cs = '[' :: inner ∧ foldArray (fun (read : List α) rest => do
        let (item, rest) ← decoder.ofText limit rest
        pure (item :: read, rest)) limit true [] inner = .ok (results.reverse, rest) := by
  simp only [Decoder.list]
  split
  · next inner opens =>
      simp only [bind_eq_ok_iff, pure_eq_ok_iff, Prod.exists, Prod.mk.injEq, opens,
        List.cons.injEq, true_and, exists_eq_left']
      constructor
      · rintro ⟨read, _, walked, rfl, rfl⟩
        rwa [List.reverse_reverse]
      · intro walked
        exact ⟨_, _, walked, List.reverse_reverse _, rfl⟩
  · next other =>
      constructor
      · intro accepted
        exact absurd accepted (mismatchInText_ne_ok _ _ _)
      · rintro ⟨inner, opens, -⟩
        exact absurd opens (other inner)

theorem Follows.foldArray_eq_ok_iff {decoder : Decoder α} {once : Json → Prop}
    (follows : decoder.Follows once) {limit : Nat} {cs after : List Char} {items : List Json}
    (elements : ReadsElements true cs items after) (short : cs.length ≤ limit)
    (results : List α) (rest : List Char) :
    foldArray (fun (read : List α) rest => do
        let (item, rest) ← decoder.ofText limit rest
        pure (item :: read, rest)) limit true [] cs = .ok (results.reverse, rest) ↔
      rest = after ∧ (items.map merged).mapM decoder.ofJson = .ok results ∧
        ∀ item ∈ items, once item := by
  have element : ∀ {start after : List Char} {item : Json}, Reads start item after →
      start.length ≤ limit → ∀ (read next : List α) (rest : List Char),
        (do
          let (item, rest) ← decoder.ofText limit start
          pure (item :: read, rest)) = Except.ok (next, rest) ↔
        rest = after ∧ ∃ result,
          (once item ∧ decoder.ofJson item.merged = .ok result) ∧ next = result :: read := by
    intro start after item head started read next rest
    simp only [bind_eq_ok_iff, pure_eq_ok_iff, Prod.exists, Prod.mk.injEq, follows head started]
    constructor
    · rintro ⟨result, _, ⟨rfl, accepted, condition⟩, rfl, rfl⟩
      exact ⟨rfl, result, ⟨condition, accepted⟩, rfl⟩
    · rintro ⟨rfl, result, ⟨condition, accepted⟩, rfl⟩
      exact ⟨result, rest, ⟨rfl, accepted, condition⟩, rfl, rfl⟩
  rw [Json.foldArray_eq_ok_iff element elements short short, folds_cons_iff]
  simp only [List.append_nil, List.reverse_inj, exists_eq_right', List.forall₂_and_left,
    mapM_eq_ok_iff, List.forall₂_map_left_iff]
  rw [and_comm (a := ∀ item ∈ items, once item)]

theorem Follows.list {decoder : Decoder α} {once : Json → Prop} (follows : decoder.Follows once) :
    decoder.list.Follows (EachItem once) := by
  intro limit cs after tree read short results rest
  rw [list_ofText_iff]
  constructor
  · rintro ⟨inner, opens, walked⟩
    obtain ⟨items, rfl, elements⟩ := read.eq_arr opens
    have inside := (length_lt_of_skipBlanks opens).le.trans short
    rw [merged_arr]
    exact (follows.foldArray_eq_ok_iff elements inside results rest).mp walked
  · rintro ⟨rfl, accepted, conditions⟩
    cases tree with
    | arr items =>
        obtain ⟨inner, opens⟩ := read.opens_arr
        obtain ⟨_, ⟨⟩, elements⟩ := read.eq_arr opens
        have inside := (length_lt_of_skipBlanks opens).le.trans short
        rw [merged_arr] at accepted
        exact ⟨inner, opens, (follows.foldArray_eq_ok_iff elements inside results rest).mpr
          ⟨rfl, accepted, conditions⟩⟩
    | null | bool | num | str | obj => cases accepted

end Decoder

end BaseApi

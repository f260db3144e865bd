import Mathlib
import BaseApi.Document.Encode
import BaseApi.Json.Scan

/-!
# References into a JSON value

A reference is a `#` and a pointer with percent escapes; a pointer names a value by the keys and
indices on the way to it, each after a slash, with `~1` for a slash and `~0` for a tilde.
`Json.dereference?` follows one, and `Json.references` lists all that a value has under `$ref`.
A name without slashes, tildes and percent signs is its own pointer token (`Json.IsToken`).
-/

namespace BaseApi.Json

/-! ## Percent escapes -/

/-- The bytes that a text writes: an escape writes one, another character its own. -/
def percentBytes? : List Char → Option (List UInt8)
  | [] => some []
  | '%' :: high :: low :: rest => do
      let byte := (← hexValue? high) * 16 + (← hexValue? low)
      pure (UInt8.ofNat byte :: (← percentBytes? rest))
  | '%' :: _ => none
  | c :: rest => (percentBytes? rest).map (String.utf8EncodeChar c ++ ·)

/-- The text whose bytes a text with escapes writes. -/
def percentDecode? (text : String) : Option String := do
  String.fromUTF8? (← percentBytes? text.toList).toByteArray

theorem percentBytes?_of_not_mem {cs : List Char} (clean : '%' ∉ cs) :
    percentBytes? cs = some (cs.flatMap String.utf8EncodeChar) := by
  induction cs with
  | nil => rfl
  | cons c rest ih =>
      rw [List.mem_cons, not_or] at clean
      have step : percentBytes? (c :: rest) =
          (percentBytes? rest).map (String.utf8EncodeChar c ++ ·) := by
        rw [percentBytes?.eq_def]
        split
        · contradiction
        · next same => exact absurd (List.cons.inj same).1.symm clean.1
        · next same => exact absurd (List.cons.inj same).1.symm clean.1
        · next same => cases same; rfl
      rw [step, ih clean.2]
      rfl

/-- A text without percent signs writes itself. -/
theorem percentDecode?_of_not_mem {text : String} (clean : '%' ∉ text.toList) :
    percentDecode? text = some text := by
  have bytes : (text.toList.flatMap String.utf8EncodeChar).toByteArray = text.toByteArray :=
    congrArg String.toByteArray (String.ofList_toList (s := text))
  rw [percentDecode?, percentBytes?_of_not_mem clean, Option.bind_eq_bind, Option.bind_some, bytes,
    String.fromUTF8?, dif_pos text.isValidUTF8]
  rfl

/-! ## Pointers -/

/-- A token of a pointer as it is meant. -/
def unescapeToken : List Char → List Char
  | '~' :: '1' :: rest => '/' :: unescapeToken rest
  | '~' :: '0' :: rest => '~' :: unescapeToken rest
  | c :: rest => c :: unescapeToken rest
  | [] => []

/-- The tokens of a pointer, which is empty or starts with a slash. -/
def pointerTokens? (pointer : String) : Option (List String) :=
  match pointer.toList.splitOn '/' with
  | [] :: tokens => some (tokens.map fun token => String.ofList (unescapeToken token))
  | _ => none

/-- The value to which a token leads: that of a member, or the item at an index. -/
def step? (token : String) : Json → Option Json
  | obj members => members.lookup token
  | arr items => do
      let index ← (List.range items.length).find? fun index => toString index == token
      items[index]?
  | _ => none

/-- The value in a document to which a reference leads. -/
def dereference? (document : Json) (reference : String) : Option Json :=
  match reference.toList with
  | '#' :: fragment => do
      let pointer ← percentDecode? (String.ofList fragment)
      (← pointerTokens? pointer).foldlM (fun value token => value.step? token) document
  | _ => none

/-- The text is the token of a pointer that means the text itself, also behind percent escapes. -/
def IsToken (text : String) : Prop := ∀ c ∈ ['%', '/', '~'], c ∉ text.toList

theorem unescapeToken_of_not_mem {cs : List Char} (clean : '~' ∉ cs) : unescapeToken cs = cs := by
  induction cs with
  | nil => rfl
  | cons c rest ih =>
      rw [List.mem_cons, not_or] at clean
      rw [unescapeToken.eq_def]
      split
      · next same => exact absurd (List.cons.inj same).1.symm clean.1
      · next same => exact absurd (List.cons.inj same).1.symm clean.1
      · next same => cases same; rw [ih clean.2]
      · contradiction

/-- The characters of a pointer, token after token. -/
def pointerChars (tokens : List String) : List Char :=
  tokens.flatMap fun token => '/' :: token.toList

theorem intercalate_cons_eq_append (first : List Char) (parts : List (List Char)) :
    ['/'].intercalate (first :: parts) = first ++ parts.flatMap ('/' :: ·) := by
  induction parts generalizing first with
  | nil => simp [List.intercalate]
  | cons part parts ih => simp [List.intercalate_cons_cons, ih]

theorem pointerTokens?_of_tokens {pointer : String} {tokens : List String}
    (clean : ∀ token ∈ tokens, IsToken token) (written : pointer.toList = pointerChars tokens) :
    pointerTokens? pointer = some tokens := by
  have joined : pointer.toList = ['/'].intercalate ([] :: tokens.map String.toList) := by
    rw [written, intercalate_cons_eq_append, List.flatMap_map]
    rfl
  have unbroken : ∀ part ∈ ([] :: tokens.map String.toList), '/' ∉ part := by
    simp only [List.forall_mem_cons, List.forall_mem_map]
    exact ⟨List.not_mem_nil, fun token member => clean token member '/' (by decide)⟩
  rw [pointerTokens?, joined, List.splitOn_intercalate '/' unbroken (List.cons_ne_nil _ _)]
  simp only [List.map_map, Option.some.injEq]
  -- No token has a tilde, so each means itself.
  refine (List.map_congr_left fun token member => ?_).trans (List.map_id tokens)
  have untilded := clean token member '~' (by decide)
  rw [Function.comp_apply, unescapeToken_of_not_mem untilded, String.ofList_toList]
  rfl

theorem not_mem_pointerChars {tokens : List String} (clean : ∀ token ∈ tokens, IsToken token) :
    '%' ∉ pointerChars tokens := by
  intro member
  obtain ⟨token, among, inToken⟩ := List.mem_flatMap.mp member
  rcases List.mem_cons.mp inToken with same | inToken
  · exact absurd same (by decide)
  · exact clean token among '%' (by decide) inToken

/-- A reference that is written token after token leads where its tokens lead. -/
theorem dereference?_of_tokens (document : Json) {reference : String} {tokens : List String}
    (clean : ∀ token ∈ tokens, IsToken token)
    (written : reference.toList = '#' :: pointerChars tokens) :
    document.dereference? reference =
      tokens.foldlM (fun value token => value.step? token) document := by
  have chars : (String.ofList (pointerChars tokens)).toList = pointerChars tokens :=
    String.toList_ofList
  have plain : percentDecode? (String.ofList (pointerChars tokens)) =
      some (String.ofList (pointerChars tokens)) :=
    percentDecode?_of_not_mem (by rw [chars]; exact not_mem_pointerChars clean)
  simp only [dereference?, written, plain, pointerTokens?_of_tokens clean chars,
    Option.bind_eq_bind, Option.bind_some]

/-! ## The references of a value -/

/-- The text of a value that is nothing but one. -/
def text? : Json → Option String
  | str text => some text
  | _ => none

/-- What a member says by itself: a text under the key of references is one. -/
def ownReference (member : String × Json) : List String :=
  if member.1 = "$ref" then (text? member.2).toList else []

mutual

/-- Every text that stands under the key of references, at any depth. -/
def references : Json → List String
  | arr items => referencesOfItems items
  | obj members => referencesOfMembers members
  | _ => []

def referencesOfItems : List Json → List String
  | [] => []
  | item :: items => references item ++ referencesOfItems items

def referencesOfMembers : List (String × Json) → List String
  | [] => []
  | (key, item) :: members =>
      ownReference (key, item) ++ references item ++ referencesOfMembers members

end

@[simp] theorem references_str (text : String) : references (str text) = [] := rfl

@[simp] theorem references_bool (value : Bool) : references (bool value) = [] := rfl

@[simp] theorem references_arr (items : List Json) :
    references (arr items) = items.flatMap references := by
  rw [references]
  induction items with
  | nil => rfl
  | cons item items ih => rw [referencesOfItems, ih, List.flatMap_cons]

/-- What a member adds to the references of an object. -/
def memberReferences (member : String × Json) : List String :=
  ownReference member ++ references member.2

@[simp] theorem references_obj (members : List (String × Json)) :
    references (obj members) = members.flatMap memberReferences := by
  rw [references]
  induction members with
  | nil => rfl
  | cons member members ih => rw [referencesOfMembers, ih, List.flatMap_cons]; rfl

/-- A value that is no text is no reference, whatever its key is. -/
theorem memberReferences_of_not_text {key : String} {value : Json} (noText : text? value = none) :
    memberReferences (key, value) = references value := by
  simp [memberReferences, ownReference, noText]

theorem memberReferences_of_ne {key : String} (ne : key ≠ "$ref") (value : Json) :
    memberReferences (key, value) = references value := by
  simp [memberReferences, ownReference, ne]

@[simp] theorem references_ofTexts (texts : List String) : references (ofTexts texts) = [] := by
  simp [ofTexts, List.flatMap_map]

/-- An object whose values are no texts has the references of its values. -/
theorem references_ofEntries {α : Type} {toJson : α → Json}
    (noText : ∀ value, text? (toJson value) = none) (entries : Entries α) :
    references (ofEntries toJson entries) =
      entries.flatMap fun entry => references (toJson entry.2) := by
  simp [ofEntries, List.flatMap_map, memberReferences_of_not_text, noText]

@[simp] theorem flatMap_listMember {α : Type} (key : String) (toJson : α → Json)
    (items : List α) :
    (listMember key toJson items).flatMap memberReferences =
      items.flatMap fun item => references (toJson item) := by
  cases items with
  | nil => rfl
  | cons item items =>
      rw [listMember, List.isEmpty_cons, if_neg Bool.false_ne_true, List.flatMap_singleton,
        memberReferences_of_not_text rfl, references_arr, List.flatMap_map]

theorem flatMap_optionalMember {α : Type} {toJson : α → Json}
    (noText : ∀ value, text? (toJson value) = none) (key : String) (value : Option α) :
    (optionalMember key (value.map toJson)).flatMap memberReferences =
      value.toList.flatMap fun value => references (toJson value) := by
  cases value with
  | none => rfl
  | some value => simp [optionalMember, memberReferences_of_not_text, noText]

end BaseApi.Json

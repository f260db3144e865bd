import BaseApi.Json.Decoder

/-!
# Records

A record is described by its fields, in the order of their declaration, over a draft that the
fields fill in, and by how a draft is finished. It is read from an object, where unknown keys are
passed over and a field may come once, or from an array of the fields in order, where fields at
the end may be left out if the draft can be finished without them.
-/

namespace BaseApi

/-- A field of a record that is drafted as `σ`. -/
structure RecordField (σ : Type) where
  /-- The key of the field in an object. -/
  key : String
  /-- Whether the draft has the field. -/
  isFilled : σ → Bool
  /-- Reads the field into a draft. -/
  fill : σ → Decoder σ

/-- A field that is kept in one slot of the draft. -/
def RecordField.slot {σ α : Type} (key : String) (decoder : Decoder α) (get : σ → Option α)
    (set : σ → α → σ) : RecordField σ where
  key
  isFilled draft := (get draft).isSome
  fill draft := decoder.map (set draft)

/-- A record of type `α` that is drafted as `σ`. -/
structure Record (σ α : Type) where
  name : String
  /-- The draft without any field. -/
  blank : σ
  /-- The fields in the order of their declaration. -/
  fields : List (RecordField σ)
  /-- The record of a draft, or the key of the first field that is missing. -/
  finish : σ → Except String α

namespace Record

variable {σ α : Type}

def field? (record : Record σ α) (key : String) : Option (RecordField σ) :=
  record.fields.find? fun field => field.key == key

/-- The record of a draft that comes from an object. -/
def finishObject (record : Record σ α) (draft : σ) : Except ReadError α :=
  match record.finish draft with
  | .ok result => .ok result
  | .error key => .error (.missingField key)

/-- The record of a draft that comes from an array with `length` elements. -/
def finishArray (record : Record σ α) (length : Nat) (draft : σ) : Except ReadError α :=
  match record.finish draft with
  | .ok result => .ok result
  | .error _ => .error (.tooShort length record.name record.fields.length)

/-! ## From text -/

/-- Reads one member of an object into a draft. -/
def memberOfText (record : Record σ α) (limit : Nat) (key : String) (draft : σ) : Scan σ :=
  fun cs =>
    match record.field? key with
    | none => do pure (draft, ← Json.skipValue (2 * limit) (← Json.colon cs))
    | some field =>
        if field.isFilled draft then .error (.duplicateField key)
        else do (field.fill draft).ofText limit (← Json.colon cs)

/-- Goes to after the closing bracket of an array that has had its last element. -/
def closeArray (cs : List Char) : Except ReadError (List Char) :=
  match Json.skipBlanks cs with
  | [] => Json.refuse .endInArray
  | ']' :: rest => .ok rest
  | ',' :: rest =>
      match Json.skipBlanks rest with
      | ']' :: _ => Json.refuse .trailingComma
      | _ => Json.refuse .trailingCharacters
  | _ => Json.refuse .trailingCharacters

/-- Reads the elements of an array into the fields in order, from after `count` of them. -/
def elementsOfText (record : Record σ α) (limit : Nat) :
    List (RecordField σ) → Nat → σ → Scan α
  | [], count, draft, cs => do
      let result ← record.finishArray count draft
      pure (result, ← closeArray cs)
  | field :: fields, count, draft, cs => do
      match ← Json.nextElement (count == 0) cs with
      | .closed rest => pure (← record.finishArray count draft, rest)
      | .entry rest =>
          let (draft, rest) ← (field.fill draft).ofText limit rest
          elementsOfText record limit fields (count + 1) draft rest

/-! ## From a value -/

/-- Reads the members of an object into a draft. -/
def membersOfJson (record : Record σ α) : σ → List (String × Json) → Except ReadError σ
  | draft, [] => .ok draft
  | draft, (key, value) :: members =>
      match record.field? key with
      | none => membersOfJson record draft members
      | some field =>
          if field.isFilled draft then .error (.duplicateField key)
          else do membersOfJson record (← (field.fill draft).ofJson value) members

/-- Reads the elements of an array into the fields in order; gives how many were read with the
draft. -/
def elementsOfJson : List (RecordField σ) → Nat → σ → List Json → Except ReadError (Nat × σ)
  | field :: fields, count, draft, item :: items => do
      elementsOfJson fields (count + 1) (← (field.fill draft).ofJson item) items
  | _, count, draft, _ => .ok (count, draft)

/-! ## Both -/

def decoder (record : Record σ α) : Decoder α where
  ofText limit cs :=
    match Json.skipBlanks cs with
    | '{' :: rest => do
        let (draft, rest) ←
          Json.foldObject (record.memberOfText limit) limit true record.blank rest
        pure (← record.finishObject draft, rest)
    | '[' :: rest => record.elementsOfText limit record.fields 0 record.blank rest
    | cs => Decoder.mismatchInText (.record record.name) cs
  ofJson
    | .obj members => do record.finishObject (← record.membersOfJson record.blank members)
    | .arr items => do
        let (count, draft) ← elementsOfJson record.fields 0 record.blank items
        let result ← record.finishArray count draft
        if count < items.length then .error (.tooLong items.length) else pure result
    | value => Decoder.mismatch (.record record.name) value

end Record

end BaseApi

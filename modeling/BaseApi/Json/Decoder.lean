import BaseApi.Json.Skip

/-!
# Decoders

A `Decoder α` reads an `α` in two ways: straight from text, and from a JSON value. Both readings
come from one description, so they ask for the same things; the text reading also meets the faults
of the text, in the order in which they stand there.
-/

namespace BaseApi

/-- How to read an `α` from JSON. -/
structure Decoder (α : Type) where
  /-- Reads from the characters of a text; the number bounds the entries of a container. -/
  ofText : Nat → Scan α
  ofJson : Json → Except ReadError α

namespace Decoder

variable {α β : Type}

/-- Names what a text starts with; the text does not start with a blank. A scalar is read to its
end, and a fault inside it comes first. -/
def foundInText : List Char → Except ReadError Found
  | '[' :: _ => .ok .sequence
  | '{' :: _ => .ok .map
  | cs => (Json.scalar cs).map fun read => Found.ofJson read.1

/-- Refuses a text that does not start with what is expected. -/
def mismatchInText (expected : Expected) (cs : List Char) : Except ReadError α := do
  throw (.invalidType (← foundInText cs) expected)

/-- Refuses a value that is not what is expected. -/
def mismatch (expected : Expected) (value : Json) : Except ReadError α :=
  .error (.invalidType (Found.ofJson value) expected)

/-- Reads with a decoder and passes the result on. -/
def map (f : α → β) (decoder : Decoder α) : Decoder β where
  ofText limit cs := (decoder.ofText limit cs).map fun read => (f read.1, read.2)
  ofJson value := (decoder.ofJson value).map f

def text : Decoder String where
  ofText _ cs :=
    match Json.skipBlanks cs with
    | '"' :: rest => Json.stringBody [] rest
    | cs => mismatchInText .text cs
  ofJson
    | .str value => .ok value
    | value => mismatch .text value

/-- Reads null as nothing, and anything else with a decoder. -/
def optional (decoder : Decoder α) : Decoder (Option α) where
  ofText limit cs :=
    match Json.skipBlanks cs with
    | 'n' :: rest => do pure (none, ← Json.literal ['u', 'l', 'l'] rest)
    | cs => (decoder.ofText limit cs).map fun read => (some read.1, read.2)
  ofJson
    | .null => .ok none
    | value => (decoder.ofJson value).map some

/-- Reads an array whose elements a decoder reads. -/
def list (decoder : Decoder α) : Decoder (List α) where
  ofText limit cs :=
    match Json.skipBlanks cs with
    | '[' :: rest => do
        let element := fun (read : List α) rest => do
          let (item, rest) ← decoder.ofText limit rest
          pure (item :: read, rest)
        let (read, rest) ← Json.foldArray element limit true [] rest
        pure (read.reverse, rest)
    | cs => mismatchInText .sequence cs
  ofJson
    | .arr items => items.mapM decoder.ofJson
    | value => mismatch .sequence value

def decodeText (decoder : Decoder α) (text : String) : Except ReadError α := do
  let cs := text.toList
  Json.finish (← decoder.ofText (cs.length + 1) cs)

end Decoder

end BaseApi

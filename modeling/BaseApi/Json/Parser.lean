import BaseApi.Json.Scan

/-!
# Reading JSON text as a value

`foldArray` and `foldObject` walk the elements and members of a container and hand each to a reader
of the caller's, so that a value and a record are read through the same grammar. `limit` bounds the
number of entries that one container may have; the length of the text is always enough, and
`Json.parse` passes that.
-/

namespace BaseApi

namespace Json

/-- Where a walk through a container stands: after its end, or before another entry. -/
inductive Walk where
  | closed (rest : List Char)
  | entry (rest : List Char)

/-- Goes to the next element of an array; `first` says that none has been read yet. -/
def nextElement (first : Bool) (cs : List Char) : Except ReadError Walk :=
  match first, skipBlanks cs with
  | _, [] => refuse .endInArray
  | _, ']' :: rest => .ok (.closed rest)
  | false, ',' :: rest =>
      match skipBlanks rest with
      | [] => refuse .endInValue
      | ']' :: _ => refuse .trailingComma
      | rest => .ok (.entry rest)
  | true, rest => .ok (.entry rest)
  | false, _ => refuse .expectedCommaOrBracket

/-- Goes to after the opening quote of a key. -/
def keyStart : List Char → Except ReadError Walk
  | [] => refuse .endInValue
  | '"' :: rest => .ok (.entry rest)
  | '}' :: _ => refuse .trailingComma
  | _ => refuse .keyNotString

/-- Goes to after the opening quote of the next key of an object; `first` says that no member has
been read yet. -/
def nextMember (first : Bool) (cs : List Char) : Except ReadError Walk :=
  match first, skipBlanks cs with
  | _, [] => refuse .endInObject
  | _, '}' :: rest => .ok (.closed rest)
  | false, ',' :: rest => keyStart (skipBlanks rest)
  | true, rest => keyStart rest
  | false, _ => refuse .expectedCommaOrBrace

/-- Goes to after the colon between a key and its value. -/
def colon (cs : List Char) : Except ReadError (List Char) :=
  match skipBlanks cs with
  | [] => refuse .endInObject
  | ':' :: rest => .ok rest
  | _ => refuse .expectedColon

/-- Reads the elements of an array into a state, from after its opening bracket. -/
def foldArray {σ : Type} (element : σ → Scan σ) : Nat → Bool → σ → Scan σ
  | 0, _, _, _ => refuse .endInArray
  | limit + 1, first, state, cs => do
      match ← nextElement first cs with
      | .closed rest => pure (state, rest)
      | .entry rest =>
          let (state, rest) ← element state rest
          foldArray element limit false state rest

/-- Reads the members of an object into a state, from after its opening brace; the reader of a
member gets its key and stands before the colon. -/
def foldObject {σ : Type} (member : String → σ → Scan σ) : Nat → Bool → σ → Scan σ
  | 0, _, _, _ => refuse .endInObject
  | limit + 1, first, state, cs => do
      match ← nextMember first cs with
      | .closed rest => pure (state, rest)
      | .entry rest =>
          let (key, rest) ← stringBody [] rest
          let (state, rest) ← member key state rest
          foldObject member limit false state rest

/-- Reads a literal, a string or a number; the text does not start with a blank. -/
def scalar : Scan Json
  | [] => refuse .endInValue
  | 'n' :: rest => do pure (null, ← literal ['u', 'l', 'l'] rest)
  | 't' :: rest => do pure (bool true, ← literal ['r', 'u', 'e'] rest)
  | 'f' :: rest => do pure (bool false, ← literal ['a', 'l', 's', 'e'] rest)
  | '"' :: rest => do
      let (text, rest) ← stringBody [] rest
      pure (str text, rest)
  | c :: rest =>
      if c = '-' ∨ c.isDigit then do
        let (value, rest) ← number (c :: rest)
        pure (num value, rest)
      else refuse .expectedValue

/-- Reads a value in which at most `depth` containers lie inside one another. A key that comes twice
keeps its first place and its last value. -/
def value (limit : Nat) : Nat → Scan Json
  | depth, cs =>
      match skipBlanks cs, depth with
      | '[' :: _, 0 => refuse .tooDeep
      | '[' :: rest, depth + 1 => do
          let element := fun (read : List Json) rest => do
            let (item, rest) ← value limit depth rest
            pure (item :: read, rest)
          let (read, rest) ← foldArray element limit true [] rest
          pure (arr read.reverse, rest)
      | '{' :: _, 0 => refuse .tooDeep
      | '{' :: rest, depth + 1 => do
          let member := fun key (read : Entries Json) rest => do
            let (item, rest) ← value limit depth (← colon rest)
            pure (Entries.put key item read, rest)
          let (read, rest) ← foldObject member limit true [] rest
          pure (obj read, rest)
      | cs, _ => scalar cs

/-- How many containers may lie inside one another. -/
def maxDepth : Nat := 127

/-- Refuses anything but blanks after a document. -/
def finish {α : Type} : α × List Char → Except ReadError α
  | (result, rest) => if skipBlanks rest = [] then .ok result else refuse .trailingCharacters

def parse (text : String) : Except ReadError Json := do
  let cs := text.toList
  finish (← value (cs.length + 1) maxDepth cs)

end Json

end BaseApi

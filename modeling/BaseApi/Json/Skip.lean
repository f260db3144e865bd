import BaseApi.Json.Parser

/-!
# Passing over a JSON value

A value that nobody asked for is passed over without being built. Its tokens and its brackets are
checked, but not the range of its numbers, the pairing of its surrogates or the depth of its
nesting. `fuel` bounds the number of steps; two for each character of the text are always enough.
-/

namespace BaseApi

namespace Json

/-- Passes over a string from after its opening quote. -/
def skipString : List Char → Except ReadError (List Char)
  | [] => refuse .endInString
  | '"' :: rest => .ok rest
  | '\\' :: [] => refuse .endInString
  | '\\' :: 'u' :: a :: b :: c :: d :: rest =>
      if (hex4? a b c d).isSome then skipString rest else refuse .invalidEscape
  | '\\' :: 'u' :: rest => refuse (hexFault rest)
  | '\\' :: letter :: rest =>
      if (shortEscape? letter).isSome then skipString rest else refuse .invalidEscape
  | c :: rest => if c.toNat < 0x20 then refuse .controlCharacter else skipString rest

/-- Passes over a number; whatever is wrong with it, even that the text ends, it is called
invalid. -/
def skipNumber (cs : List Char) : Except ReadError (List Char) :=
  match numeral cs with
  | .ok (_, rest) => .ok rest
  | .error _ => refuse .invalidNumber

/-- Passes over a literal, a string or a number; the text does not start with a blank. -/
def skipScalar : List Char → Except ReadError (List Char)
  | [] => refuse .endInValue
  | 'n' :: rest => literal ['u', 'l', 'l'] rest
  | 't' :: rest => literal ['r', 'u', 'e'] rest
  | 'f' :: rest => literal ['a', 'l', 's', 'e'] rest
  | '"' :: rest => skipString rest
  | c :: rest =>
      if c = '-' ∨ c.isDigit then skipNumber (c :: rest) else refuse .expectedValue

def skipKey (cs : List Char) : Except ReadError (List Char) := do
  match skipBlanks cs with
  | [] => refuse .endInObject
  | '"' :: rest => colon (← skipString rest)
  | _ => refuse .keyNotString

mutual

def skipValue : Nat → List Char → Except ReadError (List Char)
  | 0, _ => refuse .endInValue
  | fuel + 1, cs =>
      match skipBlanks cs with
      | '[' :: rest => skipElements fuel true rest
      | '{' :: rest => skipMembers fuel true rest
      | cs => skipScalar cs

/-- Passes over the elements of an array and its closing bracket. -/
def skipElements : Nat → Bool → List Char → Except ReadError (List Char)
  | 0, _, _ => refuse .endInArray
  | fuel + 1, first, cs =>
      match first, skipBlanks cs with
      | _, [] => refuse .endInArray
      | _, ']' :: rest => .ok rest
      | false, ',' :: rest => do skipElements fuel false (← skipValue fuel rest)
      | true, rest => do skipElements fuel false (← skipValue fuel rest)
      | false, _ => refuse .expectedCommaOrBracket

/-- Passes over the members of an object and its closing brace. -/
def skipMembers : Nat → Bool → List Char → Except ReadError (List Char)
  | 0, _, _ => refuse .endInObject
  | fuel + 1, first, cs =>
      match first, skipBlanks cs with
      | _, [] => refuse .endInObject
      | _, '}' :: rest => .ok rest
      | false, ',' :: rest => do skipMembers fuel false (← skipValue fuel (← skipKey rest))
      | true, rest => do skipMembers fuel false (← skipValue fuel (← skipKey rest))
      | false, _ => refuse .expectedCommaOrBrace

end

end Json

end BaseApi

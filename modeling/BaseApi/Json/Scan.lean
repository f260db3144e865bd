import BaseApi.Json.Error

/-!
# The tokens of JSON text

Each scanner takes the characters from its token on and gives what the token means together with the
characters after it. Strings are read by recursion on the text, so they need no bound; numerals are
read in two steps, `numeral` for the characters and `Numeral.number?` for the value.
-/

namespace BaseApi

/-- A scanner of text: what it read, and the characters after it. -/
abbrev Scan (α : Type) := List Char → Except ReadError (α × List Char)

namespace Json

def refuse {α : Type} (fault : Malformed) : Except ReadError α := .error (.malformed fault)

/-! ## Blanks and literals -/

/-- The four characters that may stand between tokens. -/
def isBlank (c : Char) : Bool := c == ' ' || c == '\t' || c == '\n' || c == '\r'

def skipBlanks (cs : List Char) : List Char := cs.dropWhile isBlank

/-- Reads the given letters. -/
def literal : List Char → List Char → Except ReadError (List Char)
  | [], cs => .ok cs
  | _ :: _, [] => refuse .endInValue
  | letter :: letters, c :: cs =>
      if c = letter then literal letters cs else refuse .expectedLiteral

/-! ## Strings -/

/-- What the letter of a two-character escape stands for. -/
def shortEscape? : Char → Option Char
  | '"' => some '"'
  | '\\' => some '\\'
  | '/' => some '/'
  | 'b' => some '\x08'
  | 'f' => some '\x0c'
  | 'n' => some '\n'
  | 'r' => some '\r'
  | 't' => some '\t'
  | _ => none

/-- The value of a hexadecimal digit of either case. -/
def hexValue? (c : Char) : Option Nat :=
  if '0' ≤ c ∧ c ≤ '9' then some (c.toNat - '0'.toNat)
  else if 'a' ≤ c ∧ c ≤ 'f' then some (c.toNat - 'a'.toNat + 10)
  else if 'A' ≤ c ∧ c ≤ 'F' then some (c.toNat - 'A'.toNat + 10)
  else none

/-- The number that four hexadecimal digits write. -/
def hex4? (a b c d : Char) : Option Nat := do
  let a ← hexValue? a
  let b ← hexValue? b
  let c ← hexValue? c
  let d ← hexValue? d
  pure (((a * 16 + b) * 16 + c) * 16 + d)

def isHighSurrogate (n : Nat) : Bool := 0xd800 ≤ n && n ≤ 0xdbff

def isLowSurrogate (n : Nat) : Bool := 0xdc00 ≤ n && n ≤ 0xdfff

/-- The character that a surrogate pair writes. -/
def ofSurrogates (high low : Nat) : Char :=
  Char.ofNat ((high - 0xd800) * 0x400 + (low - 0xdc00) + 0x10000)

/-- The fault of a hexadecimal escape with fewer than four characters left: the text has ended if
they are fewer than four bytes too, and otherwise one of them is no digit. -/
def hexFault (cs : List Char) : Malformed :=
  if (String.ofList cs).utf8ByteSize < 4 then .endInString else .invalidEscape

/-- The fault of the text after the first half of a surrogate pair, which has to be an escape of the
second half. -/
def pairFault : List Char → Malformed
  | [] => .endInString
  | '\\' :: [] => .endInString
  | '\\' :: 'u' :: rest => hexFault rest
  | _ => .unfinishedSurrogate

/-- Reads a string from after its opening quote; `read` holds the characters so far, the last one
first. -/
def stringBody (read : List Char) : Scan String
  | [] => refuse .endInString
  | '"' :: rest => .ok (String.ofList read.reverse, rest)
  | '\\' :: [] => refuse .endInString
  | '\\' :: 'u' :: a :: b :: c :: d :: rest =>
      match hex4? a b c d with
      | none => refuse .invalidEscape
      | some code =>
          if isLowSurrogate code then refuse .loneSurrogate
          else if isHighSurrogate code then
            match rest with
            | '\\' :: 'u' :: a' :: b' :: c' :: d' :: rest' =>
                match hex4? a' b' c' d' with
                | none => refuse .invalidEscape
                | some low =>
                    if isLowSurrogate low then stringBody (ofSurrogates code low :: read) rest'
                    else refuse .loneSurrogate
            | _ => refuse (pairFault rest)
          else stringBody (Char.ofNat code :: read) rest
  | '\\' :: 'u' :: rest => refuse (hexFault rest)
  | '\\' :: letter :: rest =>
      match shortEscape? letter with
      | some c => stringBody (c :: read) rest
      | none => refuse .invalidEscape
  | c :: rest =>
      if c.toNat < 0x20 then refuse .controlCharacter else stringBody (c :: read) rest

/-! ## Numerals -/

/-- The characters of a number: its sign, its digits before and after the point, and its exponent
with a sign of its own. -/
structure Numeral where
  negative : Bool
  whole : List Char
  fraction : Option (List Char)
  exponent : Option (Bool × List Char)

/-- The digits at the start of a text, and what follows them. -/
def digits (cs : List Char) : List Char × List Char := cs.span Char.isDigit

/-- The digits at the start of a text, of which there has to be one. -/
def someDigits (cs : List Char) : Except ReadError (List Char × List Char) :=
  match digits cs with
  | ([], []) => refuse .endInValue
  | ([], _ :: _) => refuse .invalidNumber
  | read => .ok read

/-- A sign that may be missing: whether it is a minus, and what follows. -/
def sign : List Char → Bool × List Char
  | '-' :: rest => (true, rest)
  | '+' :: rest => (false, rest)
  | rest => (false, rest)

/-- The digits before the point; only zero itself starts with a zero. -/
def wholePart (cs : List Char) : Except ReadError (List Char × List Char) := do
  match ← someDigits cs with
  | ('0' :: _ :: _, _) => refuse .invalidNumber
  | read => pure read

/-- A point and the digits after it, if there is a point. -/
def fractionPart : List Char → Except ReadError (Option (List Char) × List Char)
  | '.' :: rest => do
      let (read, rest) ← someDigits rest
      pure (some read, rest)
  | rest => .ok (none, rest)

def exponentPart (cs : List Char) : Except ReadError (Option (Bool × List Char) × List Char) :=
  let read := fun rest => do
    let (negative, rest) := sign rest
    let (read, rest) ← someDigits rest
    pure (some (negative, read), rest)
  match cs with
  | 'e' :: rest => read rest
  | 'E' :: rest => read rest
  | rest => .ok (none, rest)

def numeral (cs : List Char) : Except ReadError (Numeral × List Char) := do
  let (negative, cs) := match cs with
    | '-' :: rest => (true, rest)
    | rest => (false, rest)
  let (whole, cs) ← wholePart cs
  let (fraction, cs) ← fractionPart cs
  let (exponent, cs) ← exponentPart cs
  pure ({ negative, whole, fraction, exponent }, cs)

/-! ## The value of a numeral -/

/-- The least number that a 64-bit word cannot hold. -/
def wordBound : Nat := Nat.pow 2 64

/-- Takes digits into a significand as long as it fits a 64-bit word; gives it with the digits that
are left over. -/
def absorb (significand : Nat) : List Char → Nat × List Char
  | [] => (significand, [])
  | digit :: rest =>
      let next := significand * 10 + (digit.toNat - '0'.toNat)
      if next < wordBound then absorb next rest else (significand, digit :: rest)

def ofDigits (read : List Char) : Nat :=
  read.foldl (fun n digit => n * 10 + (digit.toNat - '0'.toNat)) 0

/-- The largest power of ten that is a double. -/
def maxTenExponent : Nat := 308

def tenPower? (exponent : Nat) : Option Double := Double.ofNat? (Nat.pow 10 exponent)

/-- Divides by `10 ^ 308` a number of times, or until nothing is left. -/
def scaleDown? : Nat → Double → Option Double
  | 0, x => some x
  | count + 1, x =>
      if x.isZero then some x
      else do scaleDown? count (← x.div? (← tenPower? maxTenExponent))

/-- A significand times a power of ten, computed in doubles: one rounded product, or rounded
quotients of which all but the last are by `10 ^ 308`. Nothing if it is past the largest double. -/
def scale? (significand : Nat) (exponent : Int) : Option Double := do
  let x ← Double.ofNat? significand
  if x.isZero then pure x
  else if 0 ≤ exponent then
    if exponent ≤ maxTenExponent then x.mul? (← tenPower? exponent.toNat) else none
  else
    let places := exponent.natAbs
    let steps := (places - 1) / maxTenExponent
    let x ← scaleDown? steps x
    if x.isZero then pure x else x.div? (← tenPower? (places - steps * maxTenExponent))

/-- The number that a numeral writes, if it is in range. A whole number that a signed or unsigned
64-bit word holds is exact, but negative zero is a double; the others are doubles made of the
leading digits that a word holds. -/
def Numeral.number? (n : Numeral) : Option Number :=
  let double := fun significand exponent => do
    let x ← scale? significand exponent
    pure (Number.double (if n.negative then x.neg else x))
  let (significand, dropped) := absorb 0 n.whole
  match n.fraction, n.exponent, dropped with
  | none, none, [] =>
      if !n.negative then some (.integer significand)
      else if 0 < significand ∧ significand ≤ Nat.pow 2 63 then
        some (.integer (-(significand : Int)))
      else double significand 0
  | _, _, _ =>
      let after := n.fraction.getD []
      let (significand, ignored) := absorb significand after
      let places : Int := dropped.length - (after.length - ignored.length : Nat)
      let exponent : Int := match n.exponent with
        | none => 0
        | some (true, read) => -(ofDigits read : Int)
        | some (false, read) => ofDigits read
      double significand (places + exponent)

def number (cs : List Char) : Except ReadError (Number × List Char) := do
  let (read, rest) ← numeral cs
  match read.number? with
  | some value => pure (value, rest)
  | none => refuse .numberOutOfRange

end Json

end BaseApi

import BaseApi.Double.Text
import BaseApi.Json.Basic
import BaseApi.Text.Quoted

/-!
# Why JSON is refused

`Malformed` lists the ways in which a text fails to be JSON, `ReadError` adds the ways in which JSON
fails to be the record that was asked for. Each has its wording in one function.
-/

namespace BaseApi

/-- A fault in the text itself. -/
inductive Malformed where
  | endInValue
  | endInArray
  | endInObject
  | endInString
  | expectedValue
  | expectedLiteral
  | expectedColon
  | expectedCommaOrBracket
  | expectedCommaOrBrace
  | keyNotString
  | trailingComma
  | trailingCharacters
  | invalidNumber
  | numberOutOfRange
  | invalidEscape
  | loneSurrogate
  | unfinishedSurrogate
  | controlCharacter
  | tooDeep
deriving DecidableEq

def Malformed.message : Malformed → String
  | endInValue => "EOF while parsing a value"
  | endInArray => "EOF while parsing a list"
  | endInObject => "EOF while parsing an object"
  | endInString => "EOF while parsing a string"
  | expectedValue => "expected value"
  | expectedLiteral => "expected ident"
  | expectedColon => "expected `:`"
  | expectedCommaOrBracket => "expected `,` or `]`"
  | expectedCommaOrBrace => "expected `,` or `" ++ String.singleton '}' ++ "`"
  | keyNotString => "key must be a string"
  | trailingComma => "trailing comma"
  | trailingCharacters => "trailing characters"
  | invalidNumber => "invalid number"
  | numberOutOfRange => "number out of range"
  | invalidEscape => "invalid escape"
  | loneSurrogate => "lone leading surrogate in hex escape"
  | unfinishedSurrogate => "unexpected end of hex escape"
  | controlCharacter => "control character (\\u0000-\\u001F) found while parsing a string"
  | tooDeep => "recursion limit exceeded"

/-- What stands where something else was expected: a scalar, or the kind of a container. -/
inductive Found where
  | null
  | bool (value : Bool)
  | num (value : Number)
  | str (value : String)
  | sequence
  | map
deriving DecidableEq

def Found.ofJson : Json → Found
  | .null => .null
  | .bool value => .bool value
  | .num value => .num value
  | .str value => .str value
  | .arr _ => .sequence
  | .obj _ => .map

def Found.describe : Found → String
  | null => "null"
  | bool true => "boolean `true`"
  | bool false => "boolean `false`"
  | num (.integer value) => "integer `" ++ toString value ++ "`"
  | num (.double value) => "floating point `" ++ value.text ++ "`"
  | str value => "string " ++ quoted value
  | sequence => "sequence"
  | map => "map"

/-- What a reader asks for. -/
inductive Expected where
  | text
  | sequence
  | record (name : String)
deriving DecidableEq

def Expected.describe : Expected → String
  | text => "a string"
  | sequence => "a sequence"
  | record name => "struct " ++ name

/-- Why reading failed. -/
inductive ReadError where
  | malformed (fault : Malformed)
  | invalidType (found : Found) (expected : Expected)
  | missingField (key : String)
  /-- A field of a record is given twice. -/
  | duplicateField (key : String)
  /-- An array ends before the fields of the record that it stands for. -/
  | tooShort (length : Nat) (record : String) (fieldCount : Nat)
  /-- An array goes on after the fields of the record that it stands for. -/
  | tooLong (length : Nat)
deriving DecidableEq

def ReadError.message : ReadError → String
  | malformed fault => fault.message
  | invalidType found expected =>
      "invalid type: " ++ found.describe ++ ", expected " ++ expected.describe
  | missingField key => "missing field `" ++ key ++ "`"
  | duplicateField key => "duplicate field `" ++ key ++ "`"
  | tooShort length record fieldCount =>
      "invalid length " ++ toString length ++ ", expected struct " ++ record ++ " with " ++
        toString fieldCount ++ (if fieldCount = 1 then " element" else " elements")
  | tooLong length =>
      "invalid length " ++ toString length ++ ", expected fewer elements in array"

end BaseApi

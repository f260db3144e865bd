import BaseApi.Text.Unseen

/-!
# Texts shown inside messages

`quoted` puts a text between double quotes so that every character can be seen: quotes and
backslashes get a backslash, the common controls their letter, and every other character without a
glyph its code point in braces.
-/

namespace BaseApi

/-- The code point of a character in lower-case hexadecimal digits, without leading zeros. -/
def hexDigits (c : Char) : List Char := Nat.toDigits 16 c.toNat

/-- A character as it stands inside a quoted text. -/
def quotedChar (c : Char) : List Char :=
  match c with
  | '"' => ['\\', '"']
  | '\\' => ['\\', '\\']
  | '\n' => ['\\', 'n']
  | '\r' => ['\\', 'r']
  | '\t' => ['\\', 't']
  | '\x00' => ['\\', '0']
  | c => if isUnseen c then ['\\', 'u', '{'] ++ hexDigits c ++ ['}'] else [c]

/-- The text between quotes, with its unseen characters written out. -/
def quoted (text : String) : String :=
  String.ofList ('"' :: (text.toList.flatMap quotedChar ++ ['"']))

end BaseApi

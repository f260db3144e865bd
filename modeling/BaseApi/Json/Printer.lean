import BaseApi.Double.Text
import BaseApi.Json.Basic

/-!
# Writing JSON values as text

One printer serves every layout: a `Layout` says what stands between the tokens, and `render`
writes a value in it. `Layout.compact` puts nothing between the tokens; `Layout.pretty` starts each
entry on a line of its own, two blanks deeper than its container. An empty container is two brackets
in every layout.
-/

namespace BaseApi

namespace Json

/-- The blanks of a text: before an entry or closing bracket at a depth, and after a colon. -/
structure Layout where
  newline : Nat → List Char
  afterColon : List Char

/-- No blanks at all. -/
def Layout.compact : Layout := { newline := fun _ => [], afterColon := [] }

/-- One entry a line, indented by two blanks for each container around it. -/
def Layout.pretty : Layout where
  newline := fun depth => '\n' :: List.replicate (2 * depth) ' '
  afterColon := [' ']

/-- A character as it stands inside a string: quotes, backslashes and controls are escaped, and all
else is itself. -/
def escapeChar (c : Char) : List Char :=
  match c with
  | '"' => ['\\', '"']
  | '\\' => ['\\', '\\']
  | '\x08' => ['\\', 'b']
  | '\x0c' => ['\\', 'f']
  | '\n' => ['\\', 'n']
  | '\r' => ['\\', 'r']
  | '\t' => ['\\', 't']
  | c =>
      if c.toNat < 0x20 then
        ['\\', 'u', '0', '0', Nat.digitChar (c.toNat / 16), Nat.digitChar (c.toNat % 16)]
      else [c]

def renderString (text : String) : List Char := '"' :: (text.toList.flatMap escapeChar ++ ['"'])

def renderNumber : Number → List Char
  | .integer value => (toString value).toList
  | .double value => value.chars

mutual

/-- A value in a layout, `depth` containers deep. -/
def render (layout : Layout) (depth : Nat) : Json → List Char
  | null => ['n', 'u', 'l', 'l']
  | bool true => ['t', 'r', 'u', 'e']
  | bool false => ['f', 'a', 'l', 's', 'e']
  | num value => renderNumber value
  | str text => renderString text
  | arr [] => ['[', ']']
  | arr (item :: items) =>
      '[' :: (layout.newline (depth + 1) ++ (render layout (depth + 1) item ++
        (renderItems layout (depth + 1) items ++ (layout.newline depth ++ [']']))))
  | obj [] => ['{', '}']
  | obj ((key, item) :: members) =>
      '{' :: (layout.newline (depth + 1) ++ (renderString key ++ (':' :: (layout.afterColon ++
        (render layout (depth + 1) item ++
          (renderMembers layout (depth + 1) members ++ (layout.newline depth ++ ['}'])))))))

/-- The further elements of an array, each after a comma. -/
def renderItems (layout : Layout) (depth : Nat) : List Json → List Char
  | [] => []
  | item :: items =>
      ',' :: (layout.newline depth ++ (render layout depth item ++ renderItems layout depth items))

/-- The further members of an object, each after a comma. -/
def renderMembers (layout : Layout) (depth : Nat) : List (String × Json) → List Char
  | [] => []
  | (key, item) :: members =>
      ',' :: (layout.newline depth ++ (renderString key ++ (':' :: (layout.afterColon ++
        (render layout depth item ++ renderMembers layout depth members)))))

end

def write (layout : Layout) (value : Json) : String := String.ofList (render layout 0 value)

/-- The text without blanks. -/
def compact (value : Json) : String := write .compact value

end Json

end BaseApi

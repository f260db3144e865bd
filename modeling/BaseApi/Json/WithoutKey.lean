import BaseApi.Json.Basic

/-!
# Leaving a key out of a JSON value

`Json.withoutKey key` deletes every object member with that key, at any depth, and changes nothing
else: texts that equal the key stay, and so do the containers that a deletion leaves empty.
-/

namespace BaseApi

namespace Json

mutual

/-- The value without the members named `key`, at any depth. -/
def withoutKey (key : String) : Json → Json
  | arr items => arr (withoutKeyItems key items)
  | obj members => obj (withoutKeyMembers key members)
  | scalar => scalar

/-- The elements, each without the members named `key`. -/
def withoutKeyItems (key : String) : List Json → List Json
  | [] => []
  | item :: items => withoutKey key item :: withoutKeyItems key items

/-- The members not named `key`, their values without those named so. -/
def withoutKeyMembers (key : String) : List (String × Json) → List (String × Json)
  | [] => []
  | (name, item) :: members =>
      if name = key then withoutKeyMembers key members
      else (name, withoutKey key item) :: withoutKeyMembers key members

end

/-- The key under which a column that links records embeds the whole table it links to. -/
def foreignTableKey : String := "foreignTable"

/-- The value without embedded tables. -/
def withoutForeignTables : Json → Json := withoutKey foreignTableKey

end Json

end BaseApi

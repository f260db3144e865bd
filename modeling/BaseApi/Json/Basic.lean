import BaseApi.Double.Basic
import BaseApi.OrderedMap

/-!
# JSON values

A `Json` is a tree of scalars, arrays and objects. Objects keep their members in order. A number is
an exact integer where the text gave one that a 64-bit word holds, and a double otherwise.
-/

namespace BaseApi

/-- A number of a JSON value. -/
inductive Number where
  | integer (value : Int)
  | double (value : Double)
deriving DecidableEq, Inhabited

/-- A JSON value. -/
inductive Json where
  | null
  | bool (value : Bool)
  | num (value : Number)
  | str (value : String)
  | arr (items : List Json)
  | obj (members : List (String × Json))
deriving Inhabited

namespace Json

/-- The value under a key of an object; nothing for any other value. -/
def get? (key : String) : Json → Option Json
  | obj members => members.lookup key
  | _ => none

/-- The element at an index of an array; nothing for any other value. -/
def item? (index : Nat) : Json → Option Json
  | arr items => items[index]?
  | _ => none

/-- The members of an object for a field that may be absent. -/
def optionalMember (key : String) : Option Json → List (String × Json)
  | some value => [(key, value)]
  | none => []

end Json

end BaseApi

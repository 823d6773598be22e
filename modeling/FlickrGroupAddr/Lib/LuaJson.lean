import Mathlib.Data.Rat.Defs
import Mathlib.Data.List.Basic

/-!
# Decoded documents

What a JSON text is once it is decoded into tables: `null` is a value of its own, an
array and an object differ, and the members of an object have distinct names.
-/

namespace LuaJson

set_option autoImplicit false

inductive Value where
  | null
  | boolean (value : Bool)
  | number (value : ℚ)
  | text (value : String)
  | array (items : List Value)
  | object (members : List (String × Value))

namespace Value

/-- The member of a name. -/
def field? (name : String) : Value → Option Value
  | .object members => members.lookup name
  | _ => none

/-- A table whose keys are exactly these names. -/
def exact (keys : List String) : Value → Bool
  | .object members =>
      (members.all fun member => keys.contains member.1) &&
        keys.all fun key => (members.lookup key).isSome
  | .array items => items.isEmpty && keys.isEmpty
  | _ => false

def text? : Value → Option String
  | .text value => some value
  | _ => none

def boolean? : Value → Option Bool
  | .boolean value => some value
  | _ => none

def number? : Value → Option ℚ
  | .number value => some value
  | _ => none

def items? : Value → Option (List Value)
  | .array items => some items
  | _ => none

end Value

end LuaJson

import FlickrGroupAddr.StrictJson

/-!
# Checks of the Lua clients

`SharedReadTransport`, `ExistingPhotoClient`, `GroupDiscoveryClient` and
`SubmissionStatusClient` each hold their own copies of a few checks: of identifiers, of
times, of numbers, and of the shape of a decoded table.
-/

namespace FlickrGroupAddr

set_option autoImplicit false

/-- The bytes of an ASCII text. -/
def ascii (text : String) : Bytes := text.toList.map Char.toUInt8

/-! ## Identifiers -/

def isAlphanumeric (byte : UInt8) : Bool :=
  decide ((65 ≤ byte.toNat ∧ byte.toNat ≤ 90) ∨ (97 ≤ byte.toNat ∧ byte.toNat ≤ 122) ∨
    (48 ≤ byte.toNat ∧ byte.toNat ≤ 57))

/-- `[A-Za-z0-9@._:%-]`. -/
def isOpaqueByte (byte : UInt8) : Bool :=
  isAlphanumeric byte || byte == '@'.toUInt8 || byte == '.'.toUInt8 || byte == '_'.toUInt8 ||
    byte == ':'.toUInt8 || byte == '-'.toUInt8

/-- `opaque`, and `id` of the status client. -/
def isOpaqueId (value : Bytes) : Bool :=
  decide (value.length ≤ 128) &&
    match value with
    | [] => false
    | first :: rest => isAlphanumeric first && rest.all isOpaqueByte

/-! ## Times -/

/-- A run of digits of this length, and the text after it. -/
def takeNumber : Nat → Nat → Bytes → Option (Nat × Bytes)
  | 0, found, text => some (found, text)
  | _ + 1, _, [] => none
  | count + 1, found, current :: rest =>
    if StrictJson.isDigit current then takeNumber count (found * 10 + (current.toNat - 48)) rest
    else none

/-- The text after a mark. -/
def takeMark (mark : Char) : Bytes → Option Bytes
  | [] => none
  | current :: rest => if current = mark.toUInt8 then some rest else none

/-- The numbers of a time in the text. -/
structure StampFields where
  year : Nat
  month : Nat
  day : Nat
  hour : Nat
  minute : Nat
  second : Nat
deriving DecidableEq

/-- `%d%d%d%d%-%d%d%-%d%dT%d%d:%d%d:%d%d` at the start, and the text after it. -/
def takeStamp (text : Bytes) : Option (StampFields × Bytes) := do
  let (year, text) ← takeNumber 4 0 text
  let (month, text) ← takeNumber 2 0 (← takeMark '-' text)
  let (day, text) ← takeNumber 2 0 (← takeMark '-' text)
  let (hour, text) ← takeNumber 2 0 (← takeMark 'T' text)
  let (minute, text) ← takeNumber 2 0 (← takeMark ':' text)
  let (second, text) ← takeNumber 2 0 (← takeMark ':' text)
  return (⟨year, month, day, hour, minute, second⟩, text)

def daysOfMonth (year month : Nat) : Nat :=
  if month = 2 then
    if year % 400 = 0 ∨ (year % 4 = 0 ∧ year % 100 ≠ 0) then 29 else 28
  else if month = 4 ∨ month = 6 ∨ month = 9 ∨ month = 11 then 30 else 31

/-- The numbers are those of a time of the calendar. -/
def StampFields.isTime (fields : StampFields) : Bool :=
  decide ((1 ≤ fields.month ∧ fields.month ≤ 12) ∧
    (1 ≤ fields.day ∧ fields.day ≤ daysOfMonth fields.year fields.month) ∧
    fields.hour ≤ 23 ∧ fields.minute ≤ 59 ∧ fields.second ≤ 59)

/-- `Z`, or a fraction of the second and `Z`. -/
def isTail : Bytes → Bool
  | [] => false
  | current :: rest =>
    if current = 'Z'.toUInt8 then rest.isEmpty
    else if current = '.'.toUInt8 then
      !(rest.takeWhile StrictJson.isDigit).isEmpty &&
        rest.dropWhile StrictJson.isDigit == ['Z'.toUInt8]
    else false

/-- `timestamp` of the photo and the group client. -/
def isTimestamp (value : Bytes) : Bool :=
  decide (value.length ≤ 40) &&
    match takeStamp value with
    | none => false
    | some (fields, rest) => fields.isTime && isTail rest

/-- `timestamp` of the status client: six digits of the second. -/
def isMicroTimestamp (value : Bytes) : Bool :=
  match takeStamp value with
  | none => false
  | some (fields, rest) =>
    fields.isTime &&
      match takeMark '.' rest with
      | none => false
      | some rest =>
        match takeNumber 6 0 rest with
        | none => false
        | some (_, rest) => rest == ['Z'.toUInt8]

/-! ## Order -/

/-- `bytewiseLess`, and `<` of strings. -/
def bytesLess : Bytes → Bytes → Bool
  | [], [] => false
  | [], _ :: _ => true
  | _ :: _, [] => false
  | a :: left, b :: right => if a = b then bytesLess left right else decide (a.toNat < b.toNat)

/-! ## Decoded tables -/

namespace LuaValue

/-- The member of a name, `nil` where there is none. -/
def field? (name : Bytes) : LuaValue → Option LuaValue
  | .object members => members.lookup name
  | _ => none

/-- `exact`: a table whose keys are these. -/
def exact (keys : List Bytes) : LuaValue → Bool
  | .object members =>
    (members.all fun member => keys.contains member.1) &&
      keys.all fun key => (members.lookup key).isSome
  | _ => false

/-- The members a table must have, and those it may have. -/
def exactWith (fields required : List Bytes) : LuaValue → Bool
  | .object members =>
    (members.all fun member => fields.contains member.1) &&
      required.all fun key => (members.lookup key).isSome
  | _ => false

/-- `integer`: a whole number between bounds. -/
def integer? (minimum maximum : Nat) : LuaValue → Option Nat
  | .number x =>
    match x.toInt? with
    | some n => if (minimum : Int) ≤ n ∧ n ≤ maximum then some n.toNat else none
    | none => none
  | _ => none

/-- `json.null`. -/
def isNull : LuaValue → Bool
  | .null => true
  | _ => false

def isBoolean : LuaValue → Bool
  | .boolean _ => true
  | _ => false

def text? : LuaValue → Option Bytes
  | .text value => some value
  | _ => none

/-- `opaque` on a decoded value. -/
def opaque? : LuaValue → Option Bytes
  | .text value => if isOpaqueId value then some value else none
  | _ => none

/-- `array`. -/
def array? (limit : Nat) : LuaValue → Option (List LuaValue)
  | .array items => if items.length ≤ limit then some items else none
  | _ => none

/-- `==` of numbers. -/
def numberEq (x y : Binary64.Number) : Bool :=
  match x.toRat?, y.toRat? with
  | some a, some b => a == b
  | none, none => x == y && x != .nan
  | _, _ => false

/-- A table without keys: null, or an empty array or object. -/
def isEmptyTable : LuaValue → Bool
  | .null => true
  | .array items => items.isEmpty
  | .object members => members.isEmpty
  | _ => false

mutual

/-- `same`: what the two values hold is equal; null is a table without keys. -/
def same : LuaValue → LuaValue → Bool
  | .boolean a, .boolean b => a == b
  | .number a, .number b => numberEq a b
  | .text a, .text b => a == b
  | .array left, .array right => sameItems left right
  | .object left, .object right =>
    sameMembers left right && right.all fun member => (left.lookup member.1).isSome
  | a, b => a.isEmptyTable && b.isEmptyTable

def sameItems : List LuaValue → List LuaValue → Bool
  | [], [] => true
  | a :: left, b :: right => same a b && sameItems left right
  | _, _ => false

def sameMembers : List (Bytes × LuaValue) → List (Bytes × LuaValue) → Bool
  | [], _ => true
  | (key, a) :: left, right =>
    (match right.lookup key with
      | none => false
      | some b => same a b) && sameMembers left right

end

end LuaValue

end FlickrGroupAddr

import FlickrGroupAddr.Schema
import FlickrGroupAddr.Lib.Calendar

/-!
# Pages of a group list

`validateGroupPage` of `group_discovery.ts`: what one answer of
`flickr.groups.pools.getGroups` must look like before its groups are staged.
-/

namespace FlickrGroupAddr

set_option autoImplicit false

/-! ## Values -/

/-- What `JSON.parse` returns; a number is its value. -/
inductive JsonValue where
  | null
  | boolean (value : Bool)
  | number (value : Rat)
  | text (value : String)
  | array (items : List JsonValue)
  | object (fields : List (String × JsonValue))

namespace JsonValue

/-- A property; `none` is undefined. -/
def field (name : String) : JsonValue → Option JsonValue
  | .object fields => (fields.find? fun entry => entry.1 = name).map Prod.snd
  | _ => none

/-- `value ?? other`. -/
def orElse (value other : Option JsonValue) : Option JsonValue :=
  match value with
  | none | some .null => other
  | some value => some value

def isObject : JsonValue → Bool
  | .object _ => true
  | _ => false

def isText (expected : String) : JsonValue → Bool
  | .text value => value == expected
  | _ => false

end JsonValue

/-- `/^(0|[1-9][0-9]*)$/`. -/
def isDecimal (text : String) : Bool :=
  text == "0" ||
    match text.toList with
    | [] => false
    | first :: rest => first != '0' && first.isDigit && rest.all Char.isDigit

/-- `integer`: a safe integer that is not negative, as a number or as decimal text. -/
def pageInteger : JsonValue → Option Nat
  | .number value =>
      if value.den = 1 ∧ 0 ≤ value.num ∧ value.num ≤ 9007199254740991 then some value.num.toNat
      else none
  | .text value =>
      let decimal := Calendar.digitsValue value.toList
      if isDecimal value = true ∧ decimal ≤ 9007199254740991 then some decimal else none
  | _ => none

/-! ## Groups -/

structure Group where
  flickrGroupId : Token
  displayName : String
deriving DecidableEq

/-- `length` of a string, in UTF-16 code units. -/
def utf16Length (text : String) : Nat :=
  (text.toList.map fun c => if c.toNat < 65536 then 1 else 2).sum

/-- `/[\x00-\x1f\x7f]/`. -/
def controlChar (c : Char) : Bool := c.toNat < 32 || c.toNat == 127

/-- What is asked of the name of a group. -/
def validGroupName (name : String) : Bool :=
  1 ≤ utf16Length name && utf16Length name ≤ 1024 && !name.toList.any controlChar

/-- One row of a page. -/
def pageGroup (row : JsonValue) : Option Group :=
  match row.field "nsid", row.field "name" with
  | some (.text nsid), some (.text name) =>
      if hid : isToken nsid = true then
        if validGroupName name then some ⟨⟨nsid, hid⟩, name⟩ else none
      else none
  | _, _ => none

/-- `GROUP_LIMITS.pages` and `GROUP_LIMITS.rows`. -/
def groupPageLimit : Nat := 25
def groupRowLimit : Nat := 10000

/-- The `per_page` that is asked for. -/
def groupPageSize : Nat := 400

/-- A validated page. -/
structure GroupPage where
  groups : List Group
  pages : Nat
  total : Nat
deriving DecidableEq

/-- `root` of a successful answer. -/
def pageRoot (value : JsonValue) : Option JsonValue :=
  match value.field "stat", value.field "groups" with
  | some stat, some root =>
      if stat.isText "ok" = true ∧ root.isObject = true then some root else none
  | _, _ => none

/-- The page size an answer tells, under either name. -/
def pageSize (root : JsonValue) : Option Nat :=
  match (JsonValue.orElse (root.field "per_page") (root.field "perpage")).bind pageInteger with
  | none => none
  | some size =>
      match root.field "per_page", root.field "perpage" with
      | some left, some right =>
          match pageInteger left, pageInteger right with
          | some left, some right => if left = right then some size else none
          | _, _ => none
      | _, _ => some size

/-- The groups of the rows, if each is well formed and none comes twice. -/
def pageGroups (rows : List JsonValue) : Option (List Group) :=
  (rows.mapM pageGroup).filter fun groups => (groups.map Group.flickrGroupId).Nodup

/-- `validateGroupPage`. -/
def validateGroupPage (value : JsonValue) (expectedPage : Nat) : Option GroupPage :=
  match pageRoot value with
  | none => none
  | some root =>
      match (root.field "page").bind pageInteger, (root.field "pages").bind pageInteger,
        (root.field "total").bind pageInteger, pageSize root, root.field "group" with
      | some page, some pages, some total, some perPage, some (.array rows) =>
          if page = expectedPage ∧ perPage = groupPageSize ∧ pages ≤ groupPageLimit ∧
              total ≤ groupRowLimit ∧
              (pages = (total + 399) / groupPageSize ∨ (total = 0 ∧ pages = 1)) ∧
              rows.length = min groupPageSize (total - (page - 1) * groupPageSize) then
            (pageGroups rows).map fun groups => ⟨groups, max 1 pages, total⟩
          else none
      | _, _, _, _, _ => none

/-! ## What a validated page is -/

/-- A validated page repeats no group. -/
theorem pageGroups_nodup {rows : List JsonValue} {groups : List Group}
    (h : pageGroups rows = some groups) : (groups.map Group.flickrGroupId).Nodup := by
  simpa using (Option.filter_eq_some_iff.mp h).2

/-- The answer behind a validated page says which page it is and tells the page size. -/
theorem validateGroupPage_some {value : JsonValue} {expectedPage : Nat} {parsed : GroupPage}
    (h : validateGroupPage value expectedPage = some parsed) :
    ∃ root, pageRoot value = some root ∧
      (root.field "page").bind pageInteger = some expectedPage ∧
      pageSize root = some groupPageSize ∧
      (root.field "total").bind pageInteger = some parsed.total ∧
      (parsed.groups.map Group.flickrGroupId).Nodup := by
  unfold validateGroupPage at h
  split at h
  · cases h
  next root hroot =>
  split at h
  · next page pages total perPage rows hpage hpages htotal hperPage hrows =>
      split at h
      · next hchecks =>
          obtain ⟨groups, hgroups, rfl⟩ := Option.map_eq_some_iff.mp h
          obtain ⟨rfl, rfl, _⟩ := hchecks
          exact ⟨root, hroot, hpage, hperPage, htotal, pageGroups_nodup hgroups⟩
      · cases h
  · cases h

end FlickrGroupAddr

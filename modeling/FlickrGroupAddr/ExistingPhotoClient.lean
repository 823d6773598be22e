import FlickrGroupAddr.ClientChecks
import FlickrGroupAddr.Lib.PagedReader
import FlickrGroupAddr.Lib.PercentCoding

/-!
# Page reads of the photo client and the group client

`ExistingPhotoClient.discover` and `memberships`, and the pages that
`GroupDiscoveryClient.discoverStored` reads.  Each asks for a page, checks what it gets,
and goes on where the page says.
-/

namespace FlickrGroupAddr

set_option autoImplicit false

open Spelling

/-! ## Photos -/

namespace PhotoClient

/-- `PAGE_SIZE`. -/
def defaultPageSize : LuaValue := .number (.finite false 5)

/-- The path of `discover`, none where the arguments are refused. -/
def discoverPath (pageNumber : LuaValue) (pageSize : Option LuaValue) : Option Bytes :=
  match pageNumber.integer? 1 1000000, (pageSize.getD defaultPageSize).integer? 1 100 with
  | some page, some size =>
    some (ascii "/api/v001/existing-public-photos?page=" ++ decimal page ++ ascii "&page_size=" ++
      decimal size)
  | _, _ => none

/-! ## Memberships -/

def maxMemberships : Nat := 10000

/-- The rounds of the loop of `membershipsOnce`. -/
def maxPages : Nat := 100

/-- The photo binding whose groups are read. -/
structure Binding where
  fgaPhotoBindingId : Bytes
  flickrPhotoId : Bytes

inductive Failure where
  | responseInvalid
  | observationChanged
  | observationUnavailable
  | invalidRequest
  /-- What the transport or the service reported. -/
  | reported (reason : Bytes)
deriving DecidableEq

/-- The memberships of a photo. -/
structure Memberships where
  groups : List LuaValue
  observedAt : Bytes
  observationRevision : Nat

abbrev Answer := Except Failure Memberships

/-- What the pages gave so far. -/
structure MembershipState where
  groups : List LuaValue
  seen : List Bytes
  /-- The revision and the time of the pages. -/
  observed : Option (Nat × Bytes)
  after : Option Bytes

def MembershipState.start : MembershipState := ⟨[], [], none, none⟩

def membershipFields : List Bytes :=
  ["schemaVersion", "fgaPhotoBindingId", "flickrPhotoId", "observationRevision", "observedAt",
    "groups", "nextAfterGroupId"].map ascii

/-- `text`: bytes without control characters, tab, newline and return apart. -/
def isPlainText (limit : Nat) (value : Bytes) : Bool :=
  decide (value.length ≤ limit) &&
    !value.any fun byte => decide (byte.toNat ≤ 8 ∨ byte.toNat = 11 ∨ byte.toNat = 12 ∨
      (14 ≤ byte.toNat ∧ byte.toNat ≤ 31) ∨ byte.toNat = 127)

/-- The groups of a page in order; the id of the last one, and all ids. -/
def readGroups : Option Bytes → List Bytes → List LuaValue → Option (Option Bytes × List Bytes)
  | previous, seen, [] => some (previous, seen)
  | previous, seen, group :: rest =>
    match (group.field? (ascii "flickrGroupId")).bind LuaValue.opaque?,
      (group.field? (ascii "displayName")).bind LuaValue.text? with
    | some id, some name =>
      if group.exact (["flickrGroupId", "displayName"].map ascii) ∧ isPlainText 1024 name ∧
          id ∉ seen ∧ (∀ last ∈ previous, bytesLess last id = true) then
        readGroups (some id) (id :: seen) rest
      else none
    | _, _ => none

/-- One page of `membershipsOnce`. -/
def membershipStep (binding : Binding) (s : MembershipState) :
    Except Bytes LuaValue → PagedReader.Next MembershipState Answer
  | .error reason => .done (.error (.reported reason))
  | .ok page =>
    match (page.field? (ascii "observationRevision")).bind
        (LuaValue.integer? 1 Binary64.Number.maxSafeInteger),
      (page.field? (ascii "observedAt")).bind LuaValue.text?,
      (page.field? (ascii "groups")).bind (LuaValue.array? 100) with
    | some revision, some observed, some rows =>
      if page.exact membershipFields ∧
          ((page.field? (ascii "schemaVersion")).bind (LuaValue.integer? 1 1)).isSome ∧
          (page.field? (ascii "fgaPhotoBindingId")).bind LuaValue.text? =
            some binding.fgaPhotoBindingId ∧
          (page.field? (ascii "flickrPhotoId")).bind LuaValue.text? = some binding.flickrPhotoId ∧
          isTimestamp observed then
        if s.observed ≠ none ∧ s.observed ≠ some (revision, observed) then
          .done (.error .observationChanged)
        else
          match readGroups s.after s.seen rows with
          | none => .done (.error .responseInvalid)
          | some (previous, seen) =>
            if maxMemberships < s.groups.length + rows.length then .done (.error .responseInvalid)
            else
              match page.field? (ascii "nextAfterGroupId") with
              | some .null => .done (.ok ⟨s.groups ++ rows, observed, revision⟩)
              | some (.text next) =>
                if rows ≠ [] ∧ isOpaqueId next ∧ previous = some next then
                  .more ⟨s.groups ++ rows, seen, some (revision, observed), some next⟩
                else .done (.error .responseInvalid)
              | _ => .done (.error .responseInvalid)
      else .done (.error .responseInvalid)
    | _, _, _ => .done (.error .responseInvalid)

/-- The path of the next page. -/
def membershipPath (binding : Binding) (s : MembershipState) : Bytes :=
  ascii "/api/v001/photo-bindings/" ++ percentEncode binding.fgaPhotoBindingId ++
    ascii "/group-memberships?page_size=100" ++
    match s.after, s.observed with
    | some after, some (revision, _) =>
      ascii "&observation_revision=" ++ decimal revision ++ ascii "&after_group_id=" ++
        percentEncode after
    | _, _ => []

/-- `membershipsOnce`. -/
def membershipReader (binding : Binding) :
    PagedReader.Reader MembershipState (Except Bytes LuaValue) Answer Bytes where
  ask := membershipPath binding
  step := membershipStep binding

def membershipsOnce (binding : Binding) (replies : List (Except Bytes LuaValue)) : Option Answer :=
  (membershipReader binding).result (.error .observationUnavailable) maxPages .start replies

/-- `memberships`: once more where the observation changed. -/
def memberships (binding : Binding) (replies retried : List (Except Bytes LuaValue)) :
    Option Answer :=
  if isOpaqueId binding.fgaPhotoBindingId = false ∨ isOpaqueId binding.flickrPhotoId = false then
    some (.error .invalidRequest)
  else
    match membershipsOnce binding replies with
    | some (.error .observationChanged) => membershipsOnce binding retried
    | answer => answer

/-- The paths that `memberships` asks for. -/
def membershipPaths (binding : Binding) (replies retried : List (Except Bytes LuaValue)) :
    List Bytes :=
  if isOpaqueId binding.fgaPhotoBindingId = false ∨ isOpaqueId binding.flickrPhotoId = false then []
  else
    (membershipReader binding).asked maxPages .start replies ++
      match membershipsOnce binding replies with
      | some (.error .observationChanged) =>
        (membershipReader binding).asked maxPages .start retried
      | _ => []

end PhotoClient

/-! ## Groups -/

namespace GroupClient

def pageSize : Nat := 100
def maxPages : Nat := 100
def maxGroups : Nat := 10000
def maxPendingPolls : Nat := 12
def maxWaitSeconds : Nat := 60

/-- How a discovery ends. -/
inductive Ending where
  | complete (groups : List LuaValue)
  | responseInvalid
  | retryable
  | snapshotChanged
  | authenticationUnconfirmed
  | administrativeRepair
deriving Inhabited

/-- Where the pages of a snapshot go on. -/
structure Cursor where
  snapshot : Nat
  after : Bytes
  refreshedAt : Bytes

structure State where
  groups : List LuaValue
  cursor : Option Cursor
  pages : Nat
  restarts : Nat
  polls : Nat
  waited : Nat

def State.start : State := ⟨[], none, 0, 0, 0, 0⟩

/-- A reply of the service, decoded. -/
inductive Reply where
  | unreachable
  /-- The body is too long, or is no strict JSON text of a table. -/
  | malformed
  /-- The status, the wait of a single `Retry-After` header, and the document. -/
  | document (status : Nat) (retryAfter : Option Nat) (value : LuaValue)

/-- `displayName`: at most 1,024 characters of UTF-8, none of them a control character. -/
def isDisplayName (value : Bytes) : Bool :=
  !value.isEmpty && decide (value.length ≤ 4096) && utf8Valid value &&
    !value.any (fun byte => decide (byte.toNat < 32 ∨ byte.toNat = 127)) &&
    decide ((value.filter fun byte => byte.toNat < 128 ∨ 192 ≤ byte.toNat).length ≤ 1024)

def pageFields : List Bytes :=
  ["schemaVersion", "snapshotRevision", "refreshedAt", "snapshotStatus", "refreshFailedAt",
    "groups", "nextAfterGroupId"].map ascii

def pageRequired : List Bytes :=
  ["schemaVersion", "snapshotRevision", "refreshedAt", "snapshotStatus", "groups",
    "nextAfterGroupId"].map ascii

/-- The groups of a page in order, and the id of the last one. -/
def readGroups : Option Bytes → List LuaValue → Option (Option Bytes)
  | previous, [] => some previous
  | previous, group :: rest =>
    match (group.field? (ascii "flickrGroupId")).bind LuaValue.opaque?,
      (group.field? (ascii "displayName")).bind LuaValue.text? with
    | some id, some name =>
      if group.exact (["flickrGroupId", "displayName"].map ascii) ∧ isDisplayName name ∧
          (∀ last ∈ previous, bytesLess last id = true) then readGroups (some id) rest
      else none
    | _, _ => none

/-- A page that passed its checks. -/
structure Page where
  snapshotRevision : Nat
  refreshedAt : Bytes
  groups : List LuaValue
  nextAfterGroupId : Option Bytes

/-- The times of the status agree with it. -/
def statusValid (value : LuaValue) : Bool :=
  match (value.field? (ascii "snapshotStatus")).bind LuaValue.text?,
    value.field? (ascii "refreshFailedAt") with
  | some status, failed =>
    if status = ascii "stale_refresh_failed" then
      ((failed.bind LuaValue.text?).map isTimestamp).getD false
    else decide (status = ascii "fresh" ∨ status = ascii "stale_refreshing") && failed.isNone
  | none, _ => false

/-- `pageValid`. -/
def readPage (value : LuaValue) (after : Option Bytes) : Option Page :=
  match (value.field? (ascii "snapshotRevision")).bind
      (LuaValue.integer? 1 Binary64.Number.maxSafeInteger),
    (value.field? (ascii "refreshedAt")).bind LuaValue.text?,
    (value.field? (ascii "groups")).bind (LuaValue.array? pageSize) with
  | some revision, some refreshed, some rows =>
    if value.exactWith pageFields pageRequired ∧
        ((value.field? (ascii "schemaVersion")).bind (LuaValue.integer? 1 1)).isSome ∧
        isTimestamp refreshed ∧ statusValid value then
      match readGroups after rows, value.field? (ascii "nextAfterGroupId") with
      | some _, some .null => some ⟨revision, refreshed, rows, none⟩
      | some previous, some (.text next) =>
        if isOpaqueId next ∧ rows ≠ [] ∧ previous = some next then
          some ⟨revision, refreshed, rows, some next⟩
        else none
      | _, _ => none
    else none
  | _, _, _ => none

/-- `errorCode`. -/
def errorCode (value : LuaValue) : Option Bytes :=
  match value.field? (ascii "error") with
  | none => none
  | some problem =>
    if value.exactWith (["schemaVersion", "error"].map ascii) (["schemaVersion", "error"].map ascii) ∧
        ((value.field? (ascii "schemaVersion")).bind (LuaValue.integer? 1 1)).isSome ∧
        problem.exactWith (["code", "message", "retryable", "correlationId"].map ascii)
          (["code", "message", "retryable", "correlationId"].map ascii) ∧
        ((problem.field? (ascii "message")).bind LuaValue.text?).isSome ∧
        ((problem.field? (ascii "retryable")).map LuaValue.isBoolean).getD false ∧
        ((problem.field? (ascii "correlationId")).bind LuaValue.opaque?).isSome then
      (problem.field? (ascii "code")).bind LuaValue.text?
    else none

/-- The document says that the groups are being refreshed. -/
def isRefreshing (value : LuaValue) : Bool :=
  value.exactWith (["schemaVersion", "status"].map ascii) (["schemaVersion", "status"].map ascii) &&
    ((value.field? (ascii "schemaVersion")).bind (LuaValue.integer? 1 1)).isSome &&
    (value.field? (ascii "status")).bind LuaValue.text? == some (ascii "refreshing")

/-- A page of groups. -/
def takePage (s : State) (page : Page) : PagedReader.Next State Ending :=
  if ∃ cursor ∈ s.cursor,
      cursor.snapshot ≠ page.snapshotRevision ∨ cursor.refreshedAt ≠ page.refreshedAt then
    .done .responseInvalid
  else if maxPages < s.pages + 1 ∨ maxGroups < s.groups.length + page.groups.length then
    .done .responseInvalid
  else
    match page.nextAfterGroupId with
    | none => .done (.complete (s.groups ++ page.groups))
    | some next =>
      if maxPages ≤ s.pages + 1 then .done .responseInvalid
      else
        .more { s with
          groups := s.groups ++ page.groups
          cursor := some ⟨page.snapshotRevision, next, page.refreshedAt⟩
          pages := s.pages + 1 }

/-- The loop of `discoverStored`. -/
def step (s : State) : Reply → PagedReader.Next State Ending
  | .unreachable => .done .retryable
  | .malformed => .done .responseInvalid
  | .document status retryAfter value =>
    if status = 200 then
      match readPage value (s.cursor.map Cursor.after) with
      | none => .done .responseInvalid
      | some page => takePage s page
    else if status = 202 then
      match s.cursor, isRefreshing value, retryAfter with
      | none, true, some delay =>
        if maxPendingPolls < s.polls + 1 ∨ maxWaitSeconds < s.waited + delay then .done .retryable
        else .more { s with polls := s.polls + 1, waited := s.waited + delay }
      | _, _, _ => .done .responseInvalid
    else if status = 409 ∧ errorCode value = some (ascii "snapshot_changed") then
      if 1 ≤ s.restarts then .done .snapshotChanged
      else .more { s with groups := [], cursor := none, pages := 0, restarts := s.restarts + 1 }
    else if status = 401 then .done .authenticationUnconfirmed
    else if status = 403 then .done .administrativeRepair
    else if 500 ≤ status ∧ status ≤ 599 then .done .retryable
    else .done .responseInvalid

/-- The path of the next page. -/
def path (s : State) : Bytes :=
  ascii "/api/v001/groups?page_size=" ++ decimal pageSize ++
    match s.cursor with
    | none => []
    | some cursor =>
      ascii "&snapshot_revision=" ++ decimal cursor.snapshot ++ ascii "&after_group_id=" ++
        percentEncode cursor.after

def reader : PagedReader.Reader State Reply Ending Bytes where
  ask := path
  step := step

end GroupClient

end FlickrGroupAddr

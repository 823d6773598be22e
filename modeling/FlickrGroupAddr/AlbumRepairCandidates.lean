import FlickrGroupAddr.AlbumRepairReceipts
import FlickrGroupAddr.PhotoPages

/-!
# Candidates for a repair

The pages of photosets that an owner may select from (`album_create_repair_discovery.ts`
and the candidates of `album_create_repair.ts`).  A page is worked out from the sets the
first photo is in when the page is read and from those it was in before the create.
-/

namespace FlickrGroupAddr

set_option autoImplicit false

open KeyedTable

/-! ## What Flickr answers -/

/-- `keys`: the object has these properties and no others. -/
def JsonValue.hasKeys (names : List String) : JsonValue → Bool
  | .object fields =>
      fields.length == names.length &&
        names.all fun name => fields.any fun entry => entry.1 == name
  | _ => false

/-- `id`: a token other than `0`. -/
def JsonValue.albumId : JsonValue → Option Token
  | .text id => if h : isToken id = true then if id = "0" then none else some ⟨id, h⟩ else none
  | _ => none

/-- One row of a context list. -/
def contextSetId (row : JsonValue) : Option Token :=
  if row.hasKeys ["id", "title"] = true ∧ (row.textField "title").any isDisplay = true then
    (row.field "id").bind JsonValue.albumId
  else none

/-- The ids of a context list, if each row is well formed and none comes twice. -/
def contextSetIds (rows : Option JsonValue) : Option (List Token) :=
  match rows with
  | some (.array rows) =>
      if rows.length ≤ 1000 then (rows.mapM contextSetId).filter fun ids => ids.Nodup else none
  | _ => none

/-- `albumContextIds`. -/
def albumContextIds (value : JsonValue) : Option (List Token) :=
  if value.says "stat" "ok" = true ∧ value.hasKeys ["stat", "set", "pool"] = true then
    (contextSetIds (value.field "set")).bind fun sets =>
      (contextSetIds (value.field "pool")).map fun _ => sets
  else none

/-- The properties of a photoset that are a text or a count. -/
def photosetScalars : List String :=
  ["id", "owner", "primary", "secret", "server", "farm", "photos", "count_views",
    "count_comments", "count_photos", "count_videos", "can_comment", "date_create", "date_update",
    "ownername", "username", "iconserver", "iconfarm", "needs_interstitial",
    "visibility_can_see_set"]

/-- `Number.isSafeInteger(value) && value >= 0`. -/
def isCount (value : Rat) : Bool :=
  decide (value.den = 1 ∧ 0 ≤ value.num ∧ value.num ≤ 9007199254740991)

def JsonValue.isScalar : JsonValue → Bool
  | .text content => content.toList.all fun c => !isControl c
  | .number value => isCount value
  | _ => false

/-- A property of a photoset; metadata never establishes an identity. -/
def photosetProperty (entry : String × JsonValue) : Bool :=
  if entry.1 = "title" then true
  else if entry.1 = "description" then
    entry.2.hasKeys ["_content"] && (entry.2.textField "_content").isSome
  else photosetScalars.contains entry.1 && entry.2.isScalar

/-- The properties of an object. -/
def JsonValue.properties : JsonValue → List (String × JsonValue)
  | .object fields => fields
  | _ => []

/-- `set.title._content`, if it may be shown. -/
def photosetTitle (set : JsonValue) : Option String :=
  (set.field "title").bind fun title =>
    if title.hasKeys ["_content"] then (title.textField "_content").filter isDisplay else none

/-- `verifyInfo`. -/
def verifyInfo (value set : JsonValue) (photosetId : Token) (ownerNsid : String) : Bool :=
  value.says "stat" "ok" && value.hasKeys ["stat", "photoset"] && set.says "id" photosetId.text &&
    set.says "owner" ownerNsid && ((set.field "primary").bind JsonValue.albumId).isSome &&
    (photosetTitle set).isSome && set.properties.all photosetProperty

/-- A date of a photoset, if it is there: seconds as a text or a number. -/
def photosetDate : Option JsonValue → Bool
  | none => true
  | some (.text seconds) =>
      isDecimal seconds && decide (seconds.length ≤ 16) &&
        decide (Calendar.digitsValue seconds.toList ≤ 9007199254740991)
  | some (.number seconds) => isCount seconds
  | some _ => false

/-! ## Addresses -/

/-- Every percent sign starts an escape. -/
def escapesWell : List UInt8 → Bool
  | [] => true
  | a :: rest =>
      if a = Spelling.percent then
        match rest with
        | b :: c :: more =>
            (Spelling.hexValue b).isSome && (Spelling.hexValue c).isSome && escapesWell more
        | _ => false
      else escapesWell rest

/-- `decodeURIComponent`; `none` is the error it throws. -/
def decodeURIComponent (component : String) : Option String :=
  let bytes := component.toUTF8.toList
  if escapesWell bytes then String.fromUTF8? ⟨(Spelling.percentDecode bytes).toArray⟩ else none

/-- The owner and the photoset of `/photos/{owner}/albums/{photoset}/`. -/
def albumPath (pathname : String) : Option (String × String) :=
  match pathname.toList.splitOn '/' with
  | [] :: photos :: owner :: kind :: photoset :: rest =>
      if String.ofList photos = "photos" ∧
          (String.ofList kind = "sets" ∨ String.ofList kind = "albums") ∧ owner ≠ [] ∧
          photoset ≠ [] ∧ (rest = [] ∨ rest = [[]]) then
        some (String.ofList owner, String.ofList photoset)
      else none
  | _ => none

/-- Nothing is in the URL but the host of the albums and a path. -/
def WebUrl.onlyAlbumHost (url : WebUrl) : Bool :=
  url.protocol == "https:" && (url.hostname == "www.flickr.com" || url.hostname == "flickr.com") &&
    url.port.isEmpty && url.username.isEmpty && url.password.isEmpty && url.search.isEmpty &&
    url.hash.isEmpty

/-- `[\s\\]`. -/
def addressBreak (c : Char) : Bool :=
  c == '\\' || c.isWhitespace ||
    decide (c.toNat ∈ [11, 12, 160, 5760, 8232, 8233, 8239, 8287, 12288, 65279]) ||
    decide (8192 ≤ c.toNat ∧ c.toNat ≤ 8202)

/-- A text of at most so many bytes without control characters. -/
def isBoundedText (bytes : Nat) (content : String) : Bool :=
  decide (content.utf8ByteSize ≤ bytes) && content.toList.all fun c => !isControl c

/-- `albumNavigationUrl`. -/
def albumNavigationUrl (parse : String → Option WebUrl) (value : String) (photosetId : Token) :
    Option String :=
  if isBoundedText 2048 value = true ∧ value ≠ "" ∧ value.toList.any addressBreak = false then
    (parse value).bind fun url =>
      if url.onlyAlbumHost then
        (albumPath url.pathname).bind fun path =>
          match decodeURIComponent path.1, decodeURIComponent path.2 with
          | some owner, some photoset =>
              if (JsonValue.text owner).albumId.isSome = true ∧ photoset = photosetId.text then
                some value
              else none
          | _, _ => none
      else none
  else none

/-! ## The reader -/

/-- What ends a request for candidates without a page: a code of the reader, an error of
the store, an error thrown by what the reader was composed with, or a page that failed the
last checks. -/
inductive RepairFault where
  | candidateEvidenceUnavailable
  | pageOutOfRange
  | invalidRequest
  | serviceUnavailable
  | store (error : AlbumError)
  | authority (code : String)
  | integrity
deriving DecidableEq

/-- `AlbumRepairReadIdentity`; its ids were drawn as UUIDs. -/
structure AlbumRepairReadIdentity where
  bindingId : Token
  bindingRevision : Nat
  createAttemptId : Token
  firstPhotoId : Token
  ownerNsid : String
  preContextIds : List Token

/-- What `createSyntheticAlbumCreateRepairReader` asks of its input. -/
def AlbumRepairReadIdentity.valid (identity : AlbumRepairReadIdentity) : Prop :=
  revisionInRange identity.bindingRevision ∧ identity.firstPhotoId.text ≠ "0" ∧
    (JsonValue.text identity.ownerNsid).albumId.isSome = true ∧ contextsValid identity.preContextIds

instance (identity : AlbumRepairReadIdentity) : Decidable identity.valid :=
  inferInstanceAs (Decidable (_ ∧ _ ∧ _ ∧ _))

/-- What the injected parts answer during one operation: each recheck of the deadline and
of `assertCurrent`, the reservation, the bodies that are read, the clock, and `new URL`. -/
structure RepairReads where
  current : Nat → Except RepairFault Unit
  reserveReads : Nat → Except RepairFault Unit
  contexts : Token → Except RepairFault JsonValue
  info : Token → Except RepairFault JsonValue
  inTime : Except RepairFault Unit
  observedAt : String
  parse : String → Option WebUrl

/-- `AlbumRepairCandidate`; its dates and its thumbnail are always null. -/
structure AlbumRepairCandidate where
  flickrPhotosetId : Token
  title : String
  ownerNsid : String
  primaryPhotoId : Token
  navigationUrl : String
deriving DecidableEq

/-- `AlbumRepairCandidatePage`. -/
structure AlbumRepairCandidatePage where
  fgaAlbumBindingId : Token
  bindingRevision : Nat
  createAttemptId : Token
  observedAt : String
  page : Nat
  pageSize : Nat
  pages : Nat
  total : Nat
  candidates : List AlbumRepairCandidate
deriving DecidableEq

/-- `candidate`. -/
def repairCandidate (parse : String → Option WebUrl) (value : JsonValue) (photosetId : Token)
    (ownerNsid : String) : Option AlbumRepairCandidate :=
  (value.field "photoset").bind fun set =>
    match (set.field "owner").bind JsonValue.albumId, photosetTitle set,
      (set.field "primary").bind JsonValue.albumId with
    | some owner, some title, some primary =>
        if verifyInfo value set photosetId owner.text = true ∧ owner.text = ownerNsid ∧
            photosetDate (set.field "date_create") = true ∧
            photosetDate (set.field "date_update") = true then
          (albumNavigationUrl parse ("https://www.flickr.com/photos/" ++
              encodeURIComponent ownerNsid ++ "/albums/" ++ encodeURIComponent photosetId.text ++
              "/") photosetId).map fun url => ⟨photosetId, title, ownerNsid, primary, url⟩
        else none
    | _, _, _ => none

/-- `ids.filter(value => !before.has(value)).sort()`; on tokens the order of code units is
the order of characters. -/
def contextDifference (ids before : List Token) : List Token :=
  (ids.filter fun id => decide (id ∉ before)).insertionSort fun left right => left.text ≤ right.text

/-- `timestamp`: microseconds, at a time of the calendar. -/
def isInstant (instant : String) : Bool :=
  Calendar.hasShape "dddd-dd-ddTdd:dd:dd.ddddddZ".toList instant.toList &&
    (Calendar.readFields instant.toList).any fun fields => decide fields.Exists

/-! ## The body of a page -/

/-- A text as `JSON.stringify` writes it. -/
def quoted (content : String) : String :=
  let escaped := content.toList.flatMap fun c =>
    if c = '"' ∨ c = '\\' then ['\\', c]
    else if c.toNat < 32 then
      match c.toNat with
      | 8 => ['\\', 'b']
      | 9 => ['\\', 't']
      | 10 => ['\\', 'n']
      | 12 => ['\\', 'f']
      | 13 => ['\\', 'r']
      | code => ['\\', 'u', '0', '0', Char.ofNat (48 + code / 16),
          Char.ofNat (Spelling.hexByte (code % 16)).toNat |>.toLower]
    else [c]
  String.ofList ('"' :: escaped ++ ['"'])

def AlbumRepairCandidate.json (row : AlbumRepairCandidate) : String :=
  "\x7b\"flickrPhotosetId\":" ++ quoted row.flickrPhotosetId.text ++ ",\"title\":" ++
    quoted row.title ++ ",\"ownerNsid\":" ++ quoted row.ownerNsid ++ ",\"primaryPhotoId\":" ++
    quoted row.primaryPhotoId.text ++ ",\"createdAt\":null,\"updatedAt\":null,\"navigationUrl\":" ++
    quoted row.navigationUrl ++ ",\"thumbnail\":null\x7d"

/-- `JSON.stringify` of a page. -/
def AlbumRepairCandidatePage.json (page : AlbumRepairCandidatePage) : String :=
  "\x7b\"schemaVersion\":1,\"fgaAlbumBindingId\":" ++ quoted page.fgaAlbumBindingId.text ++
    ",\"bindingRevision\":" ++ toString page.bindingRevision ++ ",\"createAttemptId\":" ++
    quoted page.createAttemptId.text ++ ",\"observedAt\":" ++ quoted page.observedAt ++
    ",\"page\":" ++ toString page.page ++ ",\"pageSize\":" ++ toString page.pageSize ++
    ",\"pages\":" ++ toString page.pages ++ ",\"total\":" ++ toString page.total ++
    ",\"candidates\":[" ++ String.intercalate "," (page.candidates.map AlbumRepairCandidate.json) ++
    "]\x7d"

/-- The largest body that is sent. -/
def candidateBodyLimit : Nat := 524288

/-! ## A page -/

/-- `page` and `pageSize` of `discover`. -/
def discoverable (page pageSize : Nat) : Prop :=
  (1 ≤ page ∧ page ≤ 1000) ∧ 1 ≤ pageSize ∧ pageSize ≤ 20

instance (page pageSize : Nat) : Decidable (discoverable page pageSize) :=
  inferInstanceAs (Decidable (_ ∧ _))

/-- A value, or the fault that there is none. -/
def orFault {α : Type} (value : Option α) (fault : RepairFault) : Except RepairFault α :=
  match value with
  | some value => .ok value
  | none => .error fault

/-- A condition, or the fault that it does not hold. -/
def demand (p : Prop) [Decidable p] (fault : RepairFault) : Except RepairFault Unit :=
  if p then .ok () else .error fault

namespace RepairReads

variable (reads : RepairReads)

/-- The photosets of a page are looked up one after the other. -/
def candidates (identity : AlbumRepairReadIdentity) :
    Nat → List Token → Except RepairFault (List AlbumRepairCandidate)
  | _, [] => .ok []
  | n, photosetId :: rest => do
      reads.current n
      let value ← reads.info photosetId
      let row ← orFault (repairCandidate reads.parse value photosetId identity.ownerNsid)
        .candidateEvidenceUnavailable
      let rows ← candidates identity (n + 1) rest
      return row :: rows

/-- The page itself, from the sets that the first photo is in. -/
def pageOf (identity : AlbumRepairReadIdentity) (page pageSize : Nat) (ids : List Token) :
    Except RepairFault AlbumRepairCandidatePage := do
  let difference := contextDifference ids identity.preContextIds
  let total := difference.length
  let pages := Paging.pageCount total pageSize
  demand (if total = 0 then page = 1 else page ≤ pages) .pageOutOfRange
  let rows ← reads.candidates identity 3 (Paging.slice difference pageSize page)
  demand (isInstant reads.observedAt) .serviceUnavailable
  let result : AlbumRepairCandidatePage :=
    ⟨identity.bindingId, identity.bindingRevision, identity.createAttemptId, reads.observedAt,
      page, pageSize, pages, total, rows⟩
  demand (result.json.utf8ByteSize ≤ candidateBodyLimit) .serviceUnavailable
  return result

/-- `discover`, after the constructor took the identity. -/
def discover (identity : AlbumRepairReadIdentity) (page pageSize : Nat) :
    Except RepairFault AlbumRepairCandidatePage := do
  demand identity.valid .candidateEvidenceUnavailable
  demand (discoverable page pageSize) .invalidRequest
  reads.current 0
  reads.reserveReads (pageSize + 1)
  reads.current 1
  reads.current 2
  let value ← reads.contexts identity.firstPhotoId
  let ids ← orFault (albumContextIds value) .candidateEvidenceUnavailable
  let result ← reads.pageOf identity page pageSize ids
  reads.current (pageSize + 3)
  reads.inTime
  return result

end RepairReads

/-! ## A request -/

/-- `parseAlbumCreateRepairPage`, on the raw query. -/
def parseAlbumCreateRepairPage (search : String) (maxSize : Nat) : Option (Nat × Nat) :=
  let number (name : String) (part : List Char) : Option Nat :=
    if name.toList.isPrefixOf part then positiveDecimal (String.ofList (part.drop name.length))
    else none
  let bounded (page pageSize : Nat) : Option (Nat × Nat) :=
    if page ≤ 1000 ∧ pageSize ≤ maxSize then some (page, pageSize) else none
  match search.toList.splitOn '&' with
  | [first, second] =>
      match number "?page=" first, number "page_size=" second with
      | some page, some pageSize => bounded page pageSize
      | _, _ =>
          match number "?page_size=" first, number "page=" second with
          | some pageSize, some page => bounded page pageSize
          | _, _ => none
  | _ => none

/-- `readAlbumRepairContext`. -/
def readAlbumRepairContext (m : Moment) (db : AlbumDb) (auth : RepairAuth) (bindingId : Token) :
    Except AlbumError RepairContext :=
  (repairRow m db auth bindingId).bind fun row => repairContext auth row

/-- The fields that `sameContext` compares besides the revision of the binding. -/
def RepairContext.standing (c : RepairContext) : RepairContext :=
  { c with bindingRevision := 0, preContextIds := [], observedAtUs := 0 }

/-- `assertAlbumRepairContext`. -/
def assertAlbumRepairContext (m : Moment) (db : AlbumDb) (auth : RepairAuth)
    (prior : RepairContext) : Except AlbumError Unit :=
  (readAlbumRepairContext m db auth prior.bindingId).bind fun current =>
    if current.bindingRevision ≠ prior.bindingRevision then .error .staleBindingRevision
    else if current.standing ≠ prior.standing then .error .flickrLinkUnavailable
    else if prior.deadlineAtUs ≤ current.observedAtUs then .error .resolutionEvidenceUnavailable
    else if current.preContextIds ≠ prior.preContextIds then .error .serviceUnavailable
    else .ok ()

/-- The identity the reader is made with. -/
def RepairContext.identity (c : RepairContext) : AlbumRepairReadIdentity :=
  ⟨c.bindingId, c.bindingRevision, c.attemptId, c.firstPhotoId, c.ownerNsid, c.preContextIds⟩

/-- `nav`: the path of the address names the photoset as it is spelled. -/
def navigates (parse : String → Option WebUrl) (row : AlbumRepairCandidate) : Bool :=
  isBoundedText 2048 row.navigationUrl && !row.navigationUrl.isEmpty &&
    (parse row.navigationUrl).any fun url =>
      url.onlyAlbumHost && (albumPath url.pathname).any fun path => path.2 == row.flickrPhotosetId.text

/-- Each id is before the next. -/
def idsAscend : List Token → Bool
  | first :: second :: rest => decide (first.text < second.text) && idsAscend (second :: rest)
  | _ => true

/-- What `responseBody` asks of a page, with the schema of candidate pages. -/
def candidateBody (parse : String → Option WebUrl) (bindingId : Token)
    (page : AlbumRepairCandidatePage) : Prop :=
  (discoverable page.page page.pageSize ∧ page.candidates.length ≤ 20 ∧
    revisionInRange page.bindingRevision ∧ isInstant page.observedAt = true) ∧
  idsAscend (page.candidates.map AlbumRepairCandidate.flickrPhotosetId) = true ∧
  (page.fgaAlbumBindingId = bindingId ∧ page.pages = Paging.pageCount page.total page.pageSize ∧
    page.page ≤ max 1 page.pages ∧
    page.candidates.length = Paging.rowsOn page.total page.pageSize page.page) ∧
  (∀ row ∈ page.candidates, row.title.length ≤ 4096 ∧ isDisplay row.title = true ∧
    isToken row.ownerNsid = true ∧ navigates parse row = true) ∧
  page.json.utf8ByteSize ≤ candidateBodyLimit

instance (parse : String → Option WebUrl) (bindingId : Token) (page : AlbumRepairCandidatePage) :
    Decidable (candidateBody parse bindingId page) :=
  inferInstanceAs (Decidable (_ ∧ _ ∧ _ ∧ _ ∧ _))

/-- The page is the one asked for, and offers nothing of another owner and nothing that was
there before. -/
def pageFits (c : RepairContext) (page pageSize : Nat) (result : AlbumRepairCandidatePage) : Prop :=
  (result.page = page ∧ result.pageSize = pageSize ∧ result.bindingRevision = c.bindingRevision ∧
    result.createAttemptId = c.attemptId) ∧
  ∀ row ∈ result.candidates, row.ownerNsid = c.ownerNsid ∧ row.flickrPhotosetId ∉ c.preContextIds

instance (c : RepairContext) (page pageSize : Nat) (result : AlbumRepairCandidatePage) :
    Decidable (pageFits c page pageSize result) :=
  inferInstanceAs (Decidable (_ ∧ _))

/-- What one request meets: the database when it reads the context, what its reader is
answered, and the database when it asserts the context. -/
structure RepairVisit where
  opened : Moment
  openedDb : AlbumDb
  reads : RepairReads
  closed : Moment
  closedDb : AlbumDb

/-- `albumCreateRepairRequest` for the candidates of a binding. -/
def createRepairCandidates (visit : RepairVisit) (auth : RepairAuth) (bindingId : Token)
    (search : String) : Except RepairFault AlbumRepairCandidatePage := do
  let (page, pageSize) ← orFault (parseAlbumCreateRepairPage search 20) .invalidRequest
  let context ← (readAlbumRepairContext visit.opened visit.openedDb auth bindingId).mapError .store
  let result ← visit.reads.discover context.identity page pageSize
  (assertAlbumRepairContext visit.closed visit.closedDb auth context).mapError .store
  demand (pageFits context page pageSize result) .integrity
  demand (candidateBody visit.reads.parse bindingId result) .integrity
  return result

end FlickrGroupAddr

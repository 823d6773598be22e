import FlickrGroupAddr.PhotoMemberships
import FlickrGroupAddr.Lib.Binary64
import FlickrGroupAddr.Lib.Paging
import FlickrGroupAddr.Lib.PercentCoding

/-!
# Pages of photos

`validateDiscovery` of `existing_photo_discovery.ts` and `validateUploadCandidatePage`
of `upload_candidates.ts`: what one page of `flickr.people.getPhotos` must look like
before its photos are shown.  Both work out from the numbers of the answer how many
pages there must be and how many rows this one must hold.
-/

namespace FlickrGroupAddr

set_option autoImplicit false

/-! ## What is asked for -/

/-- The message of what a query or a page is refused with; `invalidUrl` is the error of
`new URL`. -/
inductive PhotoPageFault where
  | invalidRequest
  | shape
  | invalidUrl
  | unavailable
  | pageOutOfRange
deriving DecidableEq

/-- A page of a listing, as a request names it. -/
structure PhotoQuery where
  page : Nat
  size : Nat
  page_pos : 1 ≤ page
  page_safe : page ≤ 9007199254740991
  size_pos : 1 ≤ size
  size_le : size ≤ 100

/-! ## What a page says of itself -/

/-- The numbers an answer declares. -/
structure PageHead where
  page : Nat
  pages : Nat
  total : Nat
  size : Nat
deriving DecidableEq

/-- `root.perpage ?? root.per_page`, and no two different sizes. -/
def photoPageSize (root : JsonValue) : Option Nat :=
  match (JsonValue.orElse (root.field "perpage") (root.field "per_page")).bind pageInteger with
  | none => none
  | some size =>
      match root.field "perpage", root.field "per_page" with
      | some left, some right =>
          match pageInteger left, pageInteger right with
          | some left, some right => if left = right then some size else none
          | _, _ => none
      | _, _ => some size

/-- The four numbers, read with `photoInteger`. -/
def photoPageHead (root : JsonValue) : Option PageHead :=
  match (root.field "page").bind pageInteger, (root.field "pages").bind pageInteger,
    (root.field "total").bind pageInteger, photoPageSize root with
  | some page, some pages, some total, some size => some ⟨page, pages, total, size⟩
  | _, _, _, _ => none

/-- `value.photos` of a successful answer. -/
def photosRoot (value : JsonValue) : Option JsonValue :=
  match value.field "stat", value.field "photos" with
  | some stat, some root =>
      if stat.isText "ok" = true ∧ root.isObject = true then some root else none
  | _, _ => none

/-- `Math.ceil(total / size)`: the quotient is rounded to a number first. -/
def ceilQuotient (total size : Nat) : Int := ⌈Binary64.roundMagnitude (total / size)⌉

/-- `Math.min(size, Math.max(0, total - (page - 1) * size))`; a product beyond the safe
integers is above every total, rounded or not. -/
def expectedRows (total size page : Nat) : Nat := min size (total - (page - 1) * size)

/-- `Array.isArray(root.photo)`. -/
def photoRows (root : JsonValue) : Option (List JsonValue) :=
  match root.field "photo" with
  | some (.array rows) => some rows
  | _ => none

/-- `root.photo.map`: the rows in order, each with the ids before it. -/
def readRows {α : Type} (read : List Token → JsonValue → Except PhotoPageFault α)
    (idOf : α → Token) : List Token → List JsonValue → Except PhotoPageFault (List α)
  | _, [] => .ok []
  | seen, row :: rows =>
      match read seen row with
      | .error fault => .error fault
      | .ok item =>
          match readRows read idOf (idOf item :: seen) rows with
          | .error fault => .error fault
          | .ok items => .ok (item :: items)

/-- An id that matches `PHOTO_ID` and has not been seen. -/
def freshId (seen : List Token) (row : JsonValue) : Option Token :=
  match row.field "id" with
  | some (.text id) =>
      if h : isToken id = true then
        if (⟨id, h⟩ : Token) ∈ seen then none else some ⟨id, h⟩
      else none
  | _ => none

/-- A property that is a string. -/
def JsonValue.textField (name : String) (value : JsonValue) : Option String :=
  match value.field name with
  | some (.text found) => some found
  | _ => none

/-- `=== expected`, for a string. -/
def JsonValue.says (name expected : String) (value : JsonValue) : Bool :=
  (value.field name).any fun found => found.isText expected

/-- `[1, '1'].includes(value)`. -/
def JsonValue.isOne : JsonValue → Bool
  | .number value => value == 1
  | value => value.isText "1"

/-! ## Texts of a row -/

/-- What `new URL` reads off a text. -/
structure WebUrl where
  protocol : String
  hostname : String
  port : String
  username : String
  password : String
  search : String
  hash : String
  pathname : String

/-- `[A-Za-z0-9_-]`. -/
def thumbnailChar (c : Char) : Bool := c.isAlphanum || c == '_' || c == '-'

/-- `/^[A-Za-z0-9_-]+_q\.(?:jpg|jpeg|png)$/i`. -/
def isThumbnailName (name : List Char) : Bool :=
  ["_q.jpg", "_q.jpeg", "_q.png"].any fun ending =>
    let stem := name.take (name.length - ending.length)
    ending.toList.isSuffixOf (name.map Char.toLower) && !stem.isEmpty && stem.all thumbnailChar

/-- `/^\/[0-9]+\/[A-Za-z0-9_-]+_q\.(?:jpg|jpeg|png)$/i`. -/
def isThumbnailPath (path : List Char) : Bool :=
  match path with
  | '/' :: rest =>
      !(rest.takeWhile Char.isDigit).isEmpty &&
        match rest.dropWhile Char.isDigit with
        | '/' :: name => isThumbnailName name
        | _ => false
  | _ => false

/-- Nothing is in the URL but the host of the thumbnails and a path. -/
def WebUrl.onlyThumbnailHost (url : WebUrl) : Bool :=
  url.protocol == "https:" && url.hostname == "live.staticflickr.com" && url.port.isEmpty &&
    url.username.isEmpty && url.password.isEmpty && url.search.isEmpty && url.hash.isEmpty

/-- `uploadDate`: seconds that a date can show. -/
def uploadDate (text : String) : Bool :=
  isDecimal text && decide (text.length ≤ 13) &&
    decide (Calendar.digitsValue text.toList ≤ 8640000000000)

/-- `takenDate`: a time of the calendar with a blank between date and time of day. -/
def takenDate (text : String) : Bool :=
  Calendar.hasShape "dddd-dd-dd dd:dd:dd".toList text.toList &&
    (Calendar.readFields ((text.toList.take 10) ++ 'T' :: text.toList.drop 11)).any fun fields =>
      decide fields.Exists

/-- `seconds`. -/
def candidateSeconds (text : String) : Bool := isDecimal text && decide (text.length ≤ 12)

/-! ## Existing photos -/

/-- `thumbnail`. -/
structure Thumbnail where
  url : String
  sizeClass : String
deriving DecidableEq

structure DiscoveredPhoto where
  flickrPhotoId : Token
  title : String
  dateUploaded : String
  dateTaken : String
  thumbnail : Thumbnail
deriving DecidableEq

/-- The checks on a row before the URL of its thumbnail is read. -/
def discoveredRow (owner : String) (seen : List Token) (row : JsonValue) :
    Option DiscoveredPhoto :=
  match freshId seen row, row.textField "title", row.textField "dateupload",
    row.textField "datetaken", row.textField "url_q" with
  | some id, some title, some uploaded, some taken, some url =>
      if row.says "owner" owner = true ∧
          (row.field "ispublic").any JsonValue.isOne = true ∧
          row.says "media" "photo" = true ∧ photoTitle title = true ∧ uploadDate uploaded = true ∧
          takenDate taken = true ∧ utf16Length url ≤ 2048 then
        some ⟨id, title, uploaded, taken, ⟨url, "q"⟩⟩
      else none
  | _, _, _, _, _ => none

/-- One row of a discovery page. -/
def discoveredPhoto (parse : String → Option WebUrl) (owner : String) (seen : List Token)
    (row : JsonValue) : Except PhotoPageFault DiscoveredPhoto :=
  match discoveredRow owner seen row with
  | none => .error .shape
  | some photo =>
      match parse photo.thumbnail.url with
      | none => .error .invalidUrl
      | some url =>
          if url.onlyThumbnailHost = true ∧ isThumbnailPath url.pathname.toList = true then .ok photo
          else .error .shape

structure DiscoveredPhotos where
  page : Nat
  pageSize : Nat
  pages : Nat
  total : Nat
  photos : List DiscoveredPhoto
deriving DecidableEq

/-- What the numbers of a discovery page must be. -/
def discoveryFits (query : PhotoQuery) (head : PageHead) (rows : List JsonValue) : Prop :=
  head.page = query.page ∧ head.size = query.size ∧
    (head.pages = ceilQuotient head.total head.size ∨ (head.total = 0 ∧ head.pages = 1)) ∧
    rows.length = expectedRows head.total head.size head.page

instance (query : PhotoQuery) (head : PageHead) (rows : List JsonValue) :
    Decidable (discoveryFits query head rows) := inferInstanceAs (Decidable (_ ∧ _))

/-- `validateDiscovery`. -/
def validateDiscovery (parse : String → Option WebUrl) (value : JsonValue) (query : PhotoQuery)
    (owner : String) : Except PhotoPageFault DiscoveredPhotos :=
  match photosRoot value with
  | none => .error .shape
  | some root =>
      match photoPageHead root, photoRows root with
      | some head, some rows =>
          if discoveryFits query head rows then
            (readRows (discoveredPhoto parse owner) DiscoveredPhoto.flickrPhotoId [] rows).map
              fun photos => ⟨head.page, head.size, head.pages, head.total, photos⟩
          else .error .shape
      | _, _ => .error .shape

/-! ## Upload candidates -/

structure UploadCandidate where
  flickrPhotoId : Token
  title : String
  dateUploaded : String
  thumbnail : Thumbnail
  photopageUrl : String
deriving DecidableEq

/-- `encodeURIComponent`. -/
def encodeURIComponent (text : String) : String :=
  String.ofList <| (text.toUTF8.toList.flatMap fun byte =>
    if Spelling.isUnreserved byte || decide (byte.toNat ∈ [33, 39, 40, 41, 42]) then [byte]
    else [Spelling.percent, Spelling.hexByte (byte.toNat / 16),
      Spelling.hexByte (byte.toNat % 16)]).map fun byte => Char.ofNat byte.toNat

/-- The checks on a row before its thumbnail. -/
def candidateRow (owner : String) (minUploadDate maxUploadDate : Nat) (seen : List Token)
    (row : JsonValue) : Option (Token × String × String) :=
  match freshId seen row, row.textField "title", row.textField "dateupload" with
  | some id, some title, some uploaded =>
      if row.says "owner" owner = true ∧ row.says "media" "photo" = true ∧
          '\x00' ∉ title.toList ∧ title.utf8ByteSize ≤ 4096 ∧ candidateSeconds uploaded = true ∧
          minUploadDate ≤ Calendar.digitsValue uploaded.toList ∧
          Calendar.digitsValue uploaded.toList ≤ maxUploadDate then
        some (id, title, uploaded)
      else none
  | _, _, _ => none

/-- The text of a thumbnail before it is read as a URL. -/
def isThumbnailText (raw : String) : Bool :=
  let host := "https://live.staticflickr.com".toList
  decide (utf16Length raw ≤ 2048) &&
    raw.toList.all (fun c => decide (33 ≤ c.toNat ∧ c.toNat ≤ 126)) &&
    host.isPrefixOf (raw.toList.map Char.toLower) && isThumbnailPath (raw.toList.drop host.length)

/-- `thumbnail`. -/
def candidateThumbnail (parse : String → Option WebUrl) (value : Option JsonValue) :
    Except PhotoPageFault Thumbnail :=
  match value with
  | some (.text raw) =>
      if isThumbnailText raw then
        match parse raw with
        | none => .error .invalidUrl
        | some url => if url.onlyThumbnailHost then .ok ⟨raw, "q"⟩ else .error .unavailable
      else .error .unavailable
  | _ => .error .unavailable

/-- One row of a candidate page. -/
def uploadCandidate (parse : String → Option WebUrl) (owner : String)
    (minUploadDate maxUploadDate : Nat) (seen : List Token) (row : JsonValue) :
    Except PhotoPageFault UploadCandidate :=
  match candidateRow owner minUploadDate maxUploadDate seen row with
  | none => .error .unavailable
  | some (id, title, uploaded) =>
      (candidateThumbnail parse (row.field "url_q")).map fun thumbnail =>
        ⟨id, title, uploaded, thumbnail, "https://www.flickr.com/photos/" ++
          encodeURIComponent owner ++ "/" ++ encodeURIComponent id.text ++ "/"⟩

structure CandidatePage where
  page : Nat
  pageSize : Nat
  pages : Nat
  total : Nat
  photos : List UploadCandidate
deriving DecidableEq

/-- The largest number of pages and of photos that is believed. -/
def candidateCountLimit : Nat := 2147483647

/-- The numbers are those of the page asked for, and none is too large. -/
def candidateHeadFits (query : PhotoQuery) (head : PageHead) : Prop :=
  head.page = query.page ∧ head.size = query.size ∧ head.total ≤ candidateCountLimit ∧
    head.pages ≤ candidateCountLimit

instance (query : PhotoQuery) (head : PageHead) : Decidable (candidateHeadFits query head) :=
  inferInstanceAs (Decidable (_ ∧ _))

/-- The checks on the numbers of a listing with rows. -/
def candidateRange (head : PageHead) (rows : List JsonValue) : Except PhotoPageFault Unit :=
  if (head.pages : Int) ≠ ceilQuotient head.total head.size then .error .unavailable
  else if head.pages < head.page then
    if rows.isEmpty then .error .pageOutOfRange else .error .unavailable
  else if rows.length ≠ expectedRows head.total head.size head.page then .error .unavailable
  else .ok ()

/-- `validateUploadCandidatePage`. -/
def validateUploadCandidatePage (parse : String → Option WebUrl) (value : JsonValue)
    (query : PhotoQuery) (owner : String) (minUploadDate maxUploadDate : Nat) :
    Except PhotoPageFault CandidatePage :=
  match photosRoot value with
  | none => .error .unavailable
  | some root =>
      match photoPageHead root with
      | none => .error .shape
      | some head =>
          match photoRows root with
          | none => .error .unavailable
          | some rows =>
              if ¬ candidateHeadFits query head then .error .unavailable
              else if head.total = 0 then
                if (head.pages ≠ 0 ∧ head.pages ≠ 1) ∨ rows ≠ [] then .error .unavailable
                else if head.page ≠ 1 then .error .pageOutOfRange
                else .ok ⟨head.page, head.size, 0, head.total, []⟩
              else
                match candidateRange head rows with
                | .error fault => .error fault
                | .ok () =>
                    (readRows (uploadCandidate parse owner minUploadDate maxUploadDate)
                      UploadCandidate.flickrPhotoId [] rows).map
                      fun photos => ⟨head.page, head.size, head.pages, head.total, photos⟩

end FlickrGroupAddr

import FlickrGroupAddr.GroupCatalogue
import FlickrGroupAddr.UploadAuthorizations

/-!
# Observing the groups of a photo

`photoMembershipsRequest` of `photo_memberships.ts`.  A first page retires what was
observed, reads the contexts of the photo and replaces the observation; every page is read
under the revision of the observation.
-/

namespace FlickrGroupAddr

set_option autoImplicit false

open KeyedTable Program Workers

/-! ## Tables -/

/-- `photo_membership_observations`. -/
structure MembershipObservation where
  bindingId : Token
  revision : Nat
  linkRevision : Nat
  generation : Token
  valid : Bool
  observedAtUs : Us
deriving DecidableEq

/-- `photo_membership_rows`. -/
structure MembershipRow where
  bindingId : Token
  group : Group
deriving DecidableEq

def MembershipRow.key (row : MembershipRow) : Token × Token :=
  (row.bindingId, row.group.flickrGroupId)

structure MembershipStore where
  db : Db
  observations : Table MembershipObservation.bindingId
  rows : Table MembershipRow.key

/-! ## What a request and an answer must look like -/

/-- `/^[1-9][0-9]*$/`, with its value. -/
def positiveDecimal (text : String) : Option Nat :=
  match text.toList with
  | [] => none
  | first :: rest =>
      if first ≠ '0' ∧ first.isDigit = true ∧ rest.all Char.isDigit = true then
        some (Calendar.digitsValue (first :: rest))
      else none

/-- `q.get(name)`. -/
def queryParameter (params : List (String × String)) (name : String) : Option String :=
  (params.find? fun param => param.1 = name).map Prod.snd

namespace MembershipQuery

/-- Only these names are there, and none twice. -/
def wellNamed (params : List (String × String)) : Bool :=
  decide (params.map Prod.fst).Nodup &&
    params.all fun param => decide (param.1 ∈ ["page_size", "observation_revision", "after_group_id"])

/-- The size, the revision and the cursor, or that there is no revision and no cursor. -/
def parts (params : List (String × String)) : Option (Nat × Option (Nat × Token)) :=
  match (queryParameter params "page_size").bind positiveDecimal,
    queryParameter params "observation_revision", queryParameter params "after_group_id" with
  | some size, none, none => some (size, none)
  | some size, some revision, some after =>
      match positiveDecimal revision with
      | some revision =>
          if revision ≤ 9007199254740991 then
            if h : isToken after = true then some (size, some (revision, ⟨after, h⟩)) else none
          else none
      | none => none
  | _, _, _ => none

end MembershipQuery

/-- `membershipQuery`. -/
def membershipQuery (params : List (String × String)) : Option PageQuery :=
  if MembershipQuery.wellNamed params then
    match MembershipQuery.parts params with
    | some (size, cursor) =>
        if h : 1 ≤ size ∧ size ≤ 100 then
          some
            { size := size
              revision := cursor.map Prod.fst
              after := (cursor.map fun cursor => cursor.2.text).getD ""
              size_pos := h.1
              size_le := h.2
              start := by simp +contextual }
        else none
    | none => none
  else none

/-- `photoTitle`. -/
def photoTitle (text : String) : Bool :=
  decide (utf16Length text ≤ 1024) && !text.toList.any controlChar

/-- One pool, or one set. -/
def contextRow (row : JsonValue) : Option Group :=
  match row.field "id", row.field "title" with
  | some (.text id), some (.text title) =>
      if hid : isToken id = true then
        if photoTitle title then some ⟨⟨id, hid⟩, title⟩ else none
      else none
  | _, _ => none

/-- The rows, if each is well formed and none comes twice. -/
def contextRows (rows : List JsonValue) : Option (List Group) :=
  (rows.mapM contextRow).filter fun groups => (groups.map Group.flickrGroupId).Nodup

/-- `value.set`. -/
def contextSets (value : JsonValue) : Option (List JsonValue) :=
  match value.field "set" with
  | none => some []
  | some (.array sets) => some sets
  | _ => none

/-- `PHOTO_READ_LIMITS.contexts`. -/
def contextLimit : Nat := 10000

/-- `validateMembership`. -/
def validateMembership (value : JsonValue) : Option (List Group) :=
  match value.field "stat", value.field "pool", contextSets value with
  | some stat, some (.array pool), some sets =>
      if stat.isText "ok" = true ∧ pool.length + sets.length ≤ contextLimit then
        (contextRows sets).bind fun _ => contextRows pool
      else none
  | _, _, _ => none

/-- `rejectPhotoGrant`: Flickr says that the grant is void. -/
def rejectsGrant (value : JsonValue) : Bool :=
  (value.field "stat").any (JsonValue.isText "fail") &&
    (match value.field "code" with
      | some (.number code) => code == 98 || code == 99
      | _ => false) &&
    match value.field "message" with
    | some (.text message) => message != "" && photoTitle message
    | _ => false

/-! ## Batches -/

/-- The largest revision the column takes. -/
def maxObservationRevision : Nat := 9007199254740991

/-- `photoAuthLive`. -/
def photoAuthLive (db : Db) (auth : AdmissionAuth) : Bool :=
  (db.installations.find? auth.installationId).any fun installation =>
    (installation.currentVersionId.bind db.versions.find?).any fun version =>
      currentPlugin db auth.installationId installation version ∧
        version.credentialDigest = auth.credentialDigest

namespace MembershipStore

variable (s : MembershipStore)

/-- `loadBinding`. -/
def binding (auth : AdmissionAuth) (bindingId : Token) : Option PhotoBinding :=
  (s.db.installations.find? auth.installationId).bind fun installation =>
    (s.db.flickr.bindings.find? bindingId).filter fun binding =>
      binding.userId = installation.userId

/-- `authorityGuard`. -/
def authorityGuard (auth : AdmissionAuth) (grant : GrantSnapshot) (binding : PhotoBinding) : Bool :=
  (grantRows s.db auth.installationId).any fun rows =>
    (rows.1.userId = grant.userId ∧ rows.2.1.credentialDigest = auth.credentialDigest ∧
      rows.2.2.1.ownerNsid = grant.ownerNsid ∧ rows.2.2.1.linkRevision = grant.revision ∧
      rows.2.2.2.activeGeneration = grant.generation) ∧
    (s.db.flickr.bindings.find? binding.bindingId).any fun row =>
      row.userId = rows.1.userId ∧ row.photoId = binding.photoId ∧
        row.ownerNsid = rows.2.2.1.ownerNsid ∧ row.linkRevision = rows.2.2.1.linkRevision ∧
        row.verificationRevision = binding.verificationRevision

/-- The groups that are stored for a photo. -/
def observed (bindingId : Token) : List Group :=
  (s.rows.rows.filter fun row => row.bindingId = bindingId).map MembershipRow.group

/-- The batch that opens a first page. -/
def openView (auth : AdmissionAuth) (grant : GrantSnapshot) (binding : PhotoBinding) :
    Option MembershipStore :=
  if s.authorityGuard auth grant binding then
    some { s with
      observations := s.observations.modify binding.bindingId
        fun observation => { observation with valid := false } }
  else none

/-- The row that the upsert leaves. -/
def replacedRow (grant : GrantSnapshot) (bindingId : Token) (now : Us) : MembershipObservation where
  bindingId := bindingId
  revision := ((s.observations.find? bindingId).map MembershipObservation.revision).getD 0 + 1
  linkRevision := grant.revision
  generation := grant.generation
  valid := true
  observedAtUs := now

/-- The upsert of the observation. -/
def upserted (grant : GrantSnapshot) (bindingId : Token) (now : Us) :
    Table MembershipObservation.bindingId :=
  (s.observations.ensure (s.replacedRow grant bindingId now)).set
    (s.replacedRow grant bindingId now)

/-- `replaceObservation`; a group that comes twice aborts. -/
def replaceObservation (auth : AdmissionAuth) (grant : GrantSnapshot) (binding : PhotoBinding)
    (groups : List Group) (now : Us) : Option MembershipStore :=
  if s.authorityGuard auth grant binding = true ∧
      (s.observations.find? binding.bindingId).all
        (fun observation => observation.revision < maxObservationRevision) then
    ((s.rows.deleteWhere fun row => row.bindingId = binding.bindingId).insertAll?
        (groups.map fun group => ⟨binding.bindingId, group⟩)).map fun rows =>
      { s with
        observations := s.upserted grant binding.bindingId now
        rows := rows }
  else none

/-- The reading batch of `readPage`. -/
def pageRows (auth : AdmissionAuth) (grant : GrantSnapshot) (binding : PhotoBinding)
    (query : PageQuery) : Option (Option MembershipObservation × List Group) :=
  if s.authorityGuard auth grant binding then
    some (s.observations.find? binding.bindingId,
      Keyset.page groupKey (s.observed binding.bindingId) query.after (query.size + 1))
  else none

end MembershipStore

/-! ## The request -/

/-- A page as it is answered. -/
structure MembershipPage where
  fgaPhotoBindingId : Token
  flickrPhotoId : Token
  observationRevision : Nat
  observedAtUs : Us
  groups : List Group
  nextAfterGroupId : Option Token
deriving DecidableEq

inductive MembershipResponse where
  | page (page : MembershipPage)
  | observationChanged
  | flickrLinkChanged
  | invalidToken
  | notFound
  | invalidRequest
  | unavailable
deriving DecidableEq

/-- `readPage`, from what its batch read. -/
def readPage (grant : GrantSnapshot) (binding : PhotoBinding) (query : PageQuery)
    (observation : Option MembershipObservation) (rows : List Group) : MembershipResponse :=
  match observation with
  | none => .observationChanged
  | some observation =>
      if observation.valid = true ∧ observation.linkRevision = grant.revision ∧
          observation.generation = grant.generation ∧
          (query.revision = none ∨ query.revision = some observation.revision) then
        .page
          { fgaPhotoBindingId := binding.bindingId
            flickrPhotoId := binding.photoId
            observationRevision := observation.revision
            observedAtUs := observation.observedAtUs
            groups := rows.take query.size
            nextAfterGroupId :=
              if query.size < rows.length then
                (rows.take query.size).getLast?.map Group.flickrGroupId
              else none }
      else .observationChanged

/-- What a read throws. -/
inductive MembershipFault where
  | credentialUnavailable
  | flickrLinkChanged
  | deadline
  | shape
  | unavailable
deriving DecidableEq

/-- What a call asks, and the response it ends with. -/
inductive MembershipOp where
  | authLive (auth : AdmissionAuth)
  | binding (auth : AdmissionAuth) (bindingId : Token)
  | linkedGrant (auth : AdmissionAuth)
  | openView (auth : AdmissionAuth) (grant : GrantSnapshot) (binding : PhotoBinding)
  | started
  | grantSecret
  | applicationSecret
  | getAllContexts (photoId : Token) (pair app : String × String)
  | rejectGrant (auth : AdmissionAuth) (grant : GrantSnapshot)
  | inTime
  | replaceObservation (auth : AdmissionAuth) (grant : GrantSnapshot) (binding : PhotoBinding)
      (groups : List Group)
  | pageRows (auth : AdmissionAuth) (grant : GrantSnapshot) (binding : PhotoBinding)
      (query : PageQuery)
  | respond (response : MembershipResponse)
deriving DecidableEq

abbrev MembershipOp.Answer : MembershipOp → Type
  | .authLive _ => Except MembershipFault Bool
  | .binding .. => Except MembershipFault (Option PhotoBinding)
  | .linkedGrant _ => Except MembershipFault (Option GrantSnapshot)
  | .openView .. | .rejectGrant .. | .replaceObservation .. => Except MembershipFault Unit
  | .started | .inTime => Bool
  | .grantSecret | .applicationSecret | .getAllContexts .. => Except MembershipFault JsonValue
  | .pageRows .. => Except MembershipFault (Option MembershipObservation × List Group)
  | .respond _ => Unit

abbrev MembershipProg := Prog MembershipOp.Answer

abbrev MembershipThrows := Throws MembershipOp.Answer MembershipFault

namespace MembershipRead

variable (auth : AdmissionAuth)

/-- A check that throws. -/
def assert (p : Prop) [Decidable p] (fault : MembershipFault) : MembershipThrows Unit :=
  if p then pure () else throw fault

/-- What is there, or a fault. -/
def present {α : Type} (value : Option α) (fault : MembershipFault) : MembershipThrows α :=
  match value with
  | none => throw fault
  | some value => pure value

/-- `rejectPhotoGrant`. -/
def rejectPhotoGrant (grant : GrantSnapshot) (value : JsonValue) : MembershipThrows Unit :=
  if rejectsGrant value = true then do
    attempt (Prog.query (MembershipOp.rejectGrant auth grant))
    throw .flickrLinkChanged
  else pure ()

/-- `withGrant`, with the read of the contexts. -/
def contexts (grant : GrantSnapshot) (binding : PhotoBinding) : MembershipThrows (List Group) := do
  let grantSecret ← attempt (Prog.query MembershipOp.grantSecret)
  let applicationSecret ← attempt (Prog.query MembershipOp.applicationSecret)
  let pair ← present (grantPair grant.generation grantSecret) .credentialUnavailable
  let app ← present (applicationPair applicationSecret) .credentialUnavailable
  let linked ← attempt (Prog.query (MembershipOp.linkedGrant auth))
  assert (linked = some grant) .flickrLinkChanged
  let value ← attempt (Prog.query (MembershipOp.getAllContexts binding.photoId pair app))
  rejectPhotoGrant auth grant value
  present (validateMembership value) .shape

/-- `boundedPhotoRead`: a clock that shows a time, and a read that ends in time. -/
def boundedRead (grant : GrantSnapshot) (binding : PhotoBinding) : MembershipThrows (List Group) := do
  let started ← attempt (Except.ok <$> Prog.query MembershipOp.started)
  assert (started = true) .deadline
  let groups ← contexts auth grant binding
  let inTime ← attempt (Except.ok <$> Prog.query MembershipOp.inTime)
  assert (inTime = true) .deadline
  pure groups

/-- The first page: retire the view, read and replace. -/
def refresh (grant : GrantSnapshot) (binding : PhotoBinding) : MembershipThrows Unit := do
  attempt (Prog.query (MembershipOp.openView auth grant binding))
  let groups ← boundedRead auth grant binding
  attempt (Prog.query (MembershipOp.replaceObservation auth grant binding groups))

/-- The page. -/
def page (grant : GrantSnapshot) (binding : PhotoBinding) (query : PageQuery) :
    MembershipThrows MembershipResponse := do
  let read ← attempt (Prog.query (MembershipOp.pageRows auth grant binding query))
  pure (readPage grant binding query read.1 read.2)

/-- From the grant on. -/
def servedPage (grant : GrantSnapshot) (binding : PhotoBinding) (query : PageQuery) :
    MembershipThrows MembershipResponse :=
  if query.revision = none then do
    refresh auth grant binding
    page auth grant binding query
  else page auth grant binding query

/-- The binding and the grant of a call, or its answer. -/
def authority (bindingId : Token) :
    MembershipThrows (Except MembershipResponse (PhotoBinding × GrantSnapshot)) := do
  let live ← attempt (Prog.query (MembershipOp.authLive auth))
  if live = false then pure (.error .invalidToken)
  else do
    let binding ← attempt (Prog.query (MembershipOp.binding auth bindingId))
    match binding with
    | none => pure (.error .notFound)
    | some binding => do
        let grant ← attempt (Prog.query (MembershipOp.linkedGrant auth))
        match grant with
        | none => pure (.error .flickrLinkChanged)
        | some grant =>
            if binding.ownerNsid = grant.ownerNsid ∧ binding.linkRevision = grant.revision then
              pure (.ok (binding, grant))
            else pure (.error .flickrLinkChanged)

/-- The answer to an exception. -/
def failure (grant : Option GrantSnapshot) : MembershipThrows MembershipResponse := do
  let live ← attempt (Prog.query (MembershipOp.authLive auth))
  if live = false then pure .invalidToken
  else
    match grant with
    | none => pure .unavailable
    | some grant => do
        let linked ← attempt (Prog.query (MembershipOp.linkedGrant auth))
        pure (if linked = some grant then .unavailable else .flickrLinkChanged)

/-- The response of a call that failed. -/
def respondFailed (grant : Option GrantSnapshot) : MembershipProg Unit := do
  match ← (failure auth grant).run with
  | .ok response => Prog.query (MembershipOp.respond response)
  | .error _ => Prog.query (MembershipOp.respond .unavailable)

end MembershipRead

open MembershipRead in
/-- `photoMembershipsRequest`. -/
def photoMembershipsRequest (auth : AdmissionAuth) (bindingId : String)
    (params : List (String × String)) : MembershipProg Unit :=
  match membershipQuery params with
  | none => Prog.query (MembershipOp.respond .invalidRequest)
  | some query =>
      if hid : isToken bindingId = true then do
        match ← (authority auth ⟨bindingId, hid⟩).run with
        | .error _ => respondFailed auth none
        | .ok (.error response) => Prog.query (MembershipOp.respond response)
        | .ok (.ok (binding, grant)) =>
            match ← (servedPage auth grant binding query).run with
            | .error _ => respondFailed auth (some grant)
            | .ok response => Prog.query (MembershipOp.respond response)
      else Prog.query (MembershipOp.respond .invalidRequest)

/-! ## The database and its callers -/

/-- The other transactions change anything but the observations. -/
structure MembershipExternal (s s' : MembershipStore) : Prop where
  observations : s'.observations = s.observations
  rows : s'.rows = s.rows

/-- A batch that aborts throws. -/
def batchServes (s : MembershipStore) (batch : Option MembershipStore)
    (answer : Except MembershipFault Unit) (s' : MembershipStore) : Prop :=
  match batch with
  | none => answer = .error .unavailable ∧ s' = s
  | some after => answer = .ok () ∧ s' = after

/-- How an operation meets the database; the clock, the secrets and Flickr are what they are, and
what rejecting a grant changes is up to the other transactions. -/
def serveMembership (s : MembershipStore) :
    (o : MembershipOp) → o.Answer → MembershipStore → Prop
  | .authLive auth, answer, s' => answer = .ok (photoAuthLive s.db auth) ∧ s' = s
  | .binding auth bindingId, answer, s' => answer = .ok (s.binding auth bindingId) ∧ s' = s
  | .linkedGrant auth, answer, s' => answer = .ok (linkedGrant s.db auth) ∧ s' = s
  | .openView auth grant binding, answer, s' =>
      batchServes s (s.openView auth grant binding) answer s'
  | .started, _, s' => s' = s
  | .grantSecret, _, s' => s' = s
  | .applicationSecret, _, s' => s' = s
  | .getAllContexts .., _, s' => s' = s
  | .rejectGrant .., _, s' => MembershipExternal s s'
  | .inTime, _, s' => s' = s
  | .replaceObservation auth grant binding groups, answer, s' =>
      ∃ now, batchServes s (s.replaceObservation auth grant binding groups now) answer s'
  | .pageRows auth grant binding query, answer, s' =>
      answer = (match s.pageRows auth grant binding query with
        | none => .error .unavailable
        | some read => .ok read) ∧ s' = s
  | .respond _, _, s' => s' = s

/-- What a caller sees of an operation that failed, or whose answer is lost or too late. -/
def lostMembership : (o : MembershipOp) → o.Answer → Prop
  | .authLive _, answer => answer = .error .unavailable
  | .binding .., answer => answer = .error .unavailable
  | .linkedGrant _, answer => answer = .error .unavailable
  | .openView .., answer => answer = .error .unavailable
  | .grantSecret, answer => answer = .error .deadline
  | .applicationSecret, answer => answer = .error .deadline
  | .getAllContexts .., answer => answer = .error .deadline
  | .rejectGrant .., answer => answer = .error .unavailable
  | .replaceObservation .., answer => answer = .error .unavailable
  | .pageRows .., answer => answer = .error .unavailable
  | .started, _ => False
  | .inTime, _ => False
  | .respond _, _ => False

def membershipMachine : Machine MembershipStore MembershipOp.Answer where
  serve := serveMembership
  lost := lostMembership
  external := MembershipExternal
  program p := ∃ auth bindingId params, p = photoMembershipsRequest auth bindingId params

end FlickrGroupAddr

import FlickrGroupAddr.GroupCatalogue
import FlickrGroupAddr.Lib.Workers

/-!
# Upload authorizations and their photos

`upload_photo_binding.ts` and the existing-photo proof of `flickr_reads.ts`, over the tables
of the upload migrations.  Every read and every batch of a request is one operation; a batch
commits as a whole or changes nothing.
-/

namespace FlickrGroupAddr

set_option autoImplicit false

open KeyedTable Program Workers

/-! ## Tables -/

/-- `upload_authorizations`. -/
structure UploadAuthorization where
  authorizationId : Token
  installationId : Token
  userId : Token
  issuedAtUs : Us
  photoId : Option Token
  ownerNsid : Option String
  linkRevision : Option Nat
deriving DecidableEq

/-- `upload_photo_binding_events`. -/
structure UploadBindingEvent where
  authorizationId : Token
  bindingId : Token
  linkRevision : Nat
  verificationRevision : Nat
  observedPublic : Bool
  verifiedAtUs : Us
deriving DecidableEq

/-- `upload_ambiguity_resolution_events`; the provenance is always the same. -/
structure AmbiguityResolution where
  authorizationId : Token
  bindingOrigin : Bool
deriving DecidableEq

/-- `photo_binding_events`, of the one kind there is. -/
structure PhotoBindingEvent where
  bindingId : Token
  verificationRevision : Nat
deriving DecidableEq

/-- What an audit event of an issue says. -/
inductive UploadAuditOutcome where
  | issued
  | failed (reason : String)
deriving DecidableEq

/-- `audit_events` of the upload actions; the target is the authorization, or the
installation of a failed issue. -/
structure UploadAudit where
  userId : Token
  outcome : UploadAuditOutcome
  targetId : Token
deriving DecidableEq

/-- The database with the tables of the uploads, and the `revision` column of the
installations. -/
structure UploadStore where
  db : Db
  installationRevision : Token → Nat
  authorizations : Table UploadAuthorization.authorizationId
  events : Table UploadBindingEvent.authorizationId
  resolutions : Table AmbiguityResolution.authorizationId
  proofs : List PhotoBindingEvent
  audit : List UploadAudit

namespace UploadStore

variable (s : UploadStore)

def bindings : Table PhotoBinding.bindingId := s.db.flickr.bindings

/-- `upload_photo_binding_events` has no row of the authorization. -/
def pending (authorizationId : Token) : Bool := (s.events.find? authorizationId).isNone

/-- The row of a photo, of which there is at most one. -/
def bindingOf (photoId : Token) : Option PhotoBinding :=
  s.bindings.rows.find? fun b => b.photoId = photoId

end UploadStore

/-! ## Reads -/

/-- `Credential`. -/
structure UploadCredential where
  userId : Token
  versionId : Token
  revision : Nat
deriving DecidableEq

namespace UploadStore

variable (s : UploadStore)

/-- `credential`, and `currentCredential` of `upload_authorization.ts`. -/
def credential (auth : AdmissionAuth) : Option UploadCredential :=
  match s.db.installations.find? auth.installationId with
  | none => none
  | some installation =>
      match installation.currentVersionId.bind s.db.versions.find? with
      | none => none
      | some version =>
          if currentPlugin s.db auth.installationId installation version ∧
              version.credentialDigest = auth.credentialDigest then
            some ⟨installation.userId, version.versionId,
              s.installationRevision installation.installationId⟩
          else none

/-- `authorization`: the photo of an authorization of the installation. -/
def authorization (auth : AdmissionAuth) (userId authorizationId : Token) : Option (Option Token) :=
  ((s.authorizations.find? authorizationId).filter fun a =>
    a.installationId = auth.installationId ∧ a.userId = userId).map UploadAuthorization.photoId

end UploadStore

/-- `source_kind` as the projection tells it. -/
inductive BindingSource where
  | upload
  | existingPublic
  | reconciledUpload
deriving DecidableEq

/-- `Binding`. -/
structure BindingRow where
  bindingId : Token
  photoId : Token
  source : BindingSource
  linkRevision : Nat
  verificationRevision : Nat
  verifiedAtUs : Us
deriving DecidableEq

namespace UploadStore

variable (s : UploadStore)

/-- A resolution was the origin of the binding. -/
def reconciled (bindingId : Token) : Bool :=
  s.resolutions.rows.any fun r => r.bindingOrigin &&
    ((s.events.find? r.authorizationId).any fun origin => origin.bindingId = bindingId)

/-- The projected columns of a binding. -/
def bindingRow (b : PhotoBinding) : BindingRow where
  bindingId := b.bindingId
  photoId := b.photoId
  source :=
    if s.reconciled b.bindingId then .reconciledUpload
    else match b.sourceKind with
      | .upload => .upload
      | .existingPublic => .existingPublic
  linkRevision := b.linkRevision
  verificationRevision := b.verificationRevision
  verifiedAtUs := b.verifiedAtUs

/-- `PROJECTION` of an authorization. -/
def projection (authorizationId : Token) : Option BindingRow :=
  ((s.events.find? authorizationId).bind fun e => s.bindings.find? e.bindingId).map s.bindingRow

/-- `PROJECTION` of an authorization under a link revision. -/
def retained (authorizationId : Token) (revision : Nat) : Option BindingRow :=
  (((s.events.find? authorizationId).filter fun e => e.linkRevision = revision).bind fun e =>
    (s.bindings.find? e.bindingId).filter fun b => b.linkRevision = revision).map s.bindingRow

end UploadStore

/-! ## Batches -/

/-- The parameters of `commit`. -/
structure UploadCommit where
  auth : AdmissionAuth
  current : UploadCredential
  grant : GrantSnapshot
  authorizationId : Token
  photoId : Token
  isPublic : Bool
  resolution : Bool
deriving DecidableEq

/-- The grant as the batches read it, of the user of the credential. -/
def UploadCommit.snapshot (c : UploadCommit) : GrantSnapshot := { c.grant with userId := c.current.userId }

namespace UploadStore

variable (s : UploadStore)

/-- The guard of `commit`. -/
def uploadGuard (c : UploadCommit) : Prop :=
  s.credential c.auth = some c.current ∧ s.db.flickr.grantCurrent c.snapshot ∧
    (∃ a ∈ s.authorizations.find? c.authorizationId,
      a.installationId = c.auth.installationId ∧ a.userId = c.current.userId ∧
        (a.photoId = none ∨ a.photoId = some c.photoId)) ∧
    s.db.flickr.photoBindable c.snapshot c.photoId (s.pending c.authorizationId) ∧
    ∀ e ∈ s.events.find? c.authorizationId, e.linkRevision = c.grant.revision

instance (c : UploadCommit) : Decidable (s.uploadGuard c) :=
  inferInstanceAs (Decidable (_ ∧ _ ∧ (∃ a ∈ s.authorizations.find? c.authorizationId, _) ∧ _ ∧
    ∀ e ∈ s.events.find? c.authorizationId, _))

/-- The trigger `upload_photo_binding_event_consistent`, for the columns of a binding. -/
def eventConsistent (authorizationId : Token) (b : PhotoBinding) : Bool :=
  (s.authorizations.find? authorizationId).any fun a =>
    a.photoId = some b.photoId ∧ a.userId = b.userId

/-- The event of a pending authorization, and how many rows that inserts. -/
def recordEvent (c : UploadCommit) : Option (UploadStore × Nat) :=
  if s.pending c.authorizationId = true then
    match s.bindingOf c.photoId with
    | none => some (s, 0)
    | some b =>
        if s.eventConsistent c.authorizationId b then
          (s.events.insert? ⟨c.authorizationId, b.bindingId, b.linkRevision, b.verificationRevision,
            c.isPublic, b.verifiedAtUs⟩).map fun events => ({ s with events := events }, 1)
        else none
  else some (s, 0)

/-- The trigger `upload_ambiguity_resolution_consistent`. -/
def resolutionConsistent (r : AmbiguityResolution) : Bool :=
  (s.events.find? r.authorizationId).any fun e =>
    (s.bindings.find? e.bindingId).any fun b =>
      !r.bindingOrigin || decide (b.sourceKind = .upload ∧ e.verificationRevision = 1)

/-- The resolution of a new event; `changes` is what `changes()` tells of the statement
before. -/
def recordResolution (c : UploadCommit) (bindingId : Token) (changes : Nat) : Option UploadStore :=
  match s.bindingOf c.photoId with
  | none => some s
  | some b =>
      if c.resolution = true ∧ (s.resolutions.find? c.authorizationId).isNone = true ∧ changes = 1 then
        if s.resolutionConsistent ⟨c.authorizationId, decide (b.bindingId = bindingId)⟩ then
          (s.resolutions.insert? ⟨c.authorizationId, decide (b.bindingId = bindingId)⟩).map
            fun resolutions => { s with resolutions := resolutions }
        else none
      else some s

/-- The first statements of `commit`: the authorization has its photo, and the photo its
binding. -/
def bindTo (c : UploadCommit) (flickr : FlickrTables) : UploadStore :=
  { s with
    db := { s.db with flickr := flickr }
    authorizations := s.authorizations.modify c.authorizationId fun a =>
      { a with photoId := a.photoId.or (some c.photoId) } }

/-- The batch of `commit`: the store, the projected row and whether the authorization was
bound just now. -/
def commit (c : UploadCommit) (bindingId : Token) (now : Us) :
    Option (UploadStore × Option BindingRow × Bool) := do
  if ¬ s.uploadGuard c then none
  else
    let flickr ← s.db.flickr.bindPhoto c.snapshot c.photoId bindingId .upload
      (fun _ => s.pending c.authorizationId) now
    let recorded ← (s.bindTo c flickr).recordEvent c
    let resolved ← recorded.1.recordResolution c bindingId recorded.2
    some (resolved, resolved.projection c.authorizationId,
      (s.authorizations.find? c.authorizationId).any fun a => a.photoId = none)

/-- The guard of `commitBinding`. -/
def existingGuard (auth : AdmissionAuth) (grant : GrantSnapshot) (photoId : Token) : Prop :=
  pluginCurrent s.db auth grant.userId ∧ s.db.flickr.grantCurrent grant ∧
    s.db.flickr.photoBindable grant photoId true

instance (auth : AdmissionAuth) (grant : GrantSnapshot) (photoId : Token) :
    Decidable (s.existingGuard auth grant photoId) := inferInstanceAs (Decidable (_ ∧ _ ∧ _))

/-- The batch of `commitBinding`, with the event it appends. -/
def commitExisting (auth : AdmissionAuth) (grant : GrantSnapshot) (photoId bindingId : Token)
    (now : Us) : Option (UploadStore × Option BindingRow × Bool) := do
  let flickr ← commitBinding s.db auth grant photoId bindingId now
  let verified : UploadStore := { s with db := { s.db with flickr := flickr } }
  let events := (verified.bindingOf photoId).toList.map fun b =>
    (⟨b.bindingId, b.verificationRevision⟩ : PhotoBindingEvent)
  let proved : UploadStore := { verified with proofs := s.proofs ++ events }
  some (proved, (proved.bindingOf photoId).map proved.bindingRow,
    (proved.bindingOf photoId).any fun b => b.bindingId = bindingId)

end UploadStore

/-! ## Requests -/

/-- `BindingError` and the exceptions of `flickr_reads.ts`, and any other exception. -/
inductive BindingFault where
  | invalidRequest
  | invalidPhoto
  | invalidToken
  | authorizationNotFound
  | photoBindingConflict
  | flickrLinkChanged
  | photoOwnerMismatch
  | existingPhotoNotPublic
  | invalidExistingPhoto
  | upstreamUnavailable
deriving DecidableEq

/-- What a request asks the database, the secret store and Flickr. -/
inductive BindingOp where
  | credential (auth : AdmissionAuth)
  | authorization (auth : AdmissionAuth) (userId authorizationId : Token)
  | linkedGrant (auth : AdmissionAuth)
  | retained (authorizationId : Token) (revision : Nat)
  | grantSecret
  | photoInfo (photoId : Token)
  | rejectGrant (auth : AdmissionAuth) (grant : GrantSnapshot)
  | commit (c : UploadCommit)
  | commitExisting (auth : AdmissionAuth) (grant : GrantSnapshot) (photoId : Token)
deriving DecidableEq

/-- A secret is told by its generation. -/
abbrev BindingOp.Answer : BindingOp → Type
  | .credential _ => Except BindingFault (Option UploadCredential)
  | .authorization .. => Except BindingFault (Option (Option Token))
  | .linkedGrant _ => Except BindingFault (Option GrantSnapshot)
  | .retained .. => Except BindingFault (Option BindingRow)
  | .grantSecret => Except BindingFault Token
  | .photoInfo _ => Except BindingFault JsonValue
  | .rejectGrant .. => Unit
  | .commit _ | .commitExisting .. => Except BindingFault (Option BindingRow × Bool)

abbrev BindingProg := Prog BindingOp.Answer

abbrev BindingThrows := Throws BindingOp.Answer BindingFault

inductive BindingAnswer where
  | success (row : BindingRow) (created : Bool)
  | failure (fault : BindingFault)
deriving DecidableEq

/-- A number of the value, and no text of it. -/
def JsonValue.isNumber (expected : Rat) : JsonValue → Bool
  | .number value => value == expected
  | _ => false

/-- `[0, 1, '0', '1'].includes`, and `Number` of what is included. -/
def JsonValue.flag : JsonValue → Option Bool
  | .number value => if value = 0 then some false else if value = 1 then some true else none
  | .text value => if value = "0" then some false else if value = "1" then some true else none
  | _ => none

namespace UploadBinding

/-- `value.flickrPhotoId`. -/
def photoIdOf (value : JsonValue) : Option Token :=
  match value.field "flickrPhotoId" with
  | some (.text id) => if hid : isToken id = true then some ⟨id, hid⟩ else none
  | _ => none

/-- The object has exactly these keys. -/
def hasKeys (keys : List String) : JsonValue → Bool
  | .object fields => decide ((fields.map Prod.fst).Perm keys)
  | _ => false

/-- The checks of the body. -/
def uploadBody (value : JsonValue) : Except BindingFault Token :=
  if hasKeys ["flickrPhotoId", "schemaVersion"] value = true ∧
      (value.field "schemaVersion").any (JsonValue.isNumber 1) = true then
    match photoIdOf value with
    | some photoId => .ok photoId
    | none => .error .invalidPhoto
  else .error .invalidRequest

/-- The grant was rejected for good. -/
def rejected (result : JsonValue) : Bool :=
  (result.field "stat").any (JsonValue.isText "fail") &&
    (result.field "code").any fun code => code.isNumber 98 || code.isNumber 99

/-- What `observe` reads off an answer of `flickr.photos.getInfo`. -/
def observed (grant : GrantSnapshot) (photoId : Token) (result : JsonValue) :
    Except BindingFault Bool :=
  match (result.field "stat").any (JsonValue.isText "ok"), result.field "photo" with
  | true, some photo =>
      match photo.field "id", (photo.field "owner").bind (JsonValue.field "nsid"),
        ((photo.field "visibility").bind (JsonValue.field "ispublic")).bind JsonValue.flag with
      | some (.text id), some (.text nsid), some isPublic =>
          if id = photoId.text ∧ isToken nsid = true ∧
              (photo.field "media").all (JsonValue.isText "photo") = true then
            if nsid = grant.ownerNsid then .ok isPublic else .error .photoOwnerMismatch
          else .error .upstreamUnavailable
      | _, _, _ => .error .upstreamUnavailable
  | _, _ => .error .upstreamUnavailable

/-- `verifyPhoto`, once the grant is not rejected. -/
def verified (grant : GrantSnapshot) (photoId : Token) (result : JsonValue) :
    Except BindingFault Unit :=
  if (result.field "stat").any (JsonValue.isText "fail") = true ∧
      (result.field "code").any (JsonValue.isNumber 1) = true then
    .error .invalidExistingPhoto
  else
    match (result.field "stat").any (JsonValue.isText "ok"), result.field "photo" with
    | true, some photo =>
        match photo.field "id", (photo.field "owner").bind (JsonValue.field "nsid"),
          ((photo.field "visibility").bind (JsonValue.field "ispublic")).bind JsonValue.flag with
        | some (.text id), some (.text nsid), some isPublic =>
            if ¬ (id = photoId.text ∧ (photo.field "media").all (JsonValue.isText "photo") = true) then
              .error .invalidExistingPhoto
            else if nsid ≠ grant.ownerNsid then .error .photoOwnerMismatch
            else if isPublic = false then .error .existingPhotoNotPublic
            else .ok ()
        | _, _, _ => .error .upstreamUnavailable
    | _, _ => .error .upstreamUnavailable

/-- `withGrant` up to its operation, and the answer for the photo. -/
def readPhoto (auth : AdmissionAuth) (grant : GrantSnapshot) (photoId : Token)
    (changed : BindingFault) : BindingThrows JsonValue := do
  let generation ← attempt (Prog.query BindingOp.grantSecret)
  attempt (pure (if generation = grant.generation then .ok () else .error .upstreamUnavailable))
  let linked ← attempt (Prog.query (BindingOp.linkedGrant auth))
  attempt (pure (if linked = some grant then .ok () else .error changed))
  attempt (Prog.query (BindingOp.photoInfo photoId))

/-- `rejectCurrentGrant`, which throws nothing. -/
def rejectGrant (auth : AdmissionAuth) (grant : GrantSnapshot) : BindingThrows Unit :=
  attempt (Prog.query (BindingOp.rejectGrant auth grant) >>= fun _ => pure (.ok ()))

/-- `observe`. -/
def observe (auth : AdmissionAuth) (grant : GrantSnapshot) (photoId : Token) :
    BindingThrows Bool := do
  let result ← readPhoto auth grant photoId .upstreamUnavailable
  if rejected result = true ∧
      (result.field "message").any (fun m => match m with | .text t => t ≠ "" | _ => false) = true then
    rejectGrant auth grant
    throw .flickrLinkChanged
  else attempt (pure (observed grant photoId result))

/-- `verifyPhoto`. -/
def verifyPhoto (auth : AdmissionAuth) (grant : GrantSnapshot) (photoId : Token) :
    BindingThrows Unit := do
  let result ← readPhoto auth grant photoId .flickrLinkChanged
  if rejected result = true then
    rejectGrant auth grant
    throw .flickrLinkChanged
  else attempt (pure (verified grant photoId result))

/-- `success`. -/
def success (row : Option BindingRow) (created : Bool) (missing : BindingFault) :
    Except BindingFault BindingAnswer :=
  match row with
  | none => .error missing
  | some row =>
      if 1 ≤ row.linkRevision ∧ row.linkRevision ≤ 9007199254740991 ∧
          1 ≤ row.verificationRevision ∧ row.verificationRevision ≤ 9007199254740991 then
        .ok (.success row created)
      else .error .upstreamUnavailable

/-- The rechecks of the `catch`. -/
def recheck (auth : AdmissionAuth) (authorizationId photoId : Token)
    (current : Option UploadCredential) (grant : Option GrantSnapshot) (fault : BindingFault) :
    BindingThrows BindingFault := do
  match current with
  | none => pure fault
  | some current =>
      let credential ← attempt (Prog.query (BindingOp.credential auth))
      if credential ≠ some current then pure .invalidToken
      else
        let linked ← (match grant with
          | none => pure true
          | some grant => (· = some grant) <$> attempt (Prog.query (BindingOp.linkedGrant auth)))
        if linked = false then pure .flickrLinkChanged
        else
          let latest ← attempt (Prog.query (BindingOp.authorization auth current.userId authorizationId))
          if (latest.join.any fun bound => bound ≠ photoId) = true then pure .photoBindingConflict
          else pure fault

/-- The `catch` of `uploadBindingRequest`. -/
def recover (auth : AdmissionAuth) (authorizationId photoId : Token)
    (current : Option UploadCredential) (grant : Option GrantSnapshot) (fault : BindingFault) :
    BindingProg BindingAnswer := do
  match ← (recheck auth authorizationId photoId current grant fault).run with
  | .ok code => pure (.failure code)
  | .error _ => pure (.failure .upstreamUnavailable)

/-- The authorization of the request, and the link it starts from. -/
def issued (auth : AdmissionAuth) (current : UploadCredential) (authorizationId photoId : Token) :
    BindingThrows (Option Token) := do
  let issued ← attempt (Prog.query (BindingOp.authorization auth current.userId authorizationId))
  match issued with
  | none => throw .authorizationNotFound
  | some bound =>
      if (bound.any fun bound => bound ≠ photoId) = true then throw .photoBindingConflict
      else pure bound

def linked (auth : AdmissionAuth) : BindingThrows GrantSnapshot := do
  let linked ← attempt (Prog.query (BindingOp.linkedGrant auth))
  match linked with
  | none => throw .flickrLinkChanged
  | some grant =>
      if 1 ≤ grant.revision ∧ grant.revision ≤ 9007199254740991 then pure grant
      else throw .flickrLinkChanged

/-- The answer for an authorization that is bound to the photo already. -/
def replay (auth : AdmissionAuth) (current : UploadCredential) (grant : GrantSnapshot)
    (authorizationId : Token) : BindingThrows BindingAnswer := do
  let row ← attempt (Prog.query (BindingOp.retained authorizationId grant.revision))
  attempt (pure (if row.isSome = true then .ok () else .error .flickrLinkChanged))
  let credential ← attempt (Prog.query (BindingOp.credential auth))
  attempt (pure (if credential = some current then .ok () else .error .invalidToken))
  let linked ← attempt (Prog.query (BindingOp.linkedGrant auth))
  attempt (pure (if linked = some grant then .ok () else .error .flickrLinkChanged))
  attempt (pure (success row false .flickrLinkChanged))

/-- The observation of the photo and its commit. -/
def bind (auth : AdmissionAuth) (current : UploadCredential) (grant : GrantSnapshot)
    (authorizationId photoId : Token) (resolution : Bool) : BindingThrows BindingAnswer := do
  let isPublic ← observe auth grant photoId
  let (row, created) ← attempt (Prog.query
    (BindingOp.commit ⟨auth, current, grant, authorizationId, photoId, isPublic, resolution⟩))
  attempt (pure (success row created .upstreamUnavailable))

end UploadBinding

open UploadBinding in
/-- `uploadBindingRequest`; a resolution is `uploadAmbiguityResolutionRequest`. -/
def uploadBindingRequest (auth : AdmissionAuth) (authorizationId : Token) (value : JsonValue)
    (resolution : Bool) : BindingProg BindingAnswer := do
  match uploadBody value with
  | .error fault => pure (.failure fault)
  | .ok photoId =>
      match ← Prog.query (BindingOp.credential auth) with
      | .error fault => pure (.failure fault)
      | .ok none => pure (.failure .invalidToken)
      | .ok (some current) =>
          match ← (issued auth current authorizationId photoId).run with
          | .error fault => recover auth authorizationId photoId (some current) none fault
          | .ok bound =>
              match ← (linked auth).run with
              | .error fault => recover auth authorizationId photoId (some current) none fault
              | .ok grant =>
                  let answer :=
                    if bound = some photoId then replay auth current grant authorizationId
                    else UploadBinding.bind auth current grant authorizationId photoId resolution
                  match ← answer.run with
                  | .error fault =>
                      recover auth authorizationId photoId (some current) (some grant) fault
                  | .ok answer => pure answer

namespace UploadBinding

/-- The checks of the body of `bindingRequest`: the photo and the expected link revision. -/
def existingBody (value : JsonValue) : Option (Token × Nat) :=
  if hasKeys ["expectedLinkedFlickrRevision", "flickrPhotoId", "schemaVersion"] value = true ∧
      (value.field "schemaVersion").any (JsonValue.isNumber 1) = true then
    match photoIdOf value, value.field "expectedLinkedFlickrRevision" with
    | some photoId, some (.number revision) =>
        if revision.den = 1 ∧ 1 ≤ revision.num ∧ revision.num ≤ 9007199254740991 then
          some (photoId, revision.num.toNat)
        else none
    | _, _ => none
  else none

/-- The proof of a photo under the expected link. -/
def prove (auth : AdmissionAuth) (grant : GrantSnapshot) (photoId : Token) :
    BindingThrows BindingAnswer := do
  verifyPhoto auth grant photoId
  let (row, created) ← attempt (Prog.query (BindingOp.commitExisting auth grant photoId))
  match row with
  | none => throw .upstreamUnavailable
  | some row => pure (.success row created)

/-- The `catch` of `bindingRequest`, once there is a link. -/
def recoverExisting (auth : AdmissionAuth) (grant : GrantSnapshot) (fault : BindingFault) :
    BindingProg BindingAnswer := do
  if fault = .upstreamUnavailable then
    match ← Prog.query (BindingOp.linkedGrant auth) with
    | .ok linked =>
        if linked = some grant then pure (.failure fault) else pure (.failure .flickrLinkChanged)
    | .error _ => pure (.failure fault)
  else pure (.failure fault)

end UploadBinding

open UploadBinding in
/-- `bindingRequest` of `intake_api.ts`: the proof of an existing photo. -/
def bindingRequest (auth : AdmissionAuth) (value : JsonValue) : BindingProg BindingAnswer := do
  match existingBody value with
  | none => pure (.failure .invalidRequest)
  | some (photoId, revision) =>
      match ← Prog.query (BindingOp.linkedGrant auth) with
      | .error fault => pure (.failure fault)
      | .ok before =>
          match before.filter fun grant => grant.revision = revision with
          | none => pure (.failure .flickrLinkChanged)
          | some grant =>
              match ← (prove auth grant photoId).run with
              | .ok answer => pure answer
              | .error fault => recoverExisting auth grant fault

/-! ## The database and its callers -/

/-- The other transactions: they leave the photos, their events and their resolutions alone,
and add authorizations that have no photo yet. -/
structure UploadExternal (s s' : UploadStore) : Prop where
  bindings : s'.bindings = s.bindings
  events : s'.events = s.events
  resolutions : s'.resolutions = s.resolutions
  proofs : s'.proofs = s.proofs
  authorizations : s'.authorizations = s.authorizations ∨
    ∃ a, a.photoId = none ∧ s.authorizations.insert? a = some s'.authorizations

/-- A batch commits with its answer, or it throws and is rolled back. -/
def batchCommits (s : UploadStore) (batch : Option (UploadStore × Option BindingRow × Bool))
    (answer : Except BindingFault (Option BindingRow × Bool)) (s' : UploadStore) : Prop :=
  match batch with
  | none => answer = .error .upstreamUnavailable ∧ s' = s
  | some (after, result) => answer = .ok result ∧ s' = after

/-- How an operation meets the database; a random id is not in use yet. -/
def serveBinding (s : UploadStore) : (o : BindingOp) → o.Answer → UploadStore → Prop
  | .credential auth, answer, s' => answer = .ok (s.credential auth) ∧ s' = s
  | .authorization auth userId authorizationId, answer, s' =>
      answer = .ok (s.authorization auth userId authorizationId) ∧ s' = s
  | .linkedGrant auth, answer, s' => answer = .ok (linkedGrant s.db auth) ∧ s' = s
  | .retained authorizationId revision, answer, s' =>
      answer = .ok (s.retained authorizationId revision) ∧ s' = s
  | .grantSecret, _, s' => s' = s
  | .photoInfo _, _, s' => s' = s
  | .rejectGrant auth grant, _, s' =>
      s' = s ∨ ∃ operationId generation now flickr,
        rejectCurrentGrant s.db auth grant operationId generation now = some flickr ∧
          s' = { s with db := { s.db with flickr := flickr } }
  | .commit c, answer, s' => ∃ bindingId now, s.bindings.find? bindingId = none ∧
      batchCommits s (s.commit c bindingId now) answer s'
  | .commitExisting auth grant photoId, answer, s' => ∃ bindingId now,
      s.bindings.find? bindingId = none ∧
        batchCommits s (s.commitExisting auth grant photoId bindingId now) answer s'

/-- What a caller sees of an operation that failed, or whose answer is lost. -/
def lostBinding : (o : BindingOp) → o.Answer → Prop
  | .credential _, answer => answer = .error .upstreamUnavailable
  | .authorization .., answer => answer = .error .upstreamUnavailable
  | .linkedGrant _, answer => answer = .error .upstreamUnavailable
  | .retained .., answer => answer = .error .upstreamUnavailable
  | .grantSecret, answer => answer = .error .upstreamUnavailable
  | .photoInfo _, answer => answer = .error .upstreamUnavailable
  | .rejectGrant .., _ => True
  | .commit _, answer => answer = .error .upstreamUnavailable
  | .commitExisting .., answer => answer = .error .upstreamUnavailable

/-- The requests of the binding resources. -/
inductive BindingCall where
  | upload (auth : AdmissionAuth) (authorizationId : Token) (value : JsonValue) (resolution : Bool)
  | existing (auth : AdmissionAuth) (value : JsonValue)

def BindingCall.request : BindingCall → BindingProg BindingAnswer
  | .upload auth authorizationId value resolution =>
      uploadBindingRequest auth authorizationId value resolution
  | .existing auth value => bindingRequest auth value

/-- The answer of a call is for its client. -/
def BindingCall.program (call : BindingCall) : BindingProg Unit :=
  call.request >>= fun _ => pure ()

def bindingMachine : Machine UploadStore BindingOp.Answer where
  serve := serveBinding
  lost := lostBinding
  external := UploadExternal
  program p := ∃ call : BindingCall, p = call.program

end FlickrGroupAddr

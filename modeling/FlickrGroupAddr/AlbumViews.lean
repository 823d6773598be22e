import FlickrGroupAddr.AlbumSchema

/-!
# The album views

What the views of the album migrations select: the authority a write needs, the
status of the remote album and the effective state of an obligation.  A view is a
function of the row it is about; `none` is a view without that row.
-/

namespace FlickrGroupAddr

set_option autoImplicit false

open KeyedTable

/-- The outside tables and the clock that one statement sees. -/
structure Moment where
  world : AlbumWorld
  now : Us
deriving DecidableEq

/-- A revision column holds a safe positive integer. -/
def revisionInRange (n : Nat) : Prop := 1 ≤ n ∧ n ≤ maxSafeInteger

instance (n : Nat) : Decidable (revisionInRange n) := inferInstanceAs (Decidable (_ ∧ _))

/-! ## Authority -/

namespace AlbumWorld

/-- The photo is verified for this owner and link, by an event of that verification. -/
def photoReady (w : AlbumWorld) (now : Us) (p : PhotoBinding) (ownerNsid : String)
    (linkRevision : Nat) : Prop :=
  (p.ownerNsid = ownerNsid ∧ p.linkRevision = linkRevision) ∧
  (p.bindingId.text ≠ "0" ∧ p.photoId.text ≠ "0") ∧
  revisionInRange p.verificationRevision ∧
  (0 ≤ p.verifiedAtUs ∧ p.verifiedAtUs ≤ now) ∧
  ((p.bindingId, p.verificationRevision) ∈ w.existingPublicEvents ∨
    ∃ e ∈ w.uploadEvents, e.bindingId = p.bindingId ∧
      e.verificationRevision = p.verificationRevision ∧ e.linkRevision = p.linkRevision ∧
      e.verifiedAtUs = p.verifiedAtUs)

instance (w : AlbumWorld) (now : Us) (p : PhotoBinding) (ownerNsid : String)
    (linkRevision : Nat) : Decidable (w.photoReady now p ownerNsid linkRevision) :=
  inferInstanceAs (Decidable (_ ∧ _ ∧ _ ∧ _ ∧ (_ ∨ ∃ e ∈ w.uploadEvents, _)))

/-- The link, the credential and the connection of a user are usable for the owner at
the link revision. -/
def grantUsable (l : FlickrLink) (n : NativeCredential) (c : FlickrConnectionState)
    (ownerNsid : String) (linkRevision : Nat) : Prop :=
  (l.state = .linked ∧ l.linkRevision = linkRevision ∧ l.ownerNsid = ownerNsid) ∧
  (n.linkRevision = linkRevision ∧ n.verifiedOwnerNsid = ownerNsid ∧ n.operationId = none) ∧
  (c.state = .linked ∧ c.localState = .available ∧ c.operationId = none ∧
    c.verified.isSome = true ∧ c.externalRemoval = false)

instance (l : FlickrLink) (n : NativeCredential) (c : FlickrConnectionState)
    (ownerNsid : String) (linkRevision : Nat) :
    Decidable (grantUsable l n c ownerNsid linkRevision) :=
  inferInstanceAs (Decidable ((_ ∧ _ ∧ _) ∧ (_ ∧ _ ∧ _) ∧ (_ ∧ _ ∧ _ ∧ _ ∧ _)))

/-- The generation of the usable grant of a user. -/
def grant (w : AlbumWorld) (userId : Token) (ownerNsid : String) (linkRevision : Nat) :
    Option Token :=
  match w.flickr.links.find? userId, w.flickr.credentials.find? userId,
      w.flickr.connections.find? userId with
  | some l, some n, some c =>
      if grantUsable l n c ownerNsid linkRevision then some n.activeGeneration else none
  | _, _, _ => none

/-- `album_title_link_authority`. -/
def titleLinkAuthority (w : AlbumWorld) (b : AlbumIdentity) : Option Token :=
  (w.services.find? b.serviceId).bind fun s =>
    if s.userId = b.userId ∧ s.ownerNsid = b.ownerNsid ∧ s.linkRevision = b.linkRevision then
      w.grant b.userId b.ownerNsid b.linkRevision
    else none

/-- The revision of an enabled write gate. -/
def gateRevision (w : AlbumWorld) (key : GateKey) : Option Nat :=
  (w.flickr.gates.find? key).bind fun gate =>
    if gate.enabled = true ∧ revisionInRange gate.revision then some gate.revision else none

/-- The user of an active installation whose current credential has the digest. -/
def installationUser (w : AlbumWorld) (auth : AdmissionAuth) : Option Token :=
  (w.installations.find? auth.installationId).bind fun i =>
    (i.currentVersionId.bind w.versions.find?).bind fun v =>
      if (i.active = true ∧ revisionInRange i.revision) ∧
          (v.installationId = i.installationId ∧ v.credentialDigest = auth.credentialDigest ∧
            v.state = .current ∧ v.expiresAtUs = none) then some i.userId
      else none

/-- The service of a binding belongs to its user. -/
def serviceOwned (w : AlbumWorld) (b : AlbumIdentity) : Prop :=
  ∃ s ∈ w.services.find? b.serviceId, s.userId = b.userId

instance (w : AlbumWorld) (b : AlbumIdentity) : Decidable (w.serviceOwned b) :=
  inferInstanceAs (Decidable (∃ s ∈ w.services.find? b.serviceId, _))

end AlbumWorld

/-- What the authority views join to a binding. -/
structure WriteAuthority where
  grantGeneration : Token
  deploymentGateRevision : Nat
  userGateRevision : Nat
deriving DecidableEq

namespace Moment

/-- The photo binding of a user for a photo, when it is ready. -/
def readyPhoto (m : Moment) (b : AlbumIdentity) (photoBindingId photoId : Token) :
    Option PhotoBinding :=
  (m.world.flickr.bindings.find? photoBindingId).bind fun p =>
    if p.userId = b.userId ∧ p.photoId = photoId ∧
        m.world.photoReady m.now p b.ownerNsid b.linkRevision then some p
    else none

/-- The grant and the gates of the owner of a binding. -/
def writeAuthority (m : Moment) (b : AlbumIdentity) : Option WriteAuthority := do
  let generation ← m.world.titleLinkAuthority b
  let deployment ← m.world.gateRevision .deployment
  let user ← m.world.gateRevision (.user b.userId)
  some ⟨generation, deployment, user⟩

/-- `album_materialization_authority`. -/
def materializationAuthority (m : Moment) (b : AlbumIdentity) : Option WriteAuthority :=
  (m.readyPhoto b b.firstPhotoBindingId b.firstPhotoId).bind fun _ => m.writeAuthority b

end Moment

/-- What is known of the remote album. -/
inductive RemoteAlbumState where
  | albumIdentityConflict
  | remoteAlbumMissingNeedsAttention
  | materialization (state : MaterializationState)
deriving DecidableEq

namespace AlbumDb

/-! ## The remote album -/

/-- An attachment attempt for the photoset of the binding ended in attention for one of
the reasons. -/
def attachmentTrouble (db : AlbumDb) (b : AlbumBinding) (reasons : List AttentionReason) : Prop :=
  ∃ bad ∈ db.attachments, bad.claim.bindingId = b.bindingId ∧
    some bad.claim.photosetId = b.flickrPhotosetId ∧ bad.claim.ownerNsid = b.identity.ownerNsid ∧
    bad.state = .needsAttention ∧ ∃ reason ∈ bad.attentionReason, reason ∈ reasons

instance (db : AlbumDb) (b : AlbumBinding) (reasons : List AttentionReason) :
    Decidable (db.attachmentTrouble b reasons) :=
  inferInstanceAs (Decidable (∃ bad ∈ db.attachments, _ ∧ _ ∧ _ ∧ _ ∧
    ∃ reason ∈ bad.attentionReason, _))

/-- A title attempt found the photoset of the binding missing. -/
def remoteMissing (db : AlbumDb) (b : AlbumBinding) : Prop :=
  ∃ t ∈ db.titleAttempts, t.bindingId = b.bindingId ∧
    some t.identity.photosetId = b.flickrPhotosetId ∧
    t.identity.ownerNsid = b.identity.ownerNsid ∧ t.remoteMissing = true

instance (db : AlbumDb) (b : AlbumBinding) : Decidable (db.remoteMissing b) :=
  inferInstanceAs (Decidable (∃ t ∈ db.titleAttempts, _))

/-- `album_binding_remote_status`. -/
def remoteStatus (db : AlbumDb) (b : AlbumBinding) : RemoteAlbumState :=
  if db.attachmentTrouble b [.wrongOwner, .bindingConflict] then .albumIdentityConflict
  else if db.attachmentTrouble b [.missingAlbum] ∨ db.remoteMissing b then
    .remoteAlbumMissingNeedsAttention
  else .materialization b.materializationState

/-- The remote album of the binding is there. -/
def remoteMaterialized (db : AlbumDb) (b : AlbumBinding) : Prop :=
  db.remoteStatus b = .materialization .materialized

instance (db : AlbumDb) (b : AlbumBinding) : Decidable (db.remoteMaterialized b) :=
  inferInstanceAs (Decidable (_ = _))

/-! ## Obligations -/

/-- The latest semantic event of an obligation. -/
def latestSemanticEvent (db : AlbumDb) (obligationId : Token) :
    Option AlbumAttachmentSemanticEvent :=
  db.attachmentSemanticEvents.latest? (fun e => e.obligationId = obligationId)
    AlbumAttachmentSemanticEvent.obligationRevisionAfter

/-- The state column of `album_obligation_status`. -/
def effectiveState (db : AlbumDb) (b : AlbumBinding) (o : AlbumObligation) : EffectiveState :=
  match db.latestSemanticEvent o.obligationId with
  | some e => e.state
  | none =>
      match o.state with
      | .waitingForAlbum =>
          if b.flickrPhotosetId = none then .waitingForAlbum else .attachmentPending
      | .attachmentPending => .attachmentPending
      | .membershipVerified => .membershipVerified

/-- The obligation had its membership verified at some revision. -/
def fulfilled (db : AlbumDb) (obligationId : Token) : Prop :=
  ∃ e ∈ db.obligationEvents, e.obligationId = obligationId ∧ e.state = .membershipVerified

instance (db : AlbumDb) (obligationId : Token) : Decidable (db.fulfilled obligationId) :=
  inferInstanceAs (Decidable (∃ e ∈ db.obligationEvents, _))

/-- The epoch of the last attempt that verified the membership, and zero without one. -/
def lastVerifiedEpoch (db : AlbumDb) (obligationId : Token) : Nat :=
  db.attachments.maxOf
    (fun a => a.obligationId = obligationId && a.state = .membershipVerified)
    AlbumAttachmentAttempt.epoch

/-- The attempt was marked for dispatch after the last verified membership. -/
def markedSince (db : AlbumDb) (obligationId : Token) (a : AlbumAttachmentAttempt) : Bool :=
  a.obligationId = obligationId && a.dispatch.isSome &&
    decide (db.lastVerifiedEpoch obligationId < a.epoch)

/-- `DISPATCH_COUNT`. -/
def dispatchCount (db : AlbumDb) (obligationId : Token) : Nat :=
  db.attachments.rows.countP (db.markedSince obligationId)

/-- `ARCHIVED_FULFILLED`. -/
def archivedFulfilled (db : AlbumDb) (obligationId : Token) : Prop :=
  (∃ o ∈ db.obligations.find? obligationId, o.localRelationship = .archived) ∧
    db.fulfilled obligationId

instance (db : AlbumDb) (obligationId : Token) : Decidable (db.archivedFulfilled obligationId) :=
  inferInstanceAs (Decidable ((∃ o ∈ db.obligations.find? obligationId, _) ∧ _))

/-- There is still attachment work for the obligation: it is active, it was never
fulfilled, or a marked dispatch of it is being reconciled. -/
def attachmentWanted (db : AlbumDb) (o : AlbumObligation) : Prop :=
  o.localRelationship = .active ∨ ¬ db.fulfilled o.obligationId ∨
  ((∃ e ∈ db.latestSemanticEvent o.obligationId, e.state = .membershipReconciliationPending) ∧
    ∃ a ∈ db.attachments, db.markedSince o.obligationId a = true)

instance (db : AlbumDb) (o : AlbumObligation) : Decidable (db.attachmentWanted o) :=
  inferInstanceAs (Decidable (_ ∨ _ ∨ ((∃ e ∈ db.latestSemanticEvent o.obligationId, _) ∧
    ∃ a ∈ db.attachments, _)))

/-- The event of the current revision of the obligation shows its row. -/
def obligationAudited (db : AlbumDb) (o : AlbumObligation) : Prop :=
  ∃ e ∈ db.obligationEvents.find? (o.obligationId, o.obligationRevision), e.snapshot = o.snapshot

instance (db : AlbumDb) (o : AlbumObligation) : Decidable (db.obligationAudited o) :=
  inferInstanceAs
    (Decidable (∃ e ∈ db.obligationEvents.find? (o.obligationId, o.obligationRevision), _))

end AlbumDb

/-- The row of `album_attachment_authority` for an obligation. -/
structure AttachmentAuthority where
  photosetId : Token
  verificationRevision : Nat
  write : WriteAuthority
deriving DecidableEq

/-- The conditions of `album_attachment_authority` on the album tables. -/
def AlbumDb.attachmentOpen (db : AlbumDb) (b : AlbumBinding) (o : AlbumObligation) : Prop :=
  b.materializationState = .materialized ∧ ¬ db.remoteMissing b ∧
  ¬ db.attachmentTrouble b [.wrongOwner, .bindingConflict, .missingAlbum] ∧
  db.attachmentWanted o ∧ o.obligationRevision < maxSafeInteger ∧
  b.bindingRevision < maxSafeInteger ∧ db.obligationAudited o

instance (db : AlbumDb) (b : AlbumBinding) (o : AlbumObligation) :
    Decidable (db.attachmentOpen b o) :=
  inferInstanceAs (Decidable (_ ∧ _ ∧ _ ∧ _ ∧ _ ∧ _ ∧ _))

/-- `album_attachment_authority`. -/
def Moment.attachmentAuthority (m : Moment) (db : AlbumDb) (b : AlbumBinding)
    (o : AlbumObligation) : Option AttachmentAuthority := do
  let photosetId ← b.flickrPhotosetId
  let photo ← m.readyPhoto b.identity o.photoBindingId o.identity.photoId
  let write ← m.writeAuthority b.identity
  if db.attachmentOpen b o then some ⟨photosetId, photo.verificationRevision, write⟩ else none

end FlickrGroupAddr

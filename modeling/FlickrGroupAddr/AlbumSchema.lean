import FlickrGroupAddr.Admission
import FlickrGroupAddr.PluginCodes

/-!
# The album database

The rows of the album migrations (`0020` to `0026`).  The columns that an update
trigger keeps fixed and that the fences compare are one record, the claim; a group
of columns that a `CHECK` makes null together is one optional record.  Times that a
trigger fixes relative to the start of a claim are functions of that start.
-/

namespace FlickrGroupAddr

set_option autoImplicit false

open KeyedTable

/-! ## Text -/

/-- The class `\p{Cc}`; a Lean character is never a surrogate. -/
def isControl (c : Char) : Bool :=
  decide (c.toNat < 32) || (decide (127 ≤ c.toNat) && decide (c.toNat < 160))

/-- `title` of `album_title_store.ts`. -/
def isTitle (text : String) : Bool :=
  decide (1 ≤ text.length ∧ text.length ≤ 1000) && text.toList.all fun c => !isControl c

/-- A desired title. -/
structure Title where
  text : String
  valid : isTitle text = true
deriving DecidableEq

/-- `display`: what an observed title has to satisfy. -/
def isDisplay (text : String) : Bool :=
  decide (text.utf8ByteSize ≤ 4096) && text.toList.all fun c => !isControl c

/-- The address of an album, after `validUrl` accepted it for the photoset id it came
with; a refused one never reaches the database. -/
structure NavigationUrl where
  text : String
deriving DecidableEq

/-- `contexts`: a complete context set has at most a thousand distinct ids, none of them `0`. -/
def contextsValid (ids : List Token) : Prop :=
  ids.length ≤ 1000 ∧ (∀ id ∈ ids, id.text ≠ "0") ∧ ids.Nodup

instance (ids : List Token) : Decidable (contextsValid ids) :=
  inferInstanceAs (Decidable (_ ∧ _ ∧ _))

/-! ## Bindings and obligations -/

inductive AlbumState where
  | materializationPending
  | localCollectionRemovedRemotePreserved
deriving DecidableEq

inductive MaterializationState where
  | pending
  | creating
  | materialized
  | createOutcomeUnknown
  | createRejected
deriving DecidableEq

/-- The columns of a binding that no update may change. -/
structure AlbumIdentity where
  bindingId : Token
  userId : Token
  serviceId : Token
  localCollectionId : Token
  linkRevision : Nat
  ownerNsid : String
  firstPhotoBindingId : Token
  firstPhotoId : Token
  firstObligationId : Token
deriving DecidableEq

/-- `album_bindings`. -/
structure AlbumBinding where
  identity : AlbumIdentity
  desiredTitle : Title
  titleRevision : Nat
  bindingRevision : Nat
  flickrPhotosetId : Option Token
  state : AlbumState
  materializationState : MaterializationState
  materializationRevision : Nat
  navigationUrl : Option NavigationUrl
deriving DecidableEq

namespace AlbumBinding

def bindingId (b : AlbumBinding) : Token := b.identity.bindingId

/-- The local collection was removed. -/
def archived (b : AlbumBinding) : Prop := b.state = .localCollectionRemovedRemotePreserved

instance (b : AlbumBinding) : Decidable b.archived := inferInstanceAs (Decidable (_ = _))

/-- The columns of a binding that its events show. -/
structure Snapshot where
  titleRevision : Nat
  desiredTitle : Title
  flickrPhotosetId : Option Token
  state : AlbumState
deriving DecidableEq

def snapshot (b : AlbumBinding) : Snapshot :=
  ⟨b.titleRevision, b.desiredTitle, b.flickrPhotosetId, b.state⟩

end AlbumBinding

inductive BindingEventKind where
  | bindingCreated
  | bindingChanged
deriving DecidableEq

/-- `album_binding_events`. -/
structure AlbumBindingEvent where
  bindingId : Token
  bindingRevision : Nat
  kind : BindingEventKind
  snapshot : AlbumBinding.Snapshot
deriving DecidableEq

def AlbumBindingEvent.key (e : AlbumBindingEvent) : Token × Nat := (e.bindingId, e.bindingRevision)

inductive ObligationState where
  | waitingForAlbum
  | attachmentPending
  | membershipVerified
deriving DecidableEq

inductive LocalRelationship where
  | active
  | archived
deriving DecidableEq

/-- The columns of an obligation that no update may change. -/
structure ObligationIdentity where
  obligationId : Token
  albumBindingId : Token
  photoBindingId : Token
  photoId : Token
  admissionBindingRevision : Nat
deriving DecidableEq

/-- `album_photo_obligations`. -/
structure AlbumObligation where
  identity : ObligationIdentity
  obligationRevision : Nat
  state : ObligationState
  localRelationship : LocalRelationship
deriving DecidableEq

namespace AlbumObligation

def obligationId (o : AlbumObligation) : Token := o.identity.obligationId

def albumBindingId (o : AlbumObligation) : Token := o.identity.albumBindingId

def photoBindingId (o : AlbumObligation) : Token := o.identity.photoBindingId

/-- The columns of an obligation that its events show. -/
def snapshot (o : AlbumObligation) : ObligationState × LocalRelationship :=
  (o.state, o.localRelationship)

end AlbumObligation

inductive ObligationEventKind where
  | obligationAdmitted
  | relationshipArchived
  | membershipVerified
  | attachmentStateChanged
deriving DecidableEq

/-- `album_obligation_events`. -/
structure AlbumObligationEvent where
  obligationId : Token
  obligationRevision : Nat
  kind : ObligationEventKind
  state : ObligationState
  localRelationship : LocalRelationship
deriving DecidableEq

namespace AlbumObligationEvent

def key (e : AlbumObligationEvent) : Token × Nat := (e.obligationId, e.obligationRevision)

def snapshot (e : AlbumObligationEvent) : ObligationState × LocalRelationship :=
  (e.state, e.localRelationship)

end AlbumObligationEvent

/-! ## Materialization -/

/-- `AlbumMaterializationClaim`: the columns of an attempt that `FENCE` compares. -/
structure AlbumMaterializationClaim where
  attemptId : Token
  bindingId : Token
  leaseId : Token
  epoch : Nat
  userId : Token
  ownerNsid : String
  photoBindingId : Token
  photoId : Token
  linkRevision : Nat
  grantGeneration : Token
  desiredTitle : Title
  titleRevision : Nat
  deploymentGateRevision : Nat
  userGateRevision : Nat
deriving DecidableEq

/-- The columns the dispatch marker sets. -/
structure CreateDispatch where
  startedAtUs : Us
  preContextIds : List Token
deriving DecidableEq

/-- The columns `recordAlbumCreateResult` sets. -/
structure CreateReceived where
  photosetId : Token
  navigationUrl : NavigationUrl
  atUs : Us
deriving DecidableEq

/-- The columns a verified proof sets. -/
structure CreateProof where
  photosetId : Token
  navigationUrl : NavigationUrl
  contextIds : List Token
  ownerNsid : String
  photoId : Token
  observedAtUs : Us
deriving DecidableEq

/-- The state of a create attempt with the columns the `CHECK`s require in it. -/
inductive MaterializationPhase where
  | claimed
  | dispatched (dispatch : CreateDispatch)
  | resultReceived (dispatch : CreateDispatch) (received : CreateReceived)
  | verified (dispatch : CreateDispatch) (received : CreateReceived) (proof : CreateProof)
      (completedAtUs : Us)
  | createOutcomeUnknown (dispatch : CreateDispatch) (received : Option CreateReceived)
      (completedAtUs : Us)
  | createRejected (dispatch : CreateDispatch) (flickrCode : Nat) (completedAtUs : Us)
  | abandonedBeforeDispatch (completedAtUs : Us)
deriving DecidableEq

namespace MaterializationPhase

/-- The dispatch marker; it is there exactly when `dispatch_count` is 1. -/
def dispatch? : MaterializationPhase → Option CreateDispatch
  | .claimed | .abandonedBeforeDispatch _ => none
  | .dispatched d | .resultReceived d _ | .verified d _ _ _ | .createOutcomeUnknown d _ _
  | .createRejected d _ _ => some d

/-- `completed_at_us IS NULL`. -/
def isOpen : MaterializationPhase → Bool
  | .claimed | .dispatched _ | .resultReceived _ _ => true
  | .verified .. | .createOutcomeUnknown .. | .createRejected .. | .abandonedBeforeDispatch _ => false

/-- `state='create_outcome_unknown'`. -/
def isUnknown : MaterializationPhase → Bool
  | .createOutcomeUnknown .. => true
  | _ => false

/-- The photoset a verified attempt proved. -/
def verifiedPhotoset? : MaterializationPhase → Option Token
  | .verified _ _ proof _ => some proof.photosetId
  | _ => none

end MaterializationPhase

/-- `album_materialization_attempts`. -/
structure AlbumMaterializationAttempt where
  claim : AlbumMaterializationClaim
  startedAtUs : Us
  phase : MaterializationPhase
deriving DecidableEq

namespace AlbumMaterializationAttempt

def attemptId (a : AlbumMaterializationAttempt) : Token := a.claim.attemptId

def bindingId (a : AlbumMaterializationAttempt) : Token := a.claim.bindingId

def epoch (a : AlbumMaterializationAttempt) : Nat := a.claim.epoch

def leaseExpiresAtUs (a : AlbumMaterializationAttempt) : Us := a.startedAtUs + 60000000

def invocationDeadlineAtUs (a : AlbumMaterializationAttempt) : Us := a.startedAtUs + 45000000

/-- Both the lease and the invocation have more than `margin` left. -/
def hasLeft (a : AlbumMaterializationAttempt) (now margin : Us) : Prop :=
  margin < a.leaseExpiresAtUs - now ∧ margin < a.invocationDeadlineAtUs - now

instance (a : AlbumMaterializationAttempt) (now margin : Us) : Decidable (a.hasLeft now margin) :=
  inferInstanceAs (Decidable (_ ∧ _))

end AlbumMaterializationAttempt

inductive RepairAuthorityKind where
  | installation
  | admin
deriving DecidableEq

/-- `album_create_repair_receipts`. -/
structure AlbumCreateRepairReceipt where
  bindingId : Token
  attemptId : Token
  expectedBindingRevision : Nat
  selectedPhotosetId : Token
  navigationUrl : NavigationUrl
  ownerNsid : String
  firstPhotoBindingId : Token
  firstPhotoId : Token
  linkRevision : Nat
  grantGeneration : Token
  deploymentGateRevision : Nat
  userGateRevision : Nat
  lifecycle : AlbumState
  authorityKind : RepairAuthorityKind
  authorityId : Token
  authorityDigest : String
  ownerSub : String
  principalRevision : Nat
  authorityRevision : Nat
  contextObservedAtUs : Us
  deadlineAtUs : Us
  proofContextIds : List Token
  proofObservedAtUs : Us
deriving DecidableEq

/-! ## Titles -/

/-- `album_title_receipts`; the accepted binding revision is the one after the expected
one, and the title revision the one after the expected one. -/
structure AlbumTitleReceipt where
  bindingId : Token
  expectedBindingRevision : Nat
  expectedTitleRevision : Nat
  desiredTitle : Title
  installationId : Token
  credentialDigest : String
  acceptedAtUs : Us
deriving DecidableEq

namespace AlbumTitleReceipt

def titleRevision (r : AlbumTitleReceipt) : Nat := r.expectedTitleRevision + 1

def acceptedBindingRevision (r : AlbumTitleReceipt) : Nat := r.expectedBindingRevision + 1

def key (r : AlbumTitleReceipt) : Token × Nat := (r.bindingId, r.titleRevision)

end AlbumTitleReceipt

inductive TitleState where
  | claimed
  | dispatched
  | resultReceived
  | synced
  | superseded
  | retryPending
  | conflict
  | reconciliationPending
  | needsAttention
  | localRemoved
deriving DecidableEq

inductive TitleResultClass where
  | success
  | uncertain
  | rejected
deriving DecidableEq

/-- The columns of a title attempt that no update may change. -/
structure TitleIdentity where
  attemptId : Token
  bindingId : Token
  userId : Token
  ownerNsid : String
  photosetId : Token
  linkRevision : Nat
  grantGeneration : Token
  desiredTitle : Title
  titleRevision : Nat
  bindingRevision : Nat
  deploymentGateRevision : Nat
  userGateRevision : Nat
  attemptNumber : Nat
  startedAtUs : Us
deriving DecidableEq

/-- The columns the dispatch marker of an edit sets. -/
structure TitleDispatch where
  preDispatchTitle : String
  startedAtUs : Us
deriving DecidableEq

/-- `observed_title` and `observed_at_us`, of a title that passed `display`. -/
structure TitleObservation where
  title : String
  atUs : Us
  valid : isDisplay title = true
deriving DecidableEq

/-- `album_title_attempts`. -/
structure AlbumTitleAttempt where
  identity : TitleIdentity
  leaseId : Token
  epoch : Nat
  leaseBindingRevision : Nat
  leaseExpiresAtUs : Us
  invocationDeadlineAtUs : Us
  nextReadAtUs : Us
  state : TitleState
  readCount : Nat
  dispatch : Option TitleDispatch
  resultClass : Option TitleResultClass
  observed : Option TitleObservation
  completedAtUs : Option Us
  satisfiedTitleRevision : Option Nat
  remoteMissing : Bool
deriving DecidableEq

namespace AlbumTitleAttempt

def attemptId (a : AlbumTitleAttempt) : Token := a.identity.attemptId

def bindingId (a : AlbumTitleAttempt) : Token := a.identity.bindingId

def titleRevision (a : AlbumTitleAttempt) : Nat := a.identity.titleRevision

/-- `dispatch_count`. -/
def dispatchCount (a : AlbumTitleAttempt) : Nat := if a.dispatch.isSome then 1 else 0

end AlbumTitleAttempt

/-- `album_title_semantic_events`; the revision after is the one after the revision before. -/
structure AlbumTitleSemanticEvent where
  bindingId : Token
  bindingRevisionBefore : Nat
  attemptId : Token
  epoch : Nat
deriving DecidableEq

namespace AlbumTitleSemanticEvent

def bindingRevisionAfter (e : AlbumTitleSemanticEvent) : Nat := e.bindingRevisionBefore + 1

def key (e : AlbumTitleSemanticEvent) : Token × Nat := (e.bindingId, e.bindingRevisionAfter)

end AlbumTitleSemanticEvent

/-! ## Attachments -/

/-- `AlbumAttachmentClaim`: the columns of an attempt that `FENCE` compares. -/
structure AlbumAttachmentClaim where
  attemptId : Token
  obligationId : Token
  bindingId : Token
  leaseId : Token
  epoch : Nat
  userId : Token
  ownerNsid : String
  photoBindingId : Token
  photoId : Token
  photosetId : Token
  primaryPhotoId : Token
  linkRevision : Nat
  grantGeneration : Token
  bindingRevision : Nat
  obligationRevision : Nat
  verificationRevision : Nat
  deploymentGateRevision : Nat
  userGateRevision : Nat
  reconciliationOnly : Bool
deriving DecidableEq

inductive AttachmentState where
  | claimed
  | dispatched
  | resultReceived
  | membershipVerified
  | membershipReconciliationPending
  | retryScheduled
  | needsAttention
  | abandonedBeforeDispatch
deriving DecidableEq

/-- `completed_at_us IS NULL`, which a `CHECK` ties to the state. -/
def AttachmentState.isOpen : AttachmentState → Bool
  | .claimed | .dispatched | .resultReceived => true
  | _ => false

inductive AttachmentResult where
  | added
  | alreadyPresent
  | uncertain
deriving DecidableEq

inductive AttentionReason where
  | wrongOwner
  | missingAlbum
  | missingPhoto
  | bindingConflict
  | retryExhausted
  | archivedDriftUnresolved
deriving DecidableEq

/-- The columns the dispatch marker of an add sets. -/
structure AddDispatch where
  startedAtUs : Us
  preContextIds : List Token
deriving DecidableEq

/-- The columns of a membership proof. -/
structure MembershipProof where
  contextIds : List Token
  ownerNsid : String
  photoId : Token
  observedAtUs : Us
deriving DecidableEq

/-- `album_attachment_attempts`. -/
structure AlbumAttachmentAttempt where
  claim : AlbumAttachmentClaim
  startedAtUs : Us
  state : AttachmentState
  dispatch : Option AddDispatch
  received : Option (AttachmentResult × Us)
  retryAfterUs : Us
  proof : Option MembershipProof
  attentionReason : Option AttentionReason
deriving DecidableEq

namespace AlbumAttachmentAttempt

def attemptId (a : AlbumAttachmentAttempt) : Token := a.claim.attemptId

def obligationId (a : AlbumAttachmentAttempt) : Token := a.claim.obligationId

def epoch (a : AlbumAttachmentAttempt) : Nat := a.claim.epoch

def leaseExpiresAtUs (a : AlbumAttachmentAttempt) : Us := a.startedAtUs + 60000000

def invocationDeadlineAtUs (a : AlbumAttachmentAttempt) : Us := a.startedAtUs + 45000000

/-- Both the lease and the invocation have more than `margin` left. -/
def hasLeft (a : AlbumAttachmentAttempt) (now margin : Us) : Prop :=
  margin < a.leaseExpiresAtUs - now ∧ margin < a.invocationDeadlineAtUs - now

instance (a : AlbumAttachmentAttempt) (now margin : Us) : Decidable (a.hasLeft now margin) :=
  inferInstanceAs (Decidable (_ ∧ _))

end AlbumAttachmentAttempt

/-- The state of an obligation that its attachment work shows. -/
inductive EffectiveState where
  | waitingForAlbum
  | attachmentPending
  | membershipVerified
  | membershipReconciliationPending
  | needsAttention
deriving DecidableEq

/-- `album_attachment_semantic_events`; each revision after is the one after the
revision before. -/
structure AlbumAttachmentSemanticEvent where
  attemptId : Token
  obligationId : Token
  bindingId : Token
  bindingRevisionBefore : Nat
  obligationRevisionBefore : Nat
  state : EffectiveState
  membershipObservedAtUs : Option Us
deriving DecidableEq

namespace AlbumAttachmentSemanticEvent

def bindingRevisionAfter (e : AlbumAttachmentSemanticEvent) : Nat := e.bindingRevisionBefore + 1

def obligationRevisionAfter (e : AlbumAttachmentSemanticEvent) : Nat :=
  e.obligationRevisionBefore + 1

def key (e : AlbumAttachmentSemanticEvent) : Token × Nat := (e.bindingId, e.bindingRevisionAfter)

end AlbumAttachmentSemanticEvent

/-! ## Local removal -/

/-- `album_local_removal_receipts`. -/
structure AlbumRemovalReceipt where
  bindingId : Token
  expectedBindingRevision : Nat
  acknowledgedCreateAttemptId : Option Token
  archivedAtUs : Us
  installationId : Token
  credentialDigest : String
deriving DecidableEq

def AlbumRemovalReceipt.acceptedBindingRevision (r : AlbumRemovalReceipt) : Nat :=
  r.expectedBindingRevision + 1

inductive RemovalSource where
  | photo
  | album
deriving DecidableEq

/-- `album_photo_local_removal_receipts`. -/
structure PhotoRemovalReceipt where
  obligationId : Token
  bindingId : Token
  photoBindingId : Token
  expectedBindingRevision : Nat
  expectedObligationRevision : Nat
  source : RemovalSource
  archivedAtUs : Us
  installationId : Token
  credentialDigest : String
deriving DecidableEq

namespace PhotoRemovalReceipt

def acceptedBindingRevision (r : PhotoRemovalReceipt) : Nat := r.expectedBindingRevision + 1

def archivedObligationRevision (r : PhotoRemovalReceipt) : Nat := r.expectedObligationRevision + 1

end PhotoRemovalReceipt

/-! ## The tables -/

structure AlbumDb where
  bindings : Table AlbumBinding.bindingId
  bindingEvents : Table AlbumBindingEvent.key
  obligations : Table AlbumObligation.obligationId
  obligationEvents : Table AlbumObligationEvent.key
  materializations : Table AlbumMaterializationAttempt.attemptId
  repairReceipts : Table AlbumCreateRepairReceipt.bindingId
  titleReceipts : Table AlbumTitleReceipt.key
  titleAttempts : Table AlbumTitleAttempt.attemptId
  titleSemanticEvents : Table AlbumTitleSemanticEvent.key
  attachments : Table AlbumAttachmentAttempt.attemptId
  attachmentSemanticEvents : Table AlbumAttachmentSemanticEvent.key
  albumRemovals : Table AlbumRemovalReceipt.bindingId
  photoRemovals : Table PhotoRemovalReceipt.obligationId
deriving DecidableEq

/-- The album tables right after the migrations. -/
def emptyAlbumDb : AlbumDb :=
  ⟨.empty, .empty, .empty, .empty, .empty, .empty, .empty, .empty, .empty, .empty, .empty, .empty,
    .empty⟩

/-! ## Outside the album tables -/

/-- `publish_service_identities`. -/
structure ServiceIdentity where
  serviceId : Token
  userId : Token
  ownerNsid : String
  linkRevision : Nat
deriving DecidableEq

/-- `upload_photo_binding_events`. -/
structure UploadPhotoBindingEvent where
  bindingId : Token
  verificationRevision : Nat
  linkRevision : Nat
  verifiedAtUs : Us
deriving DecidableEq

/-- `admin_sessions`, with the columns the repair reads. -/
structure RepairSession where
  sessionId : Token
  userId : Token
  tokenDigest : String
  revision : Nat
  revoked : Bool
  expiresAtUs : Us
deriving DecidableEq

/-- `admin_principals` of the one accepted issuer. -/
structure AdminPrincipal where
  userId : Token
  googleSub : String
  sessionSetRevision : Nat
deriving DecidableEq

/-- The tables the album triggers and views read and no album operation writes.
`existingPublicEvents` holds the keys of the `photo_binding_events` of that kind. -/
structure AlbumWorld where
  flickr : FlickrTables
  services : Table ServiceIdentity.serviceId
  existingPublicEvents : List (Token × Nat)
  uploadEvents : List UploadPhotoBindingEvent
  installations : Table PluginInstallation.installationId
  versions : Table PluginVersion.versionId
  sessions : Table RepairSession.sessionId
  principals : Table AdminPrincipal.userId
deriving DecidableEq

end FlickrGroupAddr

import FlickrGroupAddr.AlbumViews

/-!
# Writing the album tables

One definition for each kind of row write: the checks and `BEFORE` triggers that can
abort it, the write, and what its `AFTER` triggers write in turn.  `none` is an
aborted statement, which rolls its whole batch back.  An `UPDATE` names the complete
new row; an `UPDATE` that selects no row changes nothing.  The triggers are those in
force after migration `0026`.
-/

namespace FlickrGroupAddr

set_option autoImplicit false

open KeyedTable

namespace AlbumDb

/-! ## Bindings -/

/-- No event shows the revision of the binding yet. -/
def bindingRevisionOpen (db : AlbumDb) (bindingId : Token) (revision : Nat) : Prop :=
  db.bindingEvents.find? (bindingId, revision) = none

instance (db : AlbumDb) (bindingId : Token) (revision : Nat) :
    Decidable (db.bindingRevisionOpen bindingId revision) :=
  inferInstanceAs (Decidable (_ = none))

/-- What entitles an update of a binding to its next revision, in `album_binding_revision`. -/
def bindingRevisionDue (db : AlbumDb) (old new : AlbumBinding) : Prop :=
  new.titleRevision ≠ old.titleRevision ∨ new.flickrPhotosetId ≠ old.flickrPhotosetId ∨
  new.state ≠ old.state ∨ new.materializationState ≠ old.materializationState ∨
  (∃ o ∈ db.obligations, o.albumBindingId = old.bindingId ∧
    o.identity.admissionBindingRevision = old.bindingRevision + 1 ∧
    db.bindingRevisionOpen old.bindingId (old.bindingRevision + 1)) ∨
  (∃ e ∈ db.titleSemanticEvents, e.bindingId = old.bindingId ∧
    e.bindingRevisionBefore = old.bindingRevision ∧
    db.bindingRevisionOpen old.bindingId (old.bindingRevision + 1)) ∨
  (∃ e ∈ db.attachmentSemanticEvents, e.bindingId = old.bindingId ∧
    e.bindingRevisionBefore = old.bindingRevision ∧
    e.bindingRevisionAfter = new.bindingRevision ∧
    db.bindingRevisionOpen old.bindingId new.bindingRevision) ∨
  (∃ r ∈ db.photoRemovals, r.bindingId = old.bindingId ∧ r.source = .photo ∧
    r.expectedBindingRevision = old.bindingRevision ∧
    r.acceptedBindingRevision = new.bindingRevision ∧
    db.bindingRevisionOpen old.bindingId new.bindingRevision)

instance (db : AlbumDb) (old new : AlbumBinding) : Decidable (db.bindingRevisionDue old new) :=
  inferInstanceAs (Decidable (_ ∨ _ ∨ _ ∨ _ ∨ (∃ o ∈ db.obligations, _) ∨
    (∃ e ∈ db.titleSemanticEvents, _) ∨ (∃ e ∈ db.attachmentSemanticEvents, _) ∨
    ∃ r ∈ db.photoRemovals, _))

/-- A retained title receipt is the step from one title revision to the next. -/
def titleAccepted (db : AlbumDb) (old new : AlbumBinding) : Prop :=
  new.titleRevision = old.titleRevision + 1 ∧
    ∃ r ∈ db.titleReceipts.find? (old.bindingId, new.titleRevision),
      r.expectedBindingRevision = old.bindingRevision ∧
      r.acceptedBindingRevision = new.bindingRevision ∧
      r.expectedTitleRevision = old.titleRevision ∧ r.desiredTitle = new.desiredTitle

instance (db : AlbumDb) (old new : AlbumBinding) : Decidable (db.titleAccepted old new) :=
  inferInstanceAs (Decidable (_ ∧
    ∃ r ∈ db.titleReceipts.find? (old.bindingId, new.titleRevision), _))

/-- `album_binding_revision`. -/
def bindingRevisionKept (db : AlbumDb) (old new : AlbumBinding) : Prop :=
  new.bindingRevision = old.bindingRevision + (if db.bindingRevisionDue old new then 1 else 0) ∧
  new.materializationRevision = old.materializationRevision +
    (if new.materializationState ≠ old.materializationState then 1 else 0) ∧
  (new.titleRevision ≠ old.titleRevision → db.titleAccepted old new) ∧
  (new.desiredTitle ≠ old.desiredTitle → new.titleRevision ≠ old.titleRevision) ∧
  (old.archived → new.state = old.state ∧ new.desiredTitle = old.desiredTitle ∧
    new.titleRevision = old.titleRevision)

instance (db : AlbumDb) (old new : AlbumBinding) : Decidable (db.bindingRevisionKept old new) :=
  inferInstanceAs (Decidable (_ ∧ _ ∧ (_ → _) ∧ (_ → _) ∧ (_ → _)))

/-- The create attempt in this phase explains the change of the materialization. -/
def createExplains (old new : AlbumBinding) : MaterializationPhase → Prop
  | .dispatched _ => old.materializationState = .pending ∧
      new.materializationState = .creating ∧ new.flickrPhotosetId = none ∧
      new.navigationUrl = none
  | .verified _ _ proof _ => old.materializationState = .creating ∧
      new.materializationState = .materialized ∧
      new.flickrPhotosetId = some proof.photosetId ∧
      new.navigationUrl = some proof.navigationUrl
  | .createOutcomeUnknown _ _ _ => old.materializationState = .creating ∧
      new.materializationState = .createOutcomeUnknown ∧ new.flickrPhotosetId = none ∧
      new.navigationUrl = none
  | .createRejected _ _ _ => old.materializationState = .creating ∧
      new.materializationState = .createRejected ∧ new.flickrPhotosetId = none ∧
      new.navigationUrl = none
  | .claimed | .resultReceived _ _ | .abandonedBeforeDispatch _ => False

instance (old new : AlbumBinding) (phase : MaterializationPhase) :
    Decidable (createExplains old new phase) :=
  match phase with
  | .dispatched _ => inferInstanceAs (Decidable (_ ∧ _ ∧ _ ∧ _))
  | .verified _ _ _ _ => inferInstanceAs (Decidable (_ ∧ _ ∧ _ ∧ _))
  | .createOutcomeUnknown _ _ _ => inferInstanceAs (Decidable (_ ∧ _ ∧ _ ∧ _))
  | .createRejected _ _ _ => inferInstanceAs (Decidable (_ ∧ _ ∧ _ ∧ _))
  | .claimed => inferInstanceAs (Decidable False)
  | .resultReceived _ _ => inferInstanceAs (Decidable False)
  | .abandonedBeforeDispatch _ => inferInstanceAs (Decidable False)

/-- `album_materialization_binding_guard`. -/
def materializationExplained (db : AlbumDb) (old new : AlbumBinding) : Prop :=
  (new.materializationState = old.materializationState ∧
    new.flickrPhotosetId = old.flickrPhotosetId ∧ new.navigationUrl = old.navigationUrl) ∨
  (∃ a ∈ db.materializations, a.bindingId = old.bindingId ∧ createExplains old new a.phase) ∨
  (∃ r ∈ db.repairReceipts.find? old.bindingId,
    r.expectedBindingRevision = old.bindingRevision ∧
    new.bindingRevision = old.bindingRevision + 1 ∧
    old.materializationState = .createOutcomeUnknown ∧ old.flickrPhotosetId = none ∧
    new.materializationState = .materialized ∧
    new.flickrPhotosetId = some r.selectedPhotosetId ∧
    new.navigationUrl = some r.navigationUrl)

instance (db : AlbumDb) (old new : AlbumBinding) :
    Decidable (db.materializationExplained old new) :=
  inferInstanceAs (Decidable ((_ ∧ _ ∧ _) ∨ (∃ a ∈ db.materializations, _) ∨
    ∃ r ∈ db.repairReceipts.find? old.bindingId, _))

/-- `album_local_archive_authorized`. -/
def archiveAuthorized (db : AlbumDb) (old new : AlbumBinding) : Prop :=
  new.state = old.state ∨
  ∃ r ∈ db.albumRemovals.find? old.bindingId, r.expectedBindingRevision = old.bindingRevision ∧
    r.acceptedBindingRevision = new.bindingRevision

instance (db : AlbumDb) (old new : AlbumBinding) : Decidable (db.archiveAuthorized old new) :=
  inferInstanceAs (Decidable (_ ∨ ∃ r ∈ db.albumRemovals.find? old.bindingId, _))

/-- `UNIQUE(owner_nsid,flickr_photoset_id)`. -/
def photosetFree (db : AlbumDb) (b : AlbumBinding) : Prop :=
  ∀ other ∈ db.bindings, other.bindingId ≠ b.bindingId →
    other.identity.ownerNsid = b.identity.ownerNsid → b.flickrPhotosetId ≠ none →
    other.flickrPhotosetId ≠ b.flickrPhotosetId

instance (db : AlbumDb) (b : AlbumBinding) : Decidable (db.photosetFree b) :=
  inferInstanceAs (Decidable (∀ other ∈ db.bindings, _ → _ → _ → _))

/-- The `CHECK`s and `BEFORE UPDATE` triggers of `album_bindings`. -/
structure BindingUpdateAllowed (db : AlbumDb) (old new : AlbumBinding) : Prop where
  inRange : revisionInRange new.titleRevision ∧ revisionInRange new.bindingRevision ∧
    revisionInRange new.materializationRevision
  photoset : db.photosetFree new
  identity : new.identity = old.identity ∧
    (old.flickrPhotosetId ≠ none → new.flickrPhotosetId = old.flickrPhotosetId)
  revision : db.bindingRevisionKept old new
  materialization : db.materializationExplained old new
  archive : db.archiveAuthorized old new

instance (db : AlbumDb) (old new : AlbumBinding) : Decidable (db.BindingUpdateAllowed old new) :=
  decidable_of_iff
    ((revisionInRange new.titleRevision ∧ revisionInRange new.bindingRevision ∧
      revisionInRange new.materializationRevision) ∧ db.photosetFree new ∧
      (new.identity = old.identity ∧
        (old.flickrPhotosetId ≠ none → new.flickrPhotosetId = old.flickrPhotosetId)) ∧
      db.bindingRevisionKept old new ∧ db.materializationExplained old new ∧
      db.archiveAuthorized old new)
    ⟨fun ⟨a, b, c, d, e, f⟩ => ⟨a, b, c, d, e, f⟩, fun ⟨a, b, c, d, e, f⟩ => ⟨a, b, c, d, e, f⟩⟩

/-- `UPDATE album_bindings` of one row, with `album_binding_changed`. -/
def setBinding (db : AlbumDb) (new : AlbumBinding) : Option AlbumDb :=
  match db.bindings.find? new.bindingId with
  | none => some db
  | some old =>
      if db.BindingUpdateAllowed old new then
        if new.bindingRevision = old.bindingRevision then
          some { db with bindings := db.bindings.set new }
        else
          (db.bindingEvents.insert?
            ⟨new.bindingId, new.bindingRevision, .bindingChanged, new.snapshot⟩).map fun events =>
              { db with bindings := db.bindings.set new, bindingEvents := events }
      else none

/-! ## Title attempts -/

/-- The binding revision the lease of a title attempt stands at: the one after its last
semantic event, or the one it was taken at. -/
def titleFront (db : AlbumDb) (a : AlbumTitleAttempt) : Nat :=
  let last := db.titleSemanticEvents.maxOf
    (fun e => e.attemptId = a.attemptId && e.epoch = a.epoch)
    AlbumTitleSemanticEvent.bindingRevisionAfter
  if last = 0 then a.leaseBindingRevision else last

/-- `IDENTITY_AUTH`: the worker authority the attempt was claimed under still stands. -/
def titleAuthority (m : Moment) (db : AlbumDb) (id : TitleIdentity) : Prop :=
  ∃ b ∈ db.bindings.find? id.bindingId,
    (b.materializationState = .materialized ∧ b.flickrPhotosetId = some id.photosetId) ∧
    (b.identity.userId = id.userId ∧ b.identity.ownerNsid = id.ownerNsid ∧
      b.identity.linkRevision = id.linkRevision) ∧
    m.materializationAuthority b.identity =
      some ⟨id.grantGeneration, id.deploymentGateRevision, id.userGateRevision⟩

instance (m : Moment) (db : AlbumDb) (id : TitleIdentity) : Decidable (titleAuthority m db id) :=
  inferInstanceAs (Decidable (∃ b ∈ db.bindings.find? id.bindingId, _))

/-- The state changes of a title attempt. -/
def titleTransition (marked : Bool) : TitleState → TitleState → Bool
  | .claimed, .dispatched | .claimed, .synced | .claimed, .superseded
  | .claimed, .reconciliationPending | .claimed, .needsAttention | .claimed, .localRemoved => true
  | .dispatched, after | .resultReceived, after | .reconciliationPending, after =>
      after ∈ [.resultReceived, .synced, .superseded, .retryPending, .conflict,
        .reconciliationPending, .needsAttention, .localRemoved, .claimed]
  | .needsAttention, .superseded | .needsAttention, .localRemoved => !marked
  | _, _ => false

/-- The columns of a title attempt that only move one way. -/
def titleMonotone (old new : AlbumTitleAttempt) : Prop :=
  old.completedAtUs = none ∧ new.identity = old.identity ∧
  (new.leaseBindingRevision ≠ old.leaseBindingRevision → new.leaseId ≠ old.leaseId) ∧
  (old.dispatch ≠ none → new.dispatch = old.dispatch) ∧
  (old.resultClass ≠ none → new.resultClass = old.resultClass) ∧
  (old.readCount ≤ new.readCount ∧ new.readCount ≤ old.readCount + 1 ∧ new.readCount ≤ 5) ∧
  (old.remoteMissing = true → new.remoteMissing = true) ∧
  (new.leaseId = old.leaseId → new.leaseExpiresAtUs ≤ old.leaseExpiresAtUs)

instance (old new : AlbumTitleAttempt) : Decidable (titleMonotone old new) :=
  inferInstanceAs (Decidable (_ ∧ _ ∧ (_ → _) ∧ (_ → _) ∧ (_ → _) ∧ _ ∧ (_ → _) ∧ (_ → _)))

/-- `completed_at_us` and the other columns fit the state of a title attempt. -/
def titleColumns (new : AlbumTitleAttempt) : Prop :=
  (new.state ∈ [TitleState.synced, .superseded, .retryPending, .conflict, .localRemoved] →
    new.completedAtUs ≠ none) ∧
  (new.state ∈ [TitleState.claimed, .dispatched, .resultReceived, .reconciliationPending] →
    new.completedAtUs = none) ∧
  (new.state = .claimed → new.dispatch = none) ∧
  (new.state = .dispatched → new.dispatch ≠ none) ∧
  (new.state = .resultReceived → new.dispatch ≠ none ∧ new.resultClass ≠ none) ∧
  (new.dispatch = none → new.resultClass = none) ∧
  (new.state = .reconciliationPending → new.readCount ≠ 0)

instance (new : AlbumTitleAttempt) : Decidable (titleColumns new) :=
  inferInstanceAs (Decidable ((_ → _) ∧ (_ → _) ∧ (_ → _) ∧ (_ → _) ∧ (_ → _) ∧ (_ → _) ∧
    (_ → _)))

/-- The title was observed by this statement. -/
def observedNow (m : Moment) (new : AlbumTitleAttempt) : Prop :=
  ∃ seen ∈ new.observed, seen.atUs = m.now

instance (m : Moment) (new : AlbumTitleAttempt) : Decidable (observedNow m new) :=
  inferInstanceAs (Decidable (∃ seen ∈ new.observed, _))

/-- What an observation, a completion and a satisfied revision may be changed to. -/
def titleEvidence (m : Moment) (db : AlbumDb) (old new : AlbumTitleAttempt) : Prop :=
  (new.observed ≠ old.observed → new.readCount ≠ 0 ∧ observedNow m new) ∧
  (new.completedAtUs ≠ none → new.completedAtUs = some m.now) ∧
  (new.satisfiedTitleRevision ≠ old.satisfiedTitleRevision → new.state = .synced ∧
    ∃ b ∈ db.bindings.find? old.bindingId, new.satisfiedTitleRevision = some b.titleRevision ∧
      ∃ seen ∈ new.observed, seen.title = b.desiredTitle.text)

instance (m : Moment) (db : AlbumDb) (old new : AlbumTitleAttempt) :
    Decidable (titleEvidence m db old new) :=
  inferInstanceAs (Decidable ((_ → _) ∧ (_ → _) ∧ (_ → _ ∧
    ∃ b ∈ db.bindings.find? old.bindingId, _ ∧ ∃ seen ∈ new.observed, _)))

/-- A lease changes hands only after it expired, to the next epoch, and with nothing else. -/
def titleTakeover (m : Moment) (db : AlbumDb) (old new : AlbumTitleAttempt) : Prop :=
  (new.leaseId ≠ old.leaseId ∨ new.epoch ≠ old.epoch ∨
    new.invocationDeadlineAtUs ≠ old.invocationDeadlineAtUs) →
  (old.leaseExpiresAtUs ≤ m.now ∧ new.epoch = old.epoch + 1 ∧ new.leaseId ≠ old.leaseId) ∧
  (new.invocationDeadlineAtUs = m.now + 10000000 ∧
    new.leaseExpiresAtUs = new.invocationDeadlineAtUs + 1000000) ∧
  (∃ b ∈ db.bindings.find? old.bindingId, b.bindingRevision = new.leaseBindingRevision) ∧
  (new.state = old.state ∧ new.readCount = old.readCount ∧ new.dispatch = old.dispatch)

instance (m : Moment) (db : AlbumDb) (old new : AlbumTitleAttempt) :
    Decidable (titleTakeover m db old new) :=
  inferInstanceAs (Decidable (_ → _ ∧ _ ∧ (∃ b ∈ db.bindings.find? old.bindingId, _) ∧ _))

/-- The `UNIQUE` constraints of `album_title_attempts` on the columns a takeover changes. -/
def titleKeysFree (db : AlbumDb) (new : AlbumTitleAttempt) : Prop :=
  ∀ other ∈ db.titleAttempts, other.attemptId ≠ new.attemptId →
    other.leaseId ≠ new.leaseId ∧ (other.bindingId = new.bindingId → other.epoch ≠ new.epoch)

instance (db : AlbumDb) (new : AlbumTitleAttempt) : Decidable (db.titleKeysFree new) :=
  inferInstanceAs (Decidable (∀ other ∈ db.titleAttempts, _ → _ ∧ (_ → _)))

/-- The binding still wants the title of the attempt. -/
def titleWanted (db : AlbumDb) (id : TitleIdentity) : Prop :=
  ∃ b ∈ db.bindings.find? id.bindingId, b.titleRevision = id.titleRevision ∧
    b.desiredTitle = id.desiredTitle ∧ ¬ b.archived

instance (db : AlbumDb) (id : TitleIdentity) : Decidable (db.titleWanted id) :=
  inferInstanceAs (Decidable (∃ b ∈ db.bindings.find? id.bindingId, _))

/-- The remote album of the binding is there. -/
def titleAlbumThere (db : AlbumDb) (id : TitleIdentity) : Prop :=
  ∃ b ∈ db.bindings.find? id.bindingId, db.remoteMaterialized b

instance (db : AlbumDb) (id : TitleIdentity) : Decidable (db.titleAlbumThere id) :=
  inferInstanceAs (Decidable (∃ b ∈ db.bindings.find? id.bindingId, _))

/-- The conditions on marking an edit. -/
def titleMarking (m : Moment) (db : AlbumDb) (old new : AlbumTitleAttempt) : Prop :=
  old.dispatch = none → ∀ d ∈ new.dispatch,
    (old.state = .claimed ∧ new.state = .dispatched ∧ 1 ≤ old.readCount ∧ old.readCount < 5) ∧
    (d.preDispatchTitle ≠ old.identity.desiredTitle.text ∧ d.startedAtUs = m.now) ∧
    db.titleWanted old.identity ∧ db.titleAlbumThere old.identity

instance (m : Moment) (db : AlbumDb) (old new : AlbumTitleAttempt) :
    Decidable (titleMarking m db old new) :=
  inferInstanceAs (Decidable (_ → ∀ d ∈ new.dispatch, _))

/-- The wait after a read, by the reads made with it. -/
def titleReadWait (marked : Bool) (readCount : Nat) : Us :=
  if (marked = true ∧ readCount ≤ 2) ∨ (marked = false ∧ readCount < 2) then 5000000 else 30000000

/-- The conditions on charging a read. -/
def titleReading (m : Moment) (old new : AlbumTitleAttempt) : Prop :=
  old.readCount < new.readCount →
    old.readCount < 5 ∧
    (new.state ≠ old.state → old.dispatch = none ∧ old.state = .reconciliationPending ∧
      new.state = .claimed) ∧
    old.nextReadAtUs ≤ m.now ∧
    m.now + titleReadWait old.dispatch.isSome new.readCount ≤ new.nextReadAtUs

instance (m : Moment) (old new : AlbumTitleAttempt) : Decidable (titleReading m old new) :=
  inferInstanceAs (Decidable (_ → _ ∧ (_ → _) ∧ _ ∧ _))

/-- The observed title. -/
def seenTitle (new : AlbumTitleAttempt) : Option String := new.observed.map TitleObservation.title

/-- The title the binding wants now. -/
def desiredTitle (db : AlbumDb) (bindingId : Token) : Option String :=
  (db.bindings.find? bindingId).map fun b => b.desiredTitle.text

/-- The binding moved to a later title revision. -/
def titleOutdated (db : AlbumDb) (id : TitleIdentity) : Prop :=
  ∃ b ∈ db.bindings.find? id.bindingId, id.titleRevision < b.titleRevision

instance (db : AlbumDb) (id : TitleIdentity) : Decidable (db.titleOutdated id) :=
  inferInstanceAs (Decidable (∃ b ∈ db.bindings.find? id.bindingId, _))

/-- What a title attempt has to have observed to move to a state. -/
def titleOutcomeIn (m : Moment) (db : AlbumDb) (old new : AlbumTitleAttempt) : TitleState → Prop
  | .synced => observedNow m new ∧ seenTitle new = db.desiredTitle old.bindingId
  | .conflict => observedNow m new ∧ old.dispatch ≠ none ∧
      seenTitle new ≠ some old.identity.desiredTitle.text ∧
      seenTitle new ≠ old.dispatch.map TitleDispatch.preDispatchTitle ∧
      seenTitle new ≠ db.desiredTitle old.bindingId
  | .retryPending => observedNow m new ∧ old.dispatch ≠ none ∧
      seenTitle new = old.dispatch.map TitleDispatch.preDispatchTitle ∧
      old.identity.attemptNumber < 3 ∧
      ∃ b ∈ db.bindings.find? old.bindingId, b.titleRevision = old.titleRevision ∧ ¬ b.archived
  | .needsAttention => new.completedAtUs ≠ none → observedNow m new ∧ old.dispatch ≠ none ∧
      old.identity.attemptNumber = 3 ∧
      seenTitle new = old.dispatch.map TitleDispatch.preDispatchTitle
  | .superseded => db.titleOutdated old.identity ∧ (old.dispatch ≠ none → observedNow m new ∧
      (seenTitle new = some old.identity.desiredTitle.text ∨
        seenTitle new = old.dispatch.map TitleDispatch.preDispatchTitle))
  | .localRemoved => (∃ b ∈ db.bindings.find? old.bindingId, b.archived) ∧
      (old.dispatch ≠ none → observedNow m new)
  | .claimed | .dispatched | .resultReceived | .reconciliationPending => True

instance (m : Moment) (db : AlbumDb) (old new : AlbumTitleAttempt) (state : TitleState) :
    Decidable (titleOutcomeIn m db old new state) :=
  match state with
  | .synced => inferInstanceAs (Decidable (_ ∧ _))
  | .conflict => inferInstanceAs (Decidable (_ ∧ _ ∧ _ ∧ _ ∧ _))
  | .retryPending => inferInstanceAs (Decidable (_ ∧ _ ∧ _ ∧ _ ∧
      ∃ b ∈ db.bindings.find? old.bindingId, _))
  | .needsAttention => inferInstanceAs (Decidable (_ → _ ∧ _ ∧ _ ∧ _))
  | .superseded => inferInstanceAs (Decidable (_ ∧ (_ → _ ∧ (_ ∨ _))))
  | .localRemoved => inferInstanceAs (Decidable ((∃ b ∈ db.bindings.find? old.bindingId, _) ∧
      (_ → _)))
  | .claimed => inferInstanceAs (Decidable True)
  | .dispatched => inferInstanceAs (Decidable True)
  | .resultReceived => inferInstanceAs (Decidable True)
  | .reconciliationPending => inferInstanceAs (Decidable True)

/-- The reads of the attempt are used up and its lease ran out. -/
def titleExhausted (m : Moment) (old new : AlbumTitleAttempt) : Prop :=
  new.state = .needsAttention ∧ old.readCount = 5 ∧ old.leaseExpiresAtUs ≤ m.now

instance (m : Moment) (old new : AlbumTitleAttempt) : Decidable (titleExhausted m old new) :=
  inferInstanceAs (Decidable (_ ∧ _ ∧ _))

/-- An attempt without a marker is closed because its title or its album is gone. -/
def titleClosing (old new : AlbumTitleAttempt) : Prop :=
  old.dispatch = none ∧ new.state ∈ [TitleState.superseded, .localRemoved]

instance (old new : AlbumTitleAttempt) : Decidable (titleClosing old new) :=
  inferInstanceAs (Decidable (_ ∧ _))

/-- The fences: the binding stands where the lease left it, the authority still stands,
and under the same lease neither the lease nor the invocation ran out. -/
def titleFenced (m : Moment) (db : AlbumDb) (old new : AlbumTitleAttempt) : Prop :=
  titleClosing old new ∨ titleExhausted m old new ∨
  ((new.leaseId = old.leaseId →
      (∃ b ∈ db.bindings.find? old.bindingId, b.bindingRevision = db.titleFront old) ∧
      m.now < old.leaseExpiresAtUs ∧ m.now < old.invocationDeadlineAtUs) ∧
    titleAuthority m db old.identity)

instance (m : Moment) (db : AlbumDb) (old new : AlbumTitleAttempt) :
    Decidable (titleFenced m db old new) :=
  inferInstanceAs (Decidable (_ ∨ _ ∨ ((_ → (∃ b ∈ db.bindings.find? old.bindingId, _) ∧ _ ∧ _) ∧
    _)))

/-- The `CHECK`s and `BEFORE UPDATE` triggers of `album_title_attempts`. -/
structure TitleUpdateAllowed (m : Moment) (db : AlbumDb) (old new : AlbumTitleAttempt) : Prop where
  monotone : titleMonotone old new
  transition : new.state = old.state ∨ titleTransition old.dispatch.isSome old.state new.state = true
  columns : titleColumns new
  evidence : titleEvidence m db old new
  takeover : titleTakeover m db old new
  keys : db.titleKeysFree new
  marking : titleMarking m db old new
  reading : titleReading m old new
  outcome : titleOutcomeIn m db old new new.state
  fenced : titleFenced m db old new

instance (m : Moment) (db : AlbumDb) (old new : AlbumTitleAttempt) :
    Decidable (TitleUpdateAllowed m db old new) :=
  decidable_of_iff
    (titleMonotone old new ∧
      (new.state = old.state ∨
        titleTransition old.dispatch.isSome old.state new.state = true) ∧
      titleColumns new ∧ titleEvidence m db old new ∧ titleTakeover m db old new ∧
      db.titleKeysFree new ∧ titleMarking m db old new ∧ titleReading m old new ∧ titleOutcomeIn m db old new new.state ∧
      titleFenced m db old new)
    ⟨fun ⟨a, b, c, d, e, f, g, h, i, j⟩ => ⟨a, b, c, d, e, f, g, h, i, j⟩,
      fun ⟨a, b, c, d, e, f, g, h, i, j⟩ => ⟨a, b, c, d, e, f, g, h, i, j⟩⟩

/-- `UPDATE album_title_attempts` of one row, without what follows on the binding. -/
def setTitleAttempt (m : Moment) (db : AlbumDb) (new : AlbumTitleAttempt) : Option AlbumDb :=
  match db.titleAttempts.find? new.attemptId with
  | none => some db
  | some old =>
      if TitleUpdateAllowed m db old new then
        some { db with titleAttempts := db.titleAttempts.set new }
      else none

/-- The title attempts `album_title_binding_changed` closes. -/
def titleClosable (b : AlbumBinding) (a : AlbumTitleAttempt) : Prop :=
  a.bindingId = b.bindingId ∧ a.completedAtUs = none ∧ a.dispatch = none ∧
    (a.titleRevision < b.titleRevision ∨ b.archived)

instance (b : AlbumBinding) (a : AlbumTitleAttempt) : Decidable (titleClosable b a) :=
  inferInstanceAs (Decidable (_ ∧ _ ∧ _ ∧ (_ ∨ _)))

/-- `album_title_binding_changed`.  It marks no semantic change, so the binding stays. -/
def closeTitleAttempts (m : Moment) (db : AlbumDb) (b : AlbumBinding) : Option AlbumDb :=
  (db.titleAttempts.rows.filter fun a => titleClosable b a).foldlM
    (fun db a => setTitleAttempt m db
      { a with
        state := if b.archived then .localRemoved else .superseded
        completedAtUs := some m.now }) db

/-- `UPDATE album_bindings` of one row that keeps `state`, or before the obligations are
archived. -/
def updateBindingRow (m : Moment) (db : AlbumDb) (new : AlbumBinding) : Option AlbumDb :=
  (db.setBinding new).bind fun db => closeTitleAttempts m db new

/-- `UPDATE … SET binding_revision=…`, of a binding that may not be there. -/
def moveBindingTo (m : Moment) (db : AlbumDb) (bindingId : Token) (revision : Nat) :
    Option AlbumDb :=
  match db.bindings.find? bindingId with
  | none => some db
  | some b => updateBindingRow m db { b with bindingRevision := revision }

/-! ## Obligations -/

/-- A retained removal receipt of the obligation fits its archival. -/
def archiveReceipted (db : AlbumDb) (old new : AlbumObligation) : Prop :=
  ∃ r ∈ db.photoRemovals.find? old.obligationId,
    (r.bindingId = old.albumBindingId ∧ r.photoBindingId = old.photoBindingId) ∧
    (r.expectedObligationRevision = old.obligationRevision ∧
      r.archivedObligationRevision = new.obligationRevision) ∧
    ∃ b ∈ db.bindings.find? r.bindingId, b.bindingRevision = r.acceptedBindingRevision

instance (db : AlbumDb) (old new : AlbumObligation) : Decidable (db.archiveReceipted old new) :=
  inferInstanceAs (Decidable (∃ r ∈ db.photoRemovals.find? old.obligationId, _ ∧ _ ∧
    ∃ b ∈ db.bindings.find? r.bindingId, _))

/-- The photo of the first obligation of a binding is in its photoset, by a verified create
or by an accepted repair. -/
def firstMembershipProven (db : AlbumDb) (o : AlbumObligation) : Prop :=
  ∃ b ∈ db.bindings, b.identity.firstObligationId = o.obligationId ∧
    ((∃ a ∈ db.materializations, a.bindingId = b.bindingId ∧
        (∃ photosetId ∈ a.phase.verifiedPhotoset?, b.flickrPhotosetId = some photosetId) ∧
        a.claim.photoId = o.identity.photoId ∧ a.claim.photoBindingId = o.photoBindingId) ∨
      ∃ r ∈ db.repairReceipts.find? b.bindingId,
        b.flickrPhotosetId = some r.selectedPhotosetId ∧
        r.firstPhotoId = o.identity.photoId ∧ r.firstPhotoBindingId = o.photoBindingId)

instance (db : AlbumDb) (o : AlbumObligation) : Decidable (db.firstMembershipProven o) :=
  inferInstanceAs (Decidable (∃ b ∈ db.bindings, _ ∧
    ((∃ a ∈ db.materializations, _ ∧ (∃ photosetId ∈ a.phase.verifiedPhotoset?, _) ∧ _ ∧ _) ∨
      ∃ r ∈ db.repairReceipts.find? b.bindingId, _)))

/-- A semantic event of the attachment work is the step to the new row. -/
def attachmentExplains (db : AlbumDb) (old new : AlbumObligation) : Prop :=
  ∃ e ∈ db.attachmentSemanticEvents, e.obligationId = old.obligationId ∧
    e.obligationRevisionBefore = old.obligationRevision ∧
    e.obligationRevisionAfter = new.obligationRevision ∧
    new.state = if e.state = .membershipVerified then .membershipVerified else old.state

instance (db : AlbumDb) (old new : AlbumObligation) : Decidable (db.attachmentExplains old new) :=
  inferInstanceAs (Decidable (∃ e ∈ db.attachmentSemanticEvents, _))

/-- The `CHECK` and the `BEFORE UPDATE` trigger of `album_photo_obligations`. -/
structure ObligationUpdateAllowed (db : AlbumDb) (old new : AlbumObligation) : Prop where
  identity : new.identity = old.identity
  revision : new.obligationRevision = old.obligationRevision + 1 ∧
    revisionInRange new.obligationRevision
  due : (new.state = old.state ∧ old.localRelationship = .active ∧
      new.localRelationship = .archived ∧ db.archiveReceipted old new) ∨
    (new.localRelationship = old.localRelationship ∧ new.state = .membershipVerified ∧
      old.state = .waitingForAlbum ∧ db.firstMembershipProven old) ∨
    (new.localRelationship = old.localRelationship ∧ db.attachmentExplains old new)

instance (db : AlbumDb) (old new : AlbumObligation) :
    Decidable (db.ObligationUpdateAllowed old new) :=
  decidable_of_iff
    (new.identity = old.identity ∧ (new.obligationRevision = old.obligationRevision + 1 ∧
      revisionInRange new.obligationRevision) ∧
      ((new.state = old.state ∧ old.localRelationship = .active ∧
          new.localRelationship = .archived ∧ db.archiveReceipted old new) ∨
        (new.localRelationship = old.localRelationship ∧ new.state = .membershipVerified ∧
          old.state = .waitingForAlbum ∧ db.firstMembershipProven old) ∨
        (new.localRelationship = old.localRelationship ∧ db.attachmentExplains old new)))
    ⟨fun ⟨a, b, c⟩ => ⟨a, b, c⟩, fun ⟨a, b, c⟩ => ⟨a, b, c⟩⟩

/-- The kind of event `album_obligation_archived` writes. -/
def obligationEventKind (old new : AlbumObligation) : ObligationEventKind :=
  if new.localRelationship ≠ old.localRelationship then .relationshipArchived
  else if new.state = .membershipVerified ∧ old.state ≠ new.state then .membershipVerified
  else .attachmentStateChanged

/-- The event of a row of `album_photo_obligations`. -/
def obligationEvent (o : AlbumObligation) (kind : ObligationEventKind) : AlbumObligationEvent :=
  ⟨o.obligationId, o.obligationRevision, kind, o.state, o.localRelationship⟩

/-- `album_obligation_event_consistent`, of an event that shows its row: a changed
attachment state needs its semantic event. -/
def obligationEventConsistent (db : AlbumDb) (e : AlbumObligationEvent) : Prop :=
  e.kind = .attachmentStateChanged →
    ∃ semantic ∈ db.attachmentSemanticEvents, semantic.obligationId = e.obligationId ∧
      semantic.obligationRevisionAfter = e.obligationRevision

instance (db : AlbumDb) (e : AlbumObligationEvent) : Decidable (db.obligationEventConsistent e) :=
  inferInstanceAs (Decidable (_ → ∃ semantic ∈ db.attachmentSemanticEvents, _))

/-- `INSERT INTO album_obligation_events`. -/
def insertObligationEvent (db : AlbumDb) (e : AlbumObligationEvent) : Option AlbumDb :=
  (db.obligationEvents.insertIf? (db.obligationEventConsistent e) e).map fun events =>
    { db with obligationEvents := events }

/-- `UPDATE album_photo_obligations` of one row. -/
def setObligation (db : AlbumDb) (new : AlbumObligation) : Option AlbumDb :=
  match db.obligations.find? new.obligationId with
  | none => some db
  | some old =>
      if db.ObligationUpdateAllowed old new then
        insertObligationEvent { db with obligations := db.obligations.set new }
          (obligationEvent new (obligationEventKind old new))
      else none

/-- `album_obligation_initial`, for a row in its initial revision. -/
def obligationAdmissible (m : Moment) (db : AlbumDb) (o : AlbumObligation) : Prop :=
  (o.obligationRevision = 1 ∧ o.localRelationship = .active ∧
    1 ≤ o.identity.admissionBindingRevision) ∧
  ∃ b ∈ db.bindings.find? o.albumBindingId, ¬ b.archived ∧
    (∃ s ∈ m.world.services.find? b.identity.serviceId, s.userId = b.identity.userId ∧
      s.ownerNsid = b.identity.ownerNsid ∧ s.linkRevision = b.identity.linkRevision) ∧
    (m.readyPhoto b.identity o.photoBindingId o.identity.photoId).isSome = true ∧
    o.state = (if b.flickrPhotosetId = none then .waitingForAlbum else .attachmentPending) ∧
    ((b.bindingRevision = 1 ∧ b.identity.firstObligationId = o.obligationId ∧
        b.identity.firstPhotoBindingId = o.photoBindingId ∧
        b.identity.firstPhotoId = o.identity.photoId ∧ o.identity.admissionBindingRevision = 1) ∨
      (b.identity.firstObligationId ≠ o.obligationId ∧
        b.identity.firstPhotoBindingId ≠ o.photoBindingId ∧
        b.bindingRevision < maxSafeInteger ∧
        o.identity.admissionBindingRevision = b.bindingRevision + 1))

instance (m : Moment) (db : AlbumDb) (o : AlbumObligation) :
    Decidable (obligationAdmissible m db o) :=
  inferInstanceAs (Decidable (_ ∧ ∃ b ∈ db.bindings.find? o.albumBindingId, _ ∧
    (∃ s ∈ m.world.services.find? b.identity.serviceId, _) ∧ _))

/-- The `UNIQUE` constraints of `album_photo_obligations` besides its key. -/
def obligationFree (db : AlbumDb) (o : AlbumObligation) : Prop :=
  ∀ other ∈ db.obligations, other.albumBindingId = o.albumBindingId →
    other.photoBindingId ≠ o.photoBindingId ∧
    other.identity.admissionBindingRevision ≠ o.identity.admissionBindingRevision

instance (db : AlbumDb) (o : AlbumObligation) : Decidable (db.obligationFree o) :=
  inferInstanceAs (Decidable (∀ other ∈ db.obligations, _ → _ ∧ _))

/-- The binding moves to the revision that admitted the obligation. -/
def moveBindingUpTo (m : Moment) (db : AlbumDb) (bindingId : Token) (revision : Nat) :
    Option AlbumDb :=
  match db.bindings.find? bindingId with
  | none => some db
  | some b => if b.bindingRevision < revision then moveBindingTo m db bindingId revision else some db

/-- `INSERT INTO album_photo_obligations`, with `album_obligation_admitted`. -/
def insertObligation (m : Moment) (db : AlbumDb) (o : AlbumObligation) : Option AlbumDb := do
  let obligations ← db.obligations.insertIf? (obligationAdmissible m db o ∧ db.obligationFree o) o
  let moved ← moveBindingUpTo m { db with obligations := obligations } o.albumBindingId
    o.identity.admissionBindingRevision
  insertObligationEvent moved (obligationEvent o .obligationAdmitted)

/-! ## New bindings -/

/-- The `BEFORE INSERT` triggers and the `UNIQUE` constraints of `album_bindings`. -/
def bindingAdmissible (m : Moment) (db : AlbumDb) (b : AlbumBinding) : Prop :=
  (b.bindingRevision = 1 ∧ b.titleRevision = 1 ∧ b.flickrPhotosetId = none ∧ ¬ b.archived) ∧
  (b.materializationState = .pending ∧ b.materializationRevision = 1 ∧ b.navigationUrl = none) ∧
  (∃ s ∈ m.world.services.find? b.identity.serviceId, s.userId = b.identity.userId ∧
    s.ownerNsid = b.identity.ownerNsid ∧ s.linkRevision = b.identity.linkRevision) ∧
  (m.readyPhoto b.identity b.identity.firstPhotoBindingId b.identity.firstPhotoId).isSome = true ∧
  ∀ other ∈ db.bindings,
    other.identity.firstObligationId ≠ b.identity.firstObligationId ∧
    ¬ (other.identity.userId = b.identity.userId ∧
      other.identity.serviceId = b.identity.serviceId ∧
      other.identity.localCollectionId = b.identity.localCollectionId)

instance (m : Moment) (db : AlbumDb) (b : AlbumBinding) : Decidable (bindingAdmissible m db b) :=
  inferInstanceAs (Decidable (_ ∧ _ ∧ (∃ s ∈ m.world.services.find? b.identity.serviceId, _) ∧ _ ∧
    ∀ other ∈ db.bindings, _))

/-- `INSERT INTO album_bindings`, with `album_binding_created`. -/
def insertBinding (m : Moment) (db : AlbumDb) (b : AlbumBinding) : Option AlbumDb := do
  let bindings ← db.bindings.insertIf? (bindingAdmissible m db b) b
  let admitted ← insertObligation m { db with bindings := bindings }
    ⟨⟨b.identity.firstObligationId, b.bindingId, b.identity.firstPhotoBindingId,
      b.identity.firstPhotoId, 1⟩, 1, .waitingForAlbum, .active⟩
  let events ← admitted.bindingEvents.insert?
    ⟨b.bindingId, b.bindingRevision, .bindingCreated, b.snapshot⟩
  some { admitted with bindingEvents := events }

/-! ## Local removal -/

/-- An installation of the owner of the binding removes. -/
def removalAuthorized (m : Moment) (db : AlbumDb) (bindingId : Token) (auth : AdmissionAuth) :
    Prop :=
  ∃ b ∈ db.bindings.find? bindingId,
    m.world.installationUser auth = some b.identity.userId ∧ m.world.serviceOwned b.identity

instance (m : Moment) (db : AlbumDb) (bindingId : Token) (auth : AdmissionAuth) :
    Decidable (removalAuthorized m db bindingId auth) :=
  inferInstanceAs (Decidable (∃ b ∈ db.bindings.find? bindingId, _))

/-- The binding stands where the source of a photo removal leaves it. -/
def photoRemovalPlaced (db : AlbumDb) (r : PhotoRemovalReceipt) (b : AlbumBinding) : Prop :=
  (r.source = .photo ∧ b.bindingRevision = r.expectedBindingRevision) ∨
  (r.source = .album ∧ b.archived ∧ b.bindingRevision = r.acceptedBindingRevision ∧
    ∃ removal ∈ db.albumRemovals.find? b.bindingId,
      removal.expectedBindingRevision = r.expectedBindingRevision ∧
      removal.installationId = r.installationId ∧
      removal.credentialDigest = r.credentialDigest ∧ removal.archivedAtUs = r.archivedAtUs)

instance (db : AlbumDb) (r : PhotoRemovalReceipt) (b : AlbumBinding) :
    Decidable (db.photoRemovalPlaced r b) :=
  inferInstanceAs (Decidable ((_ ∧ _) ∨ (_ ∧ _ ∧ _ ∧
    ∃ removal ∈ db.albumRemovals.find? b.bindingId, _)))

/-- The `CHECK`s and `BEFORE INSERT` triggers of `album_photo_local_removal_receipts`. -/
def photoRemovalAdmissible (m : Moment) (db : AlbumDb) (r : PhotoRemovalReceipt) : Prop :=
  (1 ≤ r.expectedBindingRevision ∧ r.expectedBindingRevision < maxSafeInteger) ∧
  (1 ≤ r.expectedObligationRevision ∧ r.expectedObligationRevision < maxSafeInteger) ∧
  (∀ other ∈ db.photoRemovals, other.bindingId = r.bindingId →
    other.photoBindingId ≠ r.photoBindingId) ∧
  removalAuthorized m db r.bindingId ⟨r.installationId, r.credentialDigest⟩ ∧
  ∃ o ∈ db.obligations.find? r.obligationId,
    (o.albumBindingId = r.bindingId ∧ o.photoBindingId = r.photoBindingId) ∧
    (o.localRelationship = .active ∧ o.obligationRevision = r.expectedObligationRevision) ∧
    ∃ b ∈ db.bindings.find? o.albumBindingId, db.photoRemovalPlaced r b

instance (m : Moment) (db : AlbumDb) (r : PhotoRemovalReceipt) :
    Decidable (photoRemovalAdmissible m db r) :=
  inferInstanceAs (Decidable (_ ∧ _ ∧ (∀ other ∈ db.photoRemovals, _ → _) ∧ _ ∧
    ∃ o ∈ db.obligations.find? r.obligationId, _ ∧ _ ∧
      ∃ b ∈ db.bindings.find? o.albumBindingId, _))

/-- The row of an obligation that a removal archived. -/
def archivedRow (r : PhotoRemovalReceipt) (o : AlbumObligation) : AlbumObligation :=
  { o with localRelationship := .archived, obligationRevision := r.archivedObligationRevision }

/-- The binding part of `album_photo_local_removal_apply`: a removal of the photo itself
takes the next binding revision. -/
def applyPhotoSource (m : Moment) (db : AlbumDb) (r : PhotoRemovalReceipt) : Option AlbumDb :=
  match db.bindings.find? r.bindingId with
  | none => some db
  | some b =>
      if r.source = .photo ∧ b.bindingRevision = r.expectedBindingRevision then
        moveBindingTo m db r.bindingId r.acceptedBindingRevision
      else some db

/-- The obligation part of `album_photo_local_removal_apply`. -/
def archiveObligation (db : AlbumDb) (r : PhotoRemovalReceipt) : Option AlbumDb :=
  match db.obligations.find? r.obligationId with
  | none => some db
  | some o => db.setObligation (archivedRow r o)

/-- `INSERT INTO album_photo_local_removal_receipts`. -/
def insertPhotoRemoval (m : Moment) (db : AlbumDb) (r : PhotoRemovalReceipt) : Option AlbumDb := do
  let receipts ← db.photoRemovals.insertIf? (photoRemovalAdmissible m db r) r
  let moved ← applyPhotoSource m { db with photoRemovals := receipts } r
  archiveObligation moved r

/-- The receipt of an active obligation under the removal of its album. -/
def albumSourceReceipt (removal : AlbumRemovalReceipt) (o : AlbumObligation) :
    PhotoRemovalReceipt :=
  { obligationId := o.obligationId
    bindingId := removal.bindingId
    photoBindingId := o.photoBindingId
    expectedBindingRevision := removal.expectedBindingRevision
    expectedObligationRevision := o.obligationRevision
    source := .album
    archivedAtUs := removal.archivedAtUs
    installationId := removal.installationId
    credentialDigest := removal.credentialDigest }

/-- The active obligations of a binding. -/
def activeObligations (db : AlbumDb) (bindingId : Token) : List AlbumObligation :=
  db.obligations.rows.filter fun o =>
    o.albumBindingId = bindingId ∧ o.localRelationship = .active

/-- `album_binding_archive_obligations`, of a binding that was just archived. -/
def archiveObligations (m : Moment) (db : AlbumDb) (bindingId : Token) : Option AlbumDb :=
  match db.albumRemovals.find? bindingId with
  | none => some db
  | some removal =>
      (db.activeObligations bindingId).foldlM
        (fun db o => insertPhotoRemoval m db (albumSourceReceipt removal o)) db

/-- The create attempt a removal has to acknowledge: the unresolved one. -/
def unresolvedCreate (db : AlbumDb) (b : AlbumBinding) : Option Token :=
  if b.materializationState = .createOutcomeUnknown ∧ b.flickrPhotosetId = none then
    (db.materializations.latest? (fun a => a.bindingId = b.bindingId && a.phase.isUnknown)
      AlbumMaterializationAttempt.epoch).map AlbumMaterializationAttempt.attemptId
  else none

/-- An active obligation of the binding has no revision left. -/
def obligationExhausted (db : AlbumDb) (bindingId : Token) : Prop :=
  ∃ o ∈ db.obligations, o.albumBindingId = bindingId ∧ o.localRelationship = .active ∧
    o.obligationRevision = maxSafeInteger

instance (db : AlbumDb) (bindingId : Token) : Decidable (db.obligationExhausted bindingId) :=
  inferInstanceAs (Decidable (∃ o ∈ db.obligations, _))

/-- The `CHECK`s and `BEFORE INSERT` triggers of `album_local_removal_receipts`. -/
def albumRemovalAdmissible (m : Moment) (db : AlbumDb) (r : AlbumRemovalReceipt) : Prop :=
  (1 ≤ r.expectedBindingRevision ∧ r.expectedBindingRevision < maxSafeInteger) ∧
  removalAuthorized m db r.bindingId ⟨r.installationId, r.credentialDigest⟩ ∧
  (∃ b ∈ db.bindings.find? r.bindingId, ¬ b.archived ∧
    b.bindingRevision = r.expectedBindingRevision ∧
    r.acknowledgedCreateAttemptId = db.unresolvedCreate b) ∧
  ¬ db.obligationExhausted r.bindingId

instance (m : Moment) (db : AlbumDb) (r : AlbumRemovalReceipt) :
    Decidable (albumRemovalAdmissible m db r) :=
  inferInstanceAs (Decidable (_ ∧ _ ∧ (∃ b ∈ db.bindings.find? r.bindingId, _) ∧ _))

/-- `album_local_removal_apply`: the binding is archived, and its obligations with it. -/
def archiveBinding (m : Moment) (db : AlbumDb) (r : AlbumRemovalReceipt) : Option AlbumDb :=
  match db.bindings.find? r.bindingId with
  | none => some db
  | some b =>
      (updateBindingRow m db
        { b with
          state := .localCollectionRemovedRemotePreserved
          bindingRevision := r.acceptedBindingRevision }).bind fun db =>
        archiveObligations m db r.bindingId

/-- `INSERT INTO album_local_removal_receipts`. -/
def insertAlbumRemoval (m : Moment) (db : AlbumDb) (r : AlbumRemovalReceipt) : Option AlbumDb := do
  let receipts ← db.albumRemovals.insertIf? (albumRemovalAdmissible m db r) r
  archiveBinding m { db with albumRemovals := receipts } r

/-! ## Title receipts -/

/-- The `CHECK`s and `BEFORE INSERT` triggers of `album_title_receipts`. -/
def titleReceiptAdmissible (m : Moment) (db : AlbumDb) (r : AlbumTitleReceipt) : Prop :=
  (1 ≤ r.expectedBindingRevision ∧ r.expectedBindingRevision < maxSafeInteger) ∧
  (1 ≤ r.expectedTitleRevision ∧ r.expectedTitleRevision < maxSafeInteger) ∧
  ∃ b ∈ db.bindings.find? r.bindingId,
    (b.bindingRevision = r.expectedBindingRevision ∧
      b.titleRevision = r.expectedTitleRevision ∧ ¬ b.archived) ∧
    (m.world.titleLinkAuthority b.identity).isSome = true ∧
    m.world.installationUser ⟨r.installationId, r.credentialDigest⟩ = some b.identity.userId

instance (m : Moment) (db : AlbumDb) (r : AlbumTitleReceipt) :
    Decidable (titleReceiptAdmissible m db r) :=
  inferInstanceAs (Decidable (_ ∧ _ ∧ ∃ b ∈ db.bindings.find? r.bindingId, _))

/-- `album_title_receipt_apply`. -/
def applyTitle (m : Moment) (db : AlbumDb) (r : AlbumTitleReceipt) : Option AlbumDb :=
  match db.bindings.find? r.bindingId with
  | none => some db
  | some b =>
      updateBindingRow m db
        { b with
          desiredTitle := r.desiredTitle
          titleRevision := r.titleRevision
          bindingRevision := r.acceptedBindingRevision }

/-- `INSERT INTO album_title_receipts`. -/
def insertTitleReceipt (m : Moment) (db : AlbumDb) (r : AlbumTitleReceipt) : Option AlbumDb := do
  let receipts ← db.titleReceipts.insertIf? (titleReceiptAdmissible m db r) r
  applyTitle m { db with titleReceipts := receipts } r

/-! ## Materialization attempts -/

/-- The epoch of the last create attempt of a binding, and zero without one. -/
def lastCreateEpoch (db : AlbumDb) (bindingId : Token) : Nat :=
  db.materializations.maxOf (fun a => a.bindingId = bindingId) AlbumMaterializationAttempt.epoch

/-- The authority a create attempt was claimed under still stands, and no photoset is bound. -/
def createAuthority (m : Moment) (db : AlbumDb) (c : AlbumMaterializationClaim) : Prop :=
  ∃ b ∈ db.bindings.find? c.bindingId,
    (b.identity.userId = c.userId ∧ b.identity.ownerNsid = c.ownerNsid ∧
      b.identity.linkRevision = c.linkRevision) ∧
    (b.identity.firstPhotoBindingId = c.photoBindingId ∧ b.identity.firstPhotoId = c.photoId) ∧
    b.flickrPhotosetId = none ∧
    m.materializationAuthority b.identity =
      some ⟨c.grantGeneration, c.deploymentGateRevision, c.userGateRevision⟩

instance (m : Moment) (db : AlbumDb) (c : AlbumMaterializationClaim) :
    Decidable (createAuthority m db c) :=
  inferInstanceAs (Decidable (∃ b ∈ db.bindings.find? c.bindingId, _))

/-- The binding still has the title of the claim. -/
def createTitleCurrent (db : AlbumDb) (c : AlbumMaterializationClaim) : Prop :=
  ∃ b ∈ db.bindings.find? c.bindingId, b.desiredTitle = c.desiredTitle ∧
    b.titleRevision = c.titleRevision

instance (db : AlbumDb) (c : AlbumMaterializationClaim) : Decidable (db.createTitleCurrent c) :=
  inferInstanceAs (Decidable (∃ b ∈ db.bindings.find? c.bindingId, _))

/-- An attempt of the binding is open or was dispatched. -/
def createTaken (db : AlbumDb) (bindingId : Token) : Prop :=
  ∃ a ∈ db.materializations, a.bindingId = bindingId ∧
    (a.phase.isOpen = true ∨ a.phase.dispatch?.isSome = true)

instance (db : AlbumDb) (bindingId : Token) : Decidable (db.createTaken bindingId) :=
  inferInstanceAs (Decidable (∃ a ∈ db.materializations, _))

/-- The `BEFORE INSERT` triggers of `album_materialization_attempts`. -/
def createAdmissible (m : Moment) (db : AlbumDb) (a : AlbumMaterializationAttempt) : Prop :=
  (a.phase = .claimed ∧ a.startedAtUs = m.now) ∧
  (a.epoch = db.lastCreateEpoch a.bindingId + 1 ∧ revisionInRange a.epoch) ∧
  ¬ db.createTaken a.bindingId ∧
  (∀ other ∈ db.materializations, other.claim.leaseId ≠ a.claim.leaseId) ∧
  createAuthority m db a.claim ∧ db.createTitleCurrent a.claim ∧
  ∃ b ∈ db.bindings.find? a.bindingId, b.materializationState = .pending

instance (m : Moment) (db : AlbumDb) (a : AlbumMaterializationAttempt) :
    Decidable (createAdmissible m db a) :=
  inferInstanceAs (Decidable (_ ∧ _ ∧ _ ∧ (∀ other ∈ db.materializations, _) ∧ _ ∧ _ ∧
    ∃ b ∈ db.bindings.find? a.bindingId, _))

/-- `INSERT INTO album_materialization_attempts`. -/
def insertMaterialization (m : Moment) (db : AlbumDb) (a : AlbumMaterializationAttempt) :
    Option AlbumDb :=
  (db.materializations.insertIf? (createAdmissible m db a) a).map fun attempts =>
    { db with materializations := attempts }

/-- The codes of a documented rejection of a create. -/
def createRejectionCodes : List Nat := [1, 2, 3, 95, 96, 97, 98, 99, 100]

/-- The phase changes of a create attempt, with the evidence each keeps. -/
def createTransition (c : AlbumMaterializationClaim) (now : Us) :
    MaterializationPhase → MaterializationPhase → Prop
  | .claimed, .dispatched d => d.startedAtUs = now ∧ contextsValid d.preContextIds
  | .claimed, .abandonedBeforeDispatch at_ => at_ = now
  | .dispatched d, .resultReceived d' r => d' = d ∧ r.atUs = now ∧ r.photosetId.text ≠ "0"
  | .dispatched d, .createOutcomeUnknown d' r at_ => d' = d ∧ r = none ∧ at_ = now
  | .dispatched d, .createRejected d' code at_ => d' = d ∧ code ∈ createRejectionCodes ∧ at_ = now
  | .resultReceived d r, .verified d' r' proof at_ => (d' = d ∧ r' = r) ∧
      (proof.photosetId = r.photosetId ∧ proof.navigationUrl = r.navigationUrl) ∧
      (proof.ownerNsid = c.ownerNsid ∧ proof.photoId = c.photoId) ∧
      (proof.observedAtUs = now ∧ at_ = now) ∧
      (contextsValid proof.contextIds ∧ proof.photosetId ∈ proof.contextIds)
  | .resultReceived d r, .createOutcomeUnknown d' r' at_ => d' = d ∧ r' = some r ∧ at_ = now
  | _, _ => False

instance (c : AlbumMaterializationClaim) (now : Us) (old new : MaterializationPhase) :
    Decidable (createTransition c now old new) := by
  unfold createTransition
  split <;> infer_instance

/-- The time a phase change has to leave of the lease and of the invocation. -/
def createMargin : MaterializationPhase → Option Us
  | .dispatched _ => some 15000000
  | .resultReceived _ _ | .verified .. | .createRejected .. => some 5000000
  | .claimed | .createOutcomeUnknown .. | .abandonedBeforeDispatch _ => none

/-- The `BEFORE UPDATE` triggers and the unique indexes of `album_materialization_attempts`. -/
structure CreateUpdateAllowed (m : Moment) (db : AlbumDb) (old new : AlbumMaterializationAttempt) :
    Prop where
  identity : new.claim = old.claim ∧ new.startedAtUs = old.startedAtUs
  latest : ∀ other ∈ db.materializations, other.bindingId = old.bindingId →
    other.epoch ≤ old.epoch
  transition : createTransition old.claim m.now old.phase new.phase
  live : ∀ margin ∈ createMargin new.phase,
    old.hasLeft m.now margin ∧ createAuthority m db old.claim
  title : (∃ d, new.phase = .dispatched d) → db.createTitleCurrent old.claim
  once : new.phase.dispatch?.isSome = true → ∀ other ∈ db.materializations,
    other.bindingId = old.bindingId → other.attemptId ≠ old.attemptId →
      other.phase.dispatch? = none

instance (phase : MaterializationPhase) : Decidable (∃ d, phase = .dispatched d) :=
  match phase with
  | .dispatched d => isTrue ⟨d, rfl⟩
  | .claimed => isFalse (by rintro ⟨_, h⟩; cases h)
  | .resultReceived _ _ => isFalse (by rintro ⟨_, h⟩; cases h)
  | .verified .. => isFalse (by rintro ⟨_, h⟩; cases h)
  | .createOutcomeUnknown .. => isFalse (by rintro ⟨_, h⟩; cases h)
  | .createRejected .. => isFalse (by rintro ⟨_, h⟩; cases h)
  | .abandonedBeforeDispatch _ => isFalse (by rintro ⟨_, h⟩; cases h)

instance (m : Moment) (db : AlbumDb) (old new : AlbumMaterializationAttempt) :
    Decidable (CreateUpdateAllowed m db old new) :=
  decidable_of_iff
    ((new.claim = old.claim ∧ new.startedAtUs = old.startedAtUs) ∧
      (∀ other ∈ db.materializations, other.bindingId = old.bindingId →
        other.epoch ≤ old.epoch) ∧
      createTransition old.claim m.now old.phase new.phase ∧
      (∀ margin ∈ createMargin new.phase,
        old.hasLeft m.now margin ∧ createAuthority m db old.claim) ∧
      ((∃ d, new.phase = .dispatched d) → db.createTitleCurrent old.claim) ∧
      (new.phase.dispatch?.isSome = true → ∀ other ∈ db.materializations,
        other.bindingId = old.bindingId → other.attemptId ≠ old.attemptId →
          other.phase.dispatch? = none))
    ⟨fun ⟨a, b, c, d, e, f⟩ => ⟨a, b, c, d, e, f⟩, fun ⟨a, b, c, d, e, f⟩ => ⟨a, b, c, d, e, f⟩⟩

/-- The materialization state of the binding that a phase of its create attempt shows. -/
def shownState : MaterializationPhase → Option MaterializationState
  | .dispatched _ => some .creating
  | .verified .. => some .materialized
  | .createOutcomeUnknown .. => some .createOutcomeUnknown
  | .createRejected .. => some .createRejected
  | .claimed | .resultReceived _ _ | .abandonedBeforeDispatch _ => none

/-- The binding after its create attempt moved to a phase. -/
def materializedRow (phase : MaterializationPhase) (state : MaterializationState)
    (b : AlbumBinding) : AlbumBinding :=
  { b with
    materializationState := state
    materializationRevision := b.materializationRevision + 1
    bindingRevision := b.bindingRevision + 1
    flickrPhotosetId :=
      match phase with
      | .verified _ _ proof _ => some proof.photosetId
      | _ => b.flickrPhotosetId
    navigationUrl :=
      match phase with
      | .verified _ _ proof _ => some proof.navigationUrl
      | _ => b.navigationUrl }

/-- The binding part of `album_materialization_changed`. -/
def showCreate (m : Moment) (db : AlbumDb) (bindingId : Token) (phase : MaterializationPhase) :
    Option AlbumDb :=
  match shownState phase, db.bindings.find? bindingId with
  | some state, some b => updateBindingRow m db (materializedRow phase state b)
  | _, _ => some db

/-- The row of an obligation whose membership was verified. -/
def verifiedRow (o : AlbumObligation) : AlbumObligation :=
  { o with state := .membershipVerified, obligationRevision := o.obligationRevision + 1 }

/-- The first obligation of a binding is verified. -/
def verifyFirstObligation (db : AlbumDb) (bindingId : Token) : Option AlbumDb :=
  match (db.bindings.find? bindingId).bind fun b =>
      db.obligations.find? b.identity.firstObligationId with
  | none => some db
  | some o => db.setObligation (verifiedRow o)

/-- The obligation part of `album_materialization_changed`. -/
def verifyCreated (db : AlbumDb) (bindingId : Token) (phase : MaterializationPhase) :
    Option AlbumDb :=
  match phase.verifiedPhotoset? with
  | none => some db
  | some _ => db.verifyFirstObligation bindingId

/-- `UPDATE album_materialization_attempts` of one row. -/
def setMaterialization (m : Moment) (db : AlbumDb) (new : AlbumMaterializationAttempt) :
    Option AlbumDb :=
  match db.materializations.find? new.attemptId with
  | none => some db
  | some old =>
      if CreateUpdateAllowed m db old new then
        (showCreate m { db with materializations := db.materializations.set new } new.bindingId
          new.phase).bind fun db => db.verifyCreated new.bindingId new.phase
      else none

/-! ## Repair receipts -/

/-- The authority a repair names is current, for the owner of the binding. -/
def repairAuthorized (m : Moment) (b : AlbumBinding) (r : AlbumCreateRepairReceipt) : Prop :=
  match r.authorityKind with
  | .installation =>
      m.world.installationUser ⟨r.authorityId, r.authorityDigest⟩ = some b.identity.userId ∧
      (∃ i ∈ m.world.installations.find? r.authorityId, i.revision = r.authorityRevision) ∧
      r.lifecycle = .materializationPending
  | .admin =>
      ∃ s ∈ m.world.sessions.find? r.authorityId,
        (s.userId = b.identity.userId ∧ s.tokenDigest = r.authorityDigest ∧
          s.revision = r.authorityRevision) ∧
        (s.revoked = false ∧ m.now < s.expiresAtUs) ∧
        ∃ p ∈ m.world.principals.find? s.userId, p.googleSub = r.ownerSub ∧
          p.sessionSetRevision = r.principalRevision

instance (m : Moment) (b : AlbumBinding) (r : AlbumCreateRepairReceipt) :
    Decidable (repairAuthorized m b r) := by
  unfold repairAuthorized
  split <;> infer_instance

/-- The binding waits for the repair of its unresolved create under the receipt's authority. -/
def repairPending (m : Moment) (db : AlbumDb) (b : AlbumBinding) (r : AlbumCreateRepairReceipt) :
    Prop :=
  (b.bindingRevision = r.expectedBindingRevision ∧ b.state = r.lifecycle ∧
    b.flickrPhotosetId = none ∧ b.materializationState = .createOutcomeUnknown ∧
    b.materializationRevision < maxSafeInteger) ∧
  (b.identity.ownerNsid = r.ownerNsid ∧ b.identity.firstPhotoId = r.firstPhotoId ∧
    b.identity.firstPhotoBindingId = r.firstPhotoBindingId ∧
    b.identity.linkRevision = r.linkRevision) ∧
  m.materializationAuthority b.identity =
    some ⟨r.grantGeneration, r.deploymentGateRevision, r.userGateRevision⟩ ∧
  (∃ o ∈ db.obligations.find? b.identity.firstObligationId,
    o.obligationRevision < maxSafeInteger ∧ o.state = .waitingForAlbum) ∧
  ∃ a ∈ db.materializations.find? r.attemptId, a.phase.isUnknown = true ∧
    (a.bindingId = b.bindingId ∧ a.claim.userId = b.identity.userId ∧
      a.claim.ownerNsid = r.ownerNsid ∧ a.claim.photoId = r.firstPhotoId ∧
      a.claim.photoBindingId = r.firstPhotoBindingId ∧ a.claim.linkRevision = r.linkRevision) ∧
    (a.claim.grantGeneration = r.grantGeneration ∧
      a.claim.deploymentGateRevision = r.deploymentGateRevision ∧
      a.claim.userGateRevision = r.userGateRevision)

instance (m : Moment) (db : AlbumDb) (b : AlbumBinding) (r : AlbumCreateRepairReceipt) :
    Decidable (repairPending m db b r) :=
  inferInstanceAs (Decidable (_ ∧ _ ∧ _ ∧
    (∃ o ∈ db.obligations.find? b.identity.firstObligationId, _) ∧
    ∃ a ∈ db.materializations.find? r.attemptId, _))

/-- The `CHECK`s and `BEFORE INSERT` triggers of `album_create_repair_receipts`. -/
def repairAdmissible (m : Moment) (db : AlbumDb) (r : AlbumCreateRepairReceipt) : Prop :=
  (1 ≤ r.expectedBindingRevision ∧ r.expectedBindingRevision < maxSafeInteger) ∧
  (r.deadlineAtUs = r.contextObservedAtUs + 10000000 ∧ m.now < r.deadlineAtUs ∧
    r.contextObservedAtUs ≤ r.proofObservedAtUs ∧ r.proofObservedAtUs ≤ m.now) ∧
  (∃ b ∈ db.bindings.find? r.bindingId, repairAuthorized m b r ∧ repairPending m db b r) ∧
  (∀ b ∈ db.bindings, b.identity.ownerNsid = r.ownerNsid →
    b.flickrPhotosetId ≠ some r.selectedPhotosetId) ∧
  (contextsValid r.proofContextIds ∧ r.selectedPhotosetId ∈ r.proofContextIds ∧
    r.selectedPhotosetId.text ≠ "0") ∧
  ∀ other ∈ db.repairReceipts, other.attemptId ≠ r.attemptId

instance (m : Moment) (db : AlbumDb) (r : AlbumCreateRepairReceipt) :
    Decidable (repairAdmissible m db r) :=
  inferInstanceAs (Decidable (_ ∧ _ ∧ (∃ b ∈ db.bindings.find? r.bindingId, _) ∧
    (∀ b ∈ db.bindings, _ → _) ∧ _ ∧ ∀ other ∈ db.repairReceipts, _))

/-- The binding after the repair of its create. -/
def repairedRow (r : AlbumCreateRepairReceipt) (b : AlbumBinding) : AlbumBinding :=
  { b with
    flickrPhotosetId := some r.selectedPhotosetId
    navigationUrl := some r.navigationUrl
    materializationState := .materialized
    materializationRevision := b.materializationRevision + 1
    bindingRevision := b.bindingRevision + 1 }

/-- The binding part of `album_create_repair_committed`. -/
def repairBinding (m : Moment) (db : AlbumDb) (r : AlbumCreateRepairReceipt) : Option AlbumDb :=
  match db.bindings.find? r.bindingId with
  | none => some db
  | some b => updateBindingRow m db (repairedRow r b)

/-- `INSERT INTO album_create_repair_receipts`. -/
def insertRepair (m : Moment) (db : AlbumDb) (r : AlbumCreateRepairReceipt) : Option AlbumDb := do
  let receipts ← db.repairReceipts.insertIf? (repairAdmissible m db r) r
  let repaired ← repairBinding m { db with repairReceipts := receipts } r
  repaired.verifyFirstObligation r.bindingId

/-! ## Title attempts with their semantic events -/

/-- `semantic_change`: the change shows in the lifecycle of the album. -/
def titleSemanticChange (old new : AlbumTitleAttempt) : Prop :=
  ¬ titleClosing old new ∧
  ((new.dispatch.isSome ≠ old.dispatch.isSome) ∨ new.observed ≠ old.observed ∨
    new.remoteMissing ≠ old.remoteMissing ∨
    ¬ (new.state = .needsAttention ↔ old.state = .needsAttention) ∨
    (old.dispatch ≠ none ∧ ¬ (new.completedAtUs = none ↔ old.completedAtUs = none)))

instance (old new : AlbumTitleAttempt) : Decidable (titleSemanticChange old new) :=
  inferInstanceAs (Decidable (_ ∧ (_ ∨ _ ∨ _ ∨ _ ∨ (_ ∧ _))))

/-- The semantic event of a title attempt, and the binding revision it takes. -/
def takeTitleRevision (m : Moment) (db : AlbumDb) (a : AlbumTitleAttempt) : Option AlbumDb :=
  match db.bindings.find? a.bindingId with
  | none => some db
  | some b =>
      if 1 ≤ b.bindingRevision ∧ b.bindingRevision < maxSafeInteger then
        (db.titleSemanticEvents.insert? ⟨a.bindingId, b.bindingRevision, a.attemptId, a.epoch⟩).bind
          fun events => moveBindingTo m { db with titleSemanticEvents := events } a.bindingId
            (b.bindingRevision + 1)
      else none

/-- `album_title_attempt_changed`. -/
def titleChanged (m : Moment) (db : AlbumDb) (old new : AlbumTitleAttempt) : Option AlbumDb :=
  if titleSemanticChange old new then takeTitleRevision m db new else some db

/-- `UPDATE album_title_attempts` of one row. -/
def updateTitleAttempt (m : Moment) (db : AlbumDb) (new : AlbumTitleAttempt) : Option AlbumDb :=
  match db.titleAttempts.find? new.attemptId with
  | none => some db
  | some old => (setTitleAttempt m db new).bind fun db => titleChanged m db old new

/-- The epoch of the last title attempt of a binding, and zero without one. -/
def lastTitleEpoch (db : AlbumDb) (bindingId : Token) : Nat :=
  db.titleAttempts.maxOf (fun a => a.bindingId = bindingId) AlbumTitleAttempt.epoch

/-- The number of the last title attempt of a title revision, and zero without one. -/
def lastTitleNumber (db : AlbumDb) (bindingId : Token) (titleRevision : Nat) : Nat :=
  db.titleAttempts.maxOf (fun a => a.bindingId = bindingId && a.titleRevision = titleRevision)
    fun a => a.identity.attemptNumber

/-- A new attempt as its columns have to be. -/
def titleAttemptFresh (m : Moment) (db : AlbumDb) (a : AlbumTitleAttempt) : Prop :=
  (a.state = .claimed ∧ a.readCount = 0 ∧ a.dispatch = none ∧ a.resultClass = none ∧
    a.observed = none ∧ a.completedAtUs = none ∧ a.satisfiedTitleRevision = none ∧
    a.remoteMissing = false) ∧
  (a.nextReadAtUs = 0 ∧ a.identity.startedAtUs = m.now ∧
    a.leaseExpiresAtUs = m.now + 11000000 ∧ a.invocationDeadlineAtUs = m.now + 10000000) ∧
  (a.epoch = db.lastTitleEpoch a.bindingId + 1 ∧ revisionInRange a.epoch) ∧
  (a.identity.attemptNumber = db.lastTitleNumber a.bindingId a.titleRevision + 1 ∧
    a.identity.attemptNumber ≤ 3) ∧
  (a.leaseBindingRevision = a.identity.bindingRevision ∧
    a.identity.bindingRevision < maxSafeInteger)

instance (m : Moment) (db : AlbumDb) (a : AlbumTitleAttempt) :
    Decidable (titleAttemptFresh m db a) :=
  inferInstanceAs (Decidable ((_ ∧ _ ∧ _ ∧ _ ∧ _ ∧ _ ∧ _ ∧ _) ∧ (_ ∧ _ ∧ _ ∧ _) ∧ _ ∧ _ ∧ _))

/-- The `CHECK`s and `BEFORE INSERT` triggers of `album_title_attempts`. -/
def titleAttemptAdmissible (m : Moment) (db : AlbumDb) (a : AlbumTitleAttempt) : Prop :=
  titleAttemptFresh m db a ∧
  (∀ other ∈ db.titleAttempts, other.leaseId ≠ a.leaseId) ∧
  (∀ other ∈ db.titleAttempts, other.bindingId = a.bindingId → other.completedAtUs ≠ none ∧
    (other.titleRevision = a.titleRevision →
      other.state = .retryPending ∧ other.nextReadAtUs ≤ m.now)) ∧
  titleAuthority m db a.identity ∧ db.titleWanted a.identity ∧ db.titleAlbumThere a.identity ∧
  ∃ b ∈ db.bindings.find? a.bindingId, b.bindingRevision = a.identity.bindingRevision

instance (m : Moment) (db : AlbumDb) (a : AlbumTitleAttempt) :
    Decidable (titleAttemptAdmissible m db a) :=
  inferInstanceAs (Decidable (_ ∧ (∀ other ∈ db.titleAttempts, _) ∧
    (∀ other ∈ db.titleAttempts, _ → _ ∧ (_ → _)) ∧ _ ∧ _ ∧ _ ∧
    ∃ b ∈ db.bindings.find? a.bindingId, _))

/-- `INSERT INTO album_title_attempts`. -/
def insertTitleAttempt (m : Moment) (db : AlbumDb) (a : AlbumTitleAttempt) : Option AlbumDb :=
  (db.titleAttempts.insertIf? (titleAttemptAdmissible m db a) a).map fun attempts =>
    { db with titleAttempts := attempts }

/-! ## Attachment attempts -/

/-- The epoch of the last attachment attempt of an obligation, and zero without one. -/
def lastAttachmentEpoch (db : AlbumDb) (obligationId : Token) : Nat :=
  db.attachments.maxOf (fun a => a.obligationId = obligationId) AlbumAttachmentAttempt.epoch

/-- The last attachment attempt of an obligation. -/
def lastAttachment (db : AlbumDb) (obligationId : Token) : Option AlbumAttachmentAttempt :=
  db.attachments.latest? (fun a => a.obligationId = obligationId) AlbumAttachmentAttempt.epoch

/-- The semantic events of an attachment attempt. -/
def attachmentSteps (db : AlbumDb) (attemptId : Token) : Nat :=
  db.attachmentSemanticEvents.rows.countP fun e => e.attemptId = attemptId

/-- The authority an attachment attempt was claimed under still stands, with the binding and
the obligation at the revisions its own semantic events took them to. -/
def attachmentAuthority (m : Moment) (db : AlbumDb) (c : AlbumAttachmentClaim) : Prop :=
  ∃ o ∈ db.obligations.find? c.obligationId, ∃ b ∈ db.bindings.find? o.albumBindingId,
    (b.bindingId = c.bindingId ∧ b.identity.userId = c.userId ∧
      b.identity.ownerNsid = c.ownerNsid ∧ b.identity.linkRevision = c.linkRevision ∧
      b.identity.firstPhotoId = c.primaryPhotoId) ∧
    (o.photoBindingId = c.photoBindingId ∧ o.identity.photoId = c.photoId) ∧
    (b.bindingRevision = c.bindingRevision + db.attachmentSteps c.attemptId ∧
      o.obligationRevision = c.obligationRevision + db.attachmentSteps c.attemptId) ∧
    m.attachmentAuthority db b o =
      some ⟨c.photosetId, c.verificationRevision,
        ⟨c.grantGeneration, c.deploymentGateRevision, c.userGateRevision⟩⟩

instance (m : Moment) (db : AlbumDb) (c : AlbumAttachmentClaim) :
    Decidable (attachmentAuthority m db c) :=
  inferInstanceAs (Decidable (∃ o ∈ db.obligations.find? c.obligationId,
    ∃ b ∈ db.bindings.find? o.albumBindingId, _))

/-- The next attempt of an obligation only reconciles. -/
def reconciliationDue (db : AlbumDb) (obligationId : Token) : Bool :=
  match db.lastAttachment obligationId with
  | none => false
  | some a => a.state = .membershipReconciliationPending

/-- The time before which an obligation is not claimed again. -/
def attachmentRetryAt (db : AlbumDb) (obligationId : Token) : Us :=
  match db.lastAttachment obligationId with
  | none => 0
  | some a => a.retryAfterUs

/-- The `BEFORE INSERT` triggers and the unique indexes of `album_attachment_attempts`. -/
def attachmentAdmissible (m : Moment) (db : AlbumDb) (a : AlbumAttachmentAttempt) : Prop :=
  (a.state = .claimed ∧ a.startedAtUs = m.now ∧ a.dispatch = none ∧ a.received = none ∧
    a.retryAfterUs = 0 ∧ a.proof = none ∧ a.attentionReason = none) ∧
  (a.epoch = db.lastAttachmentEpoch a.obligationId + 1 ∧ revisionInRange a.epoch) ∧
  a.claim.reconciliationOnly = db.reconciliationDue a.obligationId ∧
  (∀ other ∈ db.attachments, other.claim.leaseId ≠ a.claim.leaseId) ∧
  (∀ other ∈ db.attachments, other.obligationId = a.obligationId →
    other.state.isOpen = false ∧ other.state ≠ .needsAttention) ∧
  db.attachmentRetryAt a.obligationId ≤ m.now ∧ attachmentAuthority m db a.claim

instance (m : Moment) (db : AlbumDb) (a : AlbumAttachmentAttempt) :
    Decidable (attachmentAdmissible m db a) :=
  inferInstanceAs (Decidable ((_ ∧ _ ∧ _ ∧ _ ∧ _ ∧ _ ∧ _) ∧ _ ∧ _ ∧
    (∀ other ∈ db.attachments, _) ∧ (∀ other ∈ db.attachments, _ → _ ∧ _) ∧ _ ∧ _))

/-- `INSERT INTO album_attachment_attempts`. -/
def insertAttachment (m : Moment) (db : AlbumDb) (a : AlbumAttachmentAttempt) : Option AlbumDb :=
  (db.attachments.insertIf? (attachmentAdmissible m db a) a).map fun attempts =>
    { db with attachments := attempts }

/-- The state changes of an attachment attempt. -/
def attachmentTransition : AttachmentState → AttachmentState → Bool
  | .claimed, after => after ∈ [.dispatched, .membershipVerified, .retryScheduled,
      .needsAttention, .abandonedBeforeDispatch, .membershipReconciliationPending]
  | .dispatched, after => after ∈ [.resultReceived, .membershipVerified, .retryScheduled,
      .needsAttention, .membershipReconciliationPending]
  | .resultReceived, after => after ∈ [.membershipVerified, .retryScheduled,
      .needsAttention, .membershipReconciliationPending]
  | _, _ => false

/-- `MIN(60000000,1000000*(1 << MIN(epoch-1,6)))`. -/
def attachmentBackoff (epoch : Nat) : Us := min 60000000 (1000000 * 2 ^ min (epoch - 1) 6)

/-- How `received_result` may change: it is set once, by the result or by the fallback when
a marked attempt completes. -/
def attachmentReceives (m : Moment) (old new : AlbumAttachmentAttempt) : Prop :=
  (old.received ≠ none → new.received = old.received) ∧
  (old.received = none → ∀ r ∈ new.received, new.dispatch ≠ none ∧ r.2 = m.now ∧
    ((new.state = .resultReceived ∧ r.1 ≠ .uncertain) ∨
      (new.state.isOpen = false ∧ old.dispatch ≠ none ∧ r.1 = .uncertain))) ∧
  (new.state = .resultReceived → new.received ≠ none) ∧
  (new.state.isOpen = false → new.dispatch ≠ none → new.received ≠ none)

instance (m : Moment) (old new : AlbumAttachmentAttempt) :
    Decidable (attachmentReceives m old new) :=
  inferInstanceAs (Decidable ((_ → _) ∧ (_ → ∀ r ∈ new.received, _) ∧ (_ → _) ∧ (_ → _ → _)))

/-- How the dispatch marker may change: a claim that may write sets it once, while the
budget since the last verified membership lasts. -/
def attachmentMarks (m : Moment) (db : AlbumDb) (old new : AlbumAttachmentAttempt) : Prop :=
  (old.dispatch ≠ none → new.dispatch = old.dispatch) ∧
  (old.dispatch = none → new.state ≠ .dispatched → new.dispatch = none) ∧
  (new.state = .dispatched → new.claim.reconciliationOnly = false ∧
    db.dispatchCount old.obligationId < 8 ∧
    ∃ d ∈ new.dispatch, d.startedAtUs = m.now ∧ contextsValid d.preContextIds ∧
      new.claim.photosetId ∉ d.preContextIds)

instance (m : Moment) (db : AlbumDb) (old new : AlbumAttachmentAttempt) :
    Decidable (attachmentMarks m db old new) :=
  inferInstanceAs (Decidable ((_ → _) ∧ (_ → _ → _) ∧ (_ → _ ∧ _ ∧ ∃ d ∈ new.dispatch, _)))

/-- The attempt ends on a proof. -/
def attachmentProves (new : AlbumAttachmentAttempt) : Prop :=
  new.state = .membershipVerified ∨ new.state = .retryScheduled ∨
    new.attentionReason = some .retryExhausted ∨
    new.attentionReason = some .archivedDriftUnresolved

instance (new : AlbumAttachmentAttempt) : Decidable (attachmentProves new) :=
  inferInstanceAs (Decidable (_ ∨ _ ∨ _ ∨ _))

/-- The proof is there exactly when the attempt ends on one; it is of this owner and photo,
taken now, and shows the photoset exactly when the membership is verified. -/
def attachmentEvidence (m : Moment) (old new : AlbumAttachmentAttempt) : Prop :=
  (¬ attachmentProves new → new.proof = none) ∧
  (attachmentProves new → ∃ proof ∈ new.proof, contextsValid proof.contextIds ∧
    (proof.ownerNsid = old.claim.ownerNsid ∧ proof.photoId = old.claim.photoId) ∧
    proof.observedAtUs = m.now ∧
    (new.state = .membershipVerified ↔ new.claim.photosetId ∈ proof.contextIds)) ∧
  (new.state = .needsAttention ↔ new.attentionReason ≠ none)

instance (m : Moment) (old new : AlbumAttachmentAttempt) :
    Decidable (attachmentEvidence m old new) :=
  inferInstanceAs (Decidable ((_ → _) ∧ (_ → ∃ proof ∈ new.proof, _) ∧ (_ ↔ _)))

/-- The conditions on how an attachment attempt completes. -/
def attachmentEnds (m : Moment) (db : AlbumDb) (old new : AlbumAttachmentAttempt) : Prop :=
  (new.state = .retryScheduled → db.dispatchCount old.obligationId < 8 ∧
    ¬ db.archivedFulfilled old.obligationId) ∧
  (new.attentionReason = some .retryExhausted → 8 ≤ db.dispatchCount old.obligationId) ∧
  (new.attentionReason = some .archivedDriftUnresolved →
    old.claim.reconciliationOnly = true ∧ db.archivedFulfilled old.obligationId) ∧
  (new.state = .abandonedBeforeDispatch → new.dispatch = none ∧
    new.claim.reconciliationOnly = false) ∧
  (new.state = .membershipReconciliationPending → new.dispatch ≠ none ∨
    new.claim.reconciliationOnly = true) ∧
  new.retryAfterUs =
    (if new.state ∈ [AttachmentState.retryScheduled, .membershipReconciliationPending,
        .abandonedBeforeDispatch] then m.now + attachmentBackoff old.epoch else 0)

instance (m : Moment) (db : AlbumDb) (old new : AlbumAttachmentAttempt) :
    Decidable (attachmentEnds m db old new) :=
  inferInstanceAs (Decidable ((_ → _ ∧ _) ∧ (_ → _) ∧ (_ → _ ∧ _) ∧ (_ → _ ∧ _) ∧ (_ → _ ∨ _) ∧ _))

/-- The `CHECK`s and the `BEFORE UPDATE` trigger of `album_attachment_attempts`. -/
structure AttachmentUpdateAllowed (m : Moment) (db : AlbumDb) (old new : AlbumAttachmentAttempt) :
    Prop where
  identity : new.claim = old.claim ∧ new.startedAtUs = old.startedAtUs
  latest : ∀ other ∈ db.attachments, other.obligationId = old.obligationId →
    other.epoch ≤ old.epoch
  transition : attachmentTransition old.state new.state = true
  marks : attachmentMarks m db old new
  receives : attachmentReceives m old new
  evidence : attachmentEvidence m old new
  ends : attachmentEnds m db old new
  live : new.state ∉ [AttachmentState.abandonedBeforeDispatch, .membershipReconciliationPending] →
    old.hasLeft m.now (if new.state = .dispatched then 15000000 else 5000000) ∧
      attachmentAuthority m db old.claim

instance (m : Moment) (db : AlbumDb) (old new : AlbumAttachmentAttempt) :
    Decidable (AttachmentUpdateAllowed m db old new) :=
  decidable_of_iff
    ((new.claim = old.claim ∧ new.startedAtUs = old.startedAtUs) ∧
      (∀ other ∈ db.attachments, other.obligationId = old.obligationId →
        other.epoch ≤ old.epoch) ∧
      attachmentTransition old.state new.state = true ∧ attachmentMarks m db old new ∧
      attachmentReceives m old new ∧ attachmentEvidence m old new ∧
      attachmentEnds m db old new ∧
      (new.state ∉ [AttachmentState.abandonedBeforeDispatch, .membershipReconciliationPending] →
        old.hasLeft m.now (if new.state = .dispatched then 15000000 else 5000000) ∧
          attachmentAuthority m db old.claim))
    ⟨fun ⟨a, b, c, d, e, f, g, h⟩ => ⟨a, b, c, d, e, f, g, h⟩,
      fun ⟨a, b, c, d, e, f, g, h⟩ => ⟨a, b, c, d, e, f, g, h⟩⟩

/-- The effective state that a state of the attachment work shows. -/
def shownEffective : AttachmentState → Option EffectiveState
  | .dispatched | .retryScheduled => some .attachmentPending
  | .membershipVerified => some .membershipVerified
  | .membershipReconciliationPending => some .membershipReconciliationPending
  | .needsAttention => some .needsAttention
  | .claimed | .resultReceived | .abandonedBeforeDispatch => none

/-- When the membership of an obligation was last observed. -/
def membershipObservedAt (db : AlbumDb) (b : AlbumBinding) (o : AlbumObligation)
    (a : AlbumAttachmentAttempt) : Option Us :=
  if a.state = .membershipVerified then a.proof.map MembershipProof.observedAtUs
  else
    ((db.latestSemanticEvent o.obligationId).bind
      AlbumAttachmentSemanticEvent.membershipObservedAtUs).or
    (if b.identity.firstObligationId = o.obligationId then
      ((db.repairReceipts.find? b.bindingId).map
        AlbumCreateRepairReceipt.proofObservedAtUs).or
      (db.materializations.rows.findSome? fun create =>
        if create.bindingId = b.bindingId then
          match create.phase with
          | .verified _ _ proof _ => some proof.observedAtUs
          | _ => none
        else none)
    else none)

/-- `album_attachment_semantic_initial`, where it says more than the statement that inserts:
the attempt is the last one, and its revisions are where its own events took them unless it
awaits reconciliation. -/
def semanticAdmissible (db : AlbumDb) (b : AlbumBinding) (o : AlbumObligation)
    (a : AlbumAttachmentAttempt) : Prop :=
  (1 ≤ b.bindingRevision ∧ b.bindingRevision < maxSafeInteger) ∧
  (1 ≤ o.obligationRevision ∧ o.obligationRevision < maxSafeInteger) ∧
  (∀ other ∈ db.attachments, other.obligationId = a.obligationId → other.epoch ≤ a.epoch) ∧
  (∀ e ∈ db.attachmentSemanticEvents, e.obligationId = o.obligationId →
    e.obligationRevisionBefore ≠ o.obligationRevision) ∧
  a.claim.bindingId = b.bindingId ∧
  ((b.bindingRevision = a.claim.bindingRevision + db.attachmentSteps a.attemptId ∧
      o.obligationRevision = a.claim.obligationRevision + db.attachmentSteps a.attemptId) ∨
    a.state = .membershipReconciliationPending)

instance (db : AlbumDb) (b : AlbumBinding) (o : AlbumObligation) (a : AlbumAttachmentAttempt) :
    Decidable (db.semanticAdmissible b o a) :=
  inferInstanceAs (Decidable (_ ∧ _ ∧ (∀ other ∈ db.attachments, _ → _) ∧
    (∀ e ∈ db.attachmentSemanticEvents, _ → _) ∧ _ ∧ ((_ ∧ _) ∨ _)))

/-- The row of an obligation after a semantic event. -/
def steppedRow (state : EffectiveState) (o : AlbumObligation) : AlbumObligation :=
  { o with
    obligationRevision := o.obligationRevision + 1
    state := if state = .membershipVerified then .membershipVerified else o.state }

/-- `INSERT INTO album_attachment_semantic_events`, with `album_attachment_semantic_apply`. -/
def takeAttachmentStep (m : Moment) (db : AlbumDb) (b : AlbumBinding) (o : AlbumObligation)
    (a : AlbumAttachmentAttempt) (state : EffectiveState) : Option AlbumDb := do
  let events ← db.attachmentSemanticEvents.insertIf? (db.semanticAdmissible b o a)
    ⟨a.attemptId, o.obligationId, b.bindingId, b.bindingRevision, o.obligationRevision, state,
      db.membershipObservedAt b o a⟩
  let stepped ← AlbumDb.setObligation { db with attachmentSemanticEvents := events }
    (steppedRow state o)
  moveBindingTo m stepped b.bindingId (b.bindingRevision + 1)

/-- The change shows in the effective state of the obligation. -/
def attachmentSemanticChange (db : AlbumDb) (b : AlbumBinding) (o : AlbumObligation)
    (a : AlbumAttachmentAttempt) (state : EffectiveState) : Prop :=
  db.effectiveState b o ≠ state ∨ a.state = .membershipVerified ∨ a.state = .retryScheduled

instance (db : AlbumDb) (b : AlbumBinding) (o : AlbumObligation) (a : AlbumAttachmentAttempt)
    (state : EffectiveState) : Decidable (db.attachmentSemanticChange b o a state) :=
  inferInstanceAs (Decidable (_ ∨ _ ∨ _))

/-- `album_attachment_changed`. -/
def attachmentChanged (m : Moment) (db : AlbumDb) (a : AlbumAttachmentAttempt) : Option AlbumDb :=
  match shownEffective a.state, db.obligations.find? a.obligationId with
  | some state, some o =>
      match db.bindings.find? o.albumBindingId with
      | none => some db
      | some b =>
          if db.attachmentSemanticChange b o a state then takeAttachmentStep m db b o a state
          else some db
  | _, _ => some db

/-- `UPDATE album_attachment_attempts` of one row. -/
def updateAttachment (m : Moment) (db : AlbumDb) (new : AlbumAttachmentAttempt) : Option AlbumDb :=
  match db.attachments.find? new.attemptId with
  | none => some db
  | some old =>
      if AttachmentUpdateAllowed m db old new then
        attachmentChanged m { db with attachments := db.attachments.set new } new
      else none

end AlbumDb

end FlickrGroupAddr

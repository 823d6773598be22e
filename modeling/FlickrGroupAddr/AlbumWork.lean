import FlickrGroupAddr.AlbumRepairs

/-!
# Album work

The store calls of the album workers (`album_materialization_store.ts`,
`album_title_store.ts`, `album_attachment_store.ts`).  Each is one batch under a
fence: the attempt is still the claim it was handed out as.  `none` is a batch that
aborted, which the caller sees as an exception.
-/

namespace FlickrGroupAddr

set_option autoImplicit false

open KeyedTable

/-- A batch of a worker: the database it leaves and what it answers, or an exception. -/
abbrev Batch (α : Type) := Option (AlbumDb × α)

/-- A batch that found nothing to change. -/
def unchanged {α : Type} (db : AlbumDb) (answer : α) : Batch α := some (db, answer)

/-- The clock readings of a claim batch. -/
structure ClaimClock where
  expire : Us
  takeover : Us
  insert : Us
deriving DecidableEq

/-! ## Creating the album -/

/-- `validClaim` of `album_materialization_store.ts`. -/
def AlbumMaterializationClaim.valid (c : AlbumMaterializationClaim) : Prop :=
  revisionInRange c.epoch ∧ revisionInRange c.linkRevision ∧ revisionInRange c.titleRevision ∧
  revisionInRange c.deploymentGateRevision ∧ revisionInRange c.userGateRevision ∧
  isToken c.ownerNsid = true

instance (c : AlbumMaterializationClaim) : Decidable c.valid :=
  inferInstanceAs (Decidable (_ ∧ _ ∧ _ ∧ _ ∧ _ ∧ _))

/-- `FENCE`: the attempt is open under this claim, and no attempt came after it. -/
def createFence (db : AlbumDb) (c : AlbumMaterializationClaim) (a : AlbumMaterializationAttempt) :
    Prop :=
  a.claim = c ∧ a.phase.isOpen = true ∧
  ∀ other ∈ db.materializations, other.bindingId = a.bindingId → other.epoch ≤ a.epoch

instance (db : AlbumDb) (c : AlbumMaterializationClaim) (a : AlbumMaterializationAttempt) :
    Decidable (createFence db c a) :=
  inferInstanceAs (Decidable (_ ∧ _ ∧ ∀ other ∈ db.materializations, _ → _))

/-- The phase in which an expired attempt ends. -/
def expiredCreate (now : Us) : MaterializationPhase → MaterializationPhase
  | .dispatched d => .createOutcomeUnknown d none now
  | .resultReceived d r => .createOutcomeUnknown d (some r) now
  | _ => .abandonedBeforeDispatch now

/-- The open create attempts of a binding whose lease ran out. -/
def expiredCreates (now : Us) (db : AlbumDb) (bindingId : Token) :
    List AlbumMaterializationAttempt :=
  db.materializations.rows.filter fun a =>
    decide (a.bindingId = bindingId ∧ a.phase.isOpen = true ∧ a.leaseExpiresAtUs ≤ now)

/-- The first statement of `claimAlbumMaterialization`. -/
def expireCreates (m : Moment) (db : AlbumDb) (bindingId : Token) : Option AlbumDb :=
  (expiredCreates m.now db bindingId).foldlM
    (fun db a => AlbumDb.setMaterialization m db { a with phase := expiredCreate m.now a.phase }) db

/-- The attempt `claimAlbumMaterialization` selects for its insert, with the ids it draws. -/
def createRow (m : Moment) (db : AlbumDb) (bindingId attemptId leaseId : Token) :
    Option AlbumMaterializationAttempt :=
  (db.bindings.find? bindingId).bind fun b =>
    (m.materializationAuthority b.identity).bind fun write =>
      if (b.materializationState = .pending ∧ b.flickrPhotosetId = none) ∧
          ¬ db.createTaken bindingId ∧ db.lastCreateEpoch bindingId < maxSafeInteger then
        some
          { claim :=
              { attemptId := attemptId
                bindingId := bindingId
                leaseId := leaseId
                epoch := db.lastCreateEpoch bindingId + 1
                userId := b.identity.userId
                ownerNsid := b.identity.ownerNsid
                photoBindingId := b.identity.firstPhotoBindingId
                photoId := b.identity.firstPhotoId
                linkRevision := b.identity.linkRevision
                grantGeneration := write.grantGeneration
                desiredTitle := b.desiredTitle
                titleRevision := b.titleRevision
                deploymentGateRevision := write.deploymentGateRevision
                userGateRevision := write.userGateRevision }
            startedAtUs := m.now
            phase := .claimed }
      else none

/-- `claimAlbumMaterialization`. -/
def claimAlbumMaterialization (w : AlbumWorld) (clock : ClaimClock) (db : AlbumDb)
    (bindingId attemptId leaseId : Token) : Batch (Option AlbumMaterializationClaim) :=
  (expireCreates ⟨w, clock.expire⟩ db bindingId).bind fun expired =>
    (insertSelected expired (AlbumDb.insertMaterialization ⟨w, clock.insert⟩)
      (createRow ⟨w, clock.insert⟩ expired bindingId attemptId leaseId)).map fun db =>
        (db, ((db.materializations.find? attemptId).map
          AlbumMaterializationAttempt.claim).filter fun c => decide c.valid)

/-- `currentAlbumMaterialization`. -/
def currentAlbumMaterialization (m : Moment) (db : AlbumDb) (c : AlbumMaterializationClaim)
    (minRemainingUs : Us) : Prop :=
  c.valid ∧ ∃ a ∈ db.materializations.find? c.attemptId, createFence db c a ∧
    a.hasLeft m.now minRemainingUs ∧ AlbumDb.createAuthority m db c

instance (m : Moment) (db : AlbumDb) (c : AlbumMaterializationClaim) (minRemainingUs : Us) :
    Decidable (currentAlbumMaterialization m db c minRemainingUs) :=
  inferInstanceAs (Decidable (_ ∧ ∃ a ∈ db.materializations.find? c.attemptId, _))

/-- `change`: move the fenced attempt to the phase that a statement sets for it. -/
def changeCreate (m : Moment) (db : AlbumDb) (c : AlbumMaterializationClaim)
    (next : AlbumMaterializationAttempt → Option MaterializationPhase) : Batch Bool :=
  match (db.materializations.find? c.attemptId).filter fun a =>
      decide (c.valid ∧ createFence db c a) with
  | none => unchanged db false
  | some a =>
      match next a with
      | none => unchanged db false
      | some phase =>
          (AlbumDb.setMaterialization m db { a with phase := phase }).map fun db => (db, true)

/-- The attempt has time left and its authority stands. -/
def createLive (m : Moment) (db : AlbumDb) (margin : Us) (a : AlbumMaterializationAttempt) :
    Prop :=
  a.hasLeft m.now margin ∧ AlbumDb.createAuthority m db a.claim

instance (m : Moment) (db : AlbumDb) (margin : Us) (a : AlbumMaterializationAttempt) :
    Decidable (createLive m db margin a) :=
  inferInstanceAs (Decidable (_ ∧ _))

/-- `markAlbumCreateDispatch`; the answer grants one dispatch. -/
def markAlbumCreateDispatch (m : Moment) (db : AlbumDb) (c : AlbumMaterializationClaim)
    (preContextIds : List Token) : Batch Bool :=
  if contextsValid preContextIds then
    changeCreate m db c fun a =>
      if a.phase = .claimed ∧ createLive m db 15000000 a ∧ db.createTitleCurrent c then
        some (.dispatched ⟨m.now, preContextIds⟩)
      else none
  else unchanged db false

/-- `recordAlbumCreateResult`. -/
def recordAlbumCreateResult (m : Moment) (db : AlbumDb) (c : AlbumMaterializationClaim)
    (photosetId : Token) (url : NavigationUrl) : Batch Bool :=
  if photosetId.text ≠ "0" then
    changeCreate m db c fun a =>
      match a.phase with
      | .dispatched d =>
          if createLive m db 5000000 a then some (.resultReceived d ⟨photosetId, url, m.now⟩)
          else none
      | _ => none
  else unchanged db false

/-- `AlbumMaterializationProof`, after its url was accepted for the photoset. -/
structure AlbumMaterializationProof where
  photosetId : Token
  url : NavigationUrl
  ownerNsid : String
  primaryPhotoId : Token
  contextIds : List Token
deriving DecidableEq

/-- The proof is of the claimed owner and photo, and shows the photoset. -/
def createProofValid (c : AlbumMaterializationClaim) (proof : AlbumMaterializationProof) : Prop :=
  contextsValid proof.contextIds ∧ proof.photosetId.text ≠ "0" ∧ proof.ownerNsid = c.ownerNsid ∧
    proof.primaryPhotoId = c.photoId ∧ proof.photosetId ∈ proof.contextIds

instance (c : AlbumMaterializationClaim) (proof : AlbumMaterializationProof) :
    Decidable (createProofValid c proof) :=
  inferInstanceAs (Decidable (_ ∧ _ ∧ _ ∧ _ ∧ _))

/-- `finishAlbumMaterialization`. -/
def finishAlbumMaterialization (m : Moment) (db : AlbumDb) (c : AlbumMaterializationClaim)
    (proof : AlbumMaterializationProof) : Batch Bool :=
  if createProofValid c proof then
    changeCreate m db c fun a =>
      match a.phase with
      | .resultReceived d r =>
          if (r.photosetId = proof.photosetId ∧ r.navigationUrl = proof.url) ∧
              createLive m db 5000000 a then
            some (.verified d r ⟨proof.photosetId, proof.url, proof.contextIds, proof.ownerNsid,
              proof.primaryPhotoId, m.now⟩ m.now)
          else none
      | _ => none
  else unchanged db false

/-- `failAlbumMaterializationBeforeDispatch`. -/
def failAlbumMaterializationBeforeDispatch (m : Moment) (db : AlbumDb)
    (c : AlbumMaterializationClaim) : Batch Bool :=
  changeCreate m db c fun a =>
    if a.phase = .claimed then some (.abandonedBeforeDispatch m.now) else none

/-- `unknownAlbumMaterialization`. -/
def unknownAlbumMaterialization (m : Moment) (db : AlbumDb) (c : AlbumMaterializationClaim) :
    Batch Bool :=
  changeCreate m db c fun a =>
    match a.phase with
    | .dispatched d => some (.createOutcomeUnknown d none m.now)
    | .resultReceived d r => some (.createOutcomeUnknown d (some r) m.now)
    | _ => none

/-- `rejectAlbumMaterialization`. -/
def rejectAlbumMaterialization (m : Moment) (db : AlbumDb) (c : AlbumMaterializationClaim)
    (flickrCode : Nat) : Batch Bool :=
  if flickrCode ∈ AlbumDb.createRejectionCodes then
    changeCreate m db c fun a =>
      match a.phase with
      | .dispatched d =>
          if createLive m db 5000000 a then some (.createRejected d flickrCode m.now) else none
      | _ => none
  else unchanged db false

/-! ## Synchronizing the title -/

/-- The columns of a title attempt that `FENCE` compares. -/
structure AlbumTitleFence where
  attemptId : Token
  bindingId : Token
  leaseId : Token
  epoch : Nat
  userId : Token
  ownerNsid : String
  photosetId : Token
  linkRevision : Nat
  grantGeneration : Token
  desiredTitle : Title
  titleRevision : Nat
  deploymentGateRevision : Nat
  userGateRevision : Nat
  dispatchCount : Nat
  readCount : Nat
  attemptNumber : Nat
  bindingRevision : Nat
deriving DecidableEq

def AlbumTitleAttempt.fence (a : AlbumTitleAttempt) : AlbumTitleFence :=
  { attemptId := a.attemptId
    bindingId := a.bindingId
    leaseId := a.leaseId
    epoch := a.epoch
    userId := a.identity.userId
    ownerNsid := a.identity.ownerNsid
    photosetId := a.identity.photosetId
    linkRevision := a.identity.linkRevision
    grantGeneration := a.identity.grantGeneration
    desiredTitle := a.identity.desiredTitle
    titleRevision := a.titleRevision
    deploymentGateRevision := a.identity.deploymentGateRevision
    userGateRevision := a.identity.userGateRevision
    dispatchCount := a.dispatchCount
    readCount := a.readCount
    attemptNumber := a.identity.attemptNumber
    bindingRevision := a.leaseBindingRevision }

/-- `AlbumTitleClaim`. -/
structure AlbumTitleClaim where
  fence : AlbumTitleFence
  preDispatchTitle : Option String
  archived : Bool
deriving DecidableEq

/-- `valid` of `album_title_store.ts`. -/
def AlbumTitleFence.valid (c : AlbumTitleFence) : Prop :=
  (revisionInRange c.epoch ∧ revisionInRange c.linkRevision ∧ revisionInRange c.titleRevision ∧
    revisionInRange c.deploymentGateRevision ∧ revisionInRange c.userGateRevision ∧
    revisionInRange c.bindingRevision) ∧
  isToken c.ownerNsid = true ∧ c.dispatchCount ≤ 1 ∧ c.readCount ≤ 5 ∧
    (1 ≤ c.attemptNumber ∧ c.attemptNumber ≤ 3)

instance (c : AlbumTitleFence) : Decidable c.valid :=
  inferInstanceAs (Decidable ((_ ∧ _ ∧ _ ∧ _ ∧ _ ∧ _) ∧ _ ∧ _ ∧ _ ∧ (_ ∧ _)))

/-- `claimRow`, of the columns selected from an attempt. -/
def titleClaimRow (db : AlbumDb) (a : AlbumTitleAttempt) : Option AlbumTitleClaim :=
  if a.fence.valid then
    some
      { fence := a.fence
        preDispatchTitle := a.dispatch.map TitleDispatch.preDispatchTitle
        archived := decide (∃ b ∈ db.bindings.find? a.bindingId, b.archived) }
  else none

/-- The binding has a revision left. -/
def bindingOpenEnded (db : AlbumDb) (bindingId : Token) : Prop :=
  ∃ b ∈ db.bindings.find? bindingId, b.bindingRevision < maxSafeInteger

instance (db : AlbumDb) (bindingId : Token) : Decidable (bindingOpenEnded db bindingId) :=
  inferInstanceAs (Decidable (∃ b ∈ db.bindings.find? bindingId, _))

/-- `FRONT`. -/
def titleAtFront (db : AlbumDb) (a : AlbumTitleAttempt) : Prop :=
  ∃ b ∈ db.bindings.find? a.bindingId, b.bindingRevision < maxSafeInteger ∧
    b.bindingRevision = db.titleFront a

instance (db : AlbumDb) (a : AlbumTitleAttempt) : Decidable (titleAtFront db a) :=
  inferInstanceAs (Decidable (∃ b ∈ db.bindings.find? a.bindingId, _))

/-- `LIVE` of `album_title_store.ts`. -/
def titleLive (m : Moment) (db : AlbumDb) (a : AlbumTitleAttempt) : Prop :=
  (m.now < a.leaseExpiresAtUs ∧ m.now < a.invocationDeadlineAtUs) ∧
    AlbumDb.titleAuthority m db a.identity ∧ titleAtFront db a

instance (m : Moment) (db : AlbumDb) (a : AlbumTitleAttempt) : Decidable (titleLive m db a) :=
  inferInstanceAs (Decidable (_ ∧ _ ∧ _))

/-- The open title attempts of a binding whose lease ran out. -/
def expiredTitles (m : Moment) (db : AlbumDb) (bindingId : Token)
    (extra : AlbumTitleAttempt → Prop) [DecidablePred extra] : List AlbumTitleAttempt :=
  db.titleAttempts.rows.filter fun a =>
    decide ((a.bindingId = bindingId ∧ a.completedAtUs = none ∧ a.state ≠ .needsAttention ∧
      a.leaseExpiresAtUs ≤ m.now ∧ bindingOpenEnded db bindingId) ∧ extra a)

/-- The first statement of `claimAlbumTitle`. -/
def exhaustTitles (m : Moment) (db : AlbumDb) (bindingId : Token) : Option AlbumDb :=
  (expiredTitles m db bindingId fun a => a.readCount = 5).foldlM
    (fun db a => AlbumDb.updateTitleAttempt m db { a with state := .needsAttention }) db

/-- An attempt under its next lease. -/
def titleTakenOver (m : Moment) (db : AlbumDb) (leaseId : Token) (a : AlbumTitleAttempt) :
    AlbumTitleAttempt :=
  { a with
    leaseId := leaseId
    epoch := a.epoch + 1
    leaseExpiresAtUs := m.now + 11000000
    invocationDeadlineAtUs := m.now + 10000000
    leaseBindingRevision :=
      match db.bindings.find? a.bindingId with
      | some b => b.bindingRevision
      | none => a.leaseBindingRevision }

/-- The second statement of `claimAlbumTitle`. -/
def takeOverTitles (m : Moment) (db : AlbumDb) (bindingId leaseId : Token) : Option AlbumDb :=
  (expiredTitles m db bindingId fun a => a.readCount < 5 ∧ a.nextReadAtUs ≤ m.now ∧
      a.epoch < maxSafeInteger ∧ AlbumDb.titleAuthority m db a.identity).foldlM
    (fun db a => AlbumDb.updateTitleAttempt m db (titleTakenOver m db leaseId a)) db

/-- No attempt of the binding stands against a new one for its title. -/
def titleStartable (m : Moment) (db : AlbumDb) (b : AlbumBinding) : Prop :=
  (∀ t ∈ db.titleAttempts, t.bindingId = b.bindingId →
    t.completedAtUs ≠ none ∧ t.remoteMissing = false) ∧
  (db.lastTitleEpoch b.bindingId < maxSafeInteger ∧
    db.lastTitleNumber b.bindingId b.titleRevision < 3) ∧
  (∀ t ∈ db.titleAttempts, t.bindingId = b.bindingId → t.titleRevision = b.titleRevision →
    t.state = .retryPending ∧ t.nextReadAtUs ≤ m.now) ∧
  ∀ t ∈ db.titleAttempts, t.bindingId = b.bindingId →
    ¬ (t.state = .synced ∧ t.observed.map TitleObservation.title = some b.desiredTitle.text ∧
      t.satisfiedTitleRevision = some b.titleRevision)

instance (m : Moment) (db : AlbumDb) (b : AlbumBinding) : Decidable (titleStartable m db b) :=
  inferInstanceAs (Decidable ((∀ t ∈ db.titleAttempts, _ → _ ∧ _) ∧ _ ∧
    (∀ t ∈ db.titleAttempts, _ → _ → _ ∧ _) ∧ ∀ t ∈ db.titleAttempts, _ → _))

/-- The attempt `claimAlbumTitle` selects for its insert, with the ids it draws. -/
def titleAttemptRow (m : Moment) (db : AlbumDb) (bindingId attemptId leaseId : Token) :
    Option AlbumTitleAttempt :=
  (db.bindings.find? bindingId).bind fun b =>
    (m.materializationAuthority b.identity).bind fun write =>
      b.flickrPhotosetId.bind fun photosetId =>
        if (b.materializationState = .materialized ∧ ¬ b.archived ∧
              b.bindingRevision < maxSafeInteger ∧ db.remoteMaterialized b) ∧
            titleStartable m db b then
          some
            { identity :=
                { attemptId := attemptId
                  bindingId := bindingId
                  userId := b.identity.userId
                  ownerNsid := b.identity.ownerNsid
                  photosetId := photosetId
                  linkRevision := b.identity.linkRevision
                  grantGeneration := write.grantGeneration
                  desiredTitle := b.desiredTitle
                  titleRevision := b.titleRevision
                  bindingRevision := b.bindingRevision
                  deploymentGateRevision := write.deploymentGateRevision
                  userGateRevision := write.userGateRevision
                  attemptNumber := db.lastTitleNumber bindingId b.titleRevision + 1
                  startedAtUs := m.now }
              leaseId := leaseId
              epoch := db.lastTitleEpoch bindingId + 1
              leaseBindingRevision := b.bindingRevision
              leaseExpiresAtUs := m.now + 11000000
              invocationDeadlineAtUs := m.now + 10000000
              nextReadAtUs := 0
              state := .claimed
              readCount := 0
              dispatch := none
              resultClass := none
              observed := none
              completedAtUs := none
              satisfiedTitleRevision := none
              remoteMissing := false }
        else none

/-- The attempt of a binding under a lease. -/
def titleUnderLease (db : AlbumDb) (bindingId leaseId : Token) : Option AlbumTitleAttempt :=
  db.titleAttempts.rows.find? fun a => decide (a.leaseId = leaseId ∧ a.bindingId = bindingId)

/-- `claimAlbumTitle`. -/
def claimAlbumTitle (w : AlbumWorld) (clock : ClaimClock) (db : AlbumDb)
    (bindingId attemptId leaseId : Token) : Batch (Option AlbumTitleClaim) :=
  (exhaustTitles ⟨w, clock.expire⟩ db bindingId).bind fun exhausted =>
    (takeOverTitles ⟨w, clock.takeover⟩ exhausted bindingId leaseId).bind fun taken =>
      (insertSelected taken (AlbumDb.insertTitleAttempt ⟨w, clock.insert⟩)
        (titleAttemptRow ⟨w, clock.insert⟩ taken bindingId attemptId leaseId)).map fun db =>
          (db, (titleUnderLease db bindingId leaseId).bind (titleClaimRow db))

/-- The claimed attempt, when `FENCE` and `LIVE` hold of it. -/
def fencedTitle (m : Moment) (db : AlbumDb) (c : AlbumTitleClaim) : Option AlbumTitleAttempt :=
  (db.titleAttempts.find? c.fence.attemptId).filter fun a =>
    decide ((c.fence.valid ∧ a.fence = c.fence ∧ a.completedAtUs = none) ∧ titleLive m db a)

/-- `update`: change the fenced, live attempt to what a statement sets, and read it back. -/
def changeTitle (m : Moment) (db : AlbumDb) (c : AlbumTitleClaim)
    (next : AlbumTitleAttempt → Option AlbumTitleAttempt) : Batch (Option AlbumTitleClaim) :=
  match (fencedTitle m db c).bind next with
  | none => unchanged db none
  | some row =>
      (AlbumDb.updateTitleAttempt m db row).map fun db =>
        (db, (db.titleAttempts.find? c.fence.attemptId).bind fun a =>
          if a.leaseId = c.fence.leaseId ∧ a.epoch = c.fence.epoch then titleClaimRow db a
          else none)

/-- `beginAlbumTitleRead`. -/
def beginAlbumTitleRead (m : Moment) (db : AlbumDb) (c : AlbumTitleClaim) :
    Batch (Option AlbumTitleClaim) :=
  changeTitle m db c fun a =>
    if a.readCount < 5 ∧ a.state ≠ .needsAttention ∧ a.nextReadAtUs ≤ m.now then
      some
        { a with
          readCount := a.readCount + 1
          state := if a.dispatch = none then .claimed else a.state
          nextReadAtUs := m.now + AlbumDb.titleReadWait a.dispatch.isSome (a.readCount + 1) }
    else none

/-- `AlbumTitleProof`. -/
structure AlbumTitleProof where
  photosetId : Token
  ownerNsid : String
  title : String
deriving DecidableEq

/-- The observation that a proof of the claimed album makes, of a title that can be kept. -/
def titleObserved (c : AlbumTitleClaim) (now : Us) (proof : AlbumTitleProof) :
    Option TitleObservation :=
  if proof.photosetId = c.fence.photosetId ∧ proof.ownerNsid = c.fence.ownerNsid then
    if h : isDisplay proof.title = true then some ⟨proof.title, now, h⟩ else none
  else none

/-- `markAlbumTitleDispatch`. -/
def markAlbumTitleDispatch (m : Moment) (db : AlbumDb) (c : AlbumTitleClaim)
    (proof : AlbumTitleProof) : Batch (Option AlbumTitleClaim) :=
  match (titleObserved c m.now proof).filter fun seen =>
      decide (seen.title ≠ c.fence.desiredTitle.text) with
  | none => unchanged db none
  | some seen =>
      changeTitle m db c fun a =>
        if (a.state = .claimed ∧ a.dispatch = none ∧ 0 < a.readCount ∧ a.readCount < 5) ∧
            db.titleWanted a.identity ∧ db.titleAlbumThere a.identity then
          some
            { a with
              state := .dispatched
              dispatch := some ⟨seen.title, m.now⟩
              nextReadAtUs := 0
              observed := some seen }
        else none

/-- `recordAlbumTitleResult`. -/
def recordAlbumTitleResult (m : Moment) (db : AlbumDb) (c : AlbumTitleClaim)
    (resultClass : TitleResultClass) : Batch (Option AlbumTitleClaim) :=
  changeTitle m db c fun a =>
    if a.state = .dispatched ∧ a.resultClass = none then
      some { a with state := .resultReceived, resultClass := some resultClass }
    else none

/-- The state `reconcileAlbumTitle` classifies an attempt into, by the title it observed
and what its binding wants now. -/
def reconciledState (b : AlbumBinding) (a : AlbumTitleAttempt) (observed : Option String) :
    TitleState :=
  match observed with
  | none => if 5 ≤ a.readCount then .needsAttention else .reconciliationPending
  | some title =>
      if b.archived then .localRemoved
      else if b.desiredTitle.text = title then .synced
      else
        match a.dispatch with
        | some d =>
            if title = a.identity.desiredTitle.text then .superseded
            else if title = d.preDispatchTitle then
              if a.titleRevision < b.titleRevision then .superseded
              else if 3 ≤ a.identity.attemptNumber then .needsAttention
              else .retryPending
            else .conflict
        | none =>
            if a.titleRevision < b.titleRevision then .superseded
            else if 5 ≤ a.readCount then .needsAttention
            else .claimed

/-- A reconciliation that completes its attempt. -/
def reconciliationCompletes (a : AlbumTitleAttempt) (observed : Option String)
    (state : TitleState) : Prop :=
  state ∈ [TitleState.synced, .superseded, .retryPending, .conflict, .localRemoved] ∨
  (state = .needsAttention ∧ observed.isSome = true ∧ a.dispatch ≠ none ∧
    a.identity.attemptNumber = 3 ∧ observed = a.dispatch.map TitleDispatch.preDispatchTitle)

instance (a : AlbumTitleAttempt) (observed : Option String) (state : TitleState) :
    Decidable (reconciliationCompletes a observed state) :=
  inferInstanceAs (Decidable (_ ∨ (_ ∧ _ ∧ _ ∧ _ ∧ _)))

/-- The attempt after a reconciliation. -/
def reconciledRow (now : Us) (b : AlbumBinding) (a : AlbumTitleAttempt)
    (seen : Option TitleObservation) : AlbumTitleAttempt :=
  let observed := seen.map TitleObservation.title
  let state := reconciledState b a observed
  { a with
    state := state
    observed := seen.or a.observed
    completedAtUs := if reconciliationCompletes a observed state then some now else none
    satisfiedTitleRevision :=
      if state = .synced then some b.titleRevision else a.satisfiedTitleRevision
    nextReadAtUs :=
      if state = .retryPending then
        now + (if a.identity.attemptNumber = 1 then 5000000 else 30000000)
      else max a.nextReadAtUs (now + AlbumDb.titleReadWait a.dispatch.isSome a.readCount)
    leaseExpiresAtUs := now }

/-- `reconcileAlbumTitle`; the binding of a live attempt is there. -/
def reconcileAlbumTitle (m : Moment) (db : AlbumDb) (c : AlbumTitleClaim)
    (proof : Option AlbumTitleProof) : Batch (Option TitleState) :=
  let seen := proof.bind (titleObserved c m.now)
  if 1 ≤ c.fence.readCount then
    match fencedTitle m db c with
    | none => unchanged db none
    | some a =>
        match db.bindings.find? a.bindingId with
        | none => unchanged db none
        | some b =>
            let row := reconciledRow m.now b a seen
            (AlbumDb.updateTitleAttempt m db row).map fun db => (db, some row.state)
  else unchanged db none

/-- `releaseAlbumTitle`. -/
def releaseAlbumTitle (m : Moment) (db : AlbumDb) (c : AlbumTitleClaim) (notBeforeUs : Us) :
    Batch (Option AlbumTitleClaim) :=
  changeTitle m db c fun a =>
    some
      { a with
        leaseExpiresAtUs := m.now
        nextReadAtUs := max a.nextReadAtUs (max notBeforeUs (m.now + 5000000)) }

/-- `missingAlbumTitle`. -/
def missingAlbumTitle (m : Moment) (db : AlbumDb) (c : AlbumTitleClaim) :
    Batch (Option AlbumTitleClaim) :=
  changeTitle m db c fun a =>
    if 0 < a.readCount then
      some
        { a with
          state := .needsAttention
          remoteMissing := true
          leaseExpiresAtUs := m.now }
    else none

/-! ## Attaching a photo -/

/-- The claim a worker holds: the fenced columns and what was counted with them. -/
structure AttachmentGrant where
  claim : AlbumAttachmentClaim
  dispatchCount : Nat
  dispatchAttempts : Nat
  archivedAfterFulfillment : Bool
deriving DecidableEq

/-- `valid` of `album_attachment_store.ts`, of the claimed columns. -/
def AlbumAttachmentClaim.valid (c : AlbumAttachmentClaim) : Prop :=
  (c.userId.text ≠ "0" ∧ c.photoBindingId.text ≠ "0" ∧ c.photoId.text ≠ "0" ∧
    c.photosetId.text ≠ "0" ∧ c.primaryPhotoId.text ≠ "0" ∧ c.grantGeneration.text ≠ "0" ∧
    c.ownerNsid ≠ "0" ∧ isToken c.ownerNsid = true) ∧
  (revisionInRange c.epoch ∧ revisionInRange c.linkRevision ∧ revisionInRange c.bindingRevision ∧
    revisionInRange c.obligationRevision ∧ revisionInRange c.verificationRevision ∧
    revisionInRange c.deploymentGateRevision ∧ revisionInRange c.userGateRevision)

instance (c : AlbumAttachmentClaim) : Decidable c.valid :=
  inferInstanceAs (Decidable ((_ ∧ _ ∧ _ ∧ _ ∧ _ ∧ _ ∧ _ ∧ _) ∧ (_ ∧ _ ∧ _ ∧ _ ∧ _ ∧ _ ∧ _)))

/-- `valid` of `album_attachment_store.ts`. -/
def AttachmentGrant.valid (g : AttachmentGrant) : Prop :=
  g.claim.valid ∧ g.dispatchCount ≤ 1 ∧ g.dispatchAttempts ≤ 8

instance (g : AttachmentGrant) : Decidable g.valid := inferInstanceAs (Decidable (_ ∧ _ ∧ _))

/-- `row`, of the columns selected from an attempt. -/
def attachmentRow (db : AlbumDb) (a : AlbumAttachmentAttempt) : Option AttachmentGrant :=
  let grant : AttachmentGrant :=
    { claim := a.claim
      dispatchCount := if a.dispatch.isSome then 1 else 0
      dispatchAttempts := db.dispatchCount a.obligationId
      archivedAfterFulfillment := decide (db.archivedFulfilled a.obligationId) }
  if grant.valid then some grant else none

/-- `FENCE`: the attempt is open under this claim, and no attempt came after it. -/
def attachmentFence (db : AlbumDb) (c : AlbumAttachmentClaim) (a : AlbumAttachmentAttempt) : Prop :=
  a.claim = c ∧ a.state.isOpen = true ∧
  ∀ other ∈ db.attachments, other.obligationId = a.obligationId → other.epoch ≤ a.epoch

instance (db : AlbumDb) (c : AlbumAttachmentClaim) (a : AlbumAttachmentAttempt) :
    Decidable (attachmentFence db c a) :=
  inferInstanceAs (Decidable (_ ∧ _ ∧ ∀ other ∈ db.attachments, _ → _))

/-- `RESULT_FALLBACK`: a marked attempt that completes without a result keeps that it is
uncertain. -/
def resultFallback (now : Us) (a : AlbumAttachmentAttempt) : Option (AttachmentResult × Us) :=
  if a.dispatch.isSome = true then some (a.received.getD (.uncertain, now)) else a.received

/-- An attempt that ends without an answer. -/
def attachmentEnded (now : Us) (state : AttachmentState) (a : AlbumAttachmentAttempt) :
    AlbumAttachmentAttempt :=
  { a with
    state := state
    received := resultFallback now a
    retryAfterUs := now + AlbumDb.attachmentBackoff a.epoch }

/-- An attempt that awaits reconciliation. -/
def attachmentPended (now : Us) (a : AlbumAttachmentAttempt) : AlbumAttachmentAttempt :=
  attachmentEnded now .membershipReconciliationPending a

/-- An expired attempt: a marked one, or one that only reconciles, awaits reconciliation. -/
def expiredAttachment (now : Us) (a : AlbumAttachmentAttempt) : AlbumAttachmentAttempt :=
  attachmentEnded now
    (if a.dispatch.isSome = true ∨ a.claim.reconciliationOnly = true then
      .membershipReconciliationPending
    else .abandonedBeforeDispatch) a

/-- The open attachment attempts of an obligation whose lease ran out. -/
def expiredAttachments (now : Us) (db : AlbumDb) (obligationId : Token) :
    List AlbumAttachmentAttempt :=
  db.attachments.rows.filter fun a =>
    decide (a.obligationId = obligationId ∧ a.state.isOpen = true ∧ a.leaseExpiresAtUs ≤ now)

/-- The first statement of `claimAlbumAttachment`. -/
def expireAttachments (m : Moment) (db : AlbumDb) (obligationId : Token) : Option AlbumDb :=
  (expiredAttachments m.now db obligationId).foldlM
    (fun db a => AlbumDb.updateAttachment m db (expiredAttachment m.now a)) db

/-- No attempt of the obligation stands against a new one. -/
def attachmentStartable (m : Moment) (db : AlbumDb) (obligationId : Token) : Prop :=
  (∀ a ∈ db.attachments, a.obligationId = obligationId →
    a.state.isOpen = false ∧ a.state ≠ .needsAttention) ∧
  db.attachmentRetryAt obligationId ≤ m.now ∧
  db.lastAttachmentEpoch obligationId < maxSafeInteger

instance (m : Moment) (db : AlbumDb) (obligationId : Token) :
    Decidable (attachmentStartable m db obligationId) :=
  inferInstanceAs (Decidable ((∀ a ∈ db.attachments, _ → _ ∧ _) ∧ _ ∧ _))

/-- The attempt `claimAlbumAttachment` selects for its insert, with the ids it draws. -/
def attachmentAttemptRow (m : Moment) (db : AlbumDb) (obligationId attemptId leaseId : Token) :
    Option AlbumAttachmentAttempt :=
  (db.obligations.find? obligationId).bind fun o =>
    (db.bindings.find? o.albumBindingId).bind fun b =>
      (m.attachmentAuthority db b o).bind fun authority =>
        if attachmentStartable m db obligationId then
          some
            { claim :=
                { attemptId := attemptId
                  obligationId := obligationId
                  bindingId := b.bindingId
                  leaseId := leaseId
                  epoch := db.lastAttachmentEpoch obligationId + 1
                  userId := b.identity.userId
                  ownerNsid := b.identity.ownerNsid
                  photoBindingId := o.photoBindingId
                  photoId := o.identity.photoId
                  photosetId := authority.photosetId
                  primaryPhotoId := b.identity.firstPhotoId
                  linkRevision := b.identity.linkRevision
                  grantGeneration := authority.write.grantGeneration
                  bindingRevision := b.bindingRevision
                  obligationRevision := o.obligationRevision
                  verificationRevision := authority.verificationRevision
                  deploymentGateRevision := authority.write.deploymentGateRevision
                  userGateRevision := authority.write.userGateRevision
                  reconciliationOnly := db.reconciliationDue obligationId }
              startedAtUs := m.now
              state := .claimed
              dispatch := none
              received := none
              retryAfterUs := 0
              proof := none
              attentionReason := none }
        else none

/-- `claimAlbumAttachment`. -/
def claimAlbumAttachment (w : AlbumWorld) (clock : ClaimClock) (db : AlbumDb)
    (obligationId attemptId leaseId : Token) : Batch (Option AttachmentGrant) :=
  (expireAttachments ⟨w, clock.expire⟩ db obligationId).bind fun expired =>
    let row := attachmentAttemptRow ⟨w, clock.insert⟩ expired obligationId attemptId leaseId
    (insertSelected expired (AlbumDb.insertAttachment ⟨w, clock.insert⟩) row).map fun db =>
      (db, row.bind (attachmentRow db))

/-- `currentAlbumAttachment`. -/
def currentAlbumAttachment (m : Moment) (db : AlbumDb) (g : AttachmentGrant)
    (minRemainingUs : Us) : Prop :=
  g.valid ∧ ∃ a ∈ db.attachments.find? g.claim.attemptId, attachmentFence db g.claim a ∧
    a.hasLeft m.now minRemainingUs ∧ AlbumDb.attachmentAuthority m db g.claim

instance (m : Moment) (db : AlbumDb) (g : AttachmentGrant) (minRemainingUs : Us) :
    Decidable (currentAlbumAttachment m db g minRemainingUs) :=
  inferInstanceAs (Decidable (_ ∧ ∃ a ∈ db.attachments.find? g.claim.attemptId, _))

/-- The claimed attempt, when `FENCE` holds of it. -/
def fencedAttachment (db : AlbumDb) (g : AttachmentGrant) : Option AlbumAttachmentAttempt :=
  (db.attachments.find? g.claim.attemptId).filter fun a =>
    decide (g.valid ∧ attachmentFence db g.claim a)

/-- `change`: set the fenced attempt to what a statement sets for it. -/
def changeAttachment (m : Moment) (db : AlbumDb) (g : AttachmentGrant)
    (next : AlbumAttachmentAttempt → Option AlbumAttachmentAttempt) : Batch Bool :=
  match (fencedAttachment db g).bind next with
  | none => unchanged db false
  | some row => (AlbumDb.updateAttachment m db row).map fun db => (db, true)

/-- The attempt may be marked. -/
def attachmentMarkable (m : Moment) (db : AlbumDb) (a : AlbumAttachmentAttempt) : Prop :=
  (a.state = .claimed ∧ a.dispatch = none ∧ a.claim.reconciliationOnly = false) ∧
  AlbumDb.attachmentAuthority m db a.claim ∧ db.dispatchCount a.obligationId < 8 ∧
  a.hasLeft m.now 15000000

instance (m : Moment) (db : AlbumDb) (a : AlbumAttachmentAttempt) :
    Decidable (attachmentMarkable m db a) :=
  inferInstanceAs (Decidable (_ ∧ _ ∧ _ ∧ _))

/-- `markAlbumAttachmentDispatch`; the answer grants one dispatch. -/
def markAlbumAttachmentDispatch (m : Moment) (db : AlbumDb) (g : AttachmentGrant)
    (contextIds : List Token) : Batch (Option AttachmentGrant) :=
  if contextsValid contextIds ∧ g.claim.photosetId ∉ contextIds ∧
      g.claim.reconciliationOnly = false then
    match (fencedAttachment db g).bind fun a =>
        if attachmentMarkable m db a then
          some { a with state := .dispatched, dispatch := some ⟨m.now, contextIds⟩ }
        else none with
    | none => unchanged db none
    | some row => (AlbumDb.updateAttachment m db row).map fun db =>
        (db, ((fencedAttachment db g).filter fun a => decide (a.state = .dispatched)).bind
          (attachmentRow db))
  else unchanged db none

/-- The attempt has time left and its authority stands. -/
def attachmentLive (m : Moment) (db : AlbumDb) (a : AlbumAttachmentAttempt) : Prop :=
  a.hasLeft m.now 5000000 ∧ AlbumDb.attachmentAuthority m db a.claim

instance (m : Moment) (db : AlbumDb) (a : AlbumAttachmentAttempt) :
    Decidable (attachmentLive m db a) :=
  inferInstanceAs (Decidable (_ ∧ _))

/-- `recordAlbumAttachmentResult`. -/
def recordAlbumAttachmentResult (m : Moment) (db : AlbumDb) (g : AttachmentGrant)
    (result : AttachmentResult) : Batch Bool :=
  if result = .uncertain then unchanged db false
  else changeAttachment m db g fun a =>
    if a.state = .dispatched ∧ attachmentLive m db a then
      some { a with state := .resultReceived, received := some (result, m.now) }
    else none

/-- `AlbumAttachmentProof`. -/
structure AlbumAttachmentProof where
  ownerNsid : String
  photoId : Token
  contextIds : List Token
deriving DecidableEq

/-- `proof`: the read is of the claimed owner and photo, and shows the photoset or not. -/
def attachmentProofValid (c : AlbumAttachmentClaim) (p : AlbumAttachmentProof) (present : Bool) :
    Prop :=
  contextsValid p.contextIds ∧ p.ownerNsid = c.ownerNsid ∧ p.photoId = c.photoId ∧
    (c.photosetId ∈ p.contextIds ↔ present = true)

instance (c : AlbumAttachmentClaim) (p : AlbumAttachmentProof) (present : Bool) :
    Decidable (attachmentProofValid c p present) :=
  inferInstanceAs (Decidable (_ ∧ _ ∧ _ ∧ (_ ↔ _)))

/-- The attempt after it completed on an answer. -/
def attachmentCompleted (now : Us) (state : AttachmentState) (retryAfterUs : Us)
    (reason : Option AttentionReason) (p : Option AlbumAttachmentProof)
    (a : AlbumAttachmentAttempt) : AlbumAttachmentAttempt :=
  { a with
    state := state
    received := resultFallback now a
    retryAfterUs := retryAfterUs
    attentionReason := reason
    proof := p.map fun p => ⟨p.contextIds, p.ownerNsid, p.photoId, now⟩ }

/-- `finishAlbumAttachment`. -/
def finishAlbumAttachment (m : Moment) (db : AlbumDb) (g : AttachmentGrant)
    (p : AlbumAttachmentProof) : Batch Bool :=
  if attachmentProofValid g.claim p true then
    changeAttachment m db g fun a =>
      if attachmentLive m db a then
        some (attachmentCompleted m.now .membershipVerified 0 none (some p) a)
      else none
  else unchanged db false

/-- `deferAlbumAttachment`. -/
def deferAlbumAttachment (m : Moment) (db : AlbumDb) (g : AttachmentGrant)
    (p : AlbumAttachmentProof) : Batch Bool :=
  if attachmentProofValid g.claim p false then
    changeAttachment m db g fun a =>
      if attachmentLive m db a ∧ db.dispatchCount a.obligationId < 8 ∧
          ¬ db.archivedFulfilled a.obligationId then
        some (attachmentCompleted m.now .retryScheduled
          (m.now + AlbumDb.attachmentBackoff a.epoch) none (some p) a)
      else none
  else unchanged db false

/-- The attempts the statement of `unknownAlbumAttachment` updates.  `OR` binds weaker than the
`AND` of the fence, so each claimed attempt that only reconciles is one, whoever holds it. -/
def unknownAttachments (db : AlbumDb) (g : AttachmentGrant) : List AlbumAttachmentAttempt :=
  db.attachments.rows.filter fun a =>
    decide ((attachmentFence db g.claim a ∧ (a.state = .dispatched ∨ a.state = .resultReceived)) ∨
      (a.state = .claimed ∧ a.claim.reconciliationOnly = true))

/-- `unknownAlbumAttachment`. -/
def unknownAlbumAttachment (m : Moment) (db : AlbumDb) (g : AttachmentGrant) : Batch Bool :=
  if g.valid then
    ((unknownAttachments db g).foldlM
      (fun db a => AlbumDb.updateAttachment m db (attachmentPended m.now a)) db).map fun db' =>
        (db', decide ((unknownAttachments db g).map AlbumAttachmentAttempt.attemptId =
          [g.claim.attemptId]))
  else unchanged db false

/-- `failAlbumAttachmentBeforeDispatch`. -/
def failAlbumAttachmentBeforeDispatch (m : Moment) (db : AlbumDb) (g : AttachmentGrant) :
    Batch Bool :=
  changeAttachment m db g fun a =>
    if a.state = .claimed then some (expiredAttachment m.now a) else none

/-- A reason that needs a read without the photoset. -/
def AttentionReason.needsProof : AttentionReason → Bool
  | .retryExhausted | .archivedDriftUnresolved => true
  | .wrongOwner | .missingAlbum | .missingPhoto | .bindingConflict => false

/-- `attentionAlbumAttachment`. -/
def attentionAlbumAttachment (m : Moment) (db : AlbumDb) (g : AttachmentGrant)
    (reason : AttentionReason) (p : Option AlbumAttachmentProof) : Batch Bool :=
  let kept := if reason.needsProof then p else none
  if reason.needsProof = true →
      ∃ proof ∈ p, attachmentProofValid g.claim proof false then
    changeAttachment m db g fun a =>
      if attachmentLive m db a then
        some (attachmentCompleted m.now .needsAttention 0 (some reason) kept a)
      else none
  else unchanged db false

end FlickrGroupAddr

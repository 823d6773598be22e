import FlickrGroupAddr.AlbumTriggers

/-!
# Album requests

What an installation of the owner asks for: a binding, an association, a title, a
removal (`album_binding_store.ts`, `album_obligation_store.ts`,
`album_title_store.ts`, `album_local_removal_store.ts`).  Each runs one batch, a
guarded insert and the reads that make the answer; each statement has its own clock
reading.  A batch that aborts leaves the database as it was.
-/

namespace FlickrGroupAddr

set_option autoImplicit false

open KeyedTable

/-- The codes the album stores reject with. -/
inductive AlbumError where
  | invalidToken
  | unauthorized
  | invalidRequest
  | resourceNotFound
  | serviceUnavailable
  | flickrLinkUnavailable
  | photoNotReady
  | albumBindingExists
  | stalePhotoRevision
  | albumClosed
  | staleBindingRevision
  | staleTitleRevision
  | staleObligationRevision
  | revisionExhausted
  | titleIntentConflict
  | removalAcknowledgementConflict
  | removalAcknowledgementRequired
  | administrativeRepairRequired
  | createRepairNotPending
  | candidateEvidenceUnavailable
  | resolutionConflict
  | resolutionEvidenceUnavailable
  | selectedAlbumNotVerified
deriving DecidableEq

/-- The database a request leaves and what it answers. -/
abbrev Answer (α : Type) := AlbumDb × Except AlbumError α

/-- Run a batch whose only write is its first statement. -/
def batchAnswer {α : Type} (db : AlbumDb) (written : Option AlbumDb)
    (read : AlbumDb → Except AlbumError α) : Answer α :=
  match written with
  | none => (db, .error .serviceUnavailable)
  | some db' => (db', read db')

/-- An `INSERT … SELECT` whose selection may be empty. -/
def insertSelected {ρ : Type} (db : AlbumDb) (insert : AlbumDb → ρ → Option AlbumDb) :
    Option ρ → Option AlbumDb
  | none => some db
  | some row => insert db row

/-! ## The lifecycle of an album -/

inductive TitleViewState where
  | waitingForMaterialization
  | pending
  | reconciliationPending
  | synced
  | conflict
  | needsAttention
  | localRemovedReconciliationPending
  | localRemoved
deriving DecidableEq

/-- `AlbumTitleView`, with the dispatch it names. -/
structure AlbumTitleView where
  state : TitleViewState
  observed : Option TitleObservation
  dispatch : Option (Nat × Token)
deriving DecidableEq

/-- `AlbumLifecycle`; the repair handoff is there when a create attempt was acknowledged
unresolved. -/
structure AlbumLifecycle where
  binding : AlbumBinding
  title : AlbumTitleView
  unresolvedCreateAttemptId : Option Token
  repairHandoff : Option (Token × Option Us)
deriving DecidableEq

namespace AlbumDb

/-- The last title attempt of a binding. -/
def lastTitleAttempt (db : AlbumDb) (bindingId : Token) : Option AlbumTitleAttempt :=
  db.titleAttempts.latest? (fun a => a.bindingId = bindingId) AlbumTitleAttempt.epoch

/-- The observation of one attempt is not later than that of another. -/
def observedBy (left right : AlbumTitleAttempt) : Prop :=
  ∀ l ∈ left.observed, ∃ r ∈ right.observed,
    l.atUs < r.atUs ∨ (l.atUs = r.atUs ∧ left.epoch ≤ right.epoch)

instance (left right : AlbumTitleAttempt) : Decidable (observedBy left right) :=
  inferInstanceAs (Decidable (∀ l ∈ left.observed, ∃ r ∈ right.observed, _))

/-- `… observed_at_us IS NOT NULL ORDER BY observed_at_us DESC,epoch DESC LIMIT 1`. -/
def lastObserved (db : AlbumDb) (bindingId : Token) : Option AlbumTitleAttempt :=
  db.titleAttempts.rows.find? fun a =>
    decide (a.bindingId = bindingId) && a.observed.isSome &&
      decide (∀ other ∈ db.titleAttempts, other.bindingId = bindingId → observedBy other a)

/-- The last observed title of an album. -/
def titleObservation (db : AlbumDb) (bindingId : Token) : Option TitleObservation :=
  (db.lastObserved bindingId).bind AlbumTitleAttempt.observed

/-- The last title attempt with a dispatch marker. -/
def lastTitleDispatch (db : AlbumDb) (bindingId : Token) : Option AlbumTitleAttempt :=
  db.titleAttempts.latest? (fun a => a.bindingId = bindingId && a.dispatch.isSome)
    AlbumTitleAttempt.epoch

/-- The title state of an active album. -/
def activeTitleState (db : AlbumDb) (b : AlbumBinding) : TitleViewState :=
  let observedTitle := (db.titleObservation b.bindingId).map TitleObservation.title
  match db.lastTitleAttempt b.bindingId with
  | none =>
      if b.flickrPhotosetId = none then .waitingForMaterialization
      else if observedTitle = some b.desiredTitle.text then .synced
      else .pending
  | some t =>
      if t.remoteMissing = true then .needsAttention
      else if t.completedAtUs = none ∧ t.dispatch.isSome = true then
        if t.state = .needsAttention then .needsAttention else .reconciliationPending
      else if t.state = .synced ∧ t.satisfiedTitleRevision = some b.titleRevision ∧
          observedTitle = some b.desiredTitle.text then .synced
      else if t.titleRevision = b.titleRevision ∧ t.state = .conflict then .conflict
      else if t.titleRevision = b.titleRevision ∧ t.state = .needsAttention then .needsAttention
      else if b.flickrPhotosetId = none then .waitingForMaterialization
      else .pending

/-- The title state of an album. -/
def titleViewState (db : AlbumDb) (b : AlbumBinding) : TitleViewState :=
  if b.archived then
    if ∃ t ∈ db.lastTitleDispatch b.bindingId, t.completedAtUs = none then
      .localRemovedReconciliationPending
    else .localRemoved
  else db.activeTitleState b

/-- `lifecycle`, of a row that passes its checks, which every stored row does. -/
def lifecycle (db : AlbumDb) (b : AlbumBinding) : AlbumLifecycle :=
  { binding := b
    title :=
      { state := db.titleViewState b
        observed := db.titleObservation b.bindingId
        dispatch := (db.lastTitleDispatch b.bindingId).map fun t => (t.titleRevision, t.attemptId) }
    unresolvedCreateAttemptId := db.unresolvedCreate b
    repairHandoff :=
      if b.archived then
        (db.unresolvedCreate b).map fun attemptId => (attemptId,
          (db.albumRemovals.find? b.bindingId).map AlbumRemovalReceipt.archivedAtUs)
      else none }

end AlbumDb

/-- `CONTEXT` of the lifecycle requests: the binding of the authenticated user, when its
service is theirs too. -/
structure LifecycleContext where
  binding : Option AlbumBinding
  linkReady : Bool
deriving DecidableEq

/-- No row without authentication, or for a binding whose service is not the user's. -/
def lifecycleContext (m : Moment) (db : AlbumDb) (auth : AdmissionAuth) (bindingId : Token) :
    Option LifecycleContext :=
  (m.world.installationUser auth).bind fun userId =>
    match db.bindings.find? bindingId with
    | none => some ⟨none, false⟩
    | some b =>
        if b.identity.userId ≠ userId then some ⟨none, false⟩
        else if m.world.serviceOwned b.identity then
          some ⟨some b, (m.world.titleLinkAuthority b.identity).isSome⟩
        else none

/-- The binding of the context, or the error of the request. -/
def contextBinding (m : Moment) (db : AlbumDb) (auth : AdmissionAuth) (bindingId : Token) :
    Except AlbumError AlbumBinding :=
  match lifecycleContext m db auth bindingId with
  | none => .error .invalidToken
  | some ⟨none, _⟩ => .error .resourceNotFound
  | some ⟨some b, _⟩ => .ok b

/-- `readAlbumLifecycle`. -/
def readAlbumLifecycle (m : Moment) (db : AlbumDb) (auth : AdmissionAuth) (bindingId : Token) :
    Except AlbumError AlbumLifecycle :=
  (contextBinding m db auth bindingId).map db.lifecycle

/-- The four clock readings of a request batch. -/
structure BatchClock where
  insert : Us
  decision : Us
  snapshot : Us
  receipt : Us
deriving DecidableEq

/-- Fail with an error, when there is one. -/
def orError {α : Type} (error : Option AlbumError) (value : Except AlbumError α) :
    Except AlbumError α :=
  match error with
  | some code => .error code
  | none => value

/-! ## Ensuring a binding -/

/-- `AlbumEnsureRequest`, with the service and the collection of its path. -/
structure AlbumEnsureRequest where
  serviceId : Token
  localId : Token
  desiredTitle : Title
  photoBindingId : Token
  expectedVerificationRevision : Nat
deriving DecidableEq

/-- `CONTEXT` of `album_binding_store.ts`. -/
structure EnsureContext where
  userId : Token
  service : Option ServiceIdentity
  linkReady : Bool
  photo : Option PhotoBinding
  photoReady : Bool
  binding : Option AlbumBinding
  obligation : Option AlbumObligation
deriving DecidableEq

/-- The binding of a natural key. -/
def AlbumDb.bindingOf (db : AlbumDb) (userId serviceId localId : Token) : Option AlbumBinding :=
  db.bindings.rows.find? fun b =>
    decide (b.identity.userId = userId ∧ b.identity.serviceId = serviceId ∧
      b.identity.localCollectionId = localId)

/-- The first obligation of a binding. -/
def AlbumDb.firstObligation (db : AlbumDb) (b : AlbumBinding) : Option AlbumObligation :=
  (db.obligations.find? b.identity.firstObligationId).filter fun o =>
    decide (o.albumBindingId = b.bindingId ∧ o.photoBindingId = b.identity.firstPhotoBindingId ∧
      o.identity.photoId = b.identity.firstPhotoId)

def ensureContext (m : Moment) (db : AlbumDb) (auth : AdmissionAuth)
    (request : AlbumEnsureRequest) : Option EnsureContext :=
  (m.world.installationUser auth).map fun userId =>
    let service := (m.world.services.find? request.serviceId).filter fun s =>
      decide (s.userId = userId)
    let photo := (m.world.flickr.bindings.find? request.photoBindingId).filter fun p =>
      decide (p.userId = userId)
    let binding := service.bind fun s => db.bindingOf userId s.serviceId request.localId
    { userId := userId
      service := service
      linkReady := decide (∃ s ∈ service, revisionInRange s.linkRevision ∧
        (m.world.grant userId s.ownerNsid s.linkRevision).isSome = true)
      photo := photo
      photoReady := decide (∃ s ∈ service, ∃ p ∈ photo,
        m.world.photoReady m.now p s.ownerNsid s.linkRevision)
      binding := binding
      obligation := binding.bind db.firstObligation }

/-- `ENSURE_ERROR`. -/
def ensureError (request : AlbumEnsureRequest) (context : EnsureContext) : Option AlbumError :=
  if context.service = none ∨ context.photo = none then some .resourceNotFound
  else if context.linkReady = false then some .flickrLinkUnavailable
  else if context.photoReady = false then some .photoNotReady
  else if ∃ b ∈ context.binding, b.identity.firstPhotoBindingId ≠ request.photoBindingId then
    some .albumBindingExists
  else if context.binding = none ∧ ∃ p ∈ context.photo,
      p.verificationRevision ≠ request.expectedVerificationRevision then
    some .stalePhotoRevision
  else if context.binding ≠ none ∧ context.obligation = none then some .serviceUnavailable
  else none

/-- The row `ensureAlbumBinding` selects for its insert, with the ids it draws. -/
def ensureRow (request : AlbumEnsureRequest) (bindingId obligationId : Token)
    (context : EnsureContext) : Option AlbumBinding :=
  match context.service, context.photo with
  | some s, some p =>
      if context.binding = none ∧ ensureError request context = none then
        some
          { identity :=
              { bindingId := bindingId
                userId := context.userId
                serviceId := s.serviceId
                localCollectionId := request.localId
                linkRevision := s.linkRevision
                ownerNsid := s.ownerNsid
                firstPhotoBindingId := p.bindingId
                firstPhotoId := p.photoId
                firstObligationId := obligationId }
            desiredTitle := request.desiredTitle
            titleRevision := 1
            bindingRevision := 1
            flickrPhotosetId := none
            state := .materializationPending
            materializationState := .pending
            materializationRevision := 1
            navigationUrl := none }
      else none
  | _, _ => none

/-- The binding and the obligation a request answers with, and whether it made them. -/
structure ObligationAnswer where
  created : Bool
  binding : AlbumBinding
  obligation : AlbumObligation
deriving DecidableEq

/-- The read that ends `ensureAlbumBinding`. -/
def ensureRead (m : Moment) (auth : AdmissionAuth) (request : AlbumEnsureRequest)
    (bindingId : Token) (db : AlbumDb) : Except AlbumError ObligationAnswer :=
  match ensureContext m db auth request with
  | none => .error .invalidToken
  | some context =>
      orError (ensureError request context)
        (match context.binding, context.obligation with
          | some b, some o => .ok ⟨decide (b.bindingId = bindingId), b, o⟩
          | _, _ => .error .serviceUnavailable)

/-- `ensureAlbumBinding`. -/
def ensureAlbumBinding (w : AlbumWorld) (clock : BatchClock) (db : AlbumDb) (auth : AdmissionAuth)
    (request : AlbumEnsureRequest) (bindingId obligationId : Token) : Answer ObligationAnswer :=
  if revisionInRange request.expectedVerificationRevision then
    batchAnswer db
      (insertSelected db (AlbumDb.insertBinding ⟨w, clock.insert⟩)
        ((ensureContext ⟨w, clock.insert⟩ db auth request).bind
          (ensureRow request bindingId obligationId)))
      (ensureRead ⟨w, clock.decision⟩ auth request bindingId)
  else (db, .error .invalidRequest)

/-! ## Associating a photo -/

/-- `AlbumAssociateRequest`, with the binding and the photo of its path. -/
structure AlbumAssociateRequest where
  bindingId : Token
  photoBindingId : Token
  expectedBindingRevision : Nat
  expectedVerificationRevision : Nat
deriving DecidableEq

/-- `CONTEXT` of `album_obligation_store.ts`. -/
structure AssociateContext where
  binding : Option AlbumBinding
  serviceOwned : Bool
  linkReady : Bool
  photo : Option PhotoBinding
  photoReady : Bool
  obligation : Option AlbumObligation
  audited : Bool
deriving DecidableEq

/-- The obligation of a binding for a photo. -/
def AlbumDb.obligationOf (db : AlbumDb) (bindingId photoBindingId : Token) :
    Option AlbumObligation :=
  db.obligations.rows.find? fun o =>
    decide (o.albumBindingId = bindingId ∧ o.photoBindingId = photoBindingId)

def associateContext (m : Moment) (db : AlbumDb) (auth : AdmissionAuth)
    (request : AlbumAssociateRequest) : Option AssociateContext :=
  (m.world.installationUser auth).map fun userId =>
    let binding := (db.bindings.find? request.bindingId).filter fun b =>
      decide (b.identity.userId = userId)
    let photo := (m.world.flickr.bindings.find? request.photoBindingId).filter fun p =>
      decide (p.userId = userId)
    let obligation := binding.bind fun b => photo.bind fun p =>
      db.obligationOf b.bindingId p.bindingId
    { binding := binding
      serviceOwned := decide (∃ b ∈ binding, m.world.serviceOwned b.identity)
      linkReady := decide (∃ b ∈ binding, revisionInRange b.identity.linkRevision ∧
        (m.world.titleLinkAuthority b.identity).isSome = true)
      photo := photo
      photoReady := decide (∃ b ∈ binding, ∃ p ∈ photo,
        m.world.photoReady m.now p b.identity.ownerNsid b.identity.linkRevision)
      obligation := obligation
      audited := decide (∃ o ∈ obligation, db.obligationAudited o) }

/-- A retained obligation that does not fit its binding and its photo. -/
def associateBroken (b : AlbumBinding) (p : PhotoBinding) (o : AlbumObligation)
    (audited : Bool) : Prop :=
  o.identity.photoId ≠ p.photoId ∨ audited = false ∨
  b.bindingRevision < o.identity.admissionBindingRevision ∨
  (b.archived ∧ o.localRelationship ≠ .archived)

instance (b : AlbumBinding) (p : PhotoBinding) (o : AlbumObligation) (audited : Bool) :
    Decidable (associateBroken b p o audited) :=
  inferInstanceAs (Decidable (_ ∨ _ ∨ _ ∨ (_ ∧ _)))

/-- `ERROR` of `album_obligation_store.ts`. -/
def associateError (request : AlbumAssociateRequest) (context : AssociateContext) :
    Option AlbumError :=
  match context.binding, context.photo with
  | some b, some p =>
      if context.serviceOwned = false then some .resourceNotFound
      else if context.linkReady = false then some .flickrLinkUnavailable
      else if context.photoReady = false then some .photoNotReady
      else
        match context.obligation with
        | some o => if associateBroken b p o context.audited then some .serviceUnavailable else none
        | none =>
            if b.archived then some .albumClosed
            else if b.bindingRevision ≠ request.expectedBindingRevision then
              some .staleBindingRevision
            else if p.verificationRevision ≠ request.expectedVerificationRevision then
              some .stalePhotoRevision
            else if maxSafeInteger ≤ b.bindingRevision then some .serviceUnavailable
            else none
  | _, _ => some .resourceNotFound

/-- The row `associateAlbumPhoto` selects for its insert, with the id it draws. -/
def associateRow (request : AlbumAssociateRequest) (obligationId : Token)
    (context : AssociateContext) : Option AlbumObligation :=
  match context.binding, context.photo with
  | some b, some p =>
      if context.obligation = none ∧ associateError request context = none then
        some
          { identity :=
              { obligationId := obligationId
                albumBindingId := b.bindingId
                photoBindingId := p.bindingId
                photoId := p.photoId
                admissionBindingRevision := b.bindingRevision + 1 }
            obligationRevision := 1
            state := if b.flickrPhotosetId = none then .waitingForAlbum else .attachmentPending
            localRelationship := .active }
      else none
  | _, _ => none

/-- The read that ends `associateAlbumPhoto`. -/
def associateRead (m : Moment) (auth : AdmissionAuth) (request : AlbumAssociateRequest)
    (obligationId : Token) (db : AlbumDb) : Except AlbumError ObligationAnswer :=
  match associateContext m db auth request with
  | none => .error .invalidToken
  | some context =>
      orError (associateError request context)
        (match context.binding, context.obligation with
          | some b, some o => .ok ⟨decide (o.obligationId = obligationId), b, o⟩
          | _, _ => .error .serviceUnavailable)

/-- `associateAlbumPhoto`. -/
def associateAlbumPhoto (w : AlbumWorld) (clock : BatchClock) (db : AlbumDb) (auth : AdmissionAuth)
    (request : AlbumAssociateRequest) (obligationId : Token) : Answer ObligationAnswer :=
  if revisionInRange request.expectedBindingRevision ∧
      revisionInRange request.expectedVerificationRevision then
    batchAnswer db
      (insertSelected db (AlbumDb.insertObligation ⟨w, clock.insert⟩)
        ((associateContext ⟨w, clock.insert⟩ db auth request).bind
          (associateRow request obligationId)))
      (associateRead ⟨w, clock.decision⟩ auth request obligationId)
  else (db, .error .invalidRequest)

/-! ## Title intents -/

/-- `AlbumTitleRequest`, with the binding and the title revision of its path. -/
structure AlbumTitleRequest where
  bindingId : Token
  titleRevision : Nat
  expectedBindingRevision : Nat
  expectedTitleRevision : Nat
  desiredTitle : Title
deriving DecidableEq

/-- The receipt a request answers with, whether the request made it, and the album now. -/
structure ReceiptAnswer (ρ : Type) where
  created : Bool
  receipt : ρ
  current : AlbumLifecycle
deriving DecidableEq

/-- The receipt `putAlbumTitleIntent` selects for its insert. -/
def titleRow (m : Moment) (db : AlbumDb) (auth : AdmissionAuth) (request : AlbumTitleRequest) :
    Option AlbumTitleReceipt :=
  match lifecycleContext m db auth request.bindingId with
  | some ⟨some b, linkReady⟩ =>
      if (b.bindingRevision = request.expectedBindingRevision ∧
            b.titleRevision = request.expectedTitleRevision ∧
            request.titleRevision = request.expectedTitleRevision + 1) ∧
          (request.expectedBindingRevision < maxSafeInteger ∧
            request.expectedTitleRevision < maxSafeInteger) ∧
          ¬ b.archived ∧ linkReady = true ∧
          db.titleReceipts.find? (b.bindingId, request.titleRevision) = none then
        some
          { bindingId := b.bindingId
            expectedBindingRevision := request.expectedBindingRevision
            expectedTitleRevision := request.expectedTitleRevision
            desiredTitle := request.desiredTitle
            installationId := auth.installationId
            credentialDigest := auth.credentialDigest
            acceptedAtUs := m.now }
      else none
  | _ => none

/-- The decision of `putAlbumTitleIntent`. -/
def titleDecision (m : Moment) (db : AlbumDb) (auth : AdmissionAuth) (request : AlbumTitleRequest) :
    Option AlbumError :=
  match lifecycleContext m db auth request.bindingId with
  | none => some .invalidToken
  | some ⟨none, _⟩ => some .resourceNotFound
  | some ⟨some b, linkReady⟩ =>
      match db.titleReceipts.find? (b.bindingId, request.titleRevision) with
      | some r =>
          if r.expectedBindingRevision = request.expectedBindingRevision ∧
              r.expectedTitleRevision = request.expectedTitleRevision ∧
              r.desiredTitle = request.desiredTitle then none
          else some .titleIntentConflict
      | none =>
          if b.bindingRevision ≠ request.expectedBindingRevision then some .staleBindingRevision
          else if b.titleRevision ≠ request.expectedTitleRevision ∨
              (request.expectedTitleRevision < maxSafeInteger ∧
                request.titleRevision ≠ request.expectedTitleRevision + 1) then
            some .staleTitleRevision
          else if b.bindingRevision = maxSafeInteger ∨ b.titleRevision = maxSafeInteger then
            some .revisionExhausted
          else if b.archived then some .albumClosed
          else if linkReady = false then some .flickrLinkUnavailable
          else none

/-- The current lifecycle and the retained receipt, which the two last reads of a receipt
batch select. -/
def receiptRead {ρ : Type} (snapshot receipt : Moment) (auth : AdmissionAuth) (bindingId : Token)
    (created : Bool) (retained : AlbumDb → AlbumBinding → Option ρ) (db : AlbumDb) :
    Except AlbumError (ReceiptAnswer ρ) :=
  (contextBinding receipt db auth bindingId).bind fun b =>
    match retained db b with
    | none => .error .serviceUnavailable
    | some r => (readAlbumLifecycle snapshot db auth bindingId).map fun current =>
        ⟨created, r, current⟩

/-- `putAlbumTitleIntent`. -/
def putAlbumTitleIntent (w : AlbumWorld) (clock : BatchClock) (db : AlbumDb) (auth : AdmissionAuth)
    (request : AlbumTitleRequest) : Answer (ReceiptAnswer AlbumTitleReceipt) :=
  if revisionInRange request.titleRevision ∧ revisionInRange request.expectedBindingRevision ∧
      revisionInRange request.expectedTitleRevision then
    let row := titleRow ⟨w, clock.insert⟩ db auth request
    batchAnswer db (insertSelected db (AlbumDb.insertTitleReceipt ⟨w, clock.insert⟩) row)
      fun db => orError (titleDecision ⟨w, clock.decision⟩ db auth request)
        (receiptRead ⟨w, clock.snapshot⟩ ⟨w, clock.receipt⟩ auth request.bindingId row.isSome
          (fun db b => db.titleReceipts.find? (b.bindingId, request.titleRevision)) db)
  else (db, .error .invalidRequest)

/-! ## Removing an album -/

/-- `AlbumRemovalRequest`, with the binding of its path. -/
structure AlbumRemovalRequest where
  bindingId : Token
  expectedBindingRevision : Nat
  acknowledgedCreateAttemptId : Option Token
deriving DecidableEq

/-- The receipt `putAlbumLocalRemoval` selects for its insert. -/
def albumRemovalRow (m : Moment) (db : AlbumDb) (auth : AdmissionAuth)
    (request : AlbumRemovalRequest) : Option AlbumRemovalReceipt :=
  match lifecycleContext m db auth request.bindingId with
  | some ⟨some b, _⟩ =>
      if (b.bindingRevision = request.expectedBindingRevision ∧
            request.expectedBindingRevision < maxSafeInteger ∧ ¬ b.archived) ∧
          request.acknowledgedCreateAttemptId = db.unresolvedCreate b ∧
          ¬ db.obligationExhausted b.bindingId ∧ db.albumRemovals.find? b.bindingId = none then
        some
          { bindingId := b.bindingId
            expectedBindingRevision := request.expectedBindingRevision
            acknowledgedCreateAttemptId := request.acknowledgedCreateAttemptId
            archivedAtUs := m.now
            installationId := auth.installationId
            credentialDigest := auth.credentialDigest }
      else none
  | _ => none

/-- The decision of `putAlbumLocalRemoval`. -/
def albumRemovalDecision (m : Moment) (db : AlbumDb) (auth : AdmissionAuth)
    (request : AlbumRemovalRequest) : Option AlbumError :=
  match lifecycleContext m db auth request.bindingId with
  | none => some .invalidToken
  | some ⟨none, _⟩ => some .resourceNotFound
  | some ⟨some b, _⟩ =>
      match db.albumRemovals.find? b.bindingId with
      | some r =>
          if r.acknowledgedCreateAttemptId = request.acknowledgedCreateAttemptId then none
          else some .removalAcknowledgementConflict
      | none =>
          if b.bindingRevision ≠ request.expectedBindingRevision then some .staleBindingRevision
          else if request.acknowledgedCreateAttemptId ≠ db.unresolvedCreate b then
            some .removalAcknowledgementRequired
          else if b.bindingRevision = maxSafeInteger ∨ db.obligationExhausted b.bindingId then
            some .revisionExhausted
          else some .serviceUnavailable

/-- `putAlbumLocalRemoval`. -/
def putAlbumLocalRemoval (w : AlbumWorld) (clock : BatchClock) (db : AlbumDb)
    (auth : AdmissionAuth) (request : AlbumRemovalRequest) :
    Answer (ReceiptAnswer AlbumRemovalReceipt) :=
  if revisionInRange request.expectedBindingRevision then
    let row := albumRemovalRow ⟨w, clock.insert⟩ db auth request
    batchAnswer db (insertSelected db (AlbumDb.insertAlbumRemoval ⟨w, clock.insert⟩) row)
      fun db => orError (albumRemovalDecision ⟨w, clock.decision⟩ db auth request)
        (receiptRead ⟨w, clock.snapshot⟩ ⟨w, clock.receipt⟩ auth request.bindingId row.isSome
          (fun db b => db.albumRemovals.find? b.bindingId) db)
  else (db, .error .invalidRequest)

/-! ## Removing a photo -/

/-- `PhotoRemovalRequest`, with the binding and the photo of its path. -/
structure PhotoRemovalRequest where
  bindingId : Token
  photoBindingId : Token
  expectedBindingRevision : Nat
  expectedObligationRevision : Nat
deriving DecidableEq

/-- The receipt `putAlbumPhotoLocalRemoval` selects for its insert. -/
def photoRemovalRow (m : Moment) (db : AlbumDb) (auth : AdmissionAuth)
    (request : PhotoRemovalRequest) : Option PhotoRemovalReceipt :=
  match lifecycleContext m db auth request.bindingId with
  | some ⟨some b, _⟩ =>
      (db.obligationOf b.bindingId request.photoBindingId).bind fun o =>
        if (db.photoRemovals.find? o.obligationId = none ∧ o.localRelationship = .active) ∧
            (b.bindingRevision = request.expectedBindingRevision ∧
              o.obligationRevision = request.expectedObligationRevision) ∧
            (request.expectedBindingRevision < maxSafeInteger ∧
              request.expectedObligationRevision < maxSafeInteger) then
          some
            { obligationId := o.obligationId
              bindingId := b.bindingId
              photoBindingId := request.photoBindingId
              expectedBindingRevision := request.expectedBindingRevision
              expectedObligationRevision := request.expectedObligationRevision
              source := .photo
              archivedAtUs := m.now
              installationId := auth.installationId
              credentialDigest := auth.credentialDigest }
        else none
  | _ => none

/-- The decision of `putAlbumPhotoLocalRemoval`. -/
def photoRemovalDecision (m : Moment) (db : AlbumDb) (auth : AdmissionAuth)
    (request : PhotoRemovalRequest) : Option AlbumError :=
  match lifecycleContext m db auth request.bindingId with
  | none => some .invalidToken
  | some ⟨none, _⟩ => some .resourceNotFound
  | some ⟨some b, _⟩ =>
      match db.obligationOf b.bindingId request.photoBindingId with
      | none => some .resourceNotFound
      | some o =>
          if db.photoRemovals.find? o.obligationId ≠ none then none
          else if b.bindingRevision ≠ request.expectedBindingRevision then
            some .staleBindingRevision
          else if o.obligationRevision ≠ request.expectedObligationRevision then
            some .staleObligationRevision
          else if b.bindingRevision = maxSafeInteger ∨ o.obligationRevision = maxSafeInteger then
            some .revisionExhausted
          else some .serviceUnavailable

/-- `putAlbumPhotoLocalRemoval`. -/
def putAlbumPhotoLocalRemoval (w : AlbumWorld) (clock : BatchClock) (db : AlbumDb)
    (auth : AdmissionAuth) (request : PhotoRemovalRequest) :
    Answer (ReceiptAnswer PhotoRemovalReceipt) :=
  if revisionInRange request.expectedBindingRevision ∧
      revisionInRange request.expectedObligationRevision then
    let row := photoRemovalRow ⟨w, clock.insert⟩ db auth request
    batchAnswer db (insertSelected db (AlbumDb.insertPhotoRemoval ⟨w, clock.insert⟩) row)
      fun db => orError (photoRemovalDecision ⟨w, clock.decision⟩ db auth request)
        (receiptRead ⟨w, clock.snapshot⟩ ⟨w, clock.receipt⟩ auth request.bindingId row.isSome
          (fun db b => (db.obligationOf b.bindingId request.photoBindingId).bind fun o =>
            db.photoRemovals.find? o.obligationId) db)
  else (db, .error .invalidRequest)

end FlickrGroupAddr

import FlickrGroupAddr.AlbumRequests

/-!
# Repairing an unresolved create

The owner names the photoset that an ambiguous create made
(`album_create_repair_store.ts`).  A request reads the context, proves the selected
photoset from Flickr, and commits one receipt under the authority the context named;
the database may change in between.
-/

namespace FlickrGroupAddr

set_option autoImplicit false

open KeyedTable

/-! ## Authority -/

/-- `RepairAuth`. -/
inductive RepairAuth where
  | installation (installationId : Token) (credentialDigest : String)
  | admin (sessionId : Token) (tokenDigest : String) (ownerSub : String)
deriving DecidableEq

namespace RepairAuth

def kind : RepairAuth → RepairAuthorityKind
  | .installation _ _ => .installation
  | .admin _ _ _ => .admin

def id : RepairAuth → Token
  | .installation installationId _ => installationId
  | .admin sessionId _ _ => sessionId

def digest : RepairAuth → String
  | .installation _ credentialDigest => credentialDigest
  | .admin _ tokenDigest _ => tokenDigest

def ownerSub : RepairAuth → String
  | .installation _ _ => ""
  | .admin _ _ ownerSub => ownerSub

/-- The error of a request that does not authenticate. -/
def refusal : RepairAuth → AlbumError
  | .installation _ _ => .invalidToken
  | .admin _ _ _ => .unauthorized

end RepairAuth

/-- What `authority` selects. -/
structure RepairAuthority where
  userId : Token
  authorityRevision : Nat
  principalRevision : Nat
  authorityId : Token
deriving DecidableEq

/-- `authority`. -/
def repairAuthority (m : Moment) : RepairAuth → Option RepairAuthority
  | .installation installationId credentialDigest =>
      (m.world.installationUser ⟨installationId, credentialDigest⟩).bind fun userId =>
        (m.world.installations.find? installationId).map fun i =>
          ⟨userId, i.revision, 0, installationId⟩
  | .admin sessionId tokenDigest ownerSub =>
      (m.world.sessions.find? sessionId).bind fun s =>
        (m.world.principals.find? s.userId).bind fun p =>
          if s.tokenDigest = tokenDigest ∧ s.revoked = false ∧ m.now < s.expiresAtUs ∧
              p.googleSub = ownerSub then
            some ⟨s.userId, s.revision, p.sessionSetRevision, sessionId⟩
          else none

/-- What `contextSql` selects for a binding. -/
structure RepairRow where
  authority : RepairAuthority
  binding : AlbumBinding
  attempt : Option AlbumMaterializationAttempt
  receipt : Option AlbumCreateRepairReceipt
  write : Option WriteAuthority
  observedAtUs : Us
deriving DecidableEq

/-- The last create attempt of a binding. -/
def AlbumDb.lastCreate (db : AlbumDb) (bindingId : Token) : Option AlbumMaterializationAttempt :=
  db.materializations.latest? (fun a => a.bindingId = bindingId) AlbumMaterializationAttempt.epoch

/-- The attempt was made under the authority that stands now. -/
def writtenUnder (write : WriteAuthority) (b : AlbumIdentity) (c : AlbumMaterializationClaim) :
    Prop :=
  (c.linkRevision = b.linkRevision ∧ c.ownerNsid = b.ownerNsid ∧
    c.photoId = b.firstPhotoId ∧ c.photoBindingId = b.firstPhotoBindingId) ∧
  write = ⟨c.grantGeneration, c.deploymentGateRevision, c.userGateRevision⟩

instance (write : WriteAuthority) (b : AlbumIdentity) (c : AlbumMaterializationClaim) :
    Decidable (writtenUnder write b c) :=
  inferInstanceAs (Decidable (_ ∧ _))

/-- `repair_ready`. -/
def RepairRow.ready (row : RepairRow) : Prop :=
  ∃ write ∈ row.write, ∃ a ∈ row.attempt, writtenUnder write row.binding.identity a.claim

instance (row : RepairRow) : Decidable row.ready :=
  inferInstanceAs (Decidable (∃ write ∈ row.write, ∃ a ∈ row.attempt, _))

/-- `row`, `checked`: the context of a binding of the authenticated user. -/
def repairRow (m : Moment) (db : AlbumDb) (auth : RepairAuth) (bindingId : Token) :
    Except AlbumError RepairRow :=
  match repairAuthority m auth with
  | none => .error auth.refusal
  | some authority =>
      match (db.bindings.find? bindingId).filter fun b =>
          decide (b.identity.userId = authority.userId ∧ m.world.serviceOwned b.identity) with
      | none => .error .resourceNotFound
      | some b =>
          .ok
            { authority := authority
              binding := b
              attempt := db.lastCreate bindingId
              receipt := db.repairReceipts.find? bindingId
              write := m.materializationAuthority b.identity
              observedAtUs := m.now }

/-! ## Status -/

/-- `Status.materialization.state`. -/
inductive RepairState where
  | materializationPending
  | createRejected
  | createOutcomeUnknown
  | materialized
  | remoteAlbumMissingNeedsAttention
  | albumIdentityConflict
deriving DecidableEq

def repairState : RemoteAlbumState → RepairState
  | .albumIdentityConflict => .albumIdentityConflict
  | .remoteAlbumMissingNeedsAttention => .remoteAlbumMissingNeedsAttention
  | .materialization .pending | .materialization .creating => .materializationPending
  | .materialization .materialized => .materialized
  | .materialization .createOutcomeUnknown => .createOutcomeUnknown
  | .materialization .createRejected => .createRejected

inductive RepairSurface where
  | none
  | pluginOrAdmin
  | adminOnly
deriving DecidableEq

/-- `Status`. -/
structure RepairStatus where
  binding : AlbumBinding
  state : RepairState
  createAttemptId : Option Token
  repairSurface : RepairSurface
  resolvedPhotosetId : Option Token
  identityVerified : Option (NavigationUrl × Us)
  membershipCounts : EffectiveState → Nat

/-- The obligations of a binding in an effective state. -/
def membershipCount (db : AlbumDb) (b : AlbumBinding) (state : EffectiveState) : Nat :=
  db.obligations.rows.countP fun o =>
    decide (o.albumBindingId = b.bindingId ∧ db.effectiveState b o = state)

/-- The proof that `status` shows the address of the album with. -/
def identityProof (row : RepairRow) : Option (NavigationUrl × Us) :=
  row.binding.navigationUrl.bind fun url =>
    ((row.receipt.map AlbumCreateRepairReceipt.proofObservedAtUs).or
      (row.attempt.bind fun a =>
        match a.phase with
        | .verified _ _ proof _ => some proof.observedAtUs
        | _ => none)).map fun at_ => (url, at_)

/-- The row shows a photoset without being materialized, or the other way round. -/
def statusBroken (row : RepairRow) (state : RepairState) : Prop :=
  (state = .materialized ∧ row.binding.flickrPhotosetId = none) ∨
  (state ∈ [RepairState.materializationPending, .createRejected, .createOutcomeUnknown] ∧
    row.binding.flickrPhotosetId ≠ none) ∨
  (∃ r ∈ row.receipt, row.binding.flickrPhotosetId ≠ some r.selectedPhotosetId) ∨
  (state = .createOutcomeUnknown ∧ row.attempt = none)

instance (row : RepairRow) (state : RepairState) : Decidable (statusBroken row state) :=
  inferInstanceAs (Decidable (_ ∨ _ ∨ (∃ r ∈ row.receipt, _) ∨ _))

/-- `status`. -/
def repairStatus (db : AlbumDb) (row : RepairRow) : Except AlbumError RepairStatus :=
  let b := row.binding
  let state := repairState (db.remoteStatus b)
  if statusBroken row state then .error .serviceUnavailable
  else
    .ok
      { binding := b
        state := state
        createAttemptId := row.attempt.map AlbumMaterializationAttempt.attemptId
        repairSurface :=
          if state = .createOutcomeUnknown then
            if b.archived then .adminOnly else .pluginOrAdmin
          else .none
        resolvedPhotosetId := row.receipt.map AlbumCreateRepairReceipt.selectedPhotosetId
        identityVerified := if state = .materialized then identityProof row else none
        membershipCounts := membershipCount db b }

/-! ## Resolution -/

/-- `ResolveRequest`. -/
structure ResolveRequest where
  expectedBindingRevision : Nat
  createAttemptId : Token
  selectedPhotosetId : Token
deriving DecidableEq

/-- `RepairContext`; its deadline is ten seconds after its observation. -/
structure RepairContext where
  bindingId : Token
  bindingRevision : Nat
  userId : Token
  attemptId : Token
  ownerNsid : String
  firstPhotoId : Token
  firstPhotoBindingId : Token
  linkRevision : Nat
  write : WriteAuthority
  lifecycle : AlbumState
  preContextIds : List Token
  authorityRevision : Nat
  principalRevision : Nat
  authorityId : Token
  observedAtUs : Us
deriving DecidableEq

def RepairContext.deadlineAtUs (c : RepairContext) : Us := c.observedAtUs + 10000000

/-- `AlbumResolutionProof`, after its url was accepted for the photoset. -/
structure AlbumResolutionProof where
  photosetId : Token
  url : NavigationUrl
  ownerNsid : String
  firstPhotoId : Token
  contextIds : List Token
  observedAtUs : Us
deriving DecidableEq

/-- An installation may not repair an archived album. -/
def repairClosed (auth : RepairAuth) (b : AlbumBinding) : Prop :=
  auth.kind = .installation ∧ b.archived

instance (auth : RepairAuth) (b : AlbumBinding) : Decidable (repairClosed auth b) :=
  inferInstanceAs (Decidable (_ ∧ _))

/-- `repair`: the context of a binding whose create is unresolved. -/
def repairContext (auth : RepairAuth) (row : RepairRow) : Except AlbumError RepairContext :=
  let b := row.binding
  if repairClosed auth b then .error .administrativeRepairRequired
  else if ¬ row.ready then .error .flickrLinkUnavailable
  else if b.materializationState ≠ .createOutcomeUnknown ∨ b.flickrPhotosetId ≠ none then
    .error .createRepairNotPending
  else
    match row.attempt, row.write with
    | some a, some write =>
        match a.phase with
        | .createOutcomeUnknown dispatch _ _ =>
            if contextsValid dispatch.preContextIds then
              .ok
                { bindingId := b.bindingId
                  bindingRevision := b.bindingRevision
                  userId := b.identity.userId
                  attemptId := a.attemptId
                  ownerNsid := b.identity.ownerNsid
                  firstPhotoId := b.identity.firstPhotoId
                  firstPhotoBindingId := b.identity.firstPhotoBindingId
                  linkRevision := b.identity.linkRevision
                  write := write
                  lifecycle := b.state
                  preContextIds := dispatch.preContextIds
                  authorityRevision := row.authority.authorityRevision
                  principalRevision := row.authority.principalRevision
                  authorityId := row.authority.authorityId
                  observedAtUs := row.observedAtUs }
            else .error .candidateEvidenceUnavailable
        | _ => .error .createRepairNotPending
    | _, _ => .error .createRepairNotPending

/-- `replay`: the answer to a request for a repaired binding, or that there is none yet. -/
def repairReplay (db : AlbumDb) (auth : RepairAuth) (request : ResolveRequest) (row : RepairRow) :
    Except AlbumError (Option RepairStatus) :=
  if repairClosed auth row.binding then .error .administrativeRepairRequired
  else if ¬ row.ready then .error .flickrLinkUnavailable
  else
    match row.receipt with
    | some r =>
        if r.selectedPhotosetId = request.selectedPhotosetId ∧
            r.attemptId = request.createAttemptId then (repairStatus db row).map some
        else .error .resolutionConflict
    | none =>
        if row.binding.flickrPhotosetId ≠ none ∨
            row.attempt.map AlbumMaterializationAttempt.attemptId ≠ some request.createAttemptId then
          .error .resolutionConflict
        else .ok none

/-- A request that passed `request`. -/
def ResolveRequest.valid (request : ResolveRequest) : Prop :=
  revisionInRange request.expectedBindingRevision ∧ request.selectedPhotosetId.text ≠ "0"

instance (request : ResolveRequest) : Decidable request.valid :=
  inferInstanceAs (Decidable (_ ∧ _))

/-- What `prepareAlbumResolution` answers: the status of a replay, or the context to prove
the selected photoset in. -/
inductive Prepared where
  | replay (status : RepairStatus)
  | fresh (context : RepairContext)

/-- `prepareAlbumResolution`. -/
def prepareAlbumResolution (m : Moment) (db : AlbumDb) (auth : RepairAuth) (bindingId : Token)
    (request : ResolveRequest) : Except AlbumError Prepared :=
  if request.valid then
    (repairRow m db auth bindingId).bind fun row =>
      (repairReplay db auth request row).bind fun replayed =>
        match replayed with
        | some status => .ok (.replay status)
        | none =>
            if row.binding.bindingRevision ≠ request.expectedBindingRevision then
              .error .staleBindingRevision
            else (repairContext auth row).map .fresh
  else .error .invalidRequest

/-- The proof is of the selected photoset, in the context. -/
def proofMatches (c : RepairContext) (request : ResolveRequest) (proof : AlbumResolutionProof) :
    Prop :=
  proof.photosetId = request.selectedPhotosetId ∧ proof.ownerNsid = c.ownerNsid ∧
    proof.firstPhotoId = c.firstPhotoId ∧ proof.photosetId ∈ proof.contextIds

instance (c : RepairContext) (request : ResolveRequest) (proof : AlbumResolutionProof) :
    Decidable (proofMatches c request proof) :=
  inferInstanceAs (Decidable (_ ∧ _ ∧ _ ∧ _))

/-- The row still is what the context named. -/
def sameContext (c : RepairContext) (row : RepairRow) (a : AlbumMaterializationAttempt)
    (write : WriteAuthority) : Prop :=
  (row.binding.bindingId = c.bindingId ∧ row.binding.bindingRevision = c.bindingRevision ∧
    row.binding.state = c.lifecycle ∧ row.binding.identity.userId = c.userId ∧
    row.binding.identity.ownerNsid = c.ownerNsid ∧
    row.binding.identity.firstPhotoBindingId = c.firstPhotoBindingId ∧
    row.binding.identity.firstPhotoId = c.firstPhotoId ∧
    row.binding.identity.linkRevision = c.linkRevision) ∧
  a.attemptId = c.attemptId ∧ write = c.write ∧
  (row.authority.authorityId = c.authorityId ∧
    row.authority.authorityRevision = c.authorityRevision ∧
    row.authority.principalRevision = c.principalRevision)

instance (c : RepairContext) (row : RepairRow) (a : AlbumMaterializationAttempt)
    (write : WriteAuthority) : Decidable (sameContext c row a write) :=
  inferInstanceAs (Decidable (_ ∧ _ ∧ _ ∧ _))

/-- The binding still waits for its repair, for the request the context was read for. -/
def repairOpen (db : AlbumDb) (c : RepairContext) (request : ResolveRequest)
    (proof : AlbumResolutionProof) (row : RepairRow) : Prop :=
  (row.receipt = none ∧ row.binding.flickrPhotosetId = none ∧
    row.binding.materializationState = .createOutcomeUnknown ∧ row.ready) ∧
  (row.observedAtUs < c.deadlineAtUs ∧ proof.observedAtUs ≤ row.observedAtUs + 1000) ∧
  (c.bindingRevision = request.expectedBindingRevision ∧
    c.attemptId = request.createAttemptId) ∧
  ∀ other ∈ db.bindings, other.identity.ownerNsid = row.binding.identity.ownerNsid →
    other.flickrPhotosetId ≠ some proof.photosetId

instance (db : AlbumDb) (c : RepairContext) (request : ResolveRequest)
    (proof : AlbumResolutionProof) (row : RepairRow) : Decidable (repairOpen db c request proof row) :=
  inferInstanceAs (Decidable (_ ∧ _ ∧ _ ∧ ∀ other ∈ db.bindings, _ → _))

/-- The receipt `commitAlbumResolution` selects for its insert. -/
def repairReceiptRow (m : Moment) (db : AlbumDb) (auth : RepairAuth) (c : RepairContext)
    (request : ResolveRequest) (proof : AlbumResolutionProof) : Option AlbumCreateRepairReceipt :=
  match repairRow m db auth c.bindingId with
  | .error _ => none
  | .ok row =>
      row.attempt.bind fun a => row.write.bind fun write =>
        if sameContext c row a write ∧ repairOpen db c request proof row then
          some
            { bindingId := row.binding.bindingId
              attemptId := a.attemptId
              expectedBindingRevision := row.binding.bindingRevision
              selectedPhotosetId := proof.photosetId
              navigationUrl := proof.url
              ownerNsid := row.binding.identity.ownerNsid
              firstPhotoBindingId := row.binding.identity.firstPhotoBindingId
              firstPhotoId := row.binding.identity.firstPhotoId
              linkRevision := row.binding.identity.linkRevision
              grantGeneration := write.grantGeneration
              deploymentGateRevision := write.deploymentGateRevision
              userGateRevision := write.userGateRevision
              lifecycle := row.binding.state
              authorityKind := auth.kind
              authorityId := row.authority.authorityId
              authorityDigest := auth.digest
              ownerSub := auth.ownerSub
              principalRevision := row.authority.principalRevision
              authorityRevision := row.authority.authorityRevision
              contextObservedAtUs := c.observedAtUs
              deadlineAtUs := c.deadlineAtUs
              proofContextIds := proof.contextIds
              proofObservedAtUs := m.now }
        else none

/-- How a context that was read again differs from the one the proof was made in. -/
def contextRefusal (current prior : RepairContext) : AlbumError :=
  if { current with
        preContextIds := prior.preContextIds
        observedAtUs := prior.observedAtUs } ≠ prior then .flickrLinkUnavailable
  else if prior.deadlineAtUs ≤ current.observedAtUs then .resolutionEvidenceUnavailable
  else if current.preContextIds ≠ prior.preContextIds then .serviceUnavailable
  else .resolutionEvidenceUnavailable

/-- What `commitAlbumResolution` answers when its row does not replay. -/
def refuseResolution (db : AlbumDb) (auth : RepairAuth) (c : RepairContext)
    (request : ResolveRequest) (row : RepairRow) : AlbumError :=
  if ∃ other ∈ db.bindings, other.identity.ownerNsid = c.ownerNsid ∧
      other.flickrPhotosetId = some request.selectedPhotosetId ∧ other.bindingId ≠ c.bindingId then
    .resolutionConflict
  else if row.binding.bindingRevision ≠ c.bindingRevision then .staleBindingRevision
  else
    match repairContext auth row with
    | .error code => code
    | .ok current => contextRefusal current c

/-- The reads that end `commitAlbumResolution`. -/
def resolutionRead (m : Moment) (auth : RepairAuth) (c : RepairContext) (request : ResolveRequest)
    (db : AlbumDb) : Except AlbumError RepairStatus :=
  (repairRow m db auth c.bindingId).bind fun row =>
    (repairReplay db auth request row).bind fun replayed =>
      match replayed with
      | some status => .ok status
      | none => .error (refuseResolution db auth c request row)

/-- The proof was observed while the context stood. -/
def proofTimely (c : RepairContext) (proof : AlbumResolutionProof) : Prop :=
  c.observedAtUs - 1000 ≤ proof.observedAtUs ∧ proof.observedAtUs < c.deadlineAtUs

instance (c : RepairContext) (proof : AlbumResolutionProof) : Decidable (proofTimely c proof) :=
  inferInstanceAs (Decidable (_ ∧ _))

/-- What `commitAlbumResolution` refuses before it reaches the database. -/
def resolutionRefused (c : RepairContext) (request : ResolveRequest)
    (proof : AlbumResolutionProof) : Option AlbumError :=
  if ¬ request.valid then some .invalidRequest
  else if ¬ contextsValid proof.contextIds then some .resolutionEvidenceUnavailable
  else if ¬ proofMatches c request proof then some .selectedAlbumNotVerified
  else if ¬ proofTimely c proof then some .resolutionEvidenceUnavailable
  else none

/-- `commitAlbumResolution`. -/
def commitAlbumResolution (w : AlbumWorld) (clock : BatchClock) (db : AlbumDb) (auth : RepairAuth)
    (c : RepairContext) (request : ResolveRequest) (proof : AlbumResolutionProof) :
    Answer RepairStatus :=
  match resolutionRefused c request proof with
  | some code => (db, .error code)
  | none =>
      batchAnswer db
        (insertSelected db (AlbumDb.insertRepair ⟨w, clock.insert⟩)
          (repairReceiptRow ⟨w, clock.insert⟩ db auth c request proof))
        (resolutionRead ⟨w, clock.decision⟩ auth c request)

end FlickrGroupAddr

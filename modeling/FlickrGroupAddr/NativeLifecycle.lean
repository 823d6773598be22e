import FlickrGroupAddr.Admission
import FlickrGroupAddr.FailPolite

/-!
# The Flickr connection

Who writes the connection of a user: the first login provisions it
(`browser_sessions.ts`), the lifecycle replaces or retires its credential
(`native_lifecycle.ts`), a definitive rejection by Flickr stops it
(`dispatch_worker.ts`, `flickr_reads.ts`), and a verified photo is bound to its
current revision (`flickr_reads.ts`, `upload_photo_binding.ts`).  Whether a session
may make the call is decided by tables this model leaves out, so any call may be
refused.
-/

namespace FlickrGroupAddr

set_option autoImplicit false

open KeyedTable

/-! ## Provisioning -/

namespace FlickrTables

/-- A paused gate, unless there is one; the trigger `write_gate_initial_observation`
records it. -/
def ensureGate (f : FlickrTables) (key : GateKey) (now : Us) : FlickrTables :=
  match f.gates.insert? ⟨key, false, 1⟩ with
  | none => f
  | some gates =>
      ({ f with gates := gates }).addGateEvent key 1 ⟨"initially_paused", none, none, none⟩ now

/-- The rows `createLogin` adds for a configured owner. -/
def provision (f : FlickrTables) (userId : Token) (ownerNsid : String)
    (userNow deploymentNow : Us) : FlickrTables :=
  (({ f with
      links := f.links.ensure ⟨userId, ownerNsid, 1, .paused⟩
      connections := f.connections.ensure ⟨userId, .unlinked, .absent, none, false, none⟩
    }).ensureGate (.user userId) userNow).ensureGate .deployment deploymentNow

end FlickrTables

/-! ## Lifecycle operations -/

namespace FlickrTables

/-- `UPDATE flickr_links SET state=…,link_revision=link_revision+1`. -/
def moveLink (f : FlickrTables) (userId : Token) (state : LinkState) : FlickrTables :=
  { f with
    links := f.links.modify userId fun link =>
      { link with state := state, linkRevision := link.linkRevision + 1 } }

/-- The insert of an operation, under the checks of its table. -/
def insertOperation (f : FlickrTables) (operation : LifecycleOperation) : Option FlickrTables :=
  if (1 ≤ operation.expectedRevision ∧ operation.expectedRevision ≤ 9007199254740990) ∧
      (∀ other ∈ f.operations, other.generation ≠ operation.generation) ∧
      (∀ other ∈ f.operations, other.userId = operation.userId → other.phase = .complete) then
    (f.operations.insert? operation).map fun operations => { f with operations := operations }
  else none

/-- Name the operation on the connection and the credential of the user. -/
def attachOperation (f : FlickrTables) (userId operationId : Token) (state : ConnectionStatus)
    (localState : LocalCredentialState) (externalRemoval : Bool) : FlickrTables :=
  { f with
    connections := f.connections.modify userId fun connection =>
      { connection with
        state := state
        localState := localState
        operationId := some operationId
        externalRemoval := externalRemoval }
    credentials := f.credentials.modify userId fun credential =>
      { credential with operationId := some operationId } }

/-- The guard of `beginLifecycle`. -/
def lifecycleFree (f : FlickrTables) (userId : Token) (revision : Int) : Prop :=
  (∃ link ∈ f.links.find? userId, (link.linkRevision : Int) = revision) ∧
  (∃ connection ∈ f.connections.find? userId, connection.operationId = none ∧
    connection.state ≠ .replacing ∧ connection.state ≠ .disconnecting ∧
    connection.state ≠ .repairRequired) ∧
  ∀ operation ∈ f.operations, operation.userId = userId → operation.phase = .complete

instance (f : FlickrTables) (userId : Token) (revision : Int) :
    Decidable (f.lifecycleFree userId revision) :=
  inferInstanceAs (Decidable ((∃ link ∈ f.links.find? userId, _) ∧
    (∃ connection ∈ f.connections.find? userId, _) ∧ ∀ operation ∈ f.operations, _))

/-- The writes that start an operation: its row, the paused link, its name on the
connection and the credential, and the paused gate of the user. -/
def startOperation (f : FlickrTables) (operation : LifecycleOperation) (state : ConnectionStatus)
    (localState : LocalCredentialState) (externalRemoval : Bool) (now : Us) :
    Option FlickrTables :=
  (f.insertOperation operation).map fun started =>
    ((started.moveLink operation.userId .paused).attachOperation operation.userId
      operation.operationId state localState externalRemoval).pauseGate
        (.user operation.userId) none now

/-- `beginLifecycle`, with the ids it draws. -/
def beginLifecycle (f : FlickrTables) (userId : Token) (revision : Int) (kind : LifecycleKind)
    (operationId generation : Token) (now : Us) : Option FlickrTables :=
  if (isSafeInteger revision ∧ 1 ≤ revision ∧ revision < 9007199254740991) ∧
      f.lifecycleFree userId revision then
    let operation : LifecycleOperation :=
      { operationId := operationId
        userId := userId
        kind := kind
        phase := .prepared
        generation := generation
        retiringGeneration :=
          (f.credentials.find? userId).map NativeCredential.activeGeneration
        preserveRelink := false
        expectedRevision := revision.toNat }
    match kind with
    | .replace => f.startOperation operation .replacing .replacementPending false now
    | .retire => f.startOperation operation .disconnecting .retirementPending true now
  else none

/-- `UPDATE flickr_lifecycle_operations SET phase=…`. -/
def setPhase (f : FlickrTables) (operationId : Token) (phase : LifecyclePhase) : FlickrTables :=
  { f with
    operations := f.operations.modify operationId fun operation =>
      { operation with phase := phase } }

/-- The operation is there, in one of the phases, and a connection names it. -/
def operationAt (f : FlickrTables) (operation : LifecycleOperation)
    (phases : List LifecyclePhase) : Prop :=
  operation.phase ∈ phases ∧
    ∃ connection ∈ f.connections, connection.operationId = some operation.operationId

instance (f : FlickrTables) (operation : LifecycleOperation) (phases : List LifecyclePhase) :
    Decidable (f.operationAt operation phases) :=
  inferInstanceAs (Decidable (_ ∧ ∃ connection ∈ f.connections, _))

/-- The link is paused one revision after the one the operation expected. -/
def pausedFor (f : FlickrTables) (operation : LifecycleOperation) : Prop :=
  ∃ link ∈ f.links.find? operation.userId, link.state = .paused ∧
    link.linkRevision = operation.expectedRevision + 1

instance (f : FlickrTables) (operation : LifecycleOperation) : Decidable (f.pausedFor operation) :=
  inferInstanceAs (Decidable (∃ link ∈ f.links.find? operation.userId, _))

/-- The batch of `dispatchLifecycle`, before the payload is written. -/
def dispatchLifecycle (f : FlickrTables) (operationId : Token) : Option FlickrTables := do
  let operation ← f.operations.find? operationId
  if f.operationAt operation [.prepared] ∧ f.pausedFor operation then
    some (f.setPhase operationId .dispatched)
  else none

/-- `markUncertain`: the write of the payload failed. -/
def markUncertain (f : FlickrTables) (operationId : Token) : Option FlickrTables := do
  let operation ← f.operations.find? operationId
  if f.operationAt operation [.dispatched] then
    let uncertain := f.setPhase operationId .repairRequired
    some { uncertain with
      connections := uncertain.connections.modifyWhere
        (fun connection => connection.operationId = some operationId)
        fun connection =>
          { connection with state := .repairRequired, localState := .unknown } }
  else none

/-- The credential row `reconcileLifecycle` leaves: a replacement activates the
generation of the operation under the new link revision. -/
def activate (f : FlickrTables) (operation : LifecycleOperation) (permission : Permission) :
    FlickrTables :=
  let cleared := f.credentials.erase operation.userId
  { f with
    credentials :=
      match operation.kind, f.links.find? operation.userId with
      | .replace, some link =>
          cleared.ensure ⟨operation.userId, operation.generation, link.linkRevision,
            link.ownerNsid, permission, none⟩
      | _, _ => cleared }

/-- The batch of `reconcileLifecycle`, after the stored payload was verified; the
permission is the one Flickr reported for a replacement. -/
def reconcileLifecycle (f : FlickrTables) (operationId : Token) (permission : Permission)
    (now : Us) : Option FlickrTables := do
  let operation ← f.operations.find? operationId
  if f.operationAt operation [.dispatched, .repairRequired] ∧ f.pausedFor operation then
    let moved := f.moveLink operation.userId
      (match operation.kind with
        | .replace => .linked
        | .retire => if operation.preserveRelink then .paused else .disconnected)
    let settled : FlickrTables := { moved with
      connections := moved.connections.modify operation.userId fun connection =>
        { connection with
          state := match operation.kind with
            | .replace => .linked
            | .retire => if operation.preserveRelink then .relinkRequired else .disconnected
          localState := match operation.kind with
            | .replace => .available
            | .retire => .retired
          operationId := none
          verified := match operation.kind with
            | .replace => some (permission, now)
            | .retire => none } }
    some ((settled.activate operation permission).setPhase operationId .complete)
  else none

end FlickrTables

/-! ## A rejected grant -/

/-- `GrantSnapshot`. -/
structure GrantSnapshot where
  userId : Token
  ownerNsid : String
  revision : Nat
  generation : Token
deriving DecidableEq

namespace FlickrTables

/-- The connection is still the one of the snapshot and no operation owns it. -/
def grantHeld (f : FlickrTables) (snapshot : GrantSnapshot) : Prop :=
  (∃ link ∈ f.links.find? snapshot.userId, link.state = .linked ∧
    link.linkRevision = snapshot.revision) ∧
  (∃ credential ∈ f.credentials.find? snapshot.userId,
    credential.activeGeneration = snapshot.generation ∧ credential.operationId = none) ∧
  ∃ connection ∈ f.connections.find? snapshot.userId, connection.operationId = none

instance (f : FlickrTables) (snapshot : GrantSnapshot) : Decidable (f.grantHeld snapshot) :=
  inferInstanceAs (Decidable ((∃ link ∈ f.links.find? snapshot.userId, _) ∧
    (∃ credential ∈ f.credentials.find? snapshot.userId, _) ∧
    ∃ connection ∈ f.connections.find? snapshot.userId, _))

/-- The writes both rejections share. -/
def rejectGrant (f : FlickrTables) (snapshot : GrantSnapshot) (operationId generation : Token)
    (now : Us) : Option FlickrTables :=
  f.startOperation
    { operationId := operationId
      userId := snapshot.userId
      kind := .retire
      phase := .prepared
      generation := generation
      retiringGeneration := some snapshot.generation
      preserveRelink := true
      expectedRevision := snapshot.revision }
    .relinkRequired .retirementPending false now

/-- `rejectWorkerGrant`. -/
def rejectWorkerGrant (f : FlickrTables) (snapshot : GrantSnapshot)
    (operationId generation : Token) (now : Us) : Option FlickrTables :=
  if f.grantHeld snapshot then f.rejectGrant snapshot operationId generation now else none

end FlickrTables

/-- The installation of the user presents its current credential version. -/
def installationCurrent (db : Db) (auth : AdmissionAuth) (userId : Token) : Prop :=
  ∃ installation ∈ db.installations.find? auth.installationId,
    installation.userId = userId ∧ installation.active = true ∧
      ∃ versionId ∈ installation.currentVersionId, ∃ version ∈ db.versions.find? versionId,
        version.state = .current ∧ version.credentialDigest = auth.credentialDigest

instance (db : Db) (auth : AdmissionAuth) (userId : Token) :
    Decidable (installationCurrent db auth userId) :=
  inferInstanceAs (Decidable (∃ installation ∈ db.installations.find? auth.installationId,
    _ ∧ _ ∧ ∃ versionId ∈ installation.currentVersionId,
      ∃ version ∈ db.versions.find? versionId, _))

/-- `rejectCurrentGrant`. -/
def rejectCurrentGrant (db : Db) (auth : AdmissionAuth) (snapshot : GrantSnapshot)
    (operationId generation : Token) (now : Us) : Option FlickrTables :=
  if installationCurrent db auth snapshot.userId ∧ db.flickr.grantHeld snapshot then
    db.flickr.rejectGrant snapshot operationId generation now
  else none

/-! ## Binding a photo -/

/-- The installation is an active plug-in of the user and presents its current
credential version. -/
def pluginCurrent (db : Db) (auth : AdmissionAuth) (userId : Token) : Prop :=
  ∃ installation ∈ db.installations.find? auth.installationId,
    installation.userId = userId ∧ installation.active = true ∧ installation.lrcPlugin = true ∧
      ∃ versionId ∈ installation.currentVersionId, ∃ version ∈ db.versions.find? versionId,
        version.installationId = installation.installationId ∧
          version.credentialDigest = auth.credentialDigest ∧ version.state = .current

instance (db : Db) (auth : AdmissionAuth) (userId : Token) :
    Decidable (pluginCurrent db auth userId) :=
  inferInstanceAs (Decidable (∃ installation ∈ db.installations.find? auth.installationId,
    _ ∧ _ ∧ _ ∧ ∃ versionId ∈ installation.currentVersionId,
      ∃ version ∈ db.versions.find? versionId, _))

namespace FlickrTables

/-- The link and the credential are still those of the snapshot. -/
def grantCurrent (f : FlickrTables) (snapshot : GrantSnapshot) : Prop :=
  ∃ link ∈ f.links.find? snapshot.userId, ∃ credential ∈ f.credentials.find? snapshot.userId,
    link.state = .linked ∧ link.ownerNsid = snapshot.ownerNsid ∧
      link.linkRevision = snapshot.revision ∧ credential.linkRevision = link.linkRevision ∧
      credential.activeGeneration = snapshot.generation ∧ credential.operationId = none ∧
      credential.verifiedOwnerNsid = link.ownerNsid

instance (f : FlickrTables) (snapshot : GrantSnapshot) : Decidable (f.grantCurrent snapshot) :=
  inferInstanceAs (Decidable (∃ link ∈ f.links.find? snapshot.userId,
    ∃ credential ∈ f.credentials.find? snapshot.userId, _))

/-- Bind the photo, or verify its binding again.  A binding that `again` leaves out
keeps its revisions. -/
def bindPhoto (f : FlickrTables) (snapshot : GrantSnapshot) (photoId bindingId : Token)
    (source : SourceKind) (again : PhotoBinding → Bool) (now : Us) : Option FlickrTables :=
  let verified := fun (bindings : Table PhotoBinding.bindingId) =>
    bindings.modifyWhere
      (fun binding => binding.photoId = photoId ∧ binding.bindingId ≠ bindingId ∧ again binding)
      fun binding =>
        { binding with
          linkRevision := snapshot.revision
          verificationRevision := binding.verificationRevision + 1
          verifiedAtUs := now }
  if ∃ binding ∈ f.bindings, binding.photoId = photoId then
    some { f with bindings := verified f.bindings }
  else
    (f.bindings.insert? ⟨bindingId, snapshot.userId, photoId, snapshot.ownerNsid,
      snapshot.revision, 1, source, now⟩).map fun bindings =>
        { f with bindings := verified bindings }

/-- No binding of the photo belongs to someone else or is out of revisions. -/
def photoBindable (f : FlickrTables) (snapshot : GrantSnapshot) (photoId : Token)
    (pending : Bool) : Prop :=
  ∀ binding ∈ f.bindings, binding.photoId = photoId →
    binding.userId = snapshot.userId ∧ binding.ownerNsid = snapshot.ownerNsid ∧
      (pending = true → binding.verificationRevision < 9007199254740991)

instance (f : FlickrTables) (snapshot : GrantSnapshot) (photoId : Token) (pending : Bool) :
    Decidable (f.photoBindable snapshot photoId pending) :=
  inferInstanceAs (Decidable (∀ binding ∈ f.bindings, _ → _))

end FlickrTables

/-- `commitBinding`: an existing public photo. -/
def commitBinding (db : Db) (auth : AdmissionAuth) (snapshot : GrantSnapshot)
    (photoId bindingId : Token) (now : Us) : Option FlickrTables :=
  if pluginCurrent db auth snapshot.userId ∧ db.flickr.grantCurrent snapshot ∧
      db.flickr.photoBindable snapshot photoId true then
    db.flickr.bindPhoto snapshot photoId bindingId .existingPublic
      (fun binding => decide (binding.verificationRevision < 9007199254740991)) now
  else none

/-- `commit` of an upload; the authorization is pending until it has a binding event. -/
def commitUpload (db : Db) (auth : AdmissionAuth) (snapshot : GrantSnapshot)
    (photoId bindingId : Token) (pending : Bool) (now : Us) : Option FlickrTables :=
  if pluginCurrent db auth snapshot.userId ∧ db.flickr.grantCurrent snapshot ∧
      db.flickr.photoBindable snapshot photoId pending then
    db.flickr.bindPhoto snapshot photoId bindingId .upload (fun _ => pending) now
  else none

/-! ## Calls -/

/-- A call that writes the connection tables, with the ids it draws and the clocks
of its statements.  `operatorPause` is the batch of `controlled_trial_pause.py`;
`recordConformance` is what the release tooling writes. -/
inductive LifecycleCall where
  | provision (userId : Token) (ownerNsid : String) (userNow deploymentNow : ClockReading)
  | beginLifecycle (userId : Token) (revision : Int) (kind : LifecycleKind)
      (operationId generation : Token) (now : ClockReading)
  | dispatchLifecycle (operationId : Token)
  | markUncertain (operationId : Token)
  | reconcileLifecycle (operationId : Token) (permission : Permission) (now : ClockReading)
  | rejectWorkerGrant (snapshot : GrantSnapshot) (operationId generation : Token)
      (now : ClockReading)
  | rejectCurrentGrant (auth : AdmissionAuth) (snapshot : GrantSnapshot)
      (operationId generation : Token) (now : ClockReading)
  | commitBinding (auth : AdmissionAuth) (snapshot : GrantSnapshot) (photoId bindingId : Token)
      (now : ClockReading)
  | commitUpload (auth : AdmissionAuth) (snapshot : GrantSnapshot) (photoId bindingId : Token)
      (pending : Bool) (now : ClockReading)
  | operatorPause (userId : Token) (now : ClockReading)
  | recordConformance (artifactSha2_256 contractSha2_256 : String)

/-- The committed effect of a call on the connection tables. -/
def LifecycleCall.exec (db : Db) : LifecycleCall → Option FlickrTables
  | .provision userId ownerNsid userNow deploymentNow =>
      some (db.flickr.provision userId ownerNsid userNow.us deploymentNow.us)
  | .beginLifecycle userId revision kind operationId generation now =>
      db.flickr.beginLifecycle userId revision kind operationId generation now.us
  | .dispatchLifecycle operationId => db.flickr.dispatchLifecycle operationId
  | .markUncertain operationId => db.flickr.markUncertain operationId
  | .reconcileLifecycle operationId permission now =>
      db.flickr.reconcileLifecycle operationId permission now.us
  | .rejectWorkerGrant snapshot operationId generation now =>
      db.flickr.rejectWorkerGrant snapshot operationId generation now.us
  | .rejectCurrentGrant auth snapshot operationId generation now =>
      FlickrGroupAddr.rejectCurrentGrant db auth snapshot operationId generation now.us
  | .commitBinding auth snapshot photoId bindingId now =>
      FlickrGroupAddr.commitBinding db auth snapshot photoId bindingId now.us
  | .commitUpload auth snapshot photoId bindingId pending now =>
      FlickrGroupAddr.commitUpload db auth snapshot photoId bindingId pending now.us
  | .operatorPause userId now =>
      some ((db.flickr.pauseGate .deployment none now.us).pauseGate (.user userId) none now.us)
  | .recordConformance artifactSha2_256 contractSha2_256 =>
      (db.flickr.conformance.insert? ⟨artifactSha2_256, contractSha2_256⟩).map fun conformance =>
        { db.flickr with conformance := conformance }

end FlickrGroupAddr

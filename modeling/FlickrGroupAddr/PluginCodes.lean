import FlickrGroupAddr.Schema
import FlickrGroupAddr.Lib.Transition
import FlickrGroupAddr.Lib.Fallible

/-!
# Plugin codes

The installations of the owner and their credential versions, as `plugin_codes.ts`
changes them: an owner creates a code, rotates it, completes or cancels the
rotation, revokes it, and the scheduler expires rotation candidates.  A request
reads, then runs one guarded batch, and reads again when the batch failed; other
requests may commit between any two of these accesses, so each access is given the
database it sees.
-/

namespace FlickrGroupAddr

set_option autoImplicit false

open KeyedTable

/-! ## Tables -/

/-- The largest integer JavaScript and the revision columns take. -/
def maxSafeInteger : Nat := 9007199254740991

/-- `installations`.  The time a rotation is due is kept as the instant one year
before it. -/
structure PluginInstallation where
  installationId : Token
  userId : Token
  label : String
  active : Bool
  revision : Nat
  currentVersionId : Option Token
  pendingVersionId : Option Token
  createdAtUs : Us
  revokedAtUs : Option Us
  rotationDueFromUs : Us
deriving DecidableEq

/-- `installation_credential_versions`. -/
structure PluginVersion where
  versionId : Token
  installationId : Token
  credentialDigest : String
  state : VersionState
  ordinal : Nat
  expiresAtUs : Option Us
  createdAtUs : Us
deriving DecidableEq

inductive LifecycleEventKind where
  | created
  | rotationCreated
  | rotationCompleted
  | rotationCancelled
  | rotationExpired
  | revoked
deriving DecidableEq

/-- `installation_lifecycle_events`. -/
structure PluginLifecycleEvent where
  eventId : Token
  installationId : Token
  versionId : Option Token
  fromRevision : Nat
  toRevision : Nat
  kind : LifecycleEventKind
  createdAtUs : Us
deriving DecidableEq

/-- `admin_sessions`. -/
structure AdminSession where
  sessionId : Token
  userId : Token
  revoked : Bool
  expiresAtUs : Us
  recentAuthenticationAtUs : Us
deriving DecidableEq

/-- The tables of the plugin codes; of `admin_principals` only the users count. -/
structure PluginDb where
  installations : Table PluginInstallation.installationId
  versions : Table PluginVersion.versionId
  events : Table PluginLifecycleEvent.eventId
  sessions : Table AdminSession.sessionId
  principals : List Token
deriving DecidableEq

def emptyPluginDb : PluginDb := ⟨.empty, .empty, .empty, .empty, []⟩

/-! ## Constraints -/

/-- The two ways a batch fails that the callers tell apart. -/
inductive BatchFailure where
  /-- The message has `CHECK constraint failed`. -/
  | checkConstraint
  | other
deriving DecidableEq

/-- Fail unless a condition holds. -/
def require (failure : BatchFailure) (p : Prop) [Decidable p] : Except BatchFailure Unit :=
  if p then .ok () else .error failure

theorem require_eq_ok {failure : BatchFailure} {p : Prop} [Decidable p] {u : Unit} :
    require failure p = .ok u ↔ p := by
  unfold require
  split <;> simp_all

/-- The `CHECK`s of `installations`. -/
def PluginInstallation.checks (row : PluginInstallation) : Prop :=
  (1 ≤ row.revision ∧ row.revision ≤ maxSafeInteger) ∧
  ((row.active = true ∧ row.currentVersionId ≠ none) ∨
    (row.active = false ∧ row.currentVersionId = none ∧ row.pendingVersionId = none))

instance (row : PluginInstallation) : Decidable row.checks := inferInstanceAs (Decidable (_ ∧ _))

/-- The row when a rotation starts. -/
def PluginInstallation.startRotation (versionId : Token) (row : PluginInstallation) :
    PluginInstallation :=
  { row with pendingVersionId := some versionId, revision := row.revision + 1 }

/-- The row when a rotation ends without a new current version. -/
def PluginInstallation.endRotation (row : PluginInstallation) : PluginInstallation :=
  { row with pendingVersionId := none, revision := row.revision + 1 }

/-- The `CHECK`s of `installation_credential_versions`. -/
def PluginVersion.checks (row : PluginVersion) : Prop :=
  0 < row.ordinal ∧ (row.state = .current → row.expiresAtUs = none) ∧
  (row.state = .pendingRotation → row.expiresAtUs ≠ none)

instance (row : PluginVersion) : Decidable row.checks := inferInstanceAs (Decidable (_ ∧ _ ∧ _))

/-- The row after `SET state=…,expires_at_us=…`. -/
def PluginVersion.become (state : VersionState) (clearExpiry : Bool) (row : PluginVersion) :
    PluginVersion :=
  { row with
    state := state
    expiresAtUs := if clearExpiry then none else row.expiresAtUs }

/-- `version_state_transition`. -/
def VersionState.mayBecome : VersionState → VersionState → Bool
  | .current, .replaced | .current, .revoked => true
  | .pendingRotation, .current | .pendingRotation, .revoked => true
  | .pendingRotation, .expiredUnactivated => true
  | before, after => before == after

namespace PluginDb

/-- `one_current` and `one_pending`: an installation has at most one version in the
state. -/
def oneIn (db : PluginDb) (state : VersionState) : Prop :=
  ∀ first ∈ db.versions, ∀ second ∈ db.versions, first.state = state → second.state = state →
    first.installationId = second.installationId → first.versionId = second.versionId

instance (db : PluginDb) (state : VersionState) : Decidable (db.oneIn state) :=
  inferInstanceAs (Decidable (∀ first ∈ db.versions, ∀ second ∈ db.versions, _))

/-- The pointers of an installation name versions of its own in the right state. -/
def pointersResolve (db : PluginDb) (row : PluginInstallation) : Prop :=
  (∀ versionId ∈ row.currentVersionId, ∃ version ∈ db.versions.find? versionId,
    version.installationId = row.installationId ∧ version.state = .current) ∧
  (∀ versionId ∈ row.pendingVersionId, ∃ version ∈ db.versions.find? versionId,
    version.installationId = row.installationId ∧ version.state = .pendingRotation)

instance (db : PluginDb) (row : PluginInstallation) : Decidable (db.pointersResolve row) :=
  inferInstanceAs (Decidable ((∀ versionId ∈ row.currentVersionId,
      ∃ version ∈ db.versions.find? versionId, _) ∧
    (∀ versionId ∈ row.pendingVersionId, ∃ version ∈ db.versions.find? versionId, _)))

/-- A current or pending version is the one its active installation names. -/
def versionNamed (db : PluginDb) (version : PluginVersion) : Prop :=
  ∃ row ∈ db.installations.find? version.installationId,
    (version.state = .current →
      row.active = true ∧ row.currentVersionId = some version.versionId) ∧
    (version.state = .pendingRotation →
      row.active = true ∧ row.pendingVersionId = some version.versionId)

instance (db : PluginDb) (version : PluginVersion) : Decidable (db.versionNamed version) :=
  inferInstanceAs (Decidable (∃ row ∈ db.installations.find? version.installationId, _))

/-- The deferred foreign keys, checked when a batch commits. -/
def foreignKeys (db : PluginDb) : Prop :=
  (∀ row ∈ db.installations, db.pointersResolve row) ∧
  (∀ version ∈ db.versions, db.versionNamed version)

instance (db : PluginDb) : Decidable db.foreignKeys :=
  inferInstanceAs (Decidable ((∀ row ∈ db.installations, _) ∧ ∀ version ∈ db.versions, _))

/-- The end of a batch. -/
def commit (db : PluginDb) : Except BatchFailure PluginDb :=
  if db.foreignKeys then .ok db else .error .other

/-! ## Statements -/

/-- `INSERT INTO installations`. -/
def insertInstallation (db : PluginDb) (row : PluginInstallation) :
    Except BatchFailure PluginDb := do
  require .checkConstraint row.checks
  match db.installations.insert? row with
  | none => .error .other
  | some installations => .ok { db with installations := installations }

/-- The ordinal of the next version. -/
def nextOrdinal (db : PluginDb) (installationId : Token) : Nat :=
  db.versions.rows.foldr
    (fun version most => if version.installationId = installationId then
      max version.ordinal most else most) 0 + 1

/-- `INSERT INTO installation_credential_versions`. -/
def insertVersion (db : PluginDb) (row : PluginVersion) : Except BatchFailure PluginDb := do
  require .checkConstraint row.checks
  require .other (∀ other ∈ db.versions, other.credentialDigest ≠ row.credentialDigest)
  require .other (∀ other ∈ db.versions, other.installationId = row.installationId →
    other.ordinal < row.ordinal)
  match db.versions.insert? row with
  | none => .error .other
  | some versions =>
      let db' : PluginDb := { db with versions := versions }
      require .other (db'.oneIn .current ∧ db'.oneIn .pendingRotation)
      .ok db'

/-- `UPDATE installation_credential_versions SET state=…,expires_at_us=…`. -/
def updateVersions (db : PluginDb) (p : PluginVersion → Bool) (state : VersionState)
    (clearExpiry : Bool) : Except BatchFailure PluginDb := do
  require .other (∀ version ∈ db.versions, p version = true →
    version.state.mayBecome state = true)
  require .checkConstraint (∀ version ∈ db.versions, p version = true →
    (version.become state clearExpiry).checks)
  let db' : PluginDb :=
    { db with versions := db.versions.modifyWhere p (PluginVersion.become state clearExpiry) }
  require .other (db'.oneIn .current ∧ db'.oneIn .pendingRotation)
  .ok db'

/-- `installation_revision_guard`. -/
def revisionGuard (old new : PluginInstallation) : Prop :=
  old.revision ≤ new.revision ∧
  (new.active ≠ old.active ∨ new.currentVersionId ≠ old.currentVersionId ∨
    new.pendingVersionId ≠ old.pendingVersionId → new.revision = old.revision + 1)

instance (old new : PluginInstallation) : Decidable (revisionGuard old new) :=
  inferInstanceAs (Decidable (_ ∧ (_ → _)))

/-- `UPDATE installations SET …,revision=revision+1 WHERE installation_id=…`. -/
def updateInstallation (db : PluginDb) (installationId : Token)
    (f : PluginInstallation → PluginInstallation)
    (hf : ∀ row, (f row).installationId = row.installationId := by intro _; rfl) :
    Except BatchFailure PluginDb := do
  require .other (∀ row ∈ db.installations.find? installationId, revisionGuard row (f row))
  require .checkConstraint (∀ row ∈ db.installations.find? installationId, (f row).checks)
  .ok { db with installations := db.installations.modify installationId f hf }

/-- `INSERT INTO installation_lifecycle_events`. -/
def insertEvent (db : PluginDb) (event : PluginLifecycleEvent) :
    Except BatchFailure PluginDb := do
  require .other (∀ other ∈ db.events, other.installationId = event.installationId →
    other.fromRevision = event.fromRevision → other.kind ≠ event.kind)
  require .other (db.installations.find? event.installationId ≠ none)
  require .other (∀ versionId ∈ event.versionId, db.versions.find? versionId ≠ none)
  match db.events.insert? event with
  | none => .error .other
  | some events => .ok { db with events := events }

/-- `SESSION`: the session is the user's, live, and recently authenticated. -/
def sessionRecent (db : PluginDb) (userId sessionId : Token) (now : Us) : Prop :=
  userId ∈ db.principals ∧ ∃ session ∈ db.sessions.find? sessionId,
    session.userId = userId ∧ session.revoked = false ∧ now < session.expiresAtUs ∧
    0 ≤ now - session.recentAuthenticationAtUs ∧
    now - session.recentAuthenticationAtUs ≤ 300000000

instance (db : PluginDb) (userId sessionId : Token) (now : Us) :
    Decidable (db.sessionRecent userId sessionId now) :=
  inferInstanceAs (Decidable (_ ∧ ∃ session ∈ db.sessions.find? sessionId, _))

end PluginDb

/-! ## Detail -/

/-- The version of a detail. -/
structure PluginVersionSummary where
  versionId : Token
  state : VersionState
  createdAtUs : Us
  expiresAtUs : Option Us
deriving DecidableEq

/-- `lastLifecycleOutcome`. -/
structure PluginLifecycleOutcome where
  kind : LifecycleEventKind
  versionId : Option Token
  occurredAtUs : Us
deriving DecidableEq

/-- `PluginCodeDetail`. -/
structure PluginCodeDetail where
  pluginCodeId : Token
  installationLabel : String
  active : Bool
  revision : Nat
  createdAtUs : Us
  revokedAtUs : Option Us
  rotationDueFromUs : Us
  currentVersion : Option PluginVersionSummary
  pendingCandidate : Option PluginVersionSummary
  lastLifecycleOutcome : Option PluginLifecycleOutcome
deriving DecidableEq

namespace PluginDb

/-- The version a pointer names, as JSON. -/
def versionSummary (db : PluginDb) (pointer : Option Token) : Option PluginVersionSummary :=
  (pointer.bind db.versions.find?).map fun version =>
    ⟨version.versionId, version.state, version.createdAtUs, version.expiresAtUs⟩

/-- Whether an event comes first in `ORDER BY e.to_revision DESC,e.event_id DESC`. -/
def laterEvent (first second : PluginLifecycleEvent) : Bool :=
  decide (second.toRevision < first.toRevision) ||
    (decide (first.toRevision = second.toRevision) &&
      decide (second.eventId.text < first.eventId.text))

/-- The last event of an installation. -/
def lastEvent (db : PluginDb) (installationId : Token) : Option PluginLifecycleEvent :=
  (db.events.rows.filter fun event => event.installationId = installationId).foldl
    (fun best event => match best with
      | none => some event
      | some other => if laterEvent event other then some event else some other) none

/-- `DETAIL_SQL` over a row. -/
def detail (db : PluginDb) (row : PluginInstallation) : PluginCodeDetail where
  pluginCodeId := row.installationId
  installationLabel := row.label
  active := row.active
  revision := row.revision
  createdAtUs := row.createdAtUs
  revokedAtUs := row.revokedAtUs
  rotationDueFromUs := row.rotationDueFromUs
  currentVersion := db.versionSummary row.currentVersionId
  pendingCandidate := db.versionSummary row.pendingVersionId
  lastLifecycleOutcome := (db.lastEvent row.installationId).map fun event =>
    ⟨event.kind, event.versionId, event.createdAtUs⟩

end PluginDb

/-! ## Requests -/

/-- `PluginCodeError`: a code and its HTTP status. -/
structure PluginCodeError where
  code : String
  status : Nat
deriving DecidableEq

namespace PluginCodeError

def invalidRequest : PluginCodeError := ⟨"invalid_plugin_code_request", 400⟩
def transferPreconditions : PluginCodeError := ⟨"transfer_preconditions_required", 400⟩
def preconditionRequired : PluginCodeError := ⟨"precondition_required", 428⟩
def preconditionFailed : PluginCodeError := ⟨"precondition_failed", 412⟩
def rotationConflict : PluginCodeError := ⟨"rotation_conflict", 409⟩
def notFound : PluginCodeError := ⟨"not_found", 404⟩
def creationUnconfirmed : PluginCodeError := ⟨"plugin_code_creation_unconfirmed", 503⟩
def changeUnconfirmed : PluginCodeError := ⟨"plugin_code_change_unconfirmed", 503⟩

end PluginCodeError

/-- What the `If-Match` header says: nothing, the `pluginCodeEtag` of an id and a
revision, or some other text. -/
inductive IfMatch where
  | missing
  | etag (pluginCodeId : Token) (revision : Nat)
  | otherText
deriving DecidableEq

/-- `expectedRevision`. -/
def expectedRevision (id : Token) : IfMatch → Except PluginCodeError Nat
  | .missing => .error .preconditionRequired
  | .otherText => .error .preconditionFailed
  | .etag pluginCodeId revision =>
      if 1 ≤ revision ∧ revision < maxSafeInteger ∧ pluginCodeId = id then .ok revision
      else .error .preconditionFailed

/-- What a candidate can be made. -/
inductive CandidateTarget where
  | current
  | revoked
deriving DecidableEq

def CandidateTarget.state : CandidateTarget → VersionState
  | .current => .current
  | .revoked => .revoked

def CandidateTarget.kind : CandidateTarget → LifecycleEventKind
  | .current => .rotationCompleted
  | .revoked => .rotationCancelled

/-- The body of a change: of the revocation shape, of the candidate shape with its
state (and, for `current`, the confirmation), or of no accepted shape. -/
inductive ChangeBody where
  | revocation
  | candidate (target : CandidateTarget)
  | invalid
deriving DecidableEq

/-- `candidateRequest`. -/
def candidateRequest : ChangeBody → Except PluginCodeError CandidateTarget
  | .candidate target => .ok target
  | .revocation | .invalid => .error .invalidRequest

/-- `revocationRequest`. -/
def revocationRequest : ChangeBody → Except PluginCodeError Unit
  | .revocation => .ok ()
  | .candidate _ | .invalid => .error .invalidRequest

/-- The arguments of `changePluginCode`. -/
structure ChangeRequest where
  userId : Token
  sessionId : Token
  id : Token
  ifMatch : IfMatch
  body : ChangeBody
  candidateId : Option Token
deriving DecidableEq

/-- The values bound to the batch of a change. -/
structure ChangePlan where
  installationId : Token
  userId : Token
  sessionId : Token
  revision : Nat
  /-- The candidate and what it is to be made; none for a revocation. -/
  candidate : Option (Token × CandidateTarget)
deriving DecidableEq

def ChangePlan.kind (plan : ChangePlan) : LifecycleEventKind :=
  match plan.candidate with
  | some (_, target) => target.kind
  | none => .revoked

namespace PluginDb

/-- `owned`. -/
def owned (db : PluginDb) (userId id : Token) : Except PluginCodeError PluginInstallation :=
  match db.installations.find? id with
  | none => .error .notFound
  | some row => if row.userId = userId then .ok row else .error .notFound

/-- `getPluginCode`. -/
def getPluginCode (db : PluginDb) (userId id : Token) : Except PluginCodeError PluginCodeDetail :=
  (db.owned userId id).map db.detail

/-- The version exists and belongs to the installation. -/
def candidateExists (db : PluginDb) (id candidateId : Token) : Prop :=
  ∃ version ∈ db.versions.find? candidateId, version.installationId = id

instance (db : PluginDb) (id candidateId : Token) : Decidable (db.candidateExists id candidateId) :=
  inferInstanceAs (Decidable (∃ version ∈ db.versions.find? candidateId, _))

/-- The replay query.  The event's version is joined and compared with the bound
candidate; where either is `NULL` the comparison is not true. -/
def replayed (db : PluginDb) (id : Token) (revision : Nat) (kind : LifecycleEventKind)
    (candidateId : Option Token) (state : VersionState) : Prop :=
  ∃ event ∈ db.events, event.installationId = id ∧ event.fromRevision = revision ∧
    event.kind = kind ∧
    (∃ row ∈ db.installations.find? id, event.toRevision = row.revision) ∧
    ∃ versionId ∈ event.versionId, candidateId = some versionId ∧
      ∃ version ∈ db.versions.find? versionId, version.state = state

instance (db : PluginDb) (id : Token) (revision : Nat) (kind : LifecycleEventKind)
    (candidateId : Option Token) (state : VersionState) :
    Decidable (db.replayed id revision kind candidateId state) :=
  inferInstanceAs (Decidable (∃ event ∈ db.events, _ ∧ _ ∧ _ ∧
    (∃ row ∈ db.installations.find? id, _) ∧ ∃ versionId ∈ event.versionId, _ ∧
      ∃ version ∈ db.versions.find? versionId, _))

end PluginDb

/-- What a change does after its first reads. -/
inductive ChangeStep where
  | answer (detail : PluginCodeDetail)
  | batch (plan : ChangePlan)
deriving DecidableEq

/-- The target of a request, with its candidate. -/
def ChangeRequest.target (request : ChangeRequest) :
    Except PluginCodeError (Option (Token × CandidateTarget)) :=
  match request.candidateId with
  | some candidateId => (candidateRequest request.body).map fun target => some (candidateId, target)
  | none => (revocationRequest request.body).map fun _ => none

/-- The candidate of a request is a version of the installation. -/
def candidateKnown (db : PluginDb) (id : Token) :
    Option (Token × CandidateTarget) → Except PluginCodeError Unit
  | none => .ok ()
  | some (candidateId, _) =>
      if db.candidateExists id candidateId then .ok () else .error .notFound

/-- The state a change leaves its version in. -/
def ChangePlan.state (plan : ChangePlan) : VersionState :=
  match plan.candidate with
  | some (_, target) => target.state
  | none => .revoked

/-- The replay query of a change. -/
def ChangePlan.replayed (plan : ChangePlan) (db : PluginDb) : Prop :=
  db.replayed plan.installationId plan.revision plan.kind (plan.candidate.map Prod.fst) plan.state

instance (plan : ChangePlan) (db : PluginDb) : Decidable (plan.replayed db) :=
  inferInstanceAs (Decidable (db.replayed _ _ _ _ _))

/-- What a change does about the row it read; the replay and the detail are read
after it. -/
def ChangePlan.resolve (plan : ChangePlan) (row : PluginInstallation)
    (replayDb detailDb : PluginDb) : Except PluginCodeError ChangeStep :=
  if row.revision ≠ plan.revision then
    if plan.replayed replayDb then
      (detailDb.getPluginCode plan.userId plan.installationId).map .answer
    else .error .preconditionFailed
  else if plan.candidate = none ∧ row.active = false then
    (detailDb.getPluginCode plan.userId plan.installationId).map .answer
  else if row.active = false then .error .rotationConflict
  else .ok (.batch plan)

/-- `changePluginCode` up to its batch.  The row, the candidate, the replay and the
detail are read one after the other. -/
def changePluginCode (ownedDb candidateDb replayDb detailDb : PluginDb)
    (request : ChangeRequest) : Except PluginCodeError ChangeStep := do
  let row ← ownedDb.owned request.userId request.id
  let revision ← expectedRevision request.id request.ifMatch
  let candidate ← request.target
  candidateKnown candidateDb request.id candidate
  ChangePlan.resolve ⟨request.id, request.userId, request.sessionId, revision, candidate⟩ row
    replayDb detailDb

namespace ChangePlan

/-- The condition the batch of a change approves. -/
def approved (plan : ChangePlan) (db : PluginDb) (now : Us) : Prop :=
  db.sessionRecent plan.userId plan.sessionId now ∧
  ∃ row ∈ db.installations.find? plan.installationId,
    row.userId = plan.userId ∧ row.active = true ∧ row.revision = plan.revision ∧
    ∀ candidate ∈ plan.candidate, row.pendingVersionId = some candidate.1 ∧
      ∃ version ∈ db.versions.find? candidate.1,
        version.installationId = plan.installationId ∧ version.state = .pendingRotation ∧
        (candidate.2 = .current → ∃ expiry ∈ version.expiresAtUs, now < expiry)

instance (plan : ChangePlan) (db : PluginDb) (now : Us) : Decidable (plan.approved db now) :=
  inferInstanceAs (Decidable (_ ∧ ∃ row ∈ db.installations.find? plan.installationId,
    _ ∧ _ ∧ _ ∧ ∀ candidate ∈ plan.candidate, _ ∧
      ∃ version ∈ db.versions.find? candidate.1, _ ∧ _ ∧
        (_ → ∃ expiry ∈ version.expiresAtUs, now < expiry)))

/-- The rows of versions a change writes. -/
def writeVersions (plan : ChangePlan) (db : PluginDb) : Except BatchFailure PluginDb :=
  let ofInstallation := fun version : PluginVersion =>
    decide (version.installationId = plan.installationId)
  match plan.candidate with
  | none =>
      db.updateVersions
        (fun version => ofInstallation version &&
          (version.state == .current || version.state == .pendingRotation)) .revoked false
  | some (candidateId, target) => do
      let isCandidate := fun version : PluginVersion =>
        ofInstallation version && decide (version.versionId = candidateId) &&
          (version.state == .pendingRotation)
      match target with
      | .current =>
          let db ← db.updateVersions
            (fun version => ofInstallation version && (version.state == .current)) .replaced false
          db.updateVersions isCandidate .current true
      | .revoked => db.updateVersions isCandidate .revoked false

/-- The installation row a change leaves. -/
def installation (plan : ChangePlan) (now : Us) (row : PluginInstallation) : PluginInstallation :=
  match plan.candidate with
  | none =>
      { row with
        active := false
        currentVersionId := none
        pendingVersionId := none
        revision := row.revision + 1
        revokedAtUs := some now }
  | some (candidateId, .current) =>
      { row with
        currentVersionId := some candidateId
        rotationDueFromUs := now
        pendingVersionId := none
        revision := row.revision + 1 }
  | some (_, .revoked) => row.endRotation

theorem installation_id (plan : ChangePlan) (now : Us) (row : PluginInstallation) :
    (plan.installation now row).installationId = row.installationId := by
  unfold installation
  split <;> rfl

/-- The batch of a change. -/
def run (plan : ChangePlan) (eventId : Token) (now : Us) (db : PluginDb) :
    Except BatchFailure PluginDb := do
  require .checkConstraint (plan.approved db now)
  let db ← plan.writeVersions db
  let db ← db.updateInstallation plan.installationId (plan.installation now)
    (plan.installation_id now)
  let db ← db.insertEvent
    { eventId := eventId
      installationId := plan.installationId
      versionId := plan.candidate.map Prod.fst
      fromRevision := plan.revision
      toRevision := plan.revision + 1
      kind := plan.kind
      createdAtUs := now }
  db.commit

/-- What `changePluginCode` answers when its batch failed: it reads the row, the
replay and the detail again. -/
def afterFailure (plan : ChangePlan) (failure : BatchFailure)
    (ownedDb replayDb detailDb : PluginDb) : Except PluginCodeError PluginCodeDetail :=
  match failure with
  | .other => .error .changeUnconfirmed
  | .checkConstraint => do
      let latest ← ownedDb.owned plan.userId plan.installationId
      if plan.candidate ≠ none ∧ latest.revision ≠ plan.revision ∧ plan.replayed replayDb then
        detailDb.getPluginCode plan.userId plan.installationId
      else if latest.revision ≠ plan.revision then .error .preconditionFailed
      else .error .rotationConflict

end ChangePlan

/-! ## Creation, rotation and expiry -/

/-- The body of a creation, with the values the parser looks at. -/
structure CreationBody where
  /-- The object has exactly the keys asked for and schema version 1. -/
  shaped : Bool
  /-- All six transfer confirmations are `true`. -/
  confirmed : Bool
  installationLabel : String
deriving DecidableEq

/-- Between 1 and 120 characters, none of them a control character. -/
def isInstallationLabel (label : String) : Bool :=
  decide (1 ≤ label.length) && decide (label.length ≤ 120) &&
    label.toList.all fun c => decide (32 ≤ c.toNat) && decide (c.toNat ≠ 127)

/-- `creationRequest`. -/
def creationRequest (body : CreationBody) (initial : Bool) :
    Except PluginCodeError (Option String) :=
  if body.shaped = false then .error .invalidRequest
  else if body.confirmed = false then .error .transferPreconditions
  else if initial then
    if isInstallationLabel body.installationLabel then .ok (some body.installationLabel)
    else .error .invalidRequest
  else .ok none

/-- The ids and the digest of a fresh plugin code. -/
structure FreshCode where
  installationId : Token
  versionId : Token
  credentialDigest : String
deriving DecidableEq

/-- The values bound to the batch of a creation; a rotation names its revision. -/
structure CreatePlan where
  installationId : Token
  userId : Token
  sessionId : Token
  versionId : Token
  credentialDigest : String
  /-- The label of a new installation, or the revision a rotation expects. -/
  purpose : String ⊕ Nat
deriving DecidableEq

/-- `createPluginCode` up to its batch. -/
def createPluginCode (ownedDb : PluginDb) (userId sessionId : Token) (body : CreationBody)
    (rotated : Option (Token × IfMatch)) (fresh : FreshCode) :
    Except PluginCodeError CreatePlan := do
  let label ← creationRequest body rotated.isNone
  match rotated with
  | none =>
      .ok ⟨fresh.installationId, userId, sessionId, fresh.versionId, fresh.credentialDigest,
        .inl (label.getD "")⟩
  | some (id, ifMatch) =>
      let row ← ownedDb.owned userId id
      let revision ← expectedRevision id ifMatch
      if row.revision ≠ revision then .error .preconditionFailed
      else if row.active = false ∨ row.pendingVersionId ≠ none then .error .rotationConflict
      else .ok ⟨id, userId, sessionId, fresh.versionId, fresh.credentialDigest, .inr revision⟩

namespace CreatePlan

/-- The condition the batch of a creation approves. -/
def approved (plan : CreatePlan) (db : PluginDb) (now : Us) : Prop :=
  db.sessionRecent plan.userId plan.sessionId now ∧
  match plan.purpose with
  | .inl _ => True
  | .inr revision => ∃ row ∈ db.installations.find? plan.installationId,
      row.userId = plan.userId ∧ row.revision = revision ∧ row.active = true ∧
      row.pendingVersionId = none

instance (plan : CreatePlan) (db : PluginDb) (now : Us) : Decidable (plan.approved db now) := by
  unfold approved
  cases plan.purpose with
  | inl _ => exact inferInstanceAs (Decidable (_ ∧ True))
  | inr _ =>
      exact inferInstanceAs
        (Decidable (_ ∧ ∃ row ∈ db.installations.find? plan.installationId, _))

/-- The version a creation adds. -/
def version (plan : CreatePlan) (db : PluginDb) (now : Us) : PluginVersion where
  versionId := plan.versionId
  installationId := plan.installationId
  credentialDigest := plan.credentialDigest
  state := match plan.purpose with
    | .inl _ => .current
    | .inr _ => .pendingRotation
  ordinal := db.nextOrdinal plan.installationId
  expiresAtUs := match plan.purpose with
    | .inl _ => none
    | .inr _ => some (now + 900000000)
  createdAtUs := now

/-- The event a creation adds. -/
def event (plan : CreatePlan) (eventId : Token) (now : Us) : PluginLifecycleEvent where
  eventId := eventId
  installationId := plan.installationId
  versionId := some plan.versionId
  fromRevision := match plan.purpose with
    | .inl _ => 0
    | .inr revision => revision
  toRevision := match plan.purpose with
    | .inl _ => 1
    | .inr revision => revision + 1
  kind := match plan.purpose with
    | .inl _ => .created
    | .inr _ => .rotationCreated
  createdAtUs := now

/-- The installation a creation adds. -/
def installation (plan : CreatePlan) (label : String) (now : Us) : PluginInstallation where
  installationId := plan.installationId
  userId := plan.userId
  label := label
  active := true
  revision := 1
  currentVersionId := some plan.versionId
  pendingVersionId := none
  createdAtUs := now
  revokedAtUs := none
  rotationDueFromUs := now

/-- The rows a creation writes. -/
def write (plan : CreatePlan) (now : Us) (db : PluginDb) : Except BatchFailure PluginDb :=
  match plan.purpose with
  | .inl label => do
      let db ← db.insertInstallation (plan.installation label now)
      db.insertVersion (plan.version db now)
  | .inr _ => do
      let db ← db.insertVersion (plan.version db now)
      db.updateInstallation plan.installationId
        (PluginInstallation.startRotation plan.versionId)

/-- The batch of a creation. -/
def run (plan : CreatePlan) (eventId : Token) (now : Us) (db : PluginDb) :
    Except BatchFailure PluginDb := do
  require .checkConstraint (plan.approved db now)
  let db ← plan.write now db
  let db ← db.insertEvent (plan.event eventId now)
  db.commit

/-- What `createPluginCode` answers when its batch failed. -/
def afterFailure (plan : CreatePlan) (failure : BatchFailure) (ownedDb : PluginDb) :
    Except PluginCodeError PluginCodeDetail :=
  match plan.purpose, failure with
  | .inr revision, .checkConstraint => do
      let latest ← ownedDb.owned plan.userId plan.installationId
      if latest.revision ≠ revision then .error .preconditionFailed
      else if latest.active = false ∨ latest.pendingVersionId ≠ none then .error .rotationConflict
      else .error .creationUnconfirmed
  | _, _ => .error .creationUnconfirmed

end CreatePlan

/-- A candidate the expiry pass found. -/
structure ExpirePlan where
  installationId : Token
  candidateId : Token
  revision : Nat
deriving DecidableEq

/-- The rows `expirePluginCodeCandidates` reads. -/
def expirableCandidates (db : PluginDb) (now : Us) : List ExpirePlan :=
  ((db.installations.rows.filterMap fun row =>
    (row.pendingVersionId.bind db.versions.find?).bind fun version =>
      version.expiresAtUs.bind fun expiry =>
        if row.active = true ∧ version.state = .pendingRotation ∧ expiry ≤ now then
          some (expiry, (⟨row.installationId, version.versionId, row.revision⟩ : ExpirePlan))
        else none).mergeSort fun first second => decide (first.1 ≤ second.1)).take 50
    |>.map Prod.snd

namespace ExpirePlan

/-- The condition the batch of an expiry approves. -/
def approved (plan : ExpirePlan) (db : PluginDb) (now : Us) : Prop :=
  ∃ row ∈ db.installations.find? plan.installationId,
    row.revision = plan.revision ∧ row.pendingVersionId = some plan.candidateId ∧
    ∃ version ∈ db.versions.find? plan.candidateId, version.state = .pendingRotation ∧
      ∃ expiry ∈ version.expiresAtUs, expiry ≤ now

instance (plan : ExpirePlan) (db : PluginDb) (now : Us) : Decidable (plan.approved db now) :=
  inferInstanceAs (Decidable (∃ row ∈ db.installations.find? plan.installationId, _ ∧ _ ∧
    ∃ version ∈ db.versions.find? plan.candidateId, _ ∧
      ∃ expiry ∈ version.expiresAtUs, expiry ≤ now))

/-- The batch of an expiry. -/
def run (plan : ExpirePlan) (eventId : Token) (now : Us) (db : PluginDb) :
    Except BatchFailure PluginDb := do
  require .checkConstraint (plan.approved db now)
  let db ← db.updateVersions
    (fun version => decide (version.versionId = plan.candidateId) &&
      (version.state == .pendingRotation)) .expiredUnactivated false
  let db ← db.updateInstallation plan.installationId PluginInstallation.endRotation
  let db ← db.insertEvent
    { eventId := eventId
      installationId := plan.installationId
      versionId := some plan.candidateId
      fromRevision := plan.revision
      toRevision := plan.revision + 1
      kind := .rotationExpired
      createdAtUs := now }
  db.commit

end ExpirePlan

end FlickrGroupAddr

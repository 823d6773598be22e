import FlickrGroupAddr.Lib.Table

/-!
# The coordination database

The rows of the D1 tables that admission, scheduling, the fail-polite dispatcher,
the credential lifecycle and the status page read and write.  Primary keys are
part of the table type; a group of columns that a `CHECK` makes null together is
one optional record.  Columns that no modelled statement reads are left out.
-/

namespace FlickrGroupAddr

set_option autoImplicit false

open KeyedTable

/-! ## Values -/

/-- Microseconds since the epoch, as the integer columns store them. -/
abbrev Us := Int

/-- The largest reading of the database clock, the last millisecond of year 9999. -/
def maxClockUs : Us := 253402300799999000

/-- One evaluation of `NOW_US_SQL`. -/
structure ClockReading where
  us : Us
  nonneg : 0 ≤ us
  le_max : us ≤ maxClockUs
deriving DecidableEq

/-- The reading of an instant that the clock can show. -/
def ClockReading.ofUs (us : Us) (h : decide (0 ≤ us ∧ us ≤ maxClockUs) = true) : ClockReading where
  us := us
  nonneg := (of_decide_eq_true h).1
  le_max := (of_decide_eq_true h).2

/-- Characters a token has after its first. -/
def tokenChar (c : Char) : Bool :=
  c.isAlphanum || c == '@' || c == '.' || c == '_' || c == ':' || c == '-'

/-- `/^[A-Za-z0-9][A-Za-z0-9@._:-]{0,127}$/`. -/
def isToken (text : String) : Bool :=
  match text.toList with
  | [] => false
  | first :: rest => first.isAlphanum && decide (rest.length ≤ 127) && rest.all tokenChar

/-- An identifier: a random UUID, or a Flickr id that passed the token pattern. -/
structure Token where
  text : String
  valid : isToken text = true
deriving DecidableEq

/-- `Number.isSafeInteger`. -/
def isSafeInteger (n : Int) : Prop := -9007199254740991 ≤ n ∧ n ≤ 9007199254740991

instance (n : Int) : Decidable (isSafeInteger n) := inferInstanceAs (Decidable (_ ∧ _))

/-! ## Queue tables -/

inductive IntentState where
  | queued
  | attempting
  | retrying
  | throttled
  | added
  | moderationSubmitted
  | deliveryUncertain
  | needsAttention
  | cancelled
deriving DecidableEq

/-- The generated column `active_fifo_member`. -/
def IntentState.active : IntentState → Bool
  | .queued | .attempting | .retrying | .throttled => true
  | .added | .moderationSubmitted | .deliveryUncertain | .needsAttention | .cancelled => false

/-- The lease columns of a partition, null together. -/
structure LeaseColumns where
  leaseId : Token
  startedAtUs : Us
  expiresAtUs : Us
  invocationDeadlineAtUs : Us
deriving DecidableEq

/-- `group_partitions`. -/
structure GroupPartition where
  partitionId : Token
  userId : Token
  groupId : Token
  nextEnqueueOrdinal : Nat
  nextWorkNotBeforeUs : Option Us
  wakeRevision : Nat
  lease : Option LeaseColumns
  leaseGeneration : Nat
  lastClaimAtUs : Option Us
  nextProbeNotBeforeUs : Option Us
deriving DecidableEq

/-- `submission_intents`. -/
structure SubmissionIntent where
  intentId : Token
  bindingId : Token
  userId : Token
  photoId : Token
  groupId : Token
  partitionId : Token
  enqueueOrdinal : Nat
  state : IntentState
  stateVersion : Nat
  createdAtUs : Us
  createdRequestId : Token
  nextAttemptNotBeforeUs : Option Us
  terminalAtUs : Option Us
  safeReadFailureCount : Int
  addDispatchCount : Int
  stateChangedAtUs : Us
deriving DecidableEq

/-- `submission_attempts`. -/
structure SubmissionAttempt where
  attemptId : Token
  intentId : Token
  ordinal : Nat
  leaseId : Token
  leaseGeneration : Nat
  deploymentRevision : Nat
  userRevision : Nat
  linkRevision : Nat
deriving DecidableEq

/-- `attempt_membership`. -/
structure AttemptMembership where
  attemptId : Token
  targetAbsent : Bool
deriving DecidableEq

/-- `attempt_preflights`. -/
structure AttemptPreflight where
  attemptId : Token
  moderated : Bool
deriving DecidableEq

/-- `attempt_dispatches`: the dispatch marker of an attempt. -/
structure AttemptDispatch where
  attemptId : Token
deriving DecidableEq

/-- `DispatchOutcome`. -/
inductive DispatchOutcome where
  | added
  | moderationSubmitted
  | deliveryUncertain
  | retrying
  | throttled
  | needsAttention
deriving DecidableEq

/-- The intent state an outcome is stored as. -/
def DispatchOutcome.state : DispatchOutcome → IntentState
  | .added => .added
  | .moderationSubmitted => .moderationSubmitted
  | .deliveryUncertain => .deliveryUncertain
  | .retrying => .retrying
  | .throttled => .throttled
  | .needsAttention => .needsAttention

@[simp] theorem DispatchOutcome.state_eq_retrying (outcome : DispatchOutcome) :
    outcome.state = .retrying ↔ outcome = .retrying := by
  cases outcome <;> decide

@[simp] theorem DispatchOutcome.state_eq_throttled (outcome : DispatchOutcome) :
    outcome.state = .throttled ↔ outcome = .throttled := by
  cases outcome <;> decide

theorem DispatchOutcome.state_ne_attempting (outcome : DispatchOutcome) :
    outcome.state ≠ .attempting := by
  cases outcome <;> decide

/-- `attempt_resolutions`. -/
structure AttemptResolution where
  attemptId : Token
  outcome : DispatchOutcome
  reason : String
  completedAtUs : Us
  flickrCode : Option Int
  observedAgeUs : Option Int
deriving DecidableEq

/-- `submission_blocks`. -/
structure SubmissionBlock where
  photoId : Token
  groupId : Token
  firstReason : String
  sourceAttemptId : Token
  createdAtUs : Us
deriving DecidableEq

def SubmissionBlock.pair (block : SubmissionBlock) : Token × Token :=
  (block.photoId, block.groupId)

/-- The tables only admission, scheduling and the dispatcher write. -/
structure QueueTables where
  partitions : Table GroupPartition.partitionId
  intents : Table SubmissionIntent.intentId
  attempts : Table SubmissionAttempt.attemptId
  memberships : Table AttemptMembership.attemptId
  preflights : Table AttemptPreflight.attemptId
  dispatches : Table AttemptDispatch.attemptId
  resolutions : Table AttemptResolution.attemptId
  blocks : Table SubmissionBlock.pair
deriving DecidableEq

/-! ## Flickr connection, photo bindings and write gates -/

inductive LinkState where
  | linked
  | paused
  | disconnected
deriving DecidableEq

/-- `flickr_links`. -/
structure FlickrLink where
  userId : Token
  ownerNsid : String
  linkRevision : Nat
  state : LinkState
deriving DecidableEq

inductive ConnectionStatus where
  | unlinked
  | linked
  | replacing
  | repairRequired
  | relinkRequired
  | disconnecting
  | disconnected
deriving DecidableEq

inductive LocalCredentialState where
  | absent
  | available
  | replacementPending
  | retirementPending
  | retired
  | unknown
deriving DecidableEq

inductive Permission where
  | write
  | delete
deriving DecidableEq

/-- `flickr_connection_state`; the verified permission and its time are null together. -/
structure FlickrConnectionState where
  userId : Token
  state : ConnectionStatus
  localState : LocalCredentialState
  verified : Option (Permission × Us)
  externalRemoval : Bool
  operationId : Option Token
deriving DecidableEq

/-- `flickr_native_credentials`. -/
structure NativeCredential where
  userId : Token
  activeGeneration : Token
  linkRevision : Nat
  verifiedOwnerNsid : String
  verifiedPermission : Permission
  operationId : Option Token
deriving DecidableEq

inductive LifecycleKind where
  | replace
  | retire
deriving DecidableEq

inductive LifecyclePhase where
  | prepared
  | dispatched
  | repairRequired
  | complete
deriving DecidableEq

/-- `flickr_lifecycle_operations`. -/
structure LifecycleOperation where
  operationId : Token
  userId : Token
  kind : LifecycleKind
  phase : LifecyclePhase
  generation : Token
  retiringGeneration : Option Token
  preserveRelink : Bool
  expectedRevision : Nat
deriving DecidableEq

inductive SourceKind where
  | upload
  | existingPublic
deriving DecidableEq

/-- `photo_bindings`. -/
structure PhotoBinding where
  bindingId : Token
  userId : Token
  photoId : Token
  ownerNsid : String
  linkRevision : Nat
  verificationRevision : Nat
  sourceKind : SourceKind
  verifiedAtUs : Us
deriving DecidableEq

/-- The scope and scope id of a write gate. -/
inductive GateKey where
  | deployment
  | user (userId : Token)
deriving DecidableEq

/-- `flickr_write_gates`. -/
structure WriteGate where
  key : GateKey
  enabled : Bool
  revision : Nat
deriving DecidableEq

/-- `flickr_write_gate_events`. -/
structure WriteGateEvent where
  key : GateKey
  revision : Nat
  reason : String
  flickrCode : Option Int
  attemptId : Option Token
  artifactSha2_256 : Option String
  createdAtUs : Us
deriving DecidableEq

/-- `deployment_conformance`. -/
structure DeploymentConformance where
  artifactSha2_256 : String
  contractSha2_256 : String
deriving DecidableEq

/-- Connections, credentials, photo bindings and gates. -/
structure FlickrTables where
  links : Table FlickrLink.userId
  connections : Table FlickrConnectionState.userId
  credentials : Table NativeCredential.userId
  operations : Table LifecycleOperation.operationId
  bindings : Table PhotoBinding.bindingId
  gates : Table WriteGate.key
  gateEvents : List WriteGateEvent
  conformance : Table DeploymentConformance.artifactSha2_256
deriving DecidableEq

/-! ## Installations and the rate window -/

inductive VersionState where
  | current
  | pendingRotation
  | replaced
  | revoked
  | expiredUnactivated
deriving DecidableEq

/-- `installations`; `lrcPlugin` is the test of the credential class. -/
structure Installation where
  installationId : Token
  userId : Token
  active : Bool
  lrcPlugin : Bool
  currentVersionId : Option Token
deriving DecidableEq

/-- `installation_credential_versions`. -/
structure CredentialVersion where
  versionId : Token
  installationId : Token
  state : VersionState
  credentialDigest : String
deriving DecidableEq

/-- `flickr_rate_window`, the singleton row. -/
structure RateWindow where
  windowId : Token
  capacity : Nat
  windowMs : Nat
  expiresAtUs : Us
  reservedSlots : Int
deriving DecidableEq

/-- `flickr_rate_reservations`. -/
structure RateReservation where
  reservationId : Token
  attemptId : Token
  windowId : Token
  expiresAtUs : Us
  released : Bool
  consumedSlots : Option Nat
deriving DecidableEq

/-- The rate window and its reservations. -/
structure RateTables where
  window : Option RateWindow
  reservations : Table RateReservation.reservationId
deriving DecidableEq

structure Db where
  queue : QueueTables
  flickr : FlickrTables
  installations : Table Installation.installationId
  versions : Table CredentialVersion.versionId
  rate : RateTables
deriving DecidableEq

/-- The database right after the migrations. -/
def emptyDb : Db where
  queue := ⟨.empty, .empty, .empty, .empty, .empty, .empty, .empty, .empty⟩
  flickr := ⟨.empty, .empty, .empty, .empty, .empty, .empty, [], .empty⟩
  installations := .empty
  versions := .empty
  rate := ⟨none, .empty⟩

/-! ## Gates -/

namespace FlickrTables

/-- The gate is there and enabled. -/
def gateEnabled (f : FlickrTables) (key : GateKey) : Prop :=
  ∃ gate ∈ f.gates.find? key, gate.enabled = true

instance (f : FlickrTables) (key : GateKey) : Decidable (f.gateEnabled key) :=
  inferInstanceAs (Decidable (∃ gate ∈ f.gates.find? key, gate.enabled = true))

/-- The user's link is there and linked. -/
def linked (f : FlickrTables) (userId : Token) : Prop :=
  ∃ link ∈ f.links.find? userId, link.state = .linked

instance (f : FlickrTables) (userId : Token) : Decidable (f.linked userId) :=
  inferInstanceAs (Decidable (∃ link ∈ f.links.find? userId, link.state = .linked))

/-- `GATES` and `ENABLED`: both write gates and the link of the user. -/
def gatesEnabled (f : FlickrTables) (userId : Token) : Prop :=
  f.gateEnabled .deployment ∧ f.gateEnabled (.user userId) ∧ f.linked userId

instance (f : FlickrTables) (userId : Token) : Decidable (f.gatesEnabled userId) :=
  inferInstanceAs (Decidable (_ ∧ _ ∧ _))

end FlickrTables

end FlickrGroupAddr

import FlickrGroupAddr.Scheduling
import Mathlib.Data.String.Basic

/-!
# Admission

`admission.ts` and the insert triggers of the queue tables: a request names one
verified photo binding and some groups, and one batch enqueues an intent for every
pair that has none yet.
-/

namespace FlickrGroupAddr

set_option autoImplicit false

open KeyedTable

structure AdmissionAuth where
  installationId : Token
  credentialDigest : String
deriving DecidableEq

/-- `MAX_GROUP_IDS`. -/
def maxGroupIds : Nat := 60

/-- A request that passed `validateAdmission`. -/
structure AdmissionRequest where
  fgaPhotoBindingId : Token
  expectedVerificationRevision : Nat
  flickrGroupIds : List Token
  revision_pos : 1 ≤ expectedVerificationRevision
  revision_safe : isSafeInteger expectedVerificationRevision
  groups_pos : 1 ≤ flickrGroupIds.length
  groups_le : flickrGroupIds.length ≤ maxGroupIds
  groups_nodup : flickrGroupIds.Nodup

/-- `EXISTING_PROOF_MAX_AGE_US`. -/
def existingProofMaxAgeUs : Us := 15000000

/-- A row of `requested`: a group with the fresh ids it may use. -/
structure Requested where
  group : Token
  partition : Token
  intent : Token
deriving DecidableEq

/-- `binding`: the requested binding, under the caller's installation and the
current link. -/
def admissionBinding (db : Db) (auth : AdmissionAuth) (bindingId : Token)
    (revision : Nat) : Option PhotoBinding := do
  let binding ← db.flickr.bindings.find? bindingId
  let installation ← db.installations.find? auth.installationId
  let versionId ← installation.currentVersionId
  let version ← db.versions.find? versionId
  let link ← db.flickr.links.find? binding.userId
  if installation.userId = binding.userId ∧ version.installationId = installation.installationId ∧
      installation.active = true ∧ installation.lrcPlugin = true ∧ version.state = .current ∧
      version.credentialDigest = auth.credentialDigest ∧
      binding.verificationRevision = revision ∧ binding.linkRevision = link.linkRevision ∧
      binding.ownerNsid = link.ownerNsid ∧ (link.state = .linked ∨ link.state = .paused) then
    some binding
  else none

/-- The intent of a pair. -/
def QueueTables.pairIntent (q : QueueTables) (photoId groupId : Token) :
    Option SubmissionIntent :=
  q.intents.rows.find? fun intent => intent.photoId = photoId ∧ intent.groupId = groupId

/-- `VALID`: the proof is fresh enough, and blocks and intents of the requested
pairs agree with each other and with the binding. -/
def admissionValid (q : QueueTables) (binding : PhotoBinding) (groups : List Token)
    (now : Us) : Prop :=
  binding.verifiedAtUs ≤ now ∧
  (binding.sourceKind = .upload ∨ now - binding.verifiedAtUs ≤ existingProofMaxAgeUs ∨
    ∀ group ∈ groups, (q.pairIntent binding.photoId group).isSome = true) ∧
  (∀ group ∈ groups, q.blocked binding.photoId group →
    ∃ intent ∈ q.pairIntent binding.photoId group,
      intent.state = .deliveryUncertain ∨ intent.state = .moderationSubmitted) ∧
  (∀ group ∈ groups, ∀ intent ∈ q.pairIntent binding.photoId group,
    intent.bindingId = binding.bindingId ∧ intent.userId = binding.userId ∧
      (intent.state = .deliveryUncertain ∨ intent.state = .moderationSubmitted →
        q.blocked binding.photoId group))

instance (q : QueueTables) (binding : PhotoBinding) (groups : List Token) (now : Us) :
    Decidable (admissionValid q binding groups now) :=
  inferInstanceAs (Decidable (_ ∧ (_ ∨ _ ∨ _) ∧
    (∀ group ∈ groups, _ → ∃ intent ∈ q.pairIntent binding.photoId group, _) ∧
    (∀ group ∈ groups, ∀ intent ∈ q.pairIntent binding.photoId group, _)))

/-! ## The queue writes -/

/-- The partition of a user and a group. -/
def QueueTables.partitionOf (q : QueueTables) (userId groupId : Token) :
    Option GroupPartition :=
  q.partitions.rows.find? fun partition =>
    partition.userId = userId ∧ partition.groupId = groupId

/-- A partition row with the defaults of the schema. -/
def newPartition (partitionId userId groupId : Token) : GroupPartition where
  partitionId := partitionId
  userId := userId
  groupId := groupId
  nextEnqueueOrdinal := 1
  nextWorkNotBeforeUs := none
  wakeRevision := 0
  lease := none
  leaseGeneration := 0
  lastClaimAtUs := none
  nextProbeNotBeforeUs := none

/-- `INSERT INTO group_partitions … ON CONFLICT(user_id,group_id) DO NOTHING`. -/
def QueueTables.ensurePartition (q : QueueTables) (userId : Token) (requested : Requested) :
    Option QueueTables :=
  match q.partitionOf userId requested.group with
  | some _ => some q
  | none =>
      (q.partitions.insert? (newPartition requested.partition userId requested.group)).map
        fun partitions => { q with partitions := partitions }

/-- The trigger `intent_enqueued`: allocate the ordinal, and wake the partition
when the new member is its only active one. -/
def QueueTables.enqueued (q : QueueTables) (partitionId : Token) (createdAtUs : Us) :
    QueueTables :=
  let first := decide ((q.activeIntents partitionId).length = 1)
  { q with
    partitions := q.partitions.modify partitionId fun partition =>
      { partition with
        nextEnqueueOrdinal := partition.nextEnqueueOrdinal + 1
        nextWorkNotBeforeUs := if first then some createdAtUs else partition.nextWorkNotBeforeUs
        wakeRevision := partition.wakeRevision + if first then 1 else 0 } }

/-- The intent row of a requested pair. -/
def newIntent (binding : PhotoBinding) (partition : GroupPartition) (requested : Requested)
    (requestId : Token) (createdAtUs : Us) : SubmissionIntent where
  intentId := requested.intent
  bindingId := binding.bindingId
  userId := binding.userId
  photoId := binding.photoId
  groupId := requested.group
  partitionId := partition.partitionId
  enqueueOrdinal := partition.nextEnqueueOrdinal
  state := .queued
  stateVersion := 1
  createdAtUs := createdAtUs
  createdRequestId := requestId
  nextAttemptNotBeforeUs := none
  terminalAtUs := none
  safeReadFailureCount := 0
  addDispatchCount := 0
  stateChangedAtUs := createdAtUs

/-- The intent insert of one requested pair; a pair that has an intent is skipped,
a blocked pair aborts (`intent_no_blocked_insert`). -/
def QueueTables.enqueue (q : QueueTables) (binding : PhotoBinding) (requestId : Token)
    (createdAtUs : Us) (requested : Requested) : Option QueueTables :=
  match q.pairIntent binding.photoId requested.group with
  | some _ => some q
  | none =>
      match q.partitionOf binding.userId requested.group with
      | none => some q
      | some partition =>
          if q.blocked binding.photoId requested.group then none
          else
            (q.intents.insert? (newIntent binding partition requested requestId createdAtUs)).map
              fun intents =>
                ({ q with intents := intents }).enqueued partition.partitionId createdAtUs

/-- All partitions first, then all intents. -/
def QueueTables.enqueueAll (q : QueueTables) (binding : PhotoBinding) (requestId : Token)
    (createdAtUs : Us) (requested : List Requested) : Option QueueTables := do
  let withPartitions ← requested.foldlM (fun q r => q.ensurePartition binding.userId r) q
  requested.foldlM (fun q r => q.enqueue binding requestId createdAtUs r) withPartitions

/-! ## The batch -/

structure WakeHint where
  partitionId : Token
  wakeRevision : Nat
deriving DecidableEq

structure AdmissionItem where
  intentId : Token
  groupId : Token
  state : IntentState
  created : Bool
  ordinal : Nat
  block : Option SubmissionBlock
deriving DecidableEq

structure AdmissionResult where
  bindingId : Token
  photoId : Token
  items : List AdmissionItem
  hint : Option WakeHint
deriving DecidableEq

/-- The committed snapshot of the requested pairs, in request order. -/
def admissionItems (q : QueueTables) (binding : PhotoBinding) (requestId : Token)
    (groups : List Token) : List AdmissionItem :=
  groups.filterMap fun group =>
    (q.pairIntent binding.photoId group).map fun intent =>
      { intentId := intent.intentId
        groupId := intent.groupId
        state := intent.state
        created := decide (intent.createdRequestId = requestId)
        ordinal := intent.enqueueOrdinal
        block := q.blocks.find? (binding.photoId, group) }

/-- The first partition, by group id, that this request woke. -/
def admissionHint (q : QueueTables) (requestId : Token) : Option WakeHint :=
  let woken := q.intents.rows.filter fun intent =>
    intent.createdRequestId = requestId ∧ intent.state.active = true ∧
      (q.activeIntents intent.partitionId).length = 1
  (woken.argmin fun intent => intent.groupId.text).bind fun intent =>
    (q.partitions.find? intent.partitionId).map fun partition =>
      ⟨partition.partitionId, partition.wakeRevision⟩

/-- `admit`: the batch under one guard row, whose clock is also the creation time
of every new intent.  The ids are drawn by the caller, one pair for each group. -/
def admitRequest (db : Db) (auth : AdmissionAuth) (request : AdmissionRequest) (requestId : Token)
    (ids : List (Token × Token)) (now : ClockReading) : Option (Db × AdmissionResult) := do
  let binding ← admissionBinding db auth request.fgaPhotoBindingId
    request.expectedVerificationRevision
  let requested := (request.flickrGroupIds.zip ids).map fun row => ⟨row.1, row.2.1, row.2.2⟩
  if ids.length = request.flickrGroupIds.length ∧
      admissionValid db.queue binding request.flickrGroupIds now.us then
    let q ← db.queue.enqueueAll binding requestId now.us requested
    some ({ db with queue := q },
      { bindingId := binding.bindingId
        photoId := binding.photoId
        items := admissionItems q binding requestId request.flickrGroupIds
        hint := admissionHint q requestId })
  else none

end FlickrGroupAddr

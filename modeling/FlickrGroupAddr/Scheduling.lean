import FlickrGroupAddr.Schema
import FlickrGroupAddr.Lib.SqlInt

/-!
# Scheduling

`scheduling.ts`: which partition is due, how it is claimed, and how a lease is
renewed, released or deferred.  A guarded batch is a partial function: it is
undefined where its guard row is refused, and D1 then rolls the batch back.
-/

namespace FlickrGroupAddr

set_option autoImplicit false

open KeyedTable

/-! ## The head of a partition -/

namespace QueueTables

/-- The active FIFO members of a partition. -/
def activeIntents (q : QueueTables) (partitionId : Token) : List SubmissionIntent :=
  q.intents.rows.filter fun intent =>
    intent.partitionId = partitionId ∧ intent.state.active = true

/-- `HEAD`: the active member with the smallest ordinal. -/
def headIntent (q : QueueTables) (partitionId : Token) : Option SubmissionIntent :=
  (q.activeIntents partitionId).argmin SubmissionIntent.enqueueOrdinal

/-- The pair has a submission block. -/
def blocked (q : QueueTables) (photoId groupId : Token) : Prop :=
  (q.blocks.find? (photoId, groupId)).isSome = true

instance (q : QueueTables) (photoId groupId : Token) : Decidable (q.blocked photoId groupId) :=
  inferInstanceAs (Decidable (_ = _))

/-- The attempt has no resolution. -/
def unresolved (q : QueueTables) (attemptId : Token) : Prop :=
  q.resolutions.find? attemptId = none

instance (q : QueueTables) (attemptId : Token) : Decidable (q.unresolved attemptId) :=
  inferInstanceAs (Decidable (_ = _))

end QueueTables

/-! ## Leases -/

/-- `Lease`: what a claim returns and every later call carries. -/
structure Lease where
  partitionId : Token
  leaseId : Token
  generation : Nat
  headId : Token
  expiresUs : Us
deriving DecidableEq

structure LeasePolicy where
  leaseMs : Int
  invocationMs : Int
deriving DecidableEq

/-- `DEFAULT_LEASE_POLICY`. -/
def defaultLeasePolicy : LeasePolicy := ⟨60000, 45000⟩

/-- `policy`: the values a lease policy may have. -/
def LeasePolicy.valid (config : LeasePolicy) : Prop :=
  (1 ≤ config.leaseMs ∧ config.leaseMs ≤ 60000) ∧
    (1 ≤ config.invocationMs ∧ config.invocationMs ≤ 45000)

instance (config : LeasePolicy) : Decidable config.valid := inferInstanceAs (Decidable (_ ∧ _))

theorem defaultLeasePolicy_valid : defaultLeasePolicy.valid := by decide

namespace QueueTables

/-- `OWNED` of the scheduler: the stored lease is the one the call carries. -/
def owns (q : QueueTables) (lease : Lease) : Prop :=
  ∃ partition ∈ q.partitions.find? lease.partitionId,
    (∃ columns ∈ partition.lease, columns.leaseId = lease.leaseId) ∧
      partition.leaseGeneration = lease.generation

instance (q : QueueTables) (lease : Lease) : Decidable (q.owns lease) :=
  inferInstanceAs (Decidable (∃ partition ∈ q.partitions.find? lease.partitionId, _))

/-- `OWNED` of the dispatcher: also the head is still the one that was claimed. -/
def ownsHead (q : QueueTables) (lease : Lease) : Prop :=
  q.owns lease ∧ ∃ head ∈ q.headIntent lease.partitionId, head.intentId = lease.headId

instance (q : QueueTables) (lease : Lease) : Decidable (q.ownsHead lease) :=
  inferInstanceAs (Decidable (_ ∧ ∃ head ∈ q.headIntent lease.partitionId, _))

/-- `LIVE`: neither the lease nor the invocation deadline has passed. -/
def live (q : QueueTables) (lease : Lease) (now : Us) : Prop :=
  ∃ partition ∈ q.partitions.find? lease.partitionId, ∃ columns ∈ partition.lease,
    now < columns.expiresAtUs ∧ now < columns.invocationDeadlineAtUs

instance (q : QueueTables) (lease : Lease) (now : Us) : Decidable (q.live lease now) :=
  inferInstanceAs (Decidable (∃ partition ∈ q.partitions.find? lease.partitionId,
    ∃ columns ∈ partition.lease, _))

end QueueTables

/-! ## Claiming -/

/-- The state test of `ELIGIBLE` on the head. -/
def headReady (db : Db) (partition : GroupPartition) (head : SubmissionIntent) (now : Us) : Prop :=
  head.state = .attempting ∨
    (db.flickr.gatesEnabled partition.userId ∧
      (head.state = .queued ∨
        (head.state = .retrying ∧ ∃ due ∈ head.nextAttemptNotBeforeUs, due ≤ now) ∨
        (head.state = .throttled ∧ ∃ due ∈ partition.nextProbeNotBeforeUs, due ≤ now)))

instance (db : Db) (partition : GroupPartition) (head : SubmissionIntent) (now : Us) :
    Decidable (headReady db partition head now) :=
  inferInstanceAs (Decidable (_ ∨ _ ∧ (_ ∨ (_ ∧ ∃ due ∈ head.nextAttemptNotBeforeUs, _) ∨
    (_ ∧ ∃ due ∈ partition.nextProbeNotBeforeUs, _))))

/-- The due time has come. -/
def partitionDue (partition : GroupPartition) (now : Us) : Prop :=
  ∃ due ∈ partition.nextWorkNotBeforeUs, due ≤ now

instance (partition : GroupPartition) (now : Us) : Decidable (partitionDue partition now) :=
  inferInstanceAs (Decidable (∃ due ∈ partition.nextWorkNotBeforeUs, _))

/-- No lease is stored, or the stored one has expired. -/
def leaseFree (partition : GroupPartition) (now : Us) : Prop :=
  ∀ columns ∈ partition.lease, columns.expiresAtUs ≤ now

instance (partition : GroupPartition) (now : Us) : Decidable (leaseFree partition now) :=
  inferInstanceAs (Decidable (∀ columns ∈ partition.lease, _))

/-- `ELIGIBLE` at one reading of the clock. -/
def eligible (db : Db) (partition : GroupPartition) (now : Us) : Prop :=
  (partition.leaseGeneration : Int) < SqlInt.maxInt64 ∧ partitionDue partition now ∧
    leaseFree partition now ∧
    ∃ head ∈ db.queue.headIntent partition.partitionId,
      headReady db partition head now ∧ ¬ db.queue.blocked head.photoId head.groupId

instance (db : Db) (partition : GroupPartition) (now : Us) :
    Decidable (eligible db partition now) :=
  inferInstanceAs (Decidable (_ ∧ _ ∧ _ ∧
    ∃ head ∈ db.queue.headIntent partition.partitionId, _))

/-- The lease columns a claim stores. -/
def claimColumns (leaseId : Token) (config : LeasePolicy) (now : Us) : LeaseColumns where
  leaseId := leaseId
  startedAtUs := now
  expiresAtUs := now + config.leaseMs * 1000
  invocationDeadlineAtUs := now + config.invocationMs * 1000

/-- The row update of a claim. -/
def QueueTables.takeLease (q : QueueTables) (partitionId leaseId : Token) (config : LeasePolicy)
    (now : Us) : QueueTables :=
  { q with
    partitions := q.partitions.modify partitionId fun partition =>
      { partition with
        leaseGeneration := partition.leaseGeneration + 1
        lease := some (claimColumns leaseId config now)
        lastClaimAtUs := some now } }

/-- `claimPartition`.  The expected wake revision is the number its decimal text
denotes. -/
def claimPartition (db : Db) (partitionId leaseId : Token) (expectedWakeRevision : Option Nat)
    (config : LeasePolicy) (now : ClockReading) : Option (Db × Lease) := do
  let partition ← db.queue.partitions.find? partitionId
  let head ← db.queue.headIntent partitionId
  if config.valid ∧ (∀ revision ∈ expectedWakeRevision, partition.wakeRevision = revision) ∧
      eligible db partition now.us then
    some ({ db with queue := db.queue.takeLease partitionId leaseId config now.us },
      { partitionId := partitionId
        leaseId := leaseId
        generation := partition.leaseGeneration + 1
        headId := head.intentId
        expiresUs := now.us + config.leaseMs * 1000 })
  else none

/-! ## Renewal, release and deferral -/

/-- The row update of a renewal: the invocation deadline stays. -/
def QueueTables.extendLease (q : QueueTables) (lease : Lease) (expiresAtUs : Us) : QueueTables :=
  { q with
    partitions := q.partitions.modify lease.partitionId fun partition =>
      { partition with
        lease := partition.lease.map fun columns => { columns with expiresAtUs := expiresAtUs } } }

/-- The row update of a release. -/
def QueueTables.dropLease (q : QueueTables) (lease : Lease) : QueueTables :=
  { q with
    partitions := q.partitions.modify lease.partitionId fun partition =>
      { partition with lease := none } }

/-- The row updates of a deferral. -/
def QueueTables.deferTo (q : QueueTables) (lease : Lease) (dueUs now : Us) : QueueTables :=
  { q with
    intents := q.intents.modify lease.headId fun intent =>
      { intent with
        state := .retrying
        stateVersion := intent.stateVersion + 1
        nextAttemptNotBeforeUs := some dueUs
        stateChangedAtUs := now }
    partitions := q.partitions.modify lease.partitionId fun partition =>
      { partition with
        lease := none
        nextWorkNotBeforeUs := some dueUs
        wakeRevision := partition.wakeRevision + 1 } }

/-- `renewLease`. -/
def renewLease (db : Db) (lease : Lease) (config : LeasePolicy) (now : ClockReading) :
    Option Db :=
  if config.valid ∧ db.queue.owns lease ∧ db.queue.live lease now.us then
    some { db with queue := db.queue.extendLease lease (now.us + config.leaseMs * 1000) }
  else none

/-- `releaseLease`. -/
def releaseLease (db : Db) (lease : Lease) : Option Db :=
  if db.queue.owns lease then some { db with queue := db.queue.dropLease lease } else none

/-- The head `deferHead` accepts: the claimed one, queued or retrying. -/
def deferrable (q : QueueTables) (lease : Lease) : Prop :=
  ∃ head ∈ q.headIntent lease.partitionId,
    head.intentId = lease.headId ∧ (head.state = .queued ∨ head.state = .retrying)

instance (q : QueueTables) (lease : Lease) : Decidable (deferrable q lease) :=
  inferInstanceAs (Decidable (∃ head ∈ q.headIntent lease.partitionId, _))

/-- `deferHead`.  The due time counts from the clock of the guard row; the change
time is the clock of the update. -/
def deferHead (db : Db) (lease : Lease) (delayMs : Int) (guardNow updateNow : ClockReading) :
    Option Db :=
  if (1 ≤ delayMs ∧ delayMs ≤ 86400000) ∧ db.queue.owns lease ∧ db.queue.live lease guardNow.us ∧
      deferrable db.queue lease then
    some { db with
      queue := db.queue.deferTo lease (guardNow.us + delayMs * 1000) updateNow.us }
  else none

end FlickrGroupAddr

import FlickrGroupAddr.Admission
import FlickrGroupAddr.FailPolite
import Mathlib.Data.List.MinMax

/-!
# The steps of the queue

Every committed batch moves the queue tables by one of a few steps: a partition or
an intent is inserted, a lease is taken, extended or dropped, the head is deferred,
begun, recorded or resolved.  A step carries the guard facts of its batch, so the
invariants of the queue are proved by cases on `QueueStep` alone.
-/

namespace FlickrGroupAddr

set_option autoImplicit false

open KeyedTable

/-! ## Heads -/

namespace QueueTables

variable {q : QueueTables} {partitionId : Token} {intent head : SubmissionIntent}

theorem mem_activeIntents : intent ∈ q.activeIntents partitionId ↔
    intent ∈ q.intents ∧ intent.partitionId = partitionId ∧ intent.state.active = true := by
  simp only [activeIntents, List.mem_filter, decide_eq_true_eq, Table.mem_def]

/-- The intent is an active member of the partition, and none has a smaller ordinal. -/
structure IsHead (q : QueueTables) (partitionId : Token) (head : SubmissionIntent) : Prop where
  mem : head ∈ q.intents
  partition : head.partitionId = partitionId
  active : head.state.active = true
  least : ∀ intent ∈ q.intents, intent.partitionId = partitionId → intent.state.active = true →
    head.enqueueOrdinal ≤ intent.enqueueOrdinal

theorem isHead_of_headIntent (h : q.headIntent partitionId = some head) :
    q.IsHead partitionId head := by
  obtain ⟨hmem, hpartition, hactive⟩ := mem_activeIntents.mp (List.argmin_mem h)
  refine ⟨hmem, hpartition, hactive, ?_⟩
  intro intent hintent hsame hmember
  exact List.le_of_mem_argmin (mem_activeIntents.mpr ⟨hintent, hsame, hmember⟩) h

theorem headIntent_eq_none : q.headIntent partitionId = none ↔
    ∀ intent ∈ q.intents, intent.partitionId = partitionId → intent.state.active = false := by
  rw [headIntent, List.argmin_eq_none]
  constructor
  · intro h intent hintent hsame
    by_contra hactive
    have hmem : intent ∈ q.activeIntents partitionId :=
      mem_activeIntents.mpr ⟨hintent, hsame, Bool.eq_true_of_not_eq_false hactive⟩
    rw [h] at hmem
    exact List.not_mem_nil hmem
  · intro h
    refine List.eq_nil_iff_forall_not_mem.mpr fun intent hmem => ?_
    obtain ⟨hintent, hsame, hactive⟩ := mem_activeIntents.mp hmem
    exact Bool.false_ne_true ((h intent hintent hsame).symm.trans hactive)

/-- Ordinals are unique within a partition. -/
def OrdinalsUnique (q : QueueTables) : Prop :=
  ∀ left ∈ q.intents, ∀ right ∈ q.intents, left.partitionId = right.partitionId →
    left.enqueueOrdinal = right.enqueueOrdinal → left = right

theorem IsHead.unique (hunique : q.OrdinalsUnique) {other : SubmissionIntent}
    (h : q.IsHead partitionId head) (h' : q.IsHead partitionId other) : head = other := by
  refine hunique head h.mem other h'.mem (h.partition.trans h'.partition.symm) ?_
  exact le_antisymm (h.least other h'.mem h'.partition h'.active)
    (h'.least head h.mem h.partition h.active)

theorem headIntent_of_isHead (hunique : q.OrdinalsUnique) (h : q.IsHead partitionId head) :
    q.headIntent partitionId = some head := by
  cases hhead : q.headIntent partitionId with
  | none =>
      have hinactive := headIntent_eq_none.mp hhead head h.mem h.partition
      exact absurd (hinactive.symm.trans h.active) Bool.false_ne_true
  | some other => rw [IsHead.unique hunique (isHead_of_headIntent hhead) h]

theorem exists_headIntent (hmem : intent ∈ q.intents) (hpartition : intent.partitionId = partitionId)
    (hactive : intent.state.active = true) :
    ∃ head, q.headIntent partitionId = some head ∧ head.enqueueOrdinal ≤ intent.enqueueOrdinal := by
  cases hhead : q.headIntent partitionId with
  | none =>
      have hinactive := headIntent_eq_none.mp hhead intent hmem hpartition
      exact absurd (hinactive.symm.trans hactive) Bool.false_ne_true
  | some head =>
      exact ⟨head, rfl, (isHead_of_headIntent hhead).least intent hmem hpartition hactive⟩

end QueueTables

/-! ## The step relation -/

/-- One insert of an admission, with the guard facts behind it. -/
inductive AdmissionStep (q : QueueTables) : QueueTables → Prop
  | addPartition {partitionId userId groupId : Token}
      {partitions : Table GroupPartition.partitionId} :
      q.partitionOf userId groupId = none →
      q.partitions.insert? (newPartition partitionId userId groupId) = some partitions →
      AdmissionStep q { q with partitions := partitions }
  | enqueue {binding : PhotoBinding} {partition : GroupPartition} {requested : Requested}
      {requestId : Token} {createdAtUs : Us} {intents : Table SubmissionIntent.intentId} :
      q.pairIntent binding.photoId requested.group = none →
      q.partitionOf binding.userId requested.group = some partition →
      ¬ q.blocked binding.photoId requested.group →
      q.intents.insert? (newIntent binding partition requested requestId createdAtUs) =
        some intents →
      AdmissionStep q (({ q with intents := intents }).enqueued partition.partitionId createdAtUs)

/-- One committed change of the queue tables, with the guard facts behind it. -/
inductive QueueStep (q : QueueTables) : QueueTables → Prop
  | admission {q' : QueueTables} : AdmissionStep q q' → QueueStep q q'
  | claim {partition : GroupPartition} {head : SubmissionIntent} {leaseId : Token}
      {config : LeasePolicy} {now : Us} :
      q.partitions.find? partition.partitionId = some partition →
      q.headIntent partition.partitionId = some head →
      partitionDue partition now → leaseFree partition now →
      QueueStep q (q.takeLease partition.partitionId leaseId config now)
  | renew {lease : Lease} {expiresAtUs : Us} :
      q.owns lease → QueueStep q (q.extendLease lease expiresAtUs)
  | release {lease : Lease} : q.owns lease → QueueStep q (q.dropLease lease)
  | defer {lease : Lease} {dueUs now : Us} :
      q.owns lease → deferrable q lease → QueueStep q (q.deferTo lease dueUs now)
  | begin {lease : Lease} {attemptId : Token} {revisions : Revisions} {now : Us}
      {intent : SubmissionIntent} {q' : QueueTables} :
      q.ownsHead lease → q.intents.find? lease.headId = some intent →
      (intent.state = .queued ∨ intent.state = .retrying ∨ intent.state = .throttled) →
      ¬ q.blocked intent.photoId intent.groupId →
      (∀ attempt ∈ q.attempts, attempt.intentId = lease.headId →
        ¬ q.unresolved attempt.attemptId) →
      q.beginAttempt lease attemptId revisions now = some q' → QueueStep q q'
  | record {lease : Lease} {attemptId : Token} {kind : RecordKind} {now : Us}
      {q' : QueueTables} :
      q.ownsHead lease → (∃ attempt ∈ q.attempts.find? attemptId,
        attempt.intentId = lease.headId) → q.unresolved attemptId →
      q.recordPhase lease attemptId kind now = some q' → QueueStep q q'
  | resolve {lease : Lease} {attemptId : Token} {site : ResolutionSite}
      {artifact : Option String} {delay : Int} {clock : ResolutionClock} {q' : QueueTables} :
      resolveGuard q lease attemptId →
      q.resolve lease attemptId (site.resolution artifact) delay clock = some q' →
      QueueStep q q'

end FlickrGroupAddr

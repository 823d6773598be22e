import FlickrGroupAddr.Scheduling
import FlickrGroupAddr.DispatchPolicy

/-!
# The fail-polite attempt path

The D1 transactions of `fail_polite.ts`: begin an attempt, record its membership
read, its preflight and its dispatch marker, and resolve it.  Each is one batch
behind one guard row.
-/

namespace FlickrGroupAddr

set_option autoImplicit false

open KeyedTable

/-! ## Finding and beginning an attempt -/

/-- `Attempt`. -/
structure Attempt where
  attemptId : Token
  intentId : Token
  photoId : Token
  groupId : Token
  marked : Bool
deriving DecidableEq

namespace QueueTables

/-- The attempt has a dispatch marker. -/
def marked (q : QueueTables) (attemptId : Token) : Bool :=
  (q.dispatches.find? attemptId).isSome

/-- `unfinished`: the newest attempt of the claimed head without a resolution. -/
def unfinished (q : QueueTables) (lease : Lease) : Option Attempt :=
  let open_ := q.attempts.rows.filter fun attempt =>
    attempt.intentId = lease.headId ∧ q.unresolved attempt.attemptId
  (open_.argmax SubmissionAttempt.ordinal).bind fun attempt =>
    (q.intents.find? attempt.intentId).map fun intent =>
      { attemptId := attempt.attemptId
        intentId := attempt.intentId
        photoId := intent.photoId
        groupId := intent.groupId
        marked := q.marked attempt.attemptId }

/-- `COALESCE(MAX(ordinal),0)+1` over the attempts of an intent. -/
def nextAttemptOrdinal (q : QueueTables) (intentId : Token) : Nat :=
  ((q.attempts.rows.filter fun attempt => attempt.intentId = intentId).map
    SubmissionAttempt.ordinal).foldr max 0 + 1

end QueueTables

/-- The claimed intent may be attempted: its state, its binding under the current
link, and no block. -/
def beginnable (db : Db) (intent : SubmissionIntent) : Prop :=
  (intent.state = .queued ∨ intent.state = .retrying ∨ intent.state = .throttled) ∧
  (∃ binding ∈ db.flickr.bindings.find? intent.bindingId,
    ∃ link ∈ db.flickr.links.find? intent.userId,
      link.ownerNsid = binding.ownerNsid ∧ link.linkRevision = binding.linkRevision ∧
        link.state = .linked) ∧
  ¬ db.queue.blocked intent.photoId intent.groupId

instance (db : Db) (intent : SubmissionIntent) : Decidable (beginnable db intent) :=
  inferInstanceAs (Decidable (_ ∧ (∃ binding ∈ db.flickr.bindings.find? intent.bindingId,
    ∃ link ∈ db.flickr.links.find? intent.userId, _) ∧ _))

/-- `ENABLED` for the user of the leased partition. -/
def leaseEnabled (db : Db) (lease : Lease) : Prop :=
  ∃ partition ∈ db.queue.partitions.find? lease.partitionId,
    db.flickr.gatesEnabled partition.userId

instance (db : Db) (lease : Lease) : Decidable (leaseEnabled db lease) :=
  inferInstanceAs (Decidable (∃ partition ∈ db.queue.partitions.find? lease.partitionId, _))

/-- The guard row of `begin`. -/
def beginGuard (db : Db) (lease : Lease) (now : Us) : Prop :=
  db.queue.ownsHead lease ∧ db.queue.live lease now ∧ leaseEnabled db lease ∧
  (∃ intent ∈ db.queue.intents.find? lease.headId, beginnable db intent) ∧
  ∀ attempt ∈ db.queue.attempts, attempt.intentId = lease.headId →
    ¬ db.queue.unresolved attempt.attemptId

instance (db : Db) (lease : Lease) (now : Us) : Decidable (beginGuard db lease now) :=
  inferInstanceAs (Decidable (_ ∧ _ ∧ _ ∧ (∃ intent ∈ db.queue.intents.find? lease.headId, _) ∧
    ∀ attempt ∈ db.queue.attempts, _))

/-- The revisions an attempt runs under. -/
structure Revisions where
  deployment : Nat
  user : Nat
  link : Nat
deriving DecidableEq

/-- The current gate and link revisions of the user of the leased partition. -/
def currentRevisions (db : Db) (lease : Lease) : Option Revisions := do
  let partition ← db.queue.partitions.find? lease.partitionId
  let deployment ← db.flickr.gates.find? .deployment
  let user ← db.flickr.gates.find? (.user partition.userId)
  let link ← db.flickr.links.find? partition.userId
  some ⟨deployment.revision, user.revision, link.linkRevision⟩

/-- The attempt row `begin` inserts. -/
def newAttempt (q : QueueTables) (lease : Lease) (attemptId : Token) (revisions : Revisions) :
    SubmissionAttempt where
  attemptId := attemptId
  intentId := lease.headId
  ordinal := q.nextAttemptOrdinal lease.headId
  leaseId := lease.leaseId
  leaseGeneration := lease.generation
  deploymentRevision := revisions.deployment
  userRevision := revisions.user
  linkRevision := revisions.link

/-- The writes of `begin`. -/
def QueueTables.beginAttempt (q : QueueTables) (lease : Lease) (attemptId : Token)
    (revisions : Revisions) (now : Us) : Option QueueTables :=
  (q.attempts.insert? (newAttempt q lease attemptId revisions)).map fun attempts =>
    { q with
      attempts := attempts
      intents := q.intents.modify lease.headId fun intent =>
        { intent with
          state := .attempting
          nextAttemptNotBeforeUs := none
          stateVersion := intent.stateVersion + 1
          stateChangedAtUs := now } }

/-- `begin`, with the clocks of its guard and of its intent update. -/
def begin (db : Db) (lease : Lease) (attemptId : Token) (guardNow updateNow : ClockReading) :
    Option Db := do
  let revisions ← currentRevisions db lease
  if beginGuard db lease guardNow.us then
    let q ← db.queue.beginAttempt lease attemptId revisions updateNow.us
    some { db with queue := q }
  else none

/-! ## Recording the phases -/

/-- What a phase record stores; a marker may name its rate reservation. -/
inductive RecordKind where
  | membership (targetAbsent : Bool)
  | preflight (moderated : Bool)
  | marker (reservationId : Option Token)
deriving DecidableEq

/-- The attempt belongs to this lease and still runs under the current revisions. -/
def attemptCurrent (db : Db) (lease : Lease) (attemptId : Token) : Prop :=
  ∃ attempt ∈ db.queue.attempts.find? attemptId, ∃ revisions ∈ currentRevisions db lease,
    attempt.intentId = lease.headId ∧ attempt.leaseId = lease.leaseId ∧
      attempt.leaseGeneration = lease.generation ∧
      attempt.deploymentRevision = revisions.deployment ∧
      attempt.userRevision = revisions.user ∧ attempt.linkRevision = revisions.link

instance (db : Db) (lease : Lease) (attemptId : Token) :
    Decidable (attemptCurrent db lease attemptId) :=
  inferInstanceAs (Decidable (∃ attempt ∈ db.queue.attempts.find? attemptId,
    ∃ revisions ∈ currentRevisions db lease, _))

/-- The rate reservation a marker names is the attempt's own, unreleased and not
expired. -/
def reservationValid (db : Db) (attemptId reservationId : Token) (now : Us) : Prop :=
  ∃ reservation ∈ db.rate.reservations.find? reservationId, ∃ window ∈ db.rate.window,
    reservation.windowId = window.windowId ∧ reservation.attemptId = attemptId ∧
      reservation.released = false ∧ now < reservation.expiresAtUs

instance (db : Db) (attemptId reservationId : Token) (now : Us) :
    Decidable (reservationValid db attemptId reservationId now) :=
  inferInstanceAs (Decidable (∃ reservation ∈ db.rate.reservations.find? reservationId,
    ∃ window ∈ db.rate.window, _))

/-- What a record needs of the phases before it. -/
def phaseReady (db : Db) (attemptId : Token) (now : Us) : RecordKind → Prop
  | .membership _ => True
  | .preflight _ => ∃ row ∈ db.queue.memberships.find? attemptId, row.targetAbsent = true
  | .marker reservationId =>
      (∃ row ∈ db.queue.memberships.find? attemptId, row.targetAbsent = true) ∧
        (db.queue.preflights.find? attemptId).isSome = true ∧
        ∀ id ∈ reservationId, reservationValid db attemptId id now

instance (db : Db) (attemptId : Token) (now : Us) (kind : RecordKind) :
    Decidable (phaseReady db attemptId now kind) :=
  match kind with
  | .membership _ => inferInstanceAs (Decidable True)
  | .preflight _ =>
      inferInstanceAs (Decidable (∃ row ∈ db.queue.memberships.find? attemptId, _))
  | .marker reservationId =>
      inferInstanceAs (Decidable ((∃ row ∈ db.queue.memberships.find? attemptId, _) ∧ _ ∧
        ∀ id ∈ reservationId, _))

/-- The guard row of `record`. -/
def recordGuard (db : Db) (lease : Lease) (attemptId : Token) (kind : RecordKind)
    (now : Us) : Prop :=
  db.queue.ownsHead lease ∧ db.queue.live lease now ∧ leaseEnabled db lease ∧
  attemptCurrent db lease attemptId ∧ db.queue.unresolved attemptId ∧
  db.queue.marked attemptId = false ∧
  (∀ intent ∈ db.queue.intents.find? lease.headId,
    ¬ db.queue.blocked intent.photoId intent.groupId) ∧
  phaseReady db attemptId now kind

instance (db : Db) (lease : Lease) (attemptId : Token) (kind : RecordKind) (now : Us) :
    Decidable (recordGuard db lease attemptId kind now) :=
  inferInstanceAs (Decidable (_ ∧ _ ∧ _ ∧ _ ∧ _ ∧ _ ∧
    (∀ intent ∈ db.queue.intents.find? lease.headId, _) ∧ _))

/-- The writes of `record`. -/
def QueueTables.recordPhase (q : QueueTables) (lease : Lease) (attemptId : Token)
    (kind : RecordKind) (now : Us) : Option QueueTables :=
  match kind with
  | .membership targetAbsent =>
      (q.memberships.insert? ⟨attemptId, targetAbsent⟩).map fun memberships =>
        { q with memberships := memberships }
  | .preflight moderated =>
      (q.preflights.insert? ⟨attemptId, moderated⟩).map fun preflights =>
        { q with preflights := preflights }
  | .marker _ =>
      (q.dispatches.insert? ⟨attemptId⟩).map fun dispatches =>
        { q with
          dispatches := dispatches
          intents := q.intents.modify lease.headId fun intent =>
            { intent with
              addDispatchCount := intent.addDispatchCount + 1
              stateVersion := intent.stateVersion + 1
              stateChangedAtUs := now } }

/-- `record`, with the clocks of its guard and of its intent update. -/
def record (db : Db) (lease : Lease) (attemptId : Token) (kind : RecordKind)
    (guardNow updateNow : ClockReading) : Option Db :=
  if recordGuard db lease attemptId kind guardNow.us then
    (db.queue.recordPhase lease attemptId kind updateNow.us).map fun q => { db with queue := q }
  else none

/-! ## Resolving an attempt -/

/-- `ResolutionOptions` as far as the callers set them. -/
structure ResolutionOptions where
  code : Option Int
  pause : Option PauseScope
  delayMs : Option Int
  artifactSha2_256 : Option String
deriving DecidableEq

/-- The failure counts a resolution reads before its batch. -/
structure FailureCounts where
  reads : Int
  adds : Int
deriving DecidableEq

/-- What a resolution is called with. -/
structure Resolution where
  outcome : DispatchOutcome
  reason : String
  options : ResolutionOptions
deriving DecidableEq

namespace Resolution

/-- `readFailure`. -/
def readFailure (r : Resolution) : Bool :=
  r.reason = "safe_read_unavailable" || r.reason = "flickr_read_failure"

/-- `terminal`. -/
def terminal (r : Resolution) : Bool :=
  !(r.outcome = .retrying || r.outcome = .throttled)

/-- `blocked`: outcomes after which the pair is never submitted again. -/
def blocks (r : Resolution) : Bool :=
  r.outcome = .moderationSubmitted || r.outcome = .deliveryUncertain

/-- A terminal outcome is one that takes the intent out of the FIFO. -/
theorem active_outcome (r : Resolution) : r.outcome.state.active = !r.terminal := by
  obtain ⟨outcome, reason, options⟩ := r
  cases outcome <;> rfl

theorem blocks_iff (r : Resolution) :
    r.blocks = true ↔ r.outcome = .moderationSubmitted ∨ r.outcome = .deliveryUncertain := by
  simp only [blocks, Bool.or_eq_true, decide_eq_true_eq]

/-- Reasons that prove the POST was not sent, and take its count back. -/
def notDispatched (r : Resolution) : Bool :=
  r.reason = "not_dispatched_preflight_expired" || r.reason = "not_dispatched_transport_aborted"

/-- The gate the resolution pauses. -/
def pause (r : Resolution) : Option PauseScope :=
  r.options.pause.orElse fun _ => if r.reason = "unknown_code" then some .deployment else none

/-- The delay before the next attempt, from the counts read beforehand.  A retry
function that throws leaves the resolution undone. -/
def delayMs (r : Resolution) (counts : FailureCounts) (retryDelay : Int → Option Int) :
    Option Int :=
  if r.terminal then some 0
  else if r.outcome = .throttled then some throttleDelayMs
  else
    match r.options.delayMs with
    | some delay => some delay
    | none => retryDelay (max 0 (if r.readFailure then counts.reads else counts.adds - 1))

/-- The check on the delay. -/
def delayValid (delay : Int) : Prop := isSafeInteger delay ∧ 0 ≤ delay ∧ delay ≤ throttleDelayMs

instance (delay : Int) : Decidable (delayValid delay) := inferInstanceAs (Decidable (_ ∧ _ ∧ _))

/-- `first_reason` of the block. -/
def blockReason (r : Resolution) : String :=
  if r.reason = "flickr_code_6" ∨ r.reason = "flickr_code_7" then r.reason
  else "delivery_uncertain"

end Resolution

/-- The clocks of the statements of a resolution. -/
structure ResolutionClock where
  block : ClockReading
  resolution : ClockReading
  intent : ClockReading
  probe : ClockReading
  gate : ClockReading
deriving DecidableEq

/-- The guard row of `resolveAttempt`: it asks for the lease, not that it is live. -/
def resolveGuard (q : QueueTables) (lease : Lease) (attemptId : Token) : Prop :=
  q.ownsHead lease ∧
  (∃ attempt ∈ q.attempts.find? attemptId, attempt.intentId = lease.headId) ∧
  q.unresolved attemptId

instance (q : QueueTables) (lease : Lease) (attemptId : Token) :
    Decidable (resolveGuard q lease attemptId) :=
  inferInstanceAs (Decidable (_ ∧ (∃ attempt ∈ q.attempts.find? attemptId, _) ∧ _))

/-- The block insert: skipped when the pair already has a block. -/
def QueueTables.blockPair (q : QueueTables) (lease : Lease) (attemptId : Token) (r : Resolution)
    (now : Us) : Option QueueTables :=
  if r.blocks then
    match q.intents.find? lease.headId with
    | none => some q
    | some intent =>
        if q.blocked intent.photoId intent.groupId then some q
        else
          (q.blocks.insert?
            ⟨intent.photoId, intent.groupId, r.blockReason, attemptId, now⟩).map fun blocks =>
              { q with blocks := blocks }
  else some q

/-- The intent row after a resolution. -/
def resolvedIntent (r : Resolution) (dispatchCount : Int) (delay : Int) (now : Us)
    (intent : SubmissionIntent) : SubmissionIntent :=
  { intent with
    state := r.outcome.state
    stateVersion := intent.stateVersion + 1
    terminalAtUs := if r.terminal then some now else none
    nextAttemptNotBeforeUs := if r.outcome = .retrying then some (now + delay * 1000) else none
    addDispatchCount := intent.addDispatchCount - if r.notDispatched then dispatchCount else 0
    safeReadFailureCount :=
      if r.readFailure then intent.safeReadFailureCount + 1
      else if r.reason = "rate_capacity_unavailable" then intent.safeReadFailureCount else 0
    stateChangedAtUs := now }

/-- The due time of a partition by its present head. -/
def QueueTables.headDue (q : QueueTables) (partition : GroupPartition) : Option Us :=
  (q.headIntent partition.partitionId).bind fun head =>
    if head.state = .throttled then partition.nextProbeNotBeforeUs
    else head.nextAttemptNotBeforeUs.orElse fun _ => some head.createdAtUs

/-- The last partition update: drop the lease, recompute the due time, wake. -/
def QueueTables.settlePartition (q : QueueTables) (partitionId : Token) : QueueTables :=
  { q with
    partitions := q.partitions.modify partitionId fun partition =>
      { partition with
        lease := none
        nextWorkNotBeforeUs := q.headDue partition
        wakeRevision := partition.wakeRevision + 1 } }

/-- The probe update of a throttled outcome. -/
def QueueTables.setProbe (q : QueueTables) (partitionId : Token) (r : Resolution)
    (dueUs : Us) : QueueTables :=
  if r.outcome = .throttled then
    { q with
      partitions := q.partitions.modify partitionId fun partition =>
        { partition with nextProbeNotBeforeUs := some dueUs } }
  else q

/-- The queue writes of `resolveAttempt`, statement by statement. -/
def QueueTables.resolve (q : QueueTables) (lease : Lease) (attemptId : Token) (r : Resolution)
    (delay : Int) (clock : ResolutionClock) : Option QueueTables := do
  let blocked ← q.blockPair lease attemptId r clock.block.us
  let resolutions ← blocked.resolutions.insert?
    ⟨attemptId, r.outcome, r.reason, clock.resolution.us, r.options.code, none⟩
  let dispatchCount : Int := if q.marked attemptId then 1 else 0
  let updated : QueueTables :=
    { blocked with
      resolutions := resolutions
      intents := blocked.intents.modify lease.headId
        (resolvedIntent r dispatchCount delay clock.intent.us) (fun _ => rfl) }
  some ((updated.setProbe lease.partitionId r (clock.probe.us + delay * 1000)).settlePartition
    lease.partitionId)

/-- The partition row after a resolution, before its due time is recomputed. -/
def probedPartition (r : Resolution) (probeUs : Us) (partition : GroupPartition) :
    GroupPartition :=
  if r.outcome = .throttled then { partition with nextProbeNotBeforeUs := some probeUs }
  else partition

/-- The partition row a resolution leaves in `q`. -/
def settledPartition (q : QueueTables) (r : Resolution) (probeUs : Us)
    (partition : GroupPartition) : GroupPartition :=
  { probedPartition r probeUs partition with
    lease := none
    nextWorkNotBeforeUs := q.headDue (probedPartition r probeUs partition)
    wakeRevision := partition.wakeRevision + 1 }

/-- What a resolution did to every table. -/
structure ResolveEffect (q : QueueTables) (lease : Lease) (attemptId : Token) (r : Resolution)
    (delay : Int) (clock : ResolutionClock) (q' : QueueTables) : Prop where
  attempts : q'.attempts = q.attempts
  memberships : q'.memberships = q.memberships
  preflights : q'.preflights = q.preflights
  dispatches : q'.dispatches = q.dispatches
  resolutions : q.resolutions.insert?
    ⟨attemptId, r.outcome, r.reason, clock.resolution.us, r.options.code, none⟩ =
      some q'.resolutions
  blocks : q.blockPair lease attemptId r clock.block.us = some { q with blocks := q'.blocks }
  intents : q'.intents = q.intents.modify lease.headId
    (resolvedIntent r (if q.marked attemptId then 1 else 0) delay clock.intent.us) fun _ => rfl
  partitions : ∀ k, q'.partitions.find? k =
    if k = lease.partitionId then
      (q.partitions.find? k).map (settledPartition q' r (clock.probe.us + delay * 1000))
    else q.partitions.find? k

theorem QueueTables.blockPair_eq_some {q q' : QueueTables} {lease : Lease} {attemptId : Token}
    {r : Resolution} {now : Us} (h : q.blockPair lease attemptId r now = some q') :
    q' = { q with blocks := q'.blocks } := by
  unfold QueueTables.blockPair at h
  split at h
  · split at h
    · cases h
      rfl
    · split at h
      · cases h
        rfl
      · obtain ⟨blocks, _, rfl⟩ := Option.map_eq_some_iff.mp h
        rfl
  · cases h
    rfl

theorem QueueTables.resolve_effect {q q' : QueueTables} {lease : Lease} {attemptId : Token}
    {r : Resolution} {delay : Int} {clock : ResolutionClock}
    (h : q.resolve lease attemptId r delay clock = some q') :
    ResolveEffect q lease attemptId r delay clock q' := by
  obtain ⟨blocked, hblocked, h⟩ := Option.bind_eq_some_iff.mp h
  obtain ⟨resolutions, hresolutions, h⟩ := Option.bind_eq_some_iff.mp h
  have hframe := QueueTables.blockPair_eq_some hblocked
  generalize blocked.blocks = blocks at hframe
  subst hframe
  cases h
  by_cases hthrottled : r.outcome = .throttled
  · have hprobe : ∀ q₀ : QueueTables, ∀ dueUs, q₀.setProbe lease.partitionId r dueUs =
        { q₀ with
          partitions := q₀.partitions.modify lease.partitionId fun partition =>
            { partition with nextProbeNotBeforeUs := some dueUs } } :=
      fun q₀ dueUs => if_pos hthrottled
    rw [hprobe]
    refine ⟨rfl, rfl, rfl, rfl, hresolutions, hblocked, rfl, fun k => ?_⟩
    simp only [settlePartition, Table.find?_modify]
    by_cases hk : k = lease.partitionId
    · simp only [if_pos hk, Option.map_map]
      congr 1
      funext partition
      simp only [Function.comp_apply, settledPartition, probedPartition, if_pos hthrottled]
      rfl
    · simp only [if_neg hk]
  · have hprobe : ∀ q₀ : QueueTables, ∀ dueUs, q₀.setProbe lease.partitionId r dueUs = q₀ :=
      fun q₀ dueUs => if_neg hthrottled
    rw [hprobe]
    refine ⟨rfl, rfl, rfl, rfl, hresolutions, hblocked, rfl, fun k => ?_⟩
    simp only [settlePartition, Table.find?_modify]
    by_cases hk : k = lease.partitionId
    · simp only [if_pos hk]
      congr 1
      funext partition
      simp only [settledPartition, probedPartition, if_neg hthrottled]
      rfl
    · simp only [if_neg hk]

/-! ### Pausing a gate -/

/-- The event a resolution leaves when it pauses a gate. -/
structure PauseCause where
  reason : String
  flickrCode : Option Int
  attemptId : Option Token
  artifactSha2_256 : Option String
deriving DecidableEq

namespace FlickrTables

/-- A gate event at a revision. -/
def addGateEvent (f : FlickrTables) (key : GateKey) (revision : Nat) (cause : PauseCause)
    (now : Us) : FlickrTables :=
  { f with
    gateEvents := f.gateEvents ++ [⟨key, revision, cause.reason, cause.flickrCode,
      cause.attemptId, cause.artifactSha2_256, now⟩] }

/-- The trigger `write_gate_transition`: an event for the new revision, unless one
is already there. -/
def gateTransition (f : FlickrTables) (key : GateKey) (enabled : Bool) (revision : Nat)
    (now : Us) : FlickrTables :=
  if f.gateEvents.any fun event => decide (event.key = key ∧ event.revision = revision) then f
  else f.addGateEvent key revision
    ⟨if enabled then "gate_enabled" else "gate_paused", none, none, none⟩ now

/-- `UPDATE flickr_write_gates SET enabled=…,revision=revision+1` for one gate, with
its trigger. -/
def updateGate (f : FlickrTables) (key : GateKey) (enabled : Bool) (now : Us) : FlickrTables :=
  match f.gates.find? key with
  | none => f
  | some gate =>
      ({ f with
        gates := f.gates.modify key fun old =>
          { old with enabled := enabled, revision := old.revision + 1 } }).gateTransition
        key enabled (gate.revision + 1) now

/-- Pause an enabled gate; the event, when one is given, is inserted first. -/
def pauseGate (f : FlickrTables) (key : GateKey) (cause : Option PauseCause) (now : Us) :
    FlickrTables :=
  match f.gates.find? key with
  | none => f
  | some gate =>
      if gate.enabled then
        match cause with
        | none => f.updateGate key false now
        | some cause => (f.addGateEvent key (gate.revision + 1) cause now).updateGate key false now
      else f

end FlickrTables

/-- The gate a pause names for the leased partition. -/
def pauseTarget (q : QueueTables) (lease : Lease) : PauseScope → Option GateKey
  | .deployment => some .deployment
  | .user => (q.partitions.find? lease.partitionId).map fun partition => .user partition.userId

/-- The gate writes of `resolveAttempt`. -/
def FlickrTables.pauseFor (f : FlickrTables) (q : QueueTables) (lease : Lease)
    (attemptId : Token) (r : Resolution) (now : Us) : FlickrTables :=
  match r.pause.bind (pauseTarget q lease) with
  | none => f
  | some key =>
      f.pauseGate key
        (some ⟨r.reason, r.options.code, some attemptId, r.options.artifactSha2_256⟩) now

/-- `resolveAttempt` after its counts were read. -/
def resolveAttempt (db : Db) (lease : Lease) (attemptId : Token) (r : Resolution)
    (counts : FailureCounts) (retryDelay : Int → Option Int) (clock : ResolutionClock) :
    Option Db := do
  let delay ← r.delayMs counts retryDelay
  if Resolution.delayValid delay ∧ resolveGuard db.queue lease attemptId then
    let q ← db.queue.resolve lease attemptId r delay clock
    some { db with
      queue := q
      flickr := db.flickr.pauseFor db.queue lease attemptId r clock.gate.us }
  else none

/-! ### The resolutions the dispatcher makes -/

/-- Where `runPartition` resolves an attempt. -/
inductive ResolutionSite where
  /-- An earlier claim left the attempt unfinished. -/
  | recovered (marked : Bool)
  /-- The rate reservation was refused or is no longer valid. -/
  | rateUnavailable (delayMs : Int)
  /-- A read or the preparation failed, with the Flickr code when there is one. -/
  | unavailable (code : Option Int)
  /-- The membership read found the photo in the group. -/
  | membershipPresent
  /-- The preflight is too old. -/
  | preflightExpired
  /-- The transport proved that the request was never handed to the fetcher. -/
  | transportAborted
  /-- The hand-off failed without an answer. -/
  | unresolvedDispatch
  /-- Flickr answered. -/
  | answered (result : AddResult)
deriving DecidableEq

private def plainOptions : ResolutionOptions := ⟨none, none, none, none⟩

/-- The arguments `runPartition` passes at each site; the artifact digest is that of
the deployment. -/
def ResolutionSite.resolution (artifact : Option String) : ResolutionSite → Resolution
  | .recovered true => ⟨.deliveryUncertain, "unresolved_dispatch", plainOptions⟩
  | .recovered false => ⟨.retrying, "abandoned_before_dispatch", plainOptions⟩
  | .rateUnavailable delayMs =>
      ⟨.retrying, "rate_capacity_unavailable", { plainOptions with delayMs := some delayMs }⟩
  | .unavailable none =>
      ⟨.retrying, "safe_read_unavailable", { plainOptions with artifactSha2_256 := artifact }⟩
  | .unavailable (some code) =>
      ⟨.retrying, "flickr_read_failure", { plainOptions with
        code := some code
        pause := (classifyAdd (.code code)).pause
        artifactSha2_256 := artifact }⟩
  | .membershipPresent => ⟨.added, "pre_add_membership_observation", plainOptions⟩
  | .preflightExpired => ⟨.retrying, "not_dispatched_preflight_expired", plainOptions⟩
  | .transportAborted => ⟨.retrying, "not_dispatched_transport_aborted", plainOptions⟩
  | .unresolvedDispatch => ⟨.deliveryUncertain, "unresolved_dispatch", plainOptions⟩
  | .answered result =>
      ⟨(classifyAdd result).outcome, (classifyAdd result).reason, { plainOptions with
        code := match result with
          | .ok => none
          | .code code => some code
        pause := (classifyAdd result).pause
        artifactSha2_256 := artifact }⟩

end FlickrGroupAddr

import FlickrGroupAddr.AttemptMoves
import FlickrGroupAddr.DispatchWorker

/-!
# The store of the dispatchers

Any number of invocations of `consumePartition` share one database.  Each batch commits or
changes nothing, its answer may be lost, and then it may still commit at any later time.
Admissions, lease calls, the connection and the other callers of Flickr go on beside them.
-/

namespace FlickrGroupAddr

set_option autoImplicit false

open KeyedTable Program Workers Transition

/-! ## Reads -/

/-- `workerGrant`. -/
def workerGrant (f : FlickrTables) (userId : Token) : Option GrantSnapshot := do
  let link ← f.links.find? userId
  let native ← f.credentials.find? userId
  let connection ← f.connections.find? userId
  if link.state = .linked ∧ connection.state = .linked ∧ connection.operationId = none ∧
      native.operationId = none ∧ native.linkRevision = link.linkRevision ∧
      native.verifiedOwnerNsid = link.ownerNsid then
    some ⟨userId, link.ownerNsid, link.linkRevision, native.activeGeneration⟩
  else none

/-- `beforePreflight` of the dispatcher: half a minute of the lease is left. -/
def preflightLeased (q : QueueTables) (lease : Lease) (now : Us) : Prop :=
  ∃ partition ∈ q.partitions.find? lease.partitionId, ∃ columns ∈ partition.lease,
    columns.leaseId = lease.leaseId ∧ partition.leaseGeneration = lease.generation ∧
      30000000 < columns.expiresAtUs - now ∧ 30000000 < columns.invocationDeadlineAtUs - now

instance (q : QueueTables) (lease : Lease) (now : Us) : Decidable (preflightLeased q lease now) :=
  inferInstanceAs (Decidable (∃ partition ∈ q.partitions.find? lease.partitionId,
    ∃ columns ∈ partition.lease, _))

/-- The counts that a resolution reads. -/
def failureCounts (q : QueueTables) (headId : Token) : Option FailureCounts :=
  (q.intents.find? headId).map fun intent =>
    ⟨intent.safeReadFailureCount, intent.addDispatchCount⟩

/-! ## The store -/

/-- The database, the handles that invocations hold in memory, and what the window was used
for: the window ids drawn so far and the charges of the other callers. -/
structure DispatchStore where
  db : Db
  handles : Table RateHandle.reservationId
  windows : List Token
  charges : List RateCharge

/-- A batch takes effect, or it fails and changes nothing. -/
def batchAnswered {α : Type} (s : DispatchStore) (effect : α → Db → Prop)
    (answer : Except DispatchFault α) (s' : DispatchStore) : Prop :=
  match answer with
  | .ok value => ∃ db', effect value db' ∧ s' = { s with db := db' }
  | .error _ => s' = s

/-- A read answers what it finds, or fails. -/
def readAnswered {α : Type} (s : DispatchStore) (found : α → Prop)
    (answer : Except DispatchFault α) (s' : DispatchStore) : Prop :=
  s' = s ∧ ∀ value, answer = .ok value → found value

namespace DispatchOp

/-- What an operation does to the store, at any time.  The transport, the clock of the isolate
and the callbacks do nothing to it. -/
def serve (s : DispatchStore) : (o : DispatchOp) → o.Answer → DispatchStore → Prop
  | .owner partitionId, answer, s' => readAnswered s
      (fun value => value =
        (s.db.queue.partitions.find? partitionId).map GroupPartition.userId) answer s'
  | .workerGrant userId, answer, s' => readAnswered s
      (fun value => value = FlickrGroupAddr.workerGrant s.db.flickr userId) answer s'
  | .claim partitionId revision policy, answer, s' => batchAnswered s
      (fun value db' => (value = none ∧ db' = s.db) ∨ ∃ lease leaseId now, value = some lease ∧
        claimPartition s.db partitionId leaseId revision policy now = some (db', lease)) answer s'
  | .unfinished lease, answer, s' => readAnswered s
      (fun value => value = s.db.queue.unfinished lease) answer s'
  | .begin lease, answer, s' => batchAnswered s
      (fun value db' => ∃ attemptId guardNow updateNow,
        FlickrGroupAddr.begin s.db lease attemptId guardNow updateNow = some db' ∧
          ∃ intent ∈ s.db.queue.intents.find? lease.headId,
            value = ⟨attemptId, lease.headId, intent.photoId, intent.groupId, false⟩) answer s'
  | .record lease attemptId kind, answer, s' => batchAnswered s
      (fun _ db' => ∃ guardNow updateNow,
        FlickrGroupAddr.record s.db lease attemptId kind guardNow updateNow = some db') answer s'
  | .counts lease, answer, s' => readAnswered s
      (fun value => value = failureCounts s.db.queue lease.headId) answer s'
  | .resolve lease attemptId site artifact read, answer, s' => batchAnswered s
      (fun _ db' => ∃ word clock, resolveAttempt s.db lease attemptId (site.resolution artifact)
        read (fun failures => retryDelayMs failures word) clock = some db') answer s'
  | .rejectGrant snapshot, answer, s' => batchAnswered s
      (fun _ db' => db' = s.db ∨ ∃ operationId generation now flickr,
        s.db.flickr.rejectWorkerGrant snapshot operationId generation now = some flickr ∧
          db' = { s.db with flickr := flickr }) answer s'
  | .beforePreflight lease, answer, s' => readAnswered s
      (fun value => ∃ now, value = decide (preflightLeased s.db.queue lease now)) answer s'
  | .reserve attempt, answer, s' =>
      match answer with
      | none => s' = s
      | some id => ∃ fresh opening guarding db' handles, fresh ∉ s.windows ∧
          reserveFlickrAttempt s.db attempt id fresh opening guarding = some db' ∧
          s.handles.insert? ⟨id, attempt, [], false⟩ = some handles ∧
          s' = { s with db := db', handles := handles, windows := fresh :: s.windows }
  | .rateRetryDelayMs, answer, s' => readAnswered s
      (fun value => ∃ now, value = rateRetryDelay s.db.rate.window now) answer s'
  | .check id attempt, answer, s' => readAnswered s
      (fun value => ∃ handle ∈ s.handles.find? id, ∃ now, value =
        (handle.admits attempt &&
          decide (reservationHolds s.db id handle.attempt.attemptId now))) answer s'
  | .consume id operation, answer, s' => ∃ handle ∈ s.handles.find? id,
      match handle.consume operation with
      | none => answer = false ∧ s' = s
      | some after => answer = true ∧ s' = { s with handles := s.handles.set after }
  | .proveAddNotSent id, answer, s' => ∃ handle ∈ s.handles.find? id,
      match handle.proveAddNotSent with
      | none => answer = .error .failed ∧ s' = s
      | some after => answer = .ok () ∧ s' = { s with handles := s.handles.set after }
  | .close id, answer, s' => ∃ handle ∈ s.handles.find? id,
      if handle.released = true then answer = none ∧ s' = s
      else answer = some handle.used.length ∧
        s' = { s with handles := s.handles.set { handle with released := true } }
  | .refund id used, answer, s' => batchAnswered s
      (fun _ db' => ∃ rate, releaseReservation s.db.rate id used = some rate ∧
        db' = { s.db with rate := rate }) answer s'
  | .lifetime _, _, s' | .fault _, _, s' | .monotonicUs, _, s' | .membership _, _, s'
  | .preflight _, _, s' | .prepareAdd _, _, s' | .handoff _, _, s' => s' = s

/-- What the caller of a database operation sees whose answer is lost.  What is done in memory
is not lost, and a transport call has no later effect on the store. -/
def lost : (o : DispatchOp) → o.Answer → Prop
  | .owner _, answer => answer = .error .failed
  | .workerGrant _, answer => answer = .error .failed
  | .claim _ _ _, answer => answer = .error .failed
  | .unfinished _, answer => answer = .error .failed
  | .begin _, answer => answer = .error .failed
  | .counts _, answer => answer = .error .failed
  | .rateRetryDelayMs, answer => answer = .error .failed
  | .reserve _, answer => answer = none
  | .check _ _, answer | .beforePreflight _, answer => answer = .error .failed
  | .record _ _ _, answer | .resolve _ _ _ _ _, answer | .rejectGrant _, answer
  | .refund _ _, answer => answer = .error .failed
  | .lifetime _, _ | .fault _, _ | .monotonicUs, _ | .membership _, _ | .preflight _, _
  | .prepareAdd _, _ | .handoff _, _ | .consume _ _, _ | .proveAddNotSent _, _
  | .close _, _ => False

end DispatchOp

/-- The calls of the queue that only a dispatcher makes. -/
def QueueCall.isDispatch : QueueCall → Bool
  | .claim _ _ _ _ _ | .begin _ _ _ _ | .record _ _ _ _ _ | .resolve _ _ _ _ _ _ _ => true
  | _ => false

/-- What changes beside the dispatchers. -/
inductive BesideDispatch (s : DispatchStore) : DispatchStore → Prop
  | call {call : QueueCall} {db' : Db} (hother : call.isDispatch = false)
      (hexec : call.exec s.db = some db') : BesideDispatch s { s with db := db' }
  | connection {db' : Db} (hqueue : db'.queue = s.db.queue) (hrate : db'.rate = s.db.rate) :
      BesideDispatch s { s with db := db' }
  | charge {slots : Nat} {fresh : Token} {opening guarding : ClockReading} {rate : RateTables}
      {charge : RateCharge} (hfresh : fresh ∉ s.windows)
      (hcharge : s.db.rate.charge slots fresh opening guarding = some (rate, charge)) :
      BesideDispatch s
        { s with
          db := { s.db with rate := rate }
          windows := fresh :: s.windows
          charges := charge :: s.charges }

/-- The dispatchers of one deployment. -/
def dispatchMachine : Machine DispatchStore DispatchOp.Answer where
  serve := DispatchOp.serve
  lost := DispatchOp.lost
  external := BesideDispatch
  program := fun program => ∃ enabled artifact partitionId revision,
    program = (consumePartition enabled artifact partitionId revision).run >>= fun _ => pure ()

/-- Nothing is in the database yet. -/
def DispatchStore.initial (s : DispatchStore) : Prop := s = ⟨emptyDb, .empty, [], []⟩

/-! ## What a step does to the database -/

/-- The event may come from the operation. -/
def QueueEvent.askedBy : QueueEvent → DispatchOp → Prop
  | .commit (.claim partitionId _ revision policy _), o => o = .claim partitionId revision policy
  | .commit (.begin lease _ _ _), o => o = .begin lease
  | .commit (.record lease attemptId kind _ _), o => o = .record lease attemptId kind
  | .commit (.resolve lease attemptId site artifact counts _ _), o =>
      o = .resolve lease attemptId site artifact counts
  | .commit _, _ => False
  | .refuse _, _ | .outside, _ => True

variable {s s' : DispatchStore}

theorem batchAnswered.cases {α : Type} {effect : α → Db → Prop} {answer : Except DispatchFault α}
    (h : batchAnswered s effect answer s') :
    s' = s ∨ ∃ value db', answer = .ok value ∧ effect value db' ∧ s' = { s with db := db' } := by
  cases answer with
  | error e => exact Or.inl h
  | ok value =>
      obtain ⟨db', heffect, hs'⟩ := h
      exact Or.inr ⟨value, db', rfl, heffect, hs'⟩

/-- Each operation is one event of the database. -/
theorem DispatchOp.serve.event {o : DispatchOp} {answer : o.Answer} (h : o.serve s answer s') :
    ∃ event, QueueEventStep s.db event s'.db ∧ event.askedBy o := by
  have hsame : s' = s → ∃ event, QueueEventStep s.db event s'.db ∧ event.askedBy o := by
    rintro rfl
    exact ⟨.outside, .outside rfl, trivial⟩
  cases o with
  | claim partitionId revision policy =>
      rcases batchAnswered.cases h with rfl | ⟨_, db', _, ⟨_, rfl⟩ | hclaim, rfl⟩
      · exact hsame rfl
      · exact ⟨.outside, .outside rfl, trivial⟩
      · obtain ⟨lease, leaseId, now, _, hclaim⟩ := hclaim
        refine ⟨.commit (.claim partitionId leaseId revision policy now), .commit ?_, rfl⟩
        exact Option.map_eq_some_iff.mpr ⟨_, hclaim, rfl⟩
  | begin lease =>
      rcases batchAnswered.cases h with rfl | ⟨_, db', _, hbegin, rfl⟩
      · exact hsame rfl
      · obtain ⟨attemptId, guardNow, updateNow, hbegin, _⟩ := hbegin
        exact ⟨.commit (.begin lease attemptId guardNow updateNow), .commit hbegin, rfl⟩
  | record lease attemptId kind =>
      rcases batchAnswered.cases h with rfl | ⟨_, db', _, ⟨guardNow, updateNow, hrecord⟩, rfl⟩
      · exact hsame rfl
      · exact ⟨.commit (.record lease attemptId kind guardNow updateNow), .commit hrecord, rfl⟩
  | resolve lease attemptId site artifact counts =>
      rcases batchAnswered.cases h with rfl | ⟨_, db', _, ⟨word, clock, hresolve⟩, rfl⟩
      · exact hsame rfl
      · exact ⟨.commit (.resolve lease attemptId site artifact counts _ clock), .commit hresolve,
          rfl⟩
  | rejectGrant snapshot =>
      rcases batchAnswered.cases h with rfl | ⟨_, db', _, rfl | ⟨_, _, _, _, _, rfl⟩, rfl⟩
      · exact hsame rfl
      · exact ⟨.outside, .outside rfl, trivial⟩
      · exact ⟨.outside, .outside rfl, trivial⟩
  | refund id used =>
      rcases batchAnswered.cases h with rfl | ⟨_, db', _, ⟨_, _, rfl⟩, rfl⟩
      · exact hsame rfl
      · exact ⟨.outside, .outside rfl, trivial⟩
  | reserve attempt =>
      cases answer with
      | none => exact hsame h
      | some id =>
          obtain ⟨fresh, opening, guarding, db', handles, _, hreserve, _, rfl⟩ := h
          refine ⟨.outside, .outside ?_, trivial⟩
          exact (reserveFlickrAttempt_queue hreserve).symm ▸ rfl
  | consume id operation =>
      obtain ⟨handle, _, h⟩ := h
      split at h
      · exact hsame h.2
      · exact ⟨.outside, .outside (by rw [h.2]), trivial⟩
  | proveAddNotSent id =>
      obtain ⟨handle, _, h⟩ := h
      split at h
      · exact hsame h.2
      · exact ⟨.outside, .outside (by rw [h.2]), trivial⟩
  | close id =>
      obtain ⟨handle, _, h⟩ := h
      split at h
      · exact hsame h.2
      · exact ⟨.outside, .outside (by rw [h.2]), trivial⟩
  | owner | workerGrant | unfinished | counts | beforePreflight | rateRetryDelayMs | check =>
      exact hsame h.1
  | lifetime | fault | monotonicUs | membership | preflight | prepareAdd | handoff => exact hsame h

/-- What changes beside the dispatchers is an event that no dispatcher asked for. -/
theorem BesideDispatch.event (h : BesideDispatch s s') :
    ∃ event, QueueEventStep s.db event s'.db ∧ ∀ call, event = .commit call →
      call.isDispatch = false := by
  cases h with
  | call hother hexec =>
      refine ⟨_, .commit hexec, ?_⟩
      rintro call ⟨rfl⟩
      exact hother
  | connection hqueue _ => exact ⟨.outside, .outside hqueue, fun _ h => nomatch h⟩
  | charge => exact ⟨.outside, .outside rfl, fun _ h => nomatch h⟩

end FlickrGroupAddr

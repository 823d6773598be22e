import FlickrGroupAddr.QueueInvariants
import FlickrGroupAddr.Lib.Transition

/-!
# Coordination

The calls that write the queue tables, in any order and from any number of workers.
A call that is refused, crashes before its batch or loses its batch changes
nothing; between two calls the other tables may change in any way.
-/

namespace FlickrGroupAddr

set_option autoImplicit false

open KeyedTable Transition Relation

/-! ## Calls -/

/-- A call of `admission.ts`, `scheduling.ts` or `fail_polite.ts`, with the ids it
draws, the counts it read and the clocks of its statements. -/
inductive QueueCall where
  | admitRequest (auth : AdmissionAuth) (request : AdmissionRequest) (requestId : Token)
      (ids : List (Token × Token)) (now : ClockReading)
  | claim (partitionId leaseId : Token) (expectedWakeRevision : Option Nat)
      (config : LeasePolicy) (now : ClockReading)
  | renew (lease : Lease) (config : LeasePolicy) (now : ClockReading)
  | release (lease : Lease)
  | defer (lease : Lease) (delayMs : Int) (guardNow updateNow : ClockReading)
  | begin (lease : Lease) (attemptId : Token) (guardNow updateNow : ClockReading)
  | record (lease : Lease) (attemptId : Token) (kind : RecordKind)
      (guardNow updateNow : ClockReading)
  | resolve (lease : Lease) (attemptId : Token) (site : ResolutionSite)
      (artifact : Option String) (counts : FailureCounts) (retryDelay : Int → Option Int)
      (clock : ResolutionClock)

/-- The committed effect of a call. -/
def QueueCall.exec (db : Db) : QueueCall → Option Db
  | .admitRequest auth request requestId ids now =>
      (FlickrGroupAddr.admitRequest db auth request requestId ids now).map Prod.fst
  | .claim partitionId leaseId expectedWakeRevision config now =>
      (claimPartition db partitionId leaseId expectedWakeRevision config now).map Prod.fst
  | .renew lease config now => renewLease db lease config now
  | .release lease => releaseLease db lease
  | .defer lease delayMs guardNow updateNow => deferHead db lease delayMs guardNow updateNow
  | .begin lease attemptId guardNow updateNow =>
      FlickrGroupAddr.begin db lease attemptId guardNow updateNow
  | .record lease attemptId kind guardNow updateNow =>
      FlickrGroupAddr.record db lease attemptId kind guardNow updateNow
  | .resolve lease attemptId site artifact counts retryDelay clock =>
      resolveAttempt db lease attemptId (site.resolution artifact) counts retryDelay clock

/-! ## What a committed call did -/

/-- What a successful claim checked and returned. -/
structure ClaimEffect (db : Db) (partitionId leaseId : Token)
    (expectedWakeRevision : Option Nat) (config : LeasePolicy) (now : Us)
    (partition : GroupPartition) (head : SubmissionIntent) (lease : Lease) : Prop where
  stored : db.queue.partitions.find? partitionId = some partition
  atHead : db.queue.headIntent partitionId = some head
  policy : config.valid
  fresh : ∀ revision ∈ expectedWakeRevision, partition.wakeRevision = revision
  due : partitionDue partition now
  free : leaseFree partition now
  generation : (partition.leaseGeneration : Int) < SqlInt.maxInt64
  ready : headReady db partition head now
  unblocked : ¬ db.queue.blocked head.photoId head.groupId
  returned : lease = ⟨partitionId, leaseId, partition.leaseGeneration + 1, head.intentId,
    now + config.leaseMs * 1000⟩

theorem claimPartition_effect {db db' : Db} {partitionId leaseId : Token}
    {expectedWakeRevision : Option Nat} {config : LeasePolicy} {now : ClockReading} {lease : Lease}
    (h : claimPartition db partitionId leaseId expectedWakeRevision config now =
      some (db', lease)) :
    db' = { db with queue := db.queue.takeLease partitionId leaseId config now.us } ∧
    ∃ partition head, ClaimEffect db partitionId leaseId expectedWakeRevision config now.us
      partition head lease := by
  obtain ⟨partition, hpartition, h⟩ := Option.bind_eq_some_iff.mp h
  obtain ⟨head, hhead, h⟩ := Option.bind_eq_some_iff.mp h
  split at h
  · next hguard =>
      obtain ⟨hconfig, hrevision, hgeneration, hdue, hfree, other, hother, hready, hblocked⟩ :=
        hguard
      cases h
      rw [Table.key_of_find? hpartition, hhead] at hother
      cases hother
      exact ⟨rfl, partition, head, hpartition, hhead, hconfig, hrevision, hdue, hfree,
        hgeneration, hready, hblocked, rfl⟩
  · cases h

/-- Ensuring a partition is at most one insert. -/
theorem ensurePartition_steps {q q' : QueueTables} {userId : Token} {requested : Requested}
    (h : q.ensurePartition userId requested = some q') :
    ReflTransGen AdmissionStep q q' := by
  unfold QueueTables.ensurePartition at h
  split at h
  · cases h
    exact ReflTransGen.refl
  · next hnone =>
      obtain ⟨partitions, hinsert, rfl⟩ := Option.map_eq_some_iff.mp h
      exact ReflTransGen.single (AdmissionStep.addPartition hnone hinsert)

theorem enqueue_steps {q q' : QueueTables} {binding : PhotoBinding} {requestId : Token}
    {createdAtUs : Us} {requested : Requested}
    (h : q.enqueue binding requestId createdAtUs requested = some q') :
    ReflTransGen AdmissionStep q q' := by
  unfold QueueTables.enqueue at h
  split at h
  · cases h
    exact ReflTransGen.refl
  · next hpair =>
      split at h
      · cases h
        exact ReflTransGen.refl
      · next hpartition =>
          split at h
          · cases h
          · next hblocked =>
              obtain ⟨intents, hinsert, rfl⟩ := Option.map_eq_some_iff.mp h
              exact ReflTransGen.single (AdmissionStep.enqueue hpair hpartition hblocked hinsert)

/-- An admission changes the queue tables only, by inserts. -/
theorem admitRequest_steps {db db' : Db} {auth : AdmissionAuth} {request : AdmissionRequest}
    {requestId : Token} {ids : List (Token × Token)} {now : ClockReading}
    {result : AdmissionResult}
    (h : admitRequest db auth request requestId ids now = some (db', result)) :
    ReflTransGen AdmissionStep db.queue db'.queue ∧ db' = { db with queue := db'.queue } := by
  obtain ⟨binding, _, h⟩ := Option.bind_eq_some_iff.mp h
  split at h
  · obtain ⟨q, hq, h⟩ := Option.bind_eq_some_iff.mp h
    obtain ⟨middle, hpartitions, hintents⟩ := Option.bind_eq_some_iff.mp hq
    cases h
    refine ⟨?_, rfl⟩
    exact (reflTransGen_of_foldlM (fun _ _ _ => ensurePartition_steps) hpartitions).trans
      (reflTransGen_of_foldlM (fun _ _ _ => enqueue_steps) hintents)
  · cases h

theorem renewLease_effect {db db' : Db} {lease : Lease} {config : LeasePolicy}
    {now : ClockReading} (h : renewLease db lease config now = some db') :
    config.valid ∧ db.queue.owns lease ∧ db.queue.live lease now.us ∧
      db' = { db with queue := db.queue.extendLease lease (now.us + config.leaseMs * 1000) } := by
  unfold renewLease at h
  split at h
  · next hguard => exact ⟨hguard.1, hguard.2.1, hguard.2.2, (Option.some.inj h).symm⟩
  · cases h

theorem releaseLease_effect {db db' : Db} {lease : Lease}
    (h : releaseLease db lease = some db') :
    db.queue.owns lease ∧ db' = { db with queue := db.queue.dropLease lease } := by
  unfold releaseLease at h
  split at h
  · next howns => exact ⟨howns, (Option.some.inj h).symm⟩
  · cases h

theorem deferHead_effect {db db' : Db} {lease : Lease} {delayMs : Int}
    {guardNow updateNow : ClockReading}
    (h : deferHead db lease delayMs guardNow updateNow = some db') :
    db.queue.owns lease ∧ db.queue.live lease guardNow.us ∧ deferrable db.queue lease ∧
      db' = { db with
        queue := db.queue.deferTo lease (guardNow.us + delayMs * 1000) updateNow.us } := by
  unfold deferHead at h
  split at h
  · next hguard =>
      exact ⟨hguard.2.1, hguard.2.2.1, hguard.2.2.2, (Option.some.inj h).symm⟩
  · cases h

theorem begin_effect {db db' : Db} {lease : Lease} {attemptId : Token}
    {guardNow updateNow : ClockReading}
    (h : begin db lease attemptId guardNow updateNow = some db') :
    beginGuard db lease guardNow.us ∧ ∃ revisions q,
      currentRevisions db lease = some revisions ∧
      db.queue.beginAttempt lease attemptId revisions updateNow.us = some q ∧
      db' = { db with queue := q } := by
  obtain ⟨revisions, hrevisions, h⟩ := Option.bind_eq_some_iff.mp h
  split at h
  · next hguard =>
      obtain ⟨q, hq, h⟩ := Option.bind_eq_some_iff.mp h
      exact ⟨hguard, revisions, q, hrevisions, hq, (Option.some.inj h).symm⟩
  · cases h

theorem record_effect {db db' : Db} {lease : Lease} {attemptId : Token} {kind : RecordKind}
    {guardNow updateNow : ClockReading}
    (h : record db lease attemptId kind guardNow updateNow = some db') :
    recordGuard db lease attemptId kind guardNow.us ∧ ∃ q,
      db.queue.recordPhase lease attemptId kind updateNow.us = some q ∧
      db' = { db with queue := q } := by
  unfold record at h
  split at h
  · next hguard =>
      obtain ⟨q, hq, rfl⟩ := Option.map_eq_some_iff.mp h
      exact ⟨hguard, q, hq, rfl⟩
  · cases h

theorem resolveAttempt_effect {db db' : Db} {lease : Lease} {attemptId : Token} {r : Resolution}
    {counts : FailureCounts} {retryDelay : Int → Option Int} {clock : ResolutionClock}
    (h : resolveAttempt db lease attemptId r counts retryDelay clock = some db') :
    resolveGuard db.queue lease attemptId ∧ ∃ delay q,
      r.delayMs counts retryDelay = some delay ∧ Resolution.delayValid delay ∧
      db.queue.resolve lease attemptId r delay clock = some q ∧
      db' = { db with
        queue := q
        flickr := db.flickr.pauseFor db.queue lease attemptId r clock.gate.us } := by
  obtain ⟨delay, hdelay, h⟩ := Option.bind_eq_some_iff.mp h
  split at h
  · next hguard =>
      obtain ⟨q, hq, h⟩ := Option.bind_eq_some_iff.mp h
      exact ⟨hguard.2, delay, q, hdelay, hguard.1, hq, (Option.some.inj h).symm⟩
  · cases h

/-- A committed call is an admission or one queue step. -/
theorem QueueCall.step_cases {db db' : Db} {call : QueueCall} (h : call.exec db = some db') :
    ReflTransGen AdmissionStep db.queue db'.queue ∨ QueueStep db.queue db'.queue := by
  cases call with
  | admitRequest =>
      left
      obtain ⟨_, hadmission, rfl⟩ := Option.map_eq_some_iff.mp h
      exact (admitRequest_steps hadmission).1
  | claim =>
      right
      obtain ⟨_, hclaim, rfl⟩ := Option.map_eq_some_iff.mp h
      obtain ⟨hdb, partition, head, heffect⟩ := claimPartition_effect hclaim
      rw [hdb]
      have hkey := Table.key_of_find? heffect.stored
      subst hkey
      exact QueueStep.claim heffect.stored heffect.atHead heffect.due heffect.free
  | renew =>
      right
      obtain ⟨_, howns, _, rfl⟩ := renewLease_effect h
      exact QueueStep.renew howns
  | release =>
      right
      obtain ⟨howns, rfl⟩ := releaseLease_effect h
      exact QueueStep.release howns
  | defer =>
      right
      obtain ⟨howns, _, hdeferrable, rfl⟩ := deferHead_effect h
      exact QueueStep.defer howns hdeferrable
  | begin =>
      right
      obtain ⟨⟨howns, _, _, ⟨intent, hintent, hstate, _, hblocked⟩, hnone⟩, _, _, _, hwrite, rfl⟩ :=
        begin_effect h
      exact QueueStep.begin howns hintent hstate hblocked hnone hwrite
  | record =>
      right
      obtain ⟨⟨howns, _, _, ⟨attempt, hattempt, _, _, hintent, _⟩, hunresolved, _⟩, _, hwrite, rfl⟩ :=
        record_effect h
      exact QueueStep.record howns ⟨attempt, hattempt, hintent⟩ hunresolved hwrite
  | resolve =>
      right
      obtain ⟨hguard, _, _, _, _, hwrite, rfl⟩ := resolveAttempt_effect h
      exact QueueStep.resolve hguard hwrite

/-- A committed call moves the queue tables by queue steps. -/
theorem QueueCall.steps {db db' : Db} {call : QueueCall} (h : call.exec db = some db') :
    ReflTransGen QueueStep db.queue db'.queue := by
  rcases QueueCall.step_cases h with hadmission | hstep
  · exact ReflTransGen.mono (fun _ _ => QueueStep.admission) _ _ hadmission
  · exact ReflTransGen.single hstep

/-- The calls that insert rows. -/
def QueueCall.isAdmission : QueueCall → Bool
  | .admitRequest _ _ _ _ _ => true
  | _ => false

/-- A call of the scheduler or the dispatcher keeps every identity column. -/
theorem QueueCall.sameIdentities {db db' : Db} {call : QueueCall}
    (hother : call.isAdmission = false) (h : call.exec db = some db') :
    SameIdentities db.queue db'.queue := by
  cases call with
  | admitRequest => cases hother
  | claim =>
      obtain ⟨_, hclaim, rfl⟩ := Option.map_eq_some_iff.mp h
      rw [(claimPartition_effect hclaim).1]
      exact ⟨fun _ => rfl, fun _ => Table.map_find?_modify _ _ _ _⟩
  | renew =>
      obtain ⟨_, _, _, rfl⟩ := renewLease_effect h
      exact ⟨fun _ => rfl, fun _ => Table.map_find?_modify _ _ _ _⟩
  | release =>
      obtain ⟨_, rfl⟩ := releaseLease_effect h
      exact ⟨fun _ => rfl, fun _ => Table.map_find?_modify _ _ _ _⟩
  | defer =>
      obtain ⟨_, _, _, rfl⟩ := deferHead_effect h
      exact ⟨fun _ => Table.map_find?_modify _ _ _ _, fun _ => Table.map_find?_modify _ _ _ _⟩
  | begin =>
      obtain ⟨_, _, _, _, hwrite, rfl⟩ := begin_effect h
      obtain ⟨attempts, _, rfl⟩ := Option.map_eq_some_iff.mp hwrite
      exact ⟨fun _ => Table.map_find?_modify _ _ _ _, fun _ => rfl⟩
  | record =>
      obtain ⟨_, _, hwrite, rfl⟩ := record_effect h
      exact QueueTables.recordPhase_sameIdentities hwrite
  | resolve =>
      obtain ⟨_, _, _, _, _, hwrite, rfl⟩ := resolveAttempt_effect h
      exact (QueueTables.resolve_effect hwrite).sameIdentities

/-! ## Runs -/

/-- What happens to the database. -/
inductive QueueEvent where
  /-- A call commits. -/
  | commit (call : QueueCall)
  /-- A call is refused, or fails before its batch commits. -/
  | refuse (call : QueueCall)
  /-- Tables other than those of the queue change. -/
  | outside

/-- One event. -/
inductive QueueEventStep : Db → QueueEvent → Db → Prop
  | commit {db db' : Db} {call : QueueCall} :
      call.exec db = some db' → QueueEventStep db (.commit call) db'
  | refuse {db : Db} {call : QueueCall} : QueueEventStep db (.refuse call) db
  | outside {db db' : Db} : db'.queue = db.queue → QueueEventStep db .outside db'

/-- The databases the calls lead to from the empty schema. -/
def QueueReachable (db : Db) : Prop := Reachable QueueEventStep (fun start => start = emptyDb) db

theorem QueueEventStep.steps {db db' : Db} {event : QueueEvent}
    (h : QueueEventStep db event db') : ReflTransGen QueueStep db.queue db'.queue := by
  cases h with
  | commit hexec => exact QueueCall.steps hexec
  | refuse => exact ReflTransGen.refl
  | outside hsame => rw [hsame]

theorem QueueInvariant.steps {q q' : QueueTables} (h : QueueInvariant q)
    (hsteps : ReflTransGen QueueStep q q') : QueueInvariant q' := by
  induction hsteps with
  | refl => exact h
  | tail _ hlast ih => exact ih.step hlast

theorem QueueReachable.queueInvariant {db : Db} (h : QueueReachable db) :
    QueueInvariant db.queue := by
  have hinit : ∀ start : Db, start = emptyDb → QueueInvariant start.queue := by
    rintro _ rfl
    exact QueueInvariant.initially
  exact h.invariant hinit fun _ _ _ hinv hstep => hinv.steps hstep.steps

theorem QueueReachable.execAll {db db' : Db} {calls : List QueueCall} (h : QueueReachable db)
    (hrun : execAll QueueCall.exec db calls = some db') : QueueReachable db' := by
  induction calls generalizing db with
  | nil =>
      cases hrun
      exact h
  | cons call rest ih =>
      obtain ⟨middle, hfirst, hrest⟩ := Option.bind_eq_some_iff.mp hrun
      exact ih (Reachable.extend h (QueueEventStep.commit hfirst)) hrest

/-! ## A small installation -/

namespace Sample

def user : Token := ⟨"user-1", Eq.refl true⟩
def photo : Token := ⟨"photo-1", Eq.refl true⟩
def group : Token := ⟨"group-1", Eq.refl true⟩
def binding : Token := ⟨"binding-1", Eq.refl true⟩
def installation : Token := ⟨"installation-1", Eq.refl true⟩
def version : Token := ⟨"version-1", Eq.refl true⟩
def partition : Token := ⟨"partition-1", Eq.refl true⟩
def intent : Token := ⟨"intent-1", Eq.refl true⟩
def requestId : Token := ⟨"request-1", Eq.refl true⟩
def leaseId : Token := ⟨"sweep-1", Eq.refl true⟩
def attempt : Token := ⟨"attempt-1", Eq.refl true⟩

/-- One linked user with enabled gates, an active plug-in and a verified upload. -/
def db : Db where
  queue := emptyDb.queue
  flickr :=
    { emptyDb.flickr with
      links := ⟨[⟨user, "12345@N00", 1, .linked⟩], by decide⟩
      bindings := ⟨[⟨binding, user, photo, "12345@N00", 1, 1, .upload, 0⟩], by decide⟩
      gates := ⟨[⟨.deployment, true, 1⟩, ⟨.user user, true, 1⟩], by decide⟩ }
  installations := ⟨[⟨installation, user, true, true, some version⟩], by decide⟩
  versions := ⟨[⟨version, installation, .current, "digest-1"⟩], by decide⟩
  rate := emptyDb.rate

def clock (us : Us) (h : decide (0 ≤ us ∧ us ≤ maxClockUs) = true := by exact Eq.refl true) :
    ClockReading := .ofUs us h

def request : AdmissionRequest where
  fgaPhotoBindingId := binding
  expectedVerificationRevision := 1
  flickrGroupIds := [group]
  revision_pos := by decide
  revision_safe := by decide
  groups_pos := by decide
  groups_le := by decide
  groups_nodup := by decide

/-- The lease of the first claim, at five microseconds. -/
def lease : Lease := ⟨partition, leaseId, 1, intent, 60000005⟩

/-- Admit the photo to the group and claim the partition. -/
def claimed : List QueueCall :=
  [.admitRequest ⟨installation, "digest-1"⟩ request requestId [(partition, intent)] (clock 1),
    .claim partition leaseId (some 1) defaultLeasePolicy (clock 5)]

/-- Then begin an attempt. -/
def begun : List QueueCall := claimed ++ [.begin lease attempt (clock 6) (clock 6)]

/-- Record the three phases and resolve the attempt with the answer of Flickr. -/
def answered (result : AddResult) : List QueueCall :=
  begun ++
    [.record lease attempt (.membership true) (clock 7) (clock 7),
      .record lease attempt (.preflight true) (clock 8) (clock 8),
      .record lease attempt (.marker none) (clock 9) (clock 9),
      .resolve lease attempt (.answered result) none ⟨0, 1⟩ (fun _ => none)
        ⟨clock 10, clock 10, clock 10, clock 10, clock 10⟩]

theorem reachable : QueueReachable db :=
  ⟨emptyDb, [⟨emptyDb, .outside, db⟩], rfl, Run.single (QueueEventStep.outside rfl)⟩

end Sample

end FlickrGroupAddr

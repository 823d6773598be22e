import FlickrGroupAddr.Coordination
import FlickrGroupAddr.GateLog

/-!
# Resuming a write gate

`resumeWriteGate` of `native_lifecycle.ts` reads the cause of the pause, a
conformance receipt and the connection before its one batch, so other transactions
can fall between any two of these statements.  A call in progress is a row of its
own, and the coordination system is the database together with these calls.
-/

namespace FlickrGroupAddr

set_option autoImplicit false

open KeyedTable Transition Relation

/-! ## The statements of a call -/

/-- `FGA_FAIL_POLITE_CONTRACT_SHA2_256`. -/
def failPoliteContractSha2_256 : String :=
  "0cadf1da68a9a978d48975500bf8ee03a42fbf7b34c35c49a7b45692565970f5"

/-- `documented`. -/
def documentedCodes : List Int :=
  [1, 2, 3, 4, 5, 6, 7, 8, 10, 11, 95, 96, 97, 98, 99, 100, 105, 106, 111, 112, 114, 115, 116]

/-- `protocol`: the cause asks for a repaired deployment. -/
def protocolShaped (reason : String) (code : Option Int) : Prop :=
  reason = "unknown_code" ∨ code.getD 0 ∈ [(111 : Int), 112, 114, 115] ∨
    ∃ result ∈ code, result ∉ documentedCodes

instance (reason : String) (code : Option Int) : Decidable (protocolShaped reason code) :=
  inferInstanceAs (Decidable (_ ∨ _ ∨ ∃ result ∈ code, _))

/-- `/^[a-f0-9]{64}$/`. -/
def isDigest (text : String) : Bool :=
  text.toList.length = 64 &&
    text.toList.all fun c => ('a' ≤ c && c ≤ 'f') || ('0' ≤ c && c ≤ '9')

/-- The digest given is well formed and not the one the cause stored. -/
def newArtifact (given stored : Option String) : Prop :=
  ∃ artifact ∈ given, isDigest artifact = true ∧ ∃ ran ∈ stored, ran ≠ "" ∧ artifact ≠ ran

instance (given stored : Option String) : Decidable (newArtifact given stored) :=
  inferInstanceAs (Decidable (∃ artifact ∈ given, _ ∧ ∃ ran ∈ stored, _))

/-- What `resumeWriteGate` is called with. -/
structure ResumeRequest where
  userId : Token
  scope : PauseScope
  revision : Int
  artifactSha2_256 : Option String
deriving DecidableEq

/-- The gate a request names. -/
def ResumeRequest.key (request : ResumeRequest) : GateKey :=
  match request.scope with
  | .deployment => .deployment
  | .user => .user request.userId

/-- The statement a call of `resumeWriteGate` is about to make. -/
inductive ResumePhase where
  /-- Read the conformance receipt of the given artifact. -/
  | conformance
  /-- Read the connection. -/
  | connection
  /-- Commit, under the connection that was read and verified. -/
  | commit (linkRevision : Nat) (generation : Token)
deriving DecidableEq

namespace FlickrTables

local instance resumeOrder : Preorder Int := clockOrder

/-- The newest event of the deployment gate at a revision. -/
def pauseCause (f : FlickrTables) (revision : Int) : Option WriteGateEvent :=
  (f.gateEvents.filter fun event => event.key = .deployment ∧ (event.revision : Int) = revision).argmax
    WriteGateEvent.createdAtUs

/-- The start of a call: the revision, and for the deployment gate its cause. -/
def startResume (f : FlickrTables) (request : ResumeRequest) : Option ResumePhase :=
  if isSafeInteger request.revision ∧ 1 ≤ request.revision ∧
      request.revision < 9007199254740991 then
    match request.scope with
    | .user => some .connection
    | .deployment =>
        match f.pauseCause request.revision with
        | none => some .connection
        | some cause =>
            if protocolShaped cause.reason cause.flickrCode then
              if newArtifact request.artifactSha2_256 cause.artifactSha2_256 then
                some .conformance
              else none
            else some .connection
  else none

/-- The artifact has a receipt for the current contract. -/
def conforms (f : FlickrTables) (artifact : Option String) : Prop :=
  ∃ digest ∈ artifact, ∃ receipt ∈ f.conformance.find? digest,
    receipt.contractSha2_256 = failPoliteContractSha2_256

instance (f : FlickrTables) (artifact : Option String) : Decidable (f.conforms artifact) :=
  inferInstanceAs (Decidable (∃ digest ∈ artifact, ∃ receipt ∈ f.conformance.find? digest, _))

/-- The link and the credential of a settled connection. -/
def connected (f : FlickrTables) (userId : Token) : Option (FlickrLink × NativeCredential) := do
  let link ← f.links.find? userId
  let credential ← f.credentials.find? userId
  let connection ← f.connections.find? userId
  if link.state = .linked ∧ connection.state = .linked ∧ connection.operationId = none ∧
      credential.operationId = none ∧ credential.linkRevision = link.linkRevision then
    some (link, credential)
  else none

/-- The next statement of a call, short of its batch. -/
def advanceResume (f : FlickrTables) (request : ResumeRequest) : ResumePhase → Option ResumePhase
  | .conformance => if f.conforms request.artifactSha2_256 then some .connection else none
  | .connection => (f.connected request.userId).map fun current =>
      .commit current.1.linkRevision current.2.activeGeneration
  | .commit _ _ => none

/-- The guard row of `resumeWriteGate`. -/
def resumeGuard (f : FlickrTables) (request : ResumeRequest) (linkRevision : Nat)
    (generation : Token) : Prop :=
  (∃ gate ∈ f.gates.find? request.key, (gate.revision : Int) = request.revision ∧
    gate.enabled = false) ∧
  ∃ current ∈ f.connected request.userId,
    current.1.linkRevision = linkRevision ∧ current.2.activeGeneration = generation

instance (f : FlickrTables) (request : ResumeRequest) (linkRevision : Nat)
    (generation : Token) : Decidable (f.resumeGuard request linkRevision generation) :=
  inferInstanceAs (Decidable ((∃ gate ∈ f.gates.find? request.key, _) ∧
    ∃ current ∈ f.connected request.userId, _))

/-- The batch of `resumeWriteGate`. -/
def commitResume (f : FlickrTables) (request : ResumeRequest) (linkRevision : Nat)
    (generation : Token) (now : ClockReading) : Option FlickrTables :=
  if f.resumeGuard request linkRevision generation then
    some (f.updateGate request.key true now.us)
  else none

end FlickrTables

/-! ## The system -/

/-- A call of `resumeWriteGate` in progress. -/
structure Resumption where
  callId : Token
  request : ResumeRequest
  phase : ResumePhase
deriving DecidableEq

/-- The database and the resumptions in progress. -/
structure System where
  db : Db
  resumptions : Table Resumption.callId
deriving DecidableEq

/-- What the parties of the system do. -/
inductive SystemCall where
  | queue (call : QueueCall)
  | lifecycle (call : LifecycleCall)
  | startResume (callId : Token) (request : ResumeRequest)
  | advanceResume (callId : Token)
  | commitResume (callId : Token) (now : ClockReading)

/-- The committed effect of a call. -/
def SystemCall.exec (s : System) : SystemCall → Option System
  | .queue call => (call.exec s.db).map fun db => { s with db := db }
  | .lifecycle call => (call.exec s.db).map fun f => { s with db := { s.db with flickr := f } }
  | .startResume callId request => do
      let phase ← s.db.flickr.startResume request
      let resumptions ← s.resumptions.insert? ⟨callId, request, phase⟩
      some { s with resumptions := resumptions }
  | .advanceResume callId => do
      let resumption ← s.resumptions.find? callId
      let phase ← s.db.flickr.advanceResume resumption.request resumption.phase
      some { s with
        resumptions := s.resumptions.modify callId fun row => { row with phase := phase } }
  | .commitResume callId now => do
      let resumption ← s.resumptions.find? callId
      match resumption.phase with
      | .commit linkRevision generation =>
          let f ← s.db.flickr.commitResume resumption.request linkRevision generation now
          some { db := { s.db with flickr := f }, resumptions := s.resumptions.erase callId }
      | _ => none

/-- What happens to the system. -/
inductive SystemEvent where
  /-- A call commits. -/
  | commit (call : SystemCall)
  /-- A call is refused, fails or loses its batch. -/
  | refuse (call : SystemCall)
  /-- A resumption stops before its batch. -/
  | stop (callId : Token)
  /-- Installations, their credentials or the rate window change. -/
  | outside

/-- One event. -/
inductive SystemStep : System → SystemEvent → System → Prop
  | commit {s t : System} {call : SystemCall} : call.exec s = some t → SystemStep s (.commit call) t
  | refuse {s : System} {call : SystemCall} : SystemStep s (.refuse call) s
  | stop {s : System} {callId : Token} :
      SystemStep s (.stop callId) { s with resumptions := s.resumptions.erase callId }
  | outside {s t : System} :
      t.db.queue = s.db.queue → t.db.flickr = s.db.flickr → t.resumptions = s.resumptions →
      SystemStep s .outside t

/-- Nothing was written yet. -/
def initialSystem : System := ⟨emptyDb, .empty⟩

/-- The systems some sequence of events leads to from the empty schema. -/
def SystemReachable (s : System) : Prop :=
  Reachable SystemStep (fun start => start = initialSystem) s

variable {s t : System} {event : SystemEvent}

theorem SystemReachable.execAll {calls : List SystemCall} (h : SystemReachable s)
    (hrun : execAll SystemCall.exec s calls = some t) : SystemReachable t := by
  induction calls generalizing s with
  | nil =>
      cases hrun
      exact h
  | cons call rest ih =>
      obtain ⟨middle, hfirst, hrest⟩ := Option.bind_eq_some_iff.mp hrun
      exact ih (Reachable.extend h (SystemStep.commit hfirst)) hrest

theorem SystemCall.run {calls : List SystemCall}
    (h : execAll SystemCall.exec s calls = some t) :
    Run SystemStep s (movesOf SystemCall.exec SystemEvent.commit s calls) t :=
  run_movesOf (fun _ _ _ hexec => SystemStep.commit hexec) h

/-! ## What a step does to the queue and to the gates -/

theorem QueueCall.exec_flickr {db db' : Db} {call : QueueCall} (h : call.exec db = some db') :
    db'.flickr = db.flickr ∨ ∃ (lease : Lease) (attemptId : Token) (site : ResolutionSite)
      (artifact : Option String) (counts : FailureCounts) (retryDelay : Int → Option Int)
      (clock : ResolutionClock),
      call = .resolve lease attemptId site artifact counts retryDelay clock ∧
      db'.flickr = db.flickr.pauseFor db.queue lease attemptId (site.resolution artifact)
        clock.gate.us := by
  cases call with
  | admitRequest =>
      obtain ⟨_, hadmission, rfl⟩ := Option.map_eq_some_iff.mp h
      rw [(admitRequest_steps hadmission).2]
      exact Or.inl rfl
  | claim =>
      obtain ⟨_, hclaim, rfl⟩ := Option.map_eq_some_iff.mp h
      rw [(claimPartition_effect hclaim).1]
      exact Or.inl rfl
  | renew =>
      obtain ⟨_, _, _, rfl⟩ := renewLease_effect h
      exact Or.inl rfl
  | release =>
      obtain ⟨_, rfl⟩ := releaseLease_effect h
      exact Or.inl rfl
  | defer =>
      obtain ⟨_, _, _, rfl⟩ := deferHead_effect h
      exact Or.inl rfl
  | begin =>
      obtain ⟨_, _, _, _, _, rfl⟩ := begin_effect h
      exact Or.inl rfl
  | record =>
      obtain ⟨_, _, _, rfl⟩ := record_effect h
      exact Or.inl rfl
  | resolve lease attemptId site artifact counts retryDelay clock =>
      obtain ⟨_, _, _, _, _, _, rfl⟩ := resolveAttempt_effect h
      exact Or.inr ⟨lease, attemptId, site, artifact, counts, retryDelay, clock, rfl, rfl⟩

/-- A result that pauses a gate, or is not documented, has a reason the gate can show. -/
theorem classifyAdd_pause_reason (result : AddResult)
    (h : (classifyAdd result).pause.isSome = true ∨
      (classifyAdd result).reason = "unknown_code") :
    (classifyAdd result).reason ∈ pauseReasons := by
  rcases classifyAdd_cases result with ⟨reason, hreason, hclass⟩ | ⟨reason, hreason, hclass⟩ |
    ⟨reason, hreason, hclass⟩ | hclass | ⟨code, hcode, _, hclass⟩ | ⟨code, hcode, _, hclass⟩ |
    ⟨code, hcode, _, hclass⟩ | ⟨code, _, _, hclass⟩
  · rw [hclass] at h
    simp only [List.mem_cons, List.not_mem_nil, or_false] at hreason
    rcases hreason with rfl | rfl <;> exact absurd h (by decide)
  · rw [hclass] at h
    simp only [List.mem_cons, List.not_mem_nil, or_false] at hreason
    rcases hreason with rfl | rfl <;> exact absurd h (by decide)
  · rw [hclass] at h
    simp only [List.mem_cons, List.not_mem_nil, or_false] at hreason
    rcases hreason with rfl | rfl <;> exact absurd h (by decide)
  · rw [hclass] at h
    exact absurd h (by decide)
  · rw [hclass] at h
    simp only [List.mem_cons, List.not_mem_nil, or_false] at hcode
    rcases hcode with rfl | rfl | rfl | rfl | rfl | rfl | rfl <;> exact absurd h (by decide)
  · rw [hclass]
    simp only [List.mem_cons, List.not_mem_nil, or_false] at hcode
    rcases hcode with rfl | rfl <;> decide
  · rw [hclass]
    simp only [List.mem_cons, List.not_mem_nil, or_false] at hcode
    rcases hcode with rfl | rfl | rfl | rfl | rfl | rfl | rfl | rfl <;> decide
  · rw [hclass]
    decide

theorem Resolution.pause_cases {r : Resolution} {scope : PauseScope} (h : r.pause = some scope) :
    r.options.pause = some scope ∨ (r.reason = "unknown_code" ∧ scope = .deployment) := by
  unfold Resolution.pause at h
  cases hpause : r.options.pause with
  | some given =>
      rw [hpause] at h
      exact Or.inl h
  | none =>
      rw [hpause, Option.orElse_none] at h
      split at h
      · next hreason =>
          cases h
          exact Or.inr ⟨hreason, rfl⟩
      · cases h

/-- A resolution that pauses a gate has a reason the gate can show. -/
theorem ResolutionSite.pause_reason (site : ResolutionSite) (artifact : Option String)
    {scope : PauseScope} (h : (site.resolution artifact).pause = some scope) :
    (site.resolution artifact).reason ∈ pauseReasons := by
  cases site with
  | recovered marked => cases marked <;> cases h
  | rateUnavailable => cases h
  | unavailable code =>
      cases code with
      | none => cases h
      | some code => simp [ResolutionSite.resolution, pauseReasons]
  | membershipPresent => cases h
  | preflightExpired => cases h
  | transportAborted => cases h
  | unresolvedDispatch => cases h
  | answered result =>
      apply classifyAdd_pause_reason result
      rcases Resolution.pause_cases h with hgiven | ⟨hreason, _⟩
      · exact Or.inl (Option.isSome_of_mem hgiven)
      · exact Or.inr hreason

namespace FlickrTables

variable {f f' : FlickrTables}

/-- The gate writes of a resolution only stop writes, and touch nothing else. -/
theorem pauseFor_stop (h : f.gateLog.WellFormed) (q : QueueTables) (lease : Lease)
    (attemptId : Token) (site : ResolutionSite) (artifact : Option String) (now : ClockReading) :
    ReflTransGen GateLog.Stop f.gateLog
        (f.pauseFor q lease attemptId (site.resolution artifact) now.us).gateLog ∧
      SameRows f (f.pauseFor q lease attemptId (site.resolution artifact) now.us) := by
  unfold pauseFor
  split
  · exact ⟨ReflTransGen.refl, SameRows.refl f⟩
  · next key hkey =>
      obtain ⟨scope, hscope, _⟩ := Option.bind_eq_some_iff.mp hkey
      refine ⟨pauseGate_stop h ?_, (pauseGate_log h _).1⟩
      rintro given ⟨⟩
      exact site.pause_reason artifact hscope

/-- Starting an operation pauses the gate of the user in tables with the old log. -/
theorem startOperation_effect {operation : LifecycleOperation} {state : ConnectionStatus}
    {localState : LocalCredentialState} {externalRemoval : Bool} {now : Us}
    (h : f.startOperation operation state localState externalRemoval now = some f') :
    ∃ attached : FlickrTables, attached.gateLog = f.gateLog ∧
      attached.links = (f.moveLink operation.userId .paused).links ∧
      attached.bindings = f.bindings ∧ attached.conformance = f.conformance ∧
      f' = attached.pauseGate (.user operation.userId) none now := by
  obtain ⟨started, hstarted, rfl⟩ := Option.map_eq_some_iff.mp h
  unfold insertOperation at hstarted
  split at hstarted
  · obtain ⟨operations, _, rfl⟩ := Option.map_eq_some_iff.mp hstarted
    refine ⟨_, ?_, ?_, ?_, ?_, rfl⟩ <;> rfl
  · cases hstarted

theorem startOperation_stop (h : f.gateLog.WellFormed) {operation : LifecycleOperation}
    {state : ConnectionStatus} {localState : LocalCredentialState} {externalRemoval : Bool}
    {now : ClockReading}
    (hexec : f.startOperation operation state localState externalRemoval now.us = some f') :
    ReflTransGen GateLog.Stop f.gateLog f'.gateLog ∧ f'.conformance = f.conformance := by
  obtain ⟨attached, hlog, _, _, hconformance, rfl⟩ := startOperation_effect hexec
  rw [← hlog] at h ⊢
  exact ⟨pauseGate_stop h (by simp), (pauseGate_log h none).1.conformance.trans hconformance⟩

theorem beginLifecycle_operation {userId : Token} {revision : Int} {kind : LifecycleKind}
    {operationId generation : Token} {now : Us}
    (hexec : f.beginLifecycle userId revision kind operationId generation now = some f') :
    ∃ operation state localState externalRemoval, operation.userId = userId ∧
      f.startOperation operation state localState externalRemoval now = some f' := by
  unfold beginLifecycle at hexec
  split at hexec
  · cases kind with
    | replace => exact ⟨_, _, _, _, rfl, hexec⟩
    | retire => exact ⟨_, _, _, _, rfl, hexec⟩
  · cases hexec

theorem bindPhoto_frame {snapshot : GrantSnapshot} {photoId bindingId : Token}
    {source : SourceKind} {again : PhotoBinding → Bool} {now : Us}
    (h : f.bindPhoto snapshot photoId bindingId source again now = some f') :
    f' = { f with bindings := f'.bindings } := by
  unfold bindPhoto at h
  split at h
  · cases h
    rfl
  · obtain ⟨bindings, _, rfl⟩ := Option.map_eq_some_iff.mp h
    rfl

/-- A receipt stays in the tables. -/
def ConformanceKept (f f' : FlickrTables) : Prop :=
  ∀ digest receipt, f.conformance.find? digest = some receipt →
    f'.conformance.find? digest = some receipt

theorem ConformanceKept.of_eq (h : f'.conformance = f.conformance) : ConformanceKept f f' := by
  intro digest receipt hfind
  rw [h]
  exact hfind

theorem ConformanceKept.conforms (h : ConformanceKept f f') {artifact : Option String}
    (hconforms : f.conforms artifact) : f'.conforms artifact := by
  obtain ⟨digest, hdigest, receipt, hreceipt, hcontract⟩ := hconforms
  exact ⟨digest, hdigest, receipt, h digest receipt hreceipt, hcontract⟩

end FlickrTables

/-- The connection calls only stop writes, and keep the receipts. -/
theorem LifecycleCall.stop {db : Db} {call : LifecycleCall} {f' : FlickrTables}
    (h : db.flickr.gateLog.WellFormed) (hexec : call.exec db = some f') :
    ReflTransGen GateLog.Stop db.flickr.gateLog f'.gateLog ∧
      FlickrTables.ConformanceKept db.flickr f' := by
  cases call with
  | provision userId ownerNsid userNow deploymentNow =>
      cases hexec
      obtain ⟨huser, huserRows⟩ := FlickrTables.ensureGate_stop
        { db.flickr with
          links := db.flickr.links.ensure ⟨userId, ownerNsid, 1, .paused⟩
          connections :=
            db.flickr.connections.ensure ⟨userId, .unlinked, .absent, none, false, none⟩ }
        (.user userId) userNow
      obtain ⟨hdeployment, hrows⟩ := FlickrTables.ensureGate_stop _ .deployment deploymentNow
      exact ⟨huser.trans hdeployment,
        FlickrTables.ConformanceKept.of_eq (hrows.conformance.trans huserRows.conformance)⟩
  | beginLifecycle =>
      obtain ⟨_, _, _, _, _, hstart⟩ := FlickrTables.beginLifecycle_operation hexec
      obtain ⟨hstop, hsame⟩ := FlickrTables.startOperation_stop h hstart
      exact ⟨hstop, FlickrTables.ConformanceKept.of_eq hsame⟩
  | dispatchLifecycle =>
      obtain ⟨operation, _, hexec⟩ := Option.bind_eq_some_iff.mp hexec
      split at hexec
      · cases hexec
        exact ⟨ReflTransGen.refl, FlickrTables.ConformanceKept.of_eq rfl⟩
      · cases hexec
  | markUncertain =>
      obtain ⟨operation, _, hexec⟩ := Option.bind_eq_some_iff.mp hexec
      split at hexec
      · cases hexec
        exact ⟨ReflTransGen.refl, FlickrTables.ConformanceKept.of_eq rfl⟩
      · cases hexec
  | reconcileLifecycle =>
      obtain ⟨operation, _, hexec⟩ := Option.bind_eq_some_iff.mp hexec
      split at hexec
      · cases hexec
        exact ⟨ReflTransGen.refl, FlickrTables.ConformanceKept.of_eq rfl⟩
      · cases hexec
  | rejectWorkerGrant =>
      simp only [LifecycleCall.exec, FlickrTables.rejectWorkerGrant] at hexec
      split at hexec
      · obtain ⟨hstop, hsame⟩ := FlickrTables.startOperation_stop h hexec
        exact ⟨hstop, FlickrTables.ConformanceKept.of_eq hsame⟩
      · cases hexec
  | rejectCurrentGrant =>
      simp only [LifecycleCall.exec, FlickrGroupAddr.rejectCurrentGrant] at hexec
      split at hexec
      · obtain ⟨hstop, hsame⟩ := FlickrTables.startOperation_stop h hexec
        exact ⟨hstop, FlickrTables.ConformanceKept.of_eq hsame⟩
      · cases hexec
  | commitBinding =>
      simp only [LifecycleCall.exec, FlickrGroupAddr.commitBinding] at hexec
      split at hexec
      · rw [FlickrTables.bindPhoto_frame hexec]
        exact ⟨ReflTransGen.refl, FlickrTables.ConformanceKept.of_eq rfl⟩
      · cases hexec
  | commitUpload =>
      simp only [LifecycleCall.exec, FlickrGroupAddr.commitUpload] at hexec
      split at hexec
      · rw [FlickrTables.bindPhoto_frame hexec]
        exact ⟨ReflTransGen.refl, FlickrTables.ConformanceKept.of_eq rfl⟩
      · cases hexec
  | operatorPause userId now =>
      cases hexec
      have hfirst : ReflTransGen GateLog.Stop db.flickr.gateLog
          (db.flickr.pauseGate .deployment none now.us).gateLog :=
        FlickrTables.pauseGate_stop h (by simp)
      have hmiddle := GateLog.stops_wellFormed hfirst h
      refine ⟨hfirst.trans (FlickrTables.pauseGate_stop hmiddle (by simp)), ?_⟩
      exact FlickrTables.ConformanceKept.of_eq
        ((FlickrTables.pauseGate_log hmiddle none).1.conformance.trans
          (FlickrTables.pauseGate_log h none).1.conformance)
  | recordConformance =>
      obtain ⟨conformance, hinsert, rfl⟩ := Option.map_eq_some_iff.mp hexec
      refine ⟨ReflTransGen.refl, ?_⟩
      intro digest receipt hfind
      refine (Table.find?_insert? hinsert digest).trans ((if_neg ?_).trans hfind)
      rintro rfl
      rw [(Table.insert?_eq_some hinsert).1] at hfind
      cases hfind

/-- The write gates of the system. -/
def System.log (s : System) : GateLog := s.db.flickr.gateLog

namespace FlickrTables

variable {f f' : FlickrTables} {request : ResumeRequest} {linkRevision : Nat}
  {generation : Token} {now : ClockReading}

theorem commitResume_enable (h : f.gateLog.WellFormed)
    (hexec : f.commitResume request linkRevision generation now = some f') :
    GateLog.Enable request.key f.gateLog f'.gateLog ∧ SameRows f f' ∧
      ∃ gate, f.gates.find? request.key = some gate ∧
        (gate.revision : Int) = request.revision ∧ gate.enabled = false := by
  unfold commitResume at hexec
  split at hexec
  · next hguard =>
      obtain ⟨⟨gate, hgate, hrevision, hpaused⟩, _⟩ := hguard
      cases hexec
      obtain ⟨hlog, hrows⟩ := updateGate_log now h hgate true
      rw [hlog]
      exact ⟨GateLog.Enable.enable hgate hpaused, hrows, gate, hgate, hrevision, hpaused⟩
  · cases hexec

end FlickrTables

/-- What a committed `resumeWriteGate` found. -/
structure ResumeEffect (s : System) (callId : Token) (resumption : Resumption) (t : System) :
    Prop where
  found : s.resumptions.find? callId = some resumption
  phase : ∃ linkRevision generation, resumption.phase = .commit linkRevision generation
  enable : GateLog.Enable resumption.request.key s.log t.log
  gate : ∃ gate, s.db.flickr.gates.find? resumption.request.key = some gate ∧
    (gate.revision : Int) = resumption.request.revision ∧ gate.enabled = false
  rows : FlickrTables.SameRows s.db.flickr t.db.flickr
  queue : t.db.queue = s.db.queue
  resumptions : t.resumptions = s.resumptions.erase callId

theorem SystemCall.commitResume_effect {callId : Token} {now : ClockReading}
    (hwf : s.log.WellFormed) (h : (SystemCall.commitResume callId now).exec s = some t) :
    ∃ resumption, ResumeEffect s callId resumption t := by
  obtain ⟨resumption, hfind, h⟩ := Option.bind_eq_some_iff.mp h
  cases hphase : resumption.phase with
  | conformance =>
      rw [hphase] at h
      cases h
  | connection =>
      rw [hphase] at h
      cases h
  | commit linkRevision generation =>
      rw [hphase] at h
      obtain ⟨f, hexec, h⟩ := Option.bind_eq_some_iff.mp h
      cases h
      obtain ⟨henable, hrows, hgate⟩ := FlickrTables.commitResume_enable hwf hexec
      exact ⟨resumption, hfind, ⟨_, _, hphase⟩, henable, hgate, hrows, rfl, rfl⟩

/-- A step stops writes, or is the batch of a resumption. -/
theorem SystemStep.log_cases (hwf : s.log.WellFormed) (h : SystemStep s event t) :
    (ReflTransGen GateLog.Stop s.log t.log ∨
      ∃ callId now resumption, event = .commit (.commitResume callId now) ∧
        ResumeEffect s callId resumption t) ∧
    FlickrTables.ConformanceKept s.db.flickr t.db.flickr := by
  cases h with
  | @commit _ call hexec =>
      cases call with
      | queue call =>
          obtain ⟨db, hcall, rfl⟩ := Option.map_eq_some_iff.mp hexec
          rcases QueueCall.exec_flickr hcall with hsame | ⟨lease, attemptId, site, artifact, _, _,
            clock, _, hpause⟩
          · simp only [System.log, hsame]
            exact ⟨Or.inl ReflTransGen.refl, FlickrTables.ConformanceKept.of_eq rfl⟩
          · simp only [System.log, hpause]
            obtain ⟨hstop, hrows⟩ := FlickrTables.pauseFor_stop hwf s.db.queue lease attemptId
              site artifact clock.gate
            exact ⟨Or.inl hstop, FlickrTables.ConformanceKept.of_eq hrows.conformance⟩
      | lifecycle call =>
          obtain ⟨f, hcall, rfl⟩ := Option.map_eq_some_iff.mp hexec
          obtain ⟨hstop, hkept⟩ := LifecycleCall.stop hwf hcall
          exact ⟨Or.inl hstop, hkept⟩
      | startResume =>
          obtain ⟨_, _, hexec⟩ := Option.bind_eq_some_iff.mp hexec
          obtain ⟨_, _, hexec⟩ := Option.bind_eq_some_iff.mp hexec
          cases hexec
          exact ⟨Or.inl ReflTransGen.refl, FlickrTables.ConformanceKept.of_eq rfl⟩
      | advanceResume =>
          obtain ⟨_, _, hexec⟩ := Option.bind_eq_some_iff.mp hexec
          obtain ⟨_, _, hexec⟩ := Option.bind_eq_some_iff.mp hexec
          cases hexec
          exact ⟨Or.inl ReflTransGen.refl, FlickrTables.ConformanceKept.of_eq rfl⟩
      | commitResume callId now =>
          obtain ⟨resumption, heffect⟩ := SystemCall.commitResume_effect hwf hexec
          exact ⟨Or.inr ⟨callId, now, resumption, rfl, heffect⟩,
            FlickrTables.ConformanceKept.of_eq heffect.rows.conformance⟩
  | refuse => exact ⟨Or.inl ReflTransGen.refl, FlickrTables.ConformanceKept.of_eq rfl⟩
  | stop => exact ⟨Or.inl ReflTransGen.refl, FlickrTables.ConformanceKept.of_eq rfl⟩
  | outside _ hflickr _ =>
      simp only [System.log, hflickr]
      exact ⟨Or.inl ReflTransGen.refl, FlickrTables.ConformanceKept.of_eq rfl⟩

theorem SystemStep.wellFormed (hwf : s.log.WellFormed) (h : SystemStep s event t) :
    t.log.WellFormed := by
  rcases (h.log_cases hwf).1 with hstop | ⟨_, _, _, _, heffect⟩
  · exact GateLog.stops_wellFormed hstop hwf
  · exact heffect.enable.wellFormed hwf

theorem SystemReachable.wellFormed (h : SystemReachable s) : s.log.WellFormed := by
  have hinit : ∀ start : System, start = initialSystem → start.log.WellFormed := by
    rintro _ rfl
    exact GateLog.WellFormed.initially
  exact h.invariant hinit fun _ _ _ hwf hstep => hstep.wellFormed hwf

/-- A step moves the queue by queue steps. -/
theorem SystemStep.queue_steps (h : SystemStep s event t) :
    ReflTransGen QueueStep s.db.queue t.db.queue := by
  cases h with
  | @commit _ call hexec =>
      cases call with
      | queue call =>
          obtain ⟨db, hcall, rfl⟩ := Option.map_eq_some_iff.mp hexec
          exact QueueCall.steps hcall
      | lifecycle call =>
          obtain ⟨f, hcall, rfl⟩ := Option.map_eq_some_iff.mp hexec
          exact ReflTransGen.refl
      | startResume =>
          obtain ⟨_, _, hexec⟩ := Option.bind_eq_some_iff.mp hexec
          obtain ⟨_, _, hexec⟩ := Option.bind_eq_some_iff.mp hexec
          cases hexec
          exact ReflTransGen.refl
      | advanceResume =>
          obtain ⟨_, _, hexec⟩ := Option.bind_eq_some_iff.mp hexec
          obtain ⟨_, _, hexec⟩ := Option.bind_eq_some_iff.mp hexec
          cases hexec
          exact ReflTransGen.refl
      | commitResume callId now =>
          obtain ⟨resumption, _, hexec⟩ := Option.bind_eq_some_iff.mp hexec
          split at hexec
          · obtain ⟨_, _, hexec⟩ := Option.bind_eq_some_iff.mp hexec
            cases hexec
            exact ReflTransGen.refl
          · cases hexec
  | refuse => exact ReflTransGen.refl
  | stop => exact ReflTransGen.refl
  | outside hqueue _ _ => rw [hqueue]

theorem SystemReachable.queueInvariant (h : SystemReachable s) : QueueInvariant s.db.queue := by
  have hinit : ∀ start : System, start = initialSystem → QueueInvariant start.db.queue := by
    rintro _ rfl
    exact QueueInvariant.initially
  exact h.invariant hinit fun _ _ _ hinv hstep => hinv.steps hstep.queue_steps

/-- Where a resumption of the next state comes from. -/
inductive ResumptionOrigin (s : System) (event : SystemEvent) (resumption : Resumption) : Prop
  | kept : resumption ∈ s.resumptions → ResumptionOrigin s event resumption
  | started : event = .commit (.startResume resumption.callId resumption.request) →
      s.db.flickr.startResume resumption.request = some resumption.phase →
      ResumptionOrigin s event resumption
  | advanced {old : Resumption} : old ∈ s.resumptions → old.request = resumption.request →
      s.db.flickr.advanceResume old.request old.phase = some resumption.phase →
      ResumptionOrigin s event resumption

theorem SystemStep.resumption_origin (h : SystemStep s event t) {resumption : Resumption}
    (hmem : resumption ∈ t.resumptions) : ResumptionOrigin s event resumption := by
  cases h with
  | @commit _ call hexec =>
      cases call with
      | queue call =>
          obtain ⟨db, _, rfl⟩ := Option.map_eq_some_iff.mp hexec
          exact ResumptionOrigin.kept hmem
      | lifecycle call =>
          obtain ⟨f, _, rfl⟩ := Option.map_eq_some_iff.mp hexec
          exact ResumptionOrigin.kept hmem
      | startResume callId request =>
          obtain ⟨phase, hphase, hexec⟩ := Option.bind_eq_some_iff.mp hexec
          obtain ⟨resumptions, hinsert, hexec⟩ := Option.bind_eq_some_iff.mp hexec
          cases hexec
          rcases (Table.mem_insert? hinsert).mp hmem with hold | rfl
          · exact ResumptionOrigin.kept hold
          · exact ResumptionOrigin.started rfl hphase
      | advanceResume callId =>
          obtain ⟨old, hold, hexec⟩ := Option.bind_eq_some_iff.mp hexec
          obtain ⟨phase, hphase, hexec⟩ := Option.bind_eq_some_iff.mp hexec
          cases hexec
          have hfind := Table.find?_of_mem hmem
          simp only [Table.find?_modify] at hfind
          by_cases hkey : resumption.callId = callId
          · rw [if_pos hkey, hkey, hold] at hfind
            cases hfind
            exact ResumptionOrigin.advanced (Table.mem_of_find? hold) rfl hphase
          · rw [if_neg hkey] at hfind
            exact ResumptionOrigin.kept (Table.mem_of_find? hfind)
      | commitResume callId now =>
          obtain ⟨old, _, hexec⟩ := Option.bind_eq_some_iff.mp hexec
          split at hexec
          · obtain ⟨_, _, hexec⟩ := Option.bind_eq_some_iff.mp hexec
            cases hexec
            exact ResumptionOrigin.kept (Table.mem_erase.mp hmem).1
          · cases hexec
  | refuse => exact ResumptionOrigin.kept hmem
  | stop => exact ResumptionOrigin.kept (Table.mem_erase.mp hmem).1
  | outside _ _ hresumptions =>
      rw [hresumptions] at hmem
      exact ResumptionOrigin.kept hmem

/-! ## A small system -/

namespace Sample

def operation : Token := ⟨"replace-1", Eq.refl true⟩
def generation : Token := ⟨"generation-1", Eq.refl true⟩
def userCall : Token := ⟨"resume-user", Eq.refl true⟩
def deploymentCall : Token := ⟨"resume-deployment", Eq.refl true⟩

/-- The plug-in is installed; nobody has logged in. -/
def installed : System where
  db := { emptyDb with installations := db.installations, versions := db.versions }
  resumptions := .empty

theorem installed_step : SystemStep initialSystem .outside installed :=
  SystemStep.outside rfl rfl rfl

theorem installed_reachable : SystemReachable installed :=
  ⟨initialSystem, [⟨initialSystem, .outside, installed⟩], rfl, Run.single installed_step⟩

/-- Replace the credential under the link revision that is current. -/
def replace (operationId generation : Token) (revision : Int) : List SystemCall :=
  [.lifecycle (.beginLifecycle user revision .replace operationId generation (clock 1)),
    .lifecycle (.dispatchLifecycle operationId),
    .lifecycle (.reconcileLifecycle operationId .write (clock 1))]

/-- A whole call of `resumeWriteGate` without a protocol-shaped cause. -/
def resume (callId : Token) (scope : PauseScope) (revision : Int) : List SystemCall :=
  [.startResume callId ⟨user, scope, revision, none⟩, .advanceResume callId,
    .commitResume callId (clock 2)]

/-- The user logs in, links an account, binds a photo and enables both gates. -/
def connected : List SystemCall :=
  [.lifecycle (.provision user "12345@N00" (clock 0) (clock 0))] ++
    replace operation generation 1 ++
    [.lifecycle (.commitBinding ⟨installation, "digest-1"⟩ ⟨user, "12345@N00", 3, generation⟩ photo
      binding (clock 1))] ++
    resume userCall .user 1 ++ resume deploymentCall .deployment 1

end Sample

end FlickrGroupAddr

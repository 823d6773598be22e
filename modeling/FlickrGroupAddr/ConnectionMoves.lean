import FlickrGroupAddr.ResumeWriteGate

/-!
# The moves of a connection

Whatever the system does, the link, the connection state, the credential and the
operations of a user move together: a login provisions them, an operation starts, is
dispatched, becomes uncertain or completes.  `ConnectionMove` lists these moves, and
`ConnectionInvariant` is what they preserve.
-/

namespace FlickrGroupAddr

set_option autoImplicit false

open KeyedTable Transition Relation

namespace FlickrTables

/-- The link, the connection state, the credentials and the operations are the same. -/
structure SameConnection (f f' : FlickrTables) : Prop where
  links : f'.links = f.links
  connections : f'.connections = f.connections
  credentials : f'.credentials = f.credentials
  operations : f'.operations = f.operations

theorem SameRows.connection {f f' : FlickrTables} (h : SameRows f f') : SameConnection f f' :=
  ⟨h.links, h.connections, h.credentials, h.operations⟩

/-- An operation of a user without an incomplete one started under the link revision
it expects. -/
structure Started (f : FlickrTables) (operation : LifecycleOperation) (f' : FlickrTables) :
    Prop where
  prepared : operation.phase = .prepared
  expected : ∃ link, f.links.find? operation.userId = some link ∧
    link.linkRevision = operation.expectedRevision
  free : ∀ other ∈ f.operations, other.userId = operation.userId → other.phase = .complete
  inserted : f.operations.insert? operation = some f'.operations
  links : f'.links = (f.moveLink operation.userId .paused).links
  connection : ∃ connection, f'.connections.find? operation.userId = some connection ∧
    connection.operationId = some operation.operationId
  credential : ∀ credential, f'.credentials.find? operation.userId = some credential →
    credential.operationId = some operation.operationId
  others : ∀ userId, userId ≠ operation.userId →
    f'.connections.find? userId = f.connections.find? userId ∧
    f'.credentials.find? userId = f.credentials.find? userId
  paused : ∀ gate, f'.gates.find? (.user operation.userId) = some gate → gate.enabled = false

/-- The link state an operation leaves. -/
def completedState (operation : LifecycleOperation) : LinkState :=
  match operation.kind with
  | .replace => .linked
  | .retire => if operation.preserveRelink then .paused else .disconnected

/-- A dispatched operation completed. -/
structure Completed (f : FlickrTables) (operation : LifecycleOperation) (f' : FlickrTables) :
    Prop where
  found : f.operations.find? operation.operationId = some operation
  phase : operation.phase = .dispatched ∨ operation.phase = .repairRequired
  pausedFor : f.pausedFor operation
  operations : f'.operations = (f.setPhase operation.operationId .complete).operations
  links : f'.links = (f.moveLink operation.userId (completedState operation)).links
  activated : operation.kind = .replace → ∀ link, f'.links.find? operation.userId = some link →
    ∃ credential, f'.credentials.find? operation.userId = some credential ∧
      credential.activeGeneration = operation.generation ∧
      credential.linkRevision = link.linkRevision ∧ credential.operationId = none
  others : ∀ userId, userId ≠ operation.userId →
    f'.connections.find? userId = f.connections.find? userId ∧
    f'.credentials.find? userId = f.credentials.find? userId

/-- What a step of the system does to the connections, and the operation it completes. -/
inductive ConnectionMove (f f' : FlickrTables) : Option Token → Prop
  | kept : SameConnection f f' → ConnectionMove f f' none
  | provisioned {userId : Token} {ownerNsid : String} :
      f'.links = f.links.ensure ⟨userId, ownerNsid, 1, .paused⟩ →
      f'.connections = f.connections.ensure ⟨userId, .unlinked, .absent, none, false, none⟩ →
      f'.credentials = f.credentials → f'.operations = f.operations → ConnectionMove f f' none
  | started {operation : LifecycleOperation} : Started f operation f' → ConnectionMove f f' none
  | dispatched {operation : LifecycleOperation} :
      f.operations.find? operation.operationId = some operation → operation.phase = .prepared →
      f' = f.setPhase operation.operationId .dispatched → ConnectionMove f f' none
  | uncertain {operation : LifecycleOperation} :
      f.operations.find? operation.operationId = some operation → operation.phase = .dispatched →
      f'.operations = (f.setPhase operation.operationId .repairRequired).operations →
      f'.links = f.links → f'.credentials = f.credentials →
      (∀ userId, (f'.connections.find? userId).map FlickrConnectionState.operationId =
        (f.connections.find? userId).map FlickrConnectionState.operationId) →
      ConnectionMove f f' none
  | completed {operation : LifecycleOperation} : Completed f operation f' →
      ConnectionMove f f' (some operation.operationId)

/-- No gate is enabled that was not. -/
def NoneEnabled (f f' : FlickrTables) : Prop :=
  ∀ key gate, f'.gates.find? key = some gate → gate.enabled = true →
    ∃ old, f.gates.find? key = some old ∧ old.enabled = true

theorem NoneEnabled.of_eq {f f' : FlickrTables} (h : f'.gates = f.gates) : NoneEnabled f f' := by
  intro key gate hgate henabled
  rw [h] at hgate
  exact ⟨gate, hgate, henabled⟩

end FlickrTables

theorem GateLog.Stop.noneEnabled {g g' : GateLog} (h : GateLog.Stop g g') {key : GateKey}
    {gate : WriteGate} (hgate : g'.gates.find? key = some gate) (henabled : gate.enabled = true) :
    ∃ old, g.gates.find? key = some old ∧ old.enabled = true := by
  cases h with
  | @observe observed _ _ hinsert =>
      rw [Table.find?_insert? hinsert] at hgate
      by_cases hkey : key = observed
      · rw [if_pos hkey] at hgate
        cases hgate
        cases henabled
      · rw [if_neg hkey] at hgate
        exact ⟨gate, hgate, henabled⟩
  | @pause paused _ _ hfind _ _ =>
      rw [GateLog.find?_move] at hgate
      by_cases hkey : key = paused.key
      · subst hkey
        rw [if_pos rfl, hfind] at hgate
        cases hgate
        cases henabled
      · rw [if_neg hkey] at hgate
        exact ⟨gate, hgate, henabled⟩

theorem GateLog.stops_noneEnabled {f f' : FlickrTables}
    (h : ReflTransGen GateLog.Stop f.gateLog f'.gateLog) : FlickrTables.NoneEnabled f f' := by
  have hback : ∀ {g g' : GateLog}, ReflTransGen GateLog.Stop g g' → ∀ key gate,
      g'.gates.find? key = some gate → gate.enabled = true →
      ∃ old, g.gates.find? key = some old ∧ old.enabled = true := by
    intro g g' hmoves
    induction hmoves with
    | refl =>
        intro key gate hgate henabled
        exact ⟨gate, hgate, henabled⟩
    | tail _ hlast ih =>
        intro key gate hgate henabled
        obtain ⟨middle, hmiddle, hmiddleEnabled⟩ := hlast.noneEnabled hgate henabled
        exact ih key middle hmiddle hmiddleEnabled
  exact hback h

/-! ## The calls -/

namespace FlickrTables

variable {f f' : FlickrTables} {operation : LifecycleOperation} {now : ClockReading}

/-- A gate that was paused is paused. -/
theorem pauseGate_disabled (h : f.gateLog.WellFormed) {key : GateKey} {gate : WriteGate}
    (hgate : (f.pauseGate key none now.us).gates.find? key = some gate) : gate.enabled = false := by
  have hlog : (f.pauseGate key none now.us).gateLog.gates.find? key = some gate := hgate
  rcases (@pauseGate_log f key now h none).2 with ⟨hsame, hdisabled⟩ | ⟨old, hold, _, hmove⟩
  · rw [hsame] at hlog
    exact hdisabled gate hlog
  · have hkey := Table.key_of_find? hold
    rw [hmove, GateLog.find?_move, if_pos hkey.symm] at hlog
    obtain ⟨before, _, rfl⟩ := Option.map_eq_some_iff.mp hlog
    rfl

theorem insertOperation_effect {started : FlickrTables}
    (h : f.insertOperation operation = some started) :
    (∀ other ∈ f.operations, other.userId = operation.userId → other.phase = .complete) ∧
      ∃ operations, f.operations.insert? operation = some operations ∧
        started = { f with operations := operations } := by
  unfold insertOperation at h
  split at h
  · next hchecks =>
      obtain ⟨operations, hinsert, rfl⟩ := Option.map_eq_some_iff.mp h
      exact ⟨hchecks.2.2, operations, hinsert, rfl⟩
  · cases h

theorem startOperation_started (h : f.gateLog.WellFormed) {state : ConnectionStatus}
    {localState : LocalCredentialState} {externalRemoval : Bool}
    (hexec : f.startOperation operation state localState externalRemoval now.us = some f')
    (hprepared : operation.phase = .prepared)
    (hexpected : ∃ link, f.links.find? operation.userId = some link ∧
      link.linkRevision = operation.expectedRevision)
    (hconnection : ∃ connection, f.connections.find? operation.userId = some connection) :
    Started f operation f' := by
  obtain ⟨started, hstarted, rfl⟩ := Option.map_eq_some_iff.mp hexec
  obtain ⟨hfree, operations, hinsert, rfl⟩ := insertOperation_effect hstarted
  have hrows := (@pauseGate_log (attachOperation (moveLink { f with operations := operations }
    operation.userId .paused) operation.userId operation.operationId state localState
      externalRemoval) (.user operation.userId) now h none).1
  refine ⟨hprepared, hexpected, hfree, ?_, ?_, ?_, ?_, ?_, ?_⟩
  · rw [hrows.operations]
    exact hinsert
  · rw [hrows.links]
    rfl
  · obtain ⟨connection, hfind⟩ := hconnection
    rw [hrows.connections]
    have hnamed := Table.find?_modify_eq f.connections operation.userId
      (fun connection => { connection with
        state := state
        localState := localState
        operationId := some operation.operationId
        externalRemoval := externalRemoval }) operation.userId
    rw [if_pos rfl, hfind] at hnamed
    exact ⟨_, hnamed, rfl⟩
  · intro credential hcredential
    rw [hrows.credentials] at hcredential
    have hmodified := (Table.find?_modify_eq _ _ _ _).symm.trans hcredential
    rw [if_pos rfl] at hmodified
    obtain ⟨old, _, rfl⟩ := Option.map_eq_some_iff.mp hmodified
    rfl
  · intro userId hne
    rw [hrows.connections, hrows.credentials]
    exact ⟨(Table.find?_modify_eq _ _ _ _).trans (if_neg hne),
      (Table.find?_modify_eq _ _ _ _).trans (if_neg hne)⟩
  · intro gate hgate
    exact @pauseGate_disabled (attachOperation (moveLink { f with operations := operations }
      operation.userId .paused) operation.userId operation.operationId state localState
        externalRemoval) now h _ gate hgate

theorem beginLifecycle_started (h : f.gateLog.WellFormed) {userId : Token} {revision : Int}
    {kind : LifecycleKind} {operationId generation : Token}
    (hexec : f.beginLifecycle userId revision kind operationId generation now.us = some f') :
    ∃ operation, operation.operationId = operationId ∧ operation.userId = userId ∧
      Started f operation f' := by
  unfold beginLifecycle at hexec
  split at hexec
  · next hguard =>
      obtain ⟨_, ⟨link, hlink, hrevision⟩, ⟨connection, hconnection, _⟩, _⟩ := hguard
      have hexpected : ∃ link, f.links.find? userId = some link ∧
          link.linkRevision = revision.toNat := ⟨link, hlink, by omega⟩
      cases kind with
      | replace =>
          exact ⟨_, rfl, rfl,
            startOperation_started h hexec rfl hexpected ⟨connection, hconnection⟩⟩
      | retire =>
          exact ⟨_, rfl, rfl,
            startOperation_started h hexec rfl hexpected ⟨connection, hconnection⟩⟩
  · cases hexec

theorem rejectGrant_started (h : f.gateLog.WellFormed) {snapshot : GrantSnapshot}
    {operationId generation : Token} (hheld : f.grantHeld snapshot)
    (hexec : f.rejectGrant snapshot operationId generation now.us = some f') :
    ∃ operation, operation.operationId = operationId ∧ operation.userId = snapshot.userId ∧
      Started f operation f' := by
  obtain ⟨⟨link, hlink, _, hrevision⟩, _, connection, hconnection, _⟩ := hheld
  exact ⟨_, rfl, rfl,
    startOperation_started h hexec rfl ⟨link, hlink, hrevision⟩ ⟨connection, hconnection⟩⟩

theorem dispatchLifecycle_effect {operationId : Token}
    (h : f.dispatchLifecycle operationId = some f') :
    ∃ operation, f.operations.find? operationId = some operation ∧ operation.phase = .prepared ∧
      f' = f.setPhase operationId .dispatched := by
  obtain ⟨operation, hfind, h⟩ := Option.bind_eq_some_iff.mp h
  split at h
  · next hguard =>
      cases h
      exact ⟨operation, hfind, by simpa using hguard.1.1, rfl⟩
  · cases h

theorem markUncertain_effect {operationId : Token} (h : f.markUncertain operationId = some f') :
    ∃ operation, f.operations.find? operationId = some operation ∧
      operation.phase = .dispatched ∧
      f'.operations = (f.setPhase operationId .repairRequired).operations ∧
      f'.links = f.links ∧ f'.credentials = f.credentials ∧ f'.gateLog = f.gateLog ∧
      ∀ userId, (f'.connections.find? userId).map FlickrConnectionState.operationId =
        (f.connections.find? userId).map FlickrConnectionState.operationId := by
  obtain ⟨operation, hfind, h⟩ := Option.bind_eq_some_iff.mp h
  split at h
  · next hguard =>
      cases h
      refine ⟨operation, hfind, by simpa using hguard.1, rfl, rfl, rfl, rfl, ?_⟩
      intro userId
      exact Table.map_find?_modifyWhere _ _ _ userId
  · cases h

/-- A completed operation leaves the credentials of the other users. -/
theorem find?_activate_other {permission : Permission} {userId : Token}
    (hne : userId ≠ operation.userId) :
    (f.activate operation permission).credentials.find? userId = f.credentials.find? userId := by
  have herased : (f.credentials.erase operation.userId).find? userId =
      f.credentials.find? userId := by
    rw [Table.find?_erase, if_neg hne]
  simp only [activate]
  split
  · rw [Table.find?_ensure, if_neg hne, herased]
  · exact herased

theorem reconcileLifecycle_effect {operationId : Token} {permission : Permission} {us : Us}
    (h : f.reconcileLifecycle operationId permission us = some f') :
    ∃ operation, operation.operationId = operationId ∧ Completed f operation f' ∧
      f'.gateLog = f.gateLog ∧
      ∀ connection, f'.connections.find? operation.userId = some connection →
        connection.operationId = none := by
  obtain ⟨operation, hfind, h⟩ := Option.bind_eq_some_iff.mp h
  have hid := Table.key_of_find? hfind
  subst hid
  split at h
  · next hguard =>
      obtain ⟨⟨hphase, _⟩, hpaused⟩ := hguard
      cases h
      refine ⟨operation, rfl, ⟨hfind, by simpa using hphase, hpaused, rfl, rfl, ?_, ?_⟩, rfl, ?_⟩
      · intro hkind link hlink
        have hlink : (f.moveLink operation.userId (completedState operation)).links.find?
            operation.userId = some link := hlink
        refine ⟨⟨operation.userId, operation.generation, link.linkRevision, link.ownerNsid,
          permission, none⟩, ?_, rfl, rfl, rfl⟩
        simp only [activate, setPhase, hkind]
        unfold completedState at hlink
        rw [hkind] at hlink
        simp only [hlink]
        rw [Table.find?_ensure, if_pos rfl, Table.find?_erase, if_pos rfl]
        rfl
      · intro userId hne
        refine ⟨(Table.find?_modify_eq _ _ _ _).trans (if_neg hne), ?_⟩
        exact find?_activate_other hne
      · intro connection hconnection
        have hmodified := (Table.find?_modify_eq _ _ _ _).symm.trans hconnection
        rw [if_pos rfl] at hmodified
        obtain ⟨old, _, rfl⟩ := Option.map_eq_some_iff.mp hmodified
        rfl
  · cases h

end FlickrTables

/-- The operation a call completes. -/
def LifecycleCall.completes : LifecycleCall → Option Token
  | .reconcileLifecycle operationId _ _ => some operationId
  | _ => none

/-- The operation a step completes. -/
def SystemEvent.completes : SystemEvent → Option Token
  | .commit (.lifecycle call) => call.completes
  | _ => none

theorem LifecycleCall.connectionMove {db : Db} {call : LifecycleCall} {f' : FlickrTables}
    (h : db.flickr.gateLog.WellFormed) (hexec : call.exec db = some f') :
    FlickrTables.ConnectionMove db.flickr f' call.completes := by
  cases call with
  | provision userId ownerNsid userNow deploymentNow =>
      cases hexec
      obtain ⟨_, huserRows⟩ := FlickrTables.ensureGate_stop
        { db.flickr with
          links := db.flickr.links.ensure ⟨userId, ownerNsid, 1, .paused⟩
          connections :=
            db.flickr.connections.ensure ⟨userId, .unlinked, .absent, none, false, none⟩ }
        (.user userId) userNow
      obtain ⟨_, hrows⟩ := FlickrTables.ensureGate_stop _ .deployment deploymentNow
      exact .provisioned (hrows.links.trans huserRows.links)
        (hrows.connections.trans huserRows.connections)
        (hrows.credentials.trans huserRows.credentials)
        (hrows.operations.trans huserRows.operations)
  | beginLifecycle =>
      obtain ⟨_, _, _, hstarted⟩ := FlickrTables.beginLifecycle_started h hexec
      exact .started hstarted
  | dispatchLifecycle =>
      obtain ⟨operation, hfind, hphase, rfl⟩ := FlickrTables.dispatchLifecycle_effect hexec
      have hid := Table.key_of_find? hfind
      subst hid
      exact .dispatched hfind hphase rfl
  | markUncertain =>
      obtain ⟨operation, hfind, hphase, hoperations, hlinks, hcredentials, _, hconnections⟩ :=
        FlickrTables.markUncertain_effect hexec
      have hid := Table.key_of_find? hfind
      subst hid
      exact .uncertain hfind hphase hoperations hlinks hcredentials hconnections
  | reconcileLifecycle =>
      obtain ⟨_, rfl, hcompleted, _⟩ := FlickrTables.reconcileLifecycle_effect hexec
      exact .completed hcompleted
  | rejectWorkerGrant =>
      simp only [LifecycleCall.exec, FlickrTables.rejectWorkerGrant] at hexec
      split at hexec
      · next hheld =>
          obtain ⟨_, _, _, hstarted⟩ := FlickrTables.rejectGrant_started h hheld hexec
          exact .started hstarted
      · cases hexec
  | rejectCurrentGrant =>
      simp only [LifecycleCall.exec, FlickrGroupAddr.rejectCurrentGrant] at hexec
      split at hexec
      · next hheld =>
          obtain ⟨_, _, _, hstarted⟩ := FlickrTables.rejectGrant_started h hheld.2 hexec
          exact .started hstarted
      · cases hexec
  | commitBinding =>
      simp only [LifecycleCall.exec, FlickrGroupAddr.commitBinding] at hexec
      split at hexec
      · rw [FlickrTables.bindPhoto_frame hexec]
        exact .kept ⟨rfl, rfl, rfl, rfl⟩
      · cases hexec
  | commitUpload =>
      simp only [LifecycleCall.exec, FlickrGroupAddr.commitUpload] at hexec
      split at hexec
      · rw [FlickrTables.bindPhoto_frame hexec]
        exact .kept ⟨rfl, rfl, rfl, rfl⟩
      · cases hexec
  | operatorPause userId now =>
      cases hexec
      have hfirst : ReflTransGen GateLog.Stop db.flickr.gateLog
          (db.flickr.pauseGate .deployment none now.us).gateLog :=
        FlickrTables.pauseGate_stop h (by simp)
      have hmiddle := GateLog.stops_wellFormed hfirst h
      exact .kept ((FlickrTables.pauseGate_log h none).1.trans
        (FlickrTables.pauseGate_log hmiddle none).1).connection
  | recordConformance =>
      obtain ⟨_, _, rfl⟩ := Option.map_eq_some_iff.mp hexec
      exact .kept ⟨rfl, rfl, rfl, rfl⟩

variable {s t : System} {event : SystemEvent}

/-- The queue writes no connection, and enables no gate. -/
theorem QueueCall.connection_kept {db db' : Db} {call : QueueCall}
    (h : db.flickr.gateLog.WellFormed) (hexec : call.exec db = some db') :
    FlickrTables.SameConnection db.flickr db'.flickr ∧
      FlickrTables.NoneEnabled db.flickr db'.flickr := by
  rcases QueueCall.exec_flickr hexec with hsame | ⟨lease, attemptId, site, artifact, _, _, clock,
    _, hpause⟩
  · rw [hsame]
    exact ⟨⟨rfl, rfl, rfl, rfl⟩, FlickrTables.NoneEnabled.of_eq rfl⟩
  · rw [hpause]
    obtain ⟨hstop, hrows⟩ := FlickrTables.pauseFor_stop h db.queue lease attemptId site artifact
      clock.gate
    exact ⟨hrows.connection, GateLog.stops_noneEnabled hstop⟩

theorem SystemStep.connectionMove (hwf : s.log.WellFormed) (h : SystemStep s event t) :
    FlickrTables.ConnectionMove s.db.flickr t.db.flickr event.completes := by
  cases h with
  | @commit _ call hexec =>
      cases call with
      | queue call =>
          obtain ⟨db, hcall, rfl⟩ := Option.map_eq_some_iff.mp hexec
          exact .kept (QueueCall.connection_kept hwf hcall).1
      | lifecycle call =>
          obtain ⟨f, hcall, rfl⟩ := Option.map_eq_some_iff.mp hexec
          exact LifecycleCall.connectionMove hwf hcall
      | startResume =>
          obtain ⟨_, _, hexec⟩ := Option.bind_eq_some_iff.mp hexec
          obtain ⟨_, _, hexec⟩ := Option.bind_eq_some_iff.mp hexec
          cases hexec
          exact .kept ⟨rfl, rfl, rfl, rfl⟩
      | advanceResume =>
          obtain ⟨_, _, hexec⟩ := Option.bind_eq_some_iff.mp hexec
          obtain ⟨_, _, hexec⟩ := Option.bind_eq_some_iff.mp hexec
          cases hexec
          exact .kept ⟨rfl, rfl, rfl, rfl⟩
      | commitResume =>
          obtain ⟨_, heffect⟩ := SystemCall.commitResume_effect hwf hexec
          exact .kept heffect.rows.connection
  | refuse => exact .kept ⟨rfl, rfl, rfl, rfl⟩
  | stop => exact .kept ⟨rfl, rfl, rfl, rfl⟩
  | outside _ hflickr _ =>
      rw [hflickr]
      exact .kept ⟨rfl, rfl, rfl, rfl⟩

/-- A step enables a gate only for a connected user. -/
theorem SystemStep.enables (hwf : s.log.WellFormed) (h : SystemStep s event t) {key : GateKey}
    {gate : WriteGate} (hgate : t.db.flickr.gates.find? key = some gate)
    (henabled : gate.enabled = true) :
    (∃ old, s.db.flickr.gates.find? key = some old ∧ old.enabled = true) ∨
      ∃ request : ResumeRequest, key = request.key ∧
        (s.db.flickr.connected request.userId).isSome := by
  rcases (h.log_cases hwf).1 with hstop | ⟨callId, now, resumption, rfl, heffect⟩
  · exact Or.inl (GateLog.stops_noneEnabled hstop key gate hgate henabled)
  · by_cases hkey : key = resumption.request.key
    · right
      refine ⟨resumption.request, hkey, ?_⟩
      cases h with
      | commit hexec =>
          obtain ⟨found, hfind, hexec⟩ := Option.bind_eq_some_iff.mp hexec
          obtain ⟨linkRevision, generation, hphase⟩ := heffect.phase
          rw [heffect.found] at hfind
          cases hfind
          rw [hphase] at hexec
          obtain ⟨_, hcommit, _⟩ := Option.bind_eq_some_iff.mp hexec
          unfold FlickrTables.commitResume at hcommit
          split at hcommit
          · next hguard =>
              obtain ⟨_, current, hcurrent, _⟩ := hguard
              exact Option.isSome_of_mem hcurrent
          · cases hcommit
    · left
      have hsame := heffect.enable.kept hkey
      exact ⟨gate, hsame.symm.trans hgate, henabled⟩

/-! ## Open operations -/

namespace FlickrTables

/-- The user has this incomplete operation. -/
def OpenFor (f : FlickrTables) (userId operationId : Token) : Prop :=
  ∃ operation, f.operations.find? operationId = some operation ∧
    operation.userId = userId ∧ operation.phase ≠ .complete

variable {f f' : FlickrTables} {operation : LifecycleOperation} {userId operationId : Token}

theorem find?_setPhase (f : FlickrTables) (changed : Token) (phase : LifecyclePhase)
    (operationId : Token) :
    (f.setPhase changed phase).operations.find? operationId =
      if operationId = changed then (f.operations.find? operationId).map fun operation =>
        { operation with phase := phase }
      else f.operations.find? operationId :=
  Table.find?_modify_eq _ _ _ _

/-- The next phase of an incomplete operation opens nothing. -/
theorem openFor_setPhase {phase : LifecyclePhase}
    (hfind : f.operations.find? operation.operationId = some operation)
    (hopen : operation.phase ≠ .complete)
    (hoperations : f'.operations = (f.setPhase operation.operationId phase).operations)
    (h : f'.OpenFor userId operationId) : f.OpenFor userId operationId := by
  obtain ⟨found, hfound, huser, hphase⟩ := h
  rw [hoperations, find?_setPhase] at hfound
  by_cases hid : operationId = operation.operationId
  · subst hid
    rw [if_pos rfl, hfind] at hfound
    cases hfound
    exact ⟨operation, hfind, huser, hopen⟩
  · rw [if_neg hid] at hfound
    exact ⟨found, hfound, huser, hphase⟩

theorem Started.openFor_cases (h : Started f operation f') (hopen : f'.OpenFor userId operationId) :
    (f.OpenFor userId operationId ∧ userId ≠ operation.userId) ∨
      (userId = operation.userId ∧ operationId = operation.operationId) := by
  obtain ⟨found, hfound, huser, hphase⟩ := hopen
  rw [Table.find?_insert? h.inserted] at hfound
  by_cases hid : operationId = operation.operationId
  · right
    rw [if_pos hid] at hfound
    cases hfound
    exact ⟨huser.symm, hid⟩
  · left
    rw [if_neg hid] at hfound
    refine ⟨⟨found, hfound, huser, hphase⟩, ?_⟩
    intro hsame
    exact hphase (h.free found (Table.mem_of_find? hfound) (huser.trans hsame))

theorem Completed.open_before (h : Completed f operation f') :
    f.OpenFor operation.userId operation.operationId := by
  refine ⟨operation, h.found, rfl, ?_⟩
  intro hcomplete
  rcases h.phase with hphase | hphase <;> rw [hphase] at hcomplete <;> cases hcomplete

/-- What holds of the connections in every state. -/
structure ConnectionInvariant (f : FlickrTables) : Prop where
  single : ∀ userId left right, f.OpenFor userId left → f.OpenFor userId right → left = right
  connection : ∀ userId operationId, f.OpenFor userId operationId →
    ∃ connection, f.connections.find? userId = some connection ∧
      connection.operationId = some operationId
  credential : ∀ userId operationId, f.OpenFor userId operationId → ∀ credential,
    f.credentials.find? userId = some credential → credential.operationId = some operationId
  paused : ∀ userId operationId, f.OpenFor userId operationId → ∀ gate,
    f.gates.find? (.user userId) = some gate → gate.enabled = false

/-- An invariant for tables without a new open operation. -/
theorem ConnectionInvariant.keep (h : ConnectionInvariant f)
    (hopen : ∀ userId operationId, f'.OpenFor userId operationId → f.OpenFor userId operationId)
    (hconnection : ∀ userId operationId, f'.OpenFor userId operationId →
      (f'.connections.find? userId).map FlickrConnectionState.operationId =
        (f.connections.find? userId).map FlickrConnectionState.operationId)
    (hcredential : ∀ userId operationId, f'.OpenFor userId operationId →
      f'.credentials.find? userId = f.credentials.find? userId)
    (hgates : ∀ userId operationId, f'.OpenFor userId operationId → ∀ gate,
      f'.gates.find? (.user userId) = some gate → gate.enabled = false) :
    ConnectionInvariant f' := by
  refine ⟨?_, ?_, ?_, hgates⟩
  · intro userId left right hleft hright
    exact h.single userId left right (hopen userId left hleft) (hopen userId right hright)
  · intro userId operationId hother
    obtain ⟨connection, hfind, hnamed⟩ := h.connection userId operationId
      (hopen userId operationId hother)
    have hsame := hconnection userId operationId hother
    rw [hfind] at hsame
    obtain ⟨connection', hfind', hid⟩ := Option.map_eq_some_iff.mp hsame
    exact ⟨connection', hfind', hid.trans hnamed⟩
  · intro userId operationId hother credential hfind
    rw [hcredential userId operationId hother] at hfind
    exact h.credential userId operationId (hopen userId operationId hother) credential hfind

theorem ConnectionInvariant.step (h : ConnectionInvariant f) {completes : Option Token}
    (hmove : ConnectionMove f f' completes)
    (hgates : ∀ userId operationId, f.OpenFor userId operationId → ∀ gate,
      f'.gates.find? (.user userId) = some gate → gate.enabled = false) :
    ConnectionInvariant f' := by
  cases hmove with
  | kept hsame =>
      have hopen : ∀ userId operationId, f'.OpenFor userId operationId →
          f.OpenFor userId operationId := by
        intro userId operationId hother
        unfold OpenFor at hother ⊢
        rwa [hsame.operations] at hother
      apply h.keep hopen
      · intro userId _ _
        rw [hsame.connections]
      · intro userId _ _
        rw [hsame.credentials]
      · intro userId operationId hother
        exact hgates userId operationId (hopen userId operationId hother)
  | @provisioned provisionedId _ _ hconnections hcredentials hoperations =>
      have hopen : ∀ userId operationId, f'.OpenFor userId operationId →
          f.OpenFor userId operationId := by
        intro userId operationId hother
        unfold OpenFor at hother ⊢
        rwa [hoperations] at hother
      apply h.keep hopen
      · intro userId operationId hother
        obtain ⟨connection, hfind, _⟩ := h.connection userId operationId
          (hopen userId operationId hother)
        rw [hconnections, Table.find?_ensure, hfind]
        by_cases hid : userId = provisionedId
        · rw [if_pos hid]
          rfl
        · rw [if_neg hid]
      · intro userId _ _
        rw [hcredentials]
      · intro userId operationId hother
        exact hgates userId operationId (hopen userId operationId hother)
  | @started operation hstarted =>
      refine ⟨?_, ?_, ?_, ?_⟩
      · intro userId left right hleft hright
        rcases hstarted.openFor_cases hleft with ⟨hleft, hne⟩ | ⟨huser, rfl⟩
        · rcases hstarted.openFor_cases hright with ⟨hright, _⟩ | ⟨hsame, _⟩
          · exact h.single userId left right hleft hright
          · exact absurd hsame hne
        · rcases hstarted.openFor_cases hright with ⟨_, hne⟩ | ⟨_, rfl⟩
          · exact absurd huser hne
          · rfl
      · intro userId operationId hother
        rcases hstarted.openFor_cases hother with ⟨hother, hne⟩ | ⟨rfl, rfl⟩
        · rw [(hstarted.others userId hne).1]
          exact h.connection userId operationId hother
        · exact hstarted.connection
      · intro userId operationId hother credential hfind
        rcases hstarted.openFor_cases hother with ⟨hother, hne⟩ | ⟨rfl, rfl⟩
        · rw [(hstarted.others userId hne).2] at hfind
          exact h.credential userId operationId hother credential hfind
        · exact hstarted.credential credential hfind
      · intro userId operationId hother gate hgate
        rcases hstarted.openFor_cases hother with ⟨hother, _⟩ | ⟨rfl, rfl⟩
        · exact hgates userId operationId hother gate hgate
        · exact hstarted.paused gate hgate
  | @dispatched operation hfind hphase hf' =>
      have hopen : ∀ userId operationId, f'.OpenFor userId operationId →
          f.OpenFor userId operationId := by
        intro userId operationId
        apply openFor_setPhase hfind (by simp [hphase])
        rw [hf']
      apply h.keep hopen
      · intro userId _ _
        rw [hf']
        rfl
      · intro userId _ _
        rw [hf']
        rfl
      · intro userId operationId hother
        exact hgates userId operationId (hopen userId operationId hother)
  | @uncertain operation hfind hphase hoperations _ hcredentials hconnections =>
      have hopen : ∀ userId operationId, f'.OpenFor userId operationId →
          f.OpenFor userId operationId := by
        intro userId operationId
        exact openFor_setPhase hfind (by simp [hphase]) hoperations
      apply h.keep hopen
      · intro userId _ _
        exact hconnections userId
      · intro userId _ _
        rw [hcredentials]
      · intro userId operationId hother
        exact hgates userId operationId (hopen userId operationId hother)
  | @completed operation hcompleted =>
      have hbefore := hcompleted.open_before
      have hopen : ∀ userId operationId, f'.OpenFor userId operationId →
          f.OpenFor userId operationId ∧ userId ≠ operation.userId := by
        intro userId operationId hother
        have hold := openFor_setPhase hcompleted.found (by
          rcases hcompleted.phase with hphase | hphase <;> simp [hphase])
          hcompleted.operations hother
        refine ⟨hold, ?_⟩
        rintro rfl
        have hid := h.single _ _ _ hold hbefore
        subst hid
        obtain ⟨found, hfound, _, hphase⟩ := hother
        rw [hcompleted.operations, find?_setPhase, if_pos rfl, hcompleted.found] at hfound
        cases hfound
        exact hphase rfl
      apply h.keep fun userId operationId hother => (hopen userId operationId hother).1
      · intro userId operationId hother
        rw [(hcompleted.others userId (hopen userId operationId hother).2).1]
      · intro userId operationId hother
        exact (hcompleted.others userId (hopen userId operationId hother).2).2
      · intro userId operationId hother
        exact hgates userId operationId (hopen userId operationId hother).1

/-- A user with an open operation is not connected. -/
theorem ConnectionInvariant.not_connected (h : ConnectionInvariant f)
    (hopen : f.OpenFor userId operationId) : f.connected userId = none := by
  obtain ⟨connection, hfind, hnamed⟩ := h.connection userId operationId hopen
  cases hconnected : f.connected userId with
  | none => rfl
  | some current =>
      obtain ⟨link, _, hrest⟩ := Option.bind_eq_some_iff.mp hconnected
      obtain ⟨credential, _, hrest⟩ := Option.bind_eq_some_iff.mp hrest
      obtain ⟨other, hother, hrest⟩ := Option.bind_eq_some_iff.mp hrest
      rw [hfind] at hother
      cases hother
      split at hrest
      · next hguard =>
          rw [hnamed] at hguard
          exact absurd hguard.2.2.1 (by simp)
      · cases hrest

end FlickrTables

theorem SystemStep.connectionInvariant {s t : System} {event : SystemEvent}
    (hwf : s.log.WellFormed) (h : s.db.flickr.ConnectionInvariant)
    (hstep : SystemStep s event t) : t.db.flickr.ConnectionInvariant := by
  apply h.step (hstep.connectionMove hwf)
  intro userId operationId hopen gate hgate
  by_contra henabled
  have htrue : gate.enabled = true := by simpa using henabled
  rcases hstep.enables hwf hgate htrue with ⟨old, hold, holdEnabled⟩ | ⟨request, hkey, hconnected⟩
  · have hpaused := h.paused userId operationId hopen old hold
    rw [hpaused] at holdEnabled
    cases holdEnabled
  · obtain ⟨requester, scope, revision, artifact⟩ := request
    cases scope with
    | deployment => cases hkey
    | user =>
        cases hkey
        rw [h.not_connected hopen] at hconnected
        cases hconnected

theorem SystemReachable.connectionInvariant {s : System} (h : SystemReachable s) :
    s.log.WellFormed ∧ s.db.flickr.ConnectionInvariant := by
  have hinit : ∀ start : System, start = initialSystem →
      start.log.WellFormed ∧ start.db.flickr.ConnectionInvariant := by
    rintro _ rfl
    have hnone : ∀ userId operationId,
        ¬ initialSystem.db.flickr.OpenFor userId operationId := by
      rintro userId operationId ⟨operation, hfind, _⟩
      cases hfind
    refine ⟨GateLog.WellFormed.initially, ?_, ?_, ?_, ?_⟩
    · intro userId left right hleft
      exact absurd hleft (hnone userId left)
    · intro userId operationId hopen
      exact absurd hopen (hnone userId operationId)
    · intro userId operationId hopen
      exact absurd hopen (hnone userId operationId)
    · intro userId operationId hopen
      exact absurd hopen (hnone userId operationId)
  apply h.invariant hinit
  intro u event v hu hstep
  exact ⟨hstep.wellFormed hu.1, hstep.connectionInvariant hu.1 hu.2⟩

end FlickrGroupAddr

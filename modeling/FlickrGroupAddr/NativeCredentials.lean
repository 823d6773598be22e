import FlickrGroupAddr.ConnectionMoves
import FlickrGroupAddr.ProtocolPause
import FlickrGroupAddr.ClaimEligibility
import FlickrGroupAddr.Lib.Handoff

/-!
# Native credentials

A dispatcher of a lifecycle operation reads it, commits that it is dispatched, and
only then writes the payload with the secret writer.  Any number of dispatchers run
over the coordination system, and each can stop between any two of these steps.
-/

namespace FlickrGroupAddr

set_option autoImplicit false

open KeyedTable Transition Handoff

/-! ## Dispatchers -/

/-- The statement a call of `dispatchLifecycle` is about to make. -/
inductive DispatchPhase where
  | idle
  /-- Commit that the operation is dispatched. -/
  | batch (operationId : Token)
  /-- Write the payload. -/
  | replace (operationId : Token)
  /-- The writer failed: commit that the operation is uncertain. -/
  | uncertain (operationId : Token)
deriving DecidableEq

/-- The operation whose payload the dispatcher is about to write. -/
def DispatchPhase.held? : DispatchPhase → Option Token
  | .replace operationId => some operationId
  | _ => none

/-- The coordination system, the dispatchers, and the operations whose payload was
given to the secret writer, the last one first. -/
structure Dispatching (ι : Type) where
  system : System
  dispatchers : ι → DispatchPhase
  replaced : List Token

/-- Nothing was written yet and nobody dispatches. -/
def initialDispatching (ι : Type) : Dispatching ι := ⟨initialSystem, fun _ => .idle, []⟩

/-- What happens to the dispatchers or to the system under them. -/
inductive DispatchingEvent (ι : Type) where
  /-- Anything but a batch of `dispatchLifecycle`. -/
  | system (event : SystemEvent)
  /-- A dispatcher reads a prepared operation. -/
  | start (dispatcher : ι) (operationId : Token)
  /-- The batch commits; the dispatcher learns of it, or stops. -/
  | dispatch (dispatcher : ι) (operationId : Token) (heard : Bool)
  /-- The payload is given to the writer, who may fail. -/
  | replace (dispatcher : ι) (operationId : Token) (failed : Bool)
  | markUncertain (dispatcher : ι) (operationId : Token)
  /-- The dispatcher stops: its batch failed, it returned, or it crashed. -/
  | stop (dispatcher : ι)

/-- The batches of `dispatchLifecycle`. -/
def SystemEvent.dispatches : SystemEvent → Bool
  | .commit (.lifecycle (.dispatchLifecycle _)) => true
  | .commit (.lifecycle (.markUncertain _)) => true
  | _ => false

/-- The step of the system under an event. -/
def DispatchingEvent.system? {ι : Type} : DispatchingEvent ι → Option SystemEvent
  | .system event => some event
  | .dispatch _ operationId _ => some (.commit (.lifecycle (.dispatchLifecycle operationId)))
  | .markUncertain _ operationId => some (.commit (.lifecycle (.markUncertain operationId)))
  | .start _ _ | .replace _ _ _ | .stop _ => none

variable {ι : Type} [DecidableEq ι]

/-- One event. -/
inductive DispatchingStep : Dispatching ι → DispatchingEvent ι → Dispatching ι → Prop
  | system {s : Dispatching ι} {event : SystemEvent} {system : System} :
      event.dispatches = false → SystemStep s.system event system →
      DispatchingStep s (.system event) { s with system := system }
  | start {s : Dispatching ι} {i : ι} {operation : LifecycleOperation} :
      s.dispatchers i = .idle →
      s.system.db.flickr.operations.find? operation.operationId = some operation →
      operation.phase = .prepared →
      DispatchingStep s (.start i operation.operationId)
        { s with dispatchers := Function.update s.dispatchers i (.batch operation.operationId) }
  | dispatch {s : Dispatching ι} {i : ι} {operationId : Token} {heard : Bool} {system : System} :
      s.dispatchers i = .batch operationId →
      SystemStep s.system (.commit (.lifecycle (.dispatchLifecycle operationId))) system →
      DispatchingStep s (.dispatch i operationId heard)
        { s with
          system := system
          dispatchers := Function.update s.dispatchers i
            (if heard then .replace operationId else .idle) }
  | replace {s : Dispatching ι} {i : ι} {operationId : Token} {failed : Bool} :
      s.dispatchers i = .replace operationId →
      DispatchingStep s (.replace i operationId failed)
        { s with
          dispatchers := Function.update s.dispatchers i
            (if failed then .uncertain operationId else .idle)
          replaced := operationId :: s.replaced }
  | markUncertain {s : Dispatching ι} {i : ι} {operationId : Token} {system : System} :
      s.dispatchers i = .uncertain operationId →
      SystemStep s.system (.commit (.lifecycle (.markUncertain operationId))) system →
      DispatchingStep s (.markUncertain i operationId)
        { s with
          system := system
          dispatchers := Function.update s.dispatchers i .idle }
  | stop {s : Dispatching ι} {i : ι} :
      DispatchingStep s (.stop i)
        { s with dispatchers := Function.update s.dispatchers i .idle }

variable {s t : Dispatching ι} {event : DispatchingEvent ι}

/-- A step is a step of the system, or leaves it alone. -/
theorem DispatchingStep.system_cases (h : DispatchingStep s event t) :
    (∃ move, event.system? = some move ∧ SystemStep s.system move t.system) ∨
      (event.system? = none ∧ t.system = s.system) := by
  cases h with
  | system _ hstep => exact Or.inl ⟨_, rfl, hstep⟩
  | start _ _ _ => exact Or.inr ⟨rfl, rfl⟩
  | dispatch _ hstep => exact Or.inl ⟨_, rfl, hstep⟩
  | replace _ => exact Or.inr ⟨rfl, rfl⟩
  | markUncertain _ hstep => exact Or.inl ⟨_, rfl, hstep⟩
  | stop => exact Or.inr ⟨rfl, rfl⟩

theorem DispatchingStep.reachable (hs : SystemReachable s.system) (h : DispatchingStep s event t) :
    SystemReachable t.system := by
  rcases h.system_cases with ⟨_, _, hstep⟩ | ⟨_, hsame⟩
  · exact Reachable.extend hs hstep
  · rw [hsame]
    exact hs

theorem Dispatching.reachable {trace : List (Move (Dispatching ι) (DispatchingEvent ι))}
    (h : Run DispatchingStep (initialDispatching ι) trace t) : SystemReachable t.system := by
  have hinit : SystemReachable (initialDispatching ι).system :=
    ⟨initialSystem, [], rfl, Run.nil _⟩
  apply h.invariant hinit
  intro move _ hs hstep
  exact hstep.reachable hs

/-! ## The payload is written once -/

namespace FlickrTables

variable {f f' : FlickrTables} {operationId : Token}

/-- The operation was dispatched at some time. -/
def WasDispatched (f : FlickrTables) (operationId : Token) : Prop :=
  ∃ operation, f.operations.find? operationId = some operation ∧ operation.phase ≠ .prepared

theorem wasDispatched_setPhase {changed : Token} {phase : LifecyclePhase}
    (hphase : phase ≠ .prepared) (h : f.WasDispatched operationId)
    (hoperations : f'.operations = (f.setPhase changed phase).operations) :
    f'.WasDispatched operationId := by
  obtain ⟨operation, hfind, hdispatched⟩ := h
  unfold WasDispatched
  rw [hoperations, find?_setPhase]
  by_cases hid : operationId = changed
  · rw [if_pos hid, hfind]
    exact ⟨_, rfl, hphase⟩
  · rw [if_neg hid]
    exact ⟨operation, hfind, hdispatched⟩

theorem ConnectionMove.wasDispatched {completes : Option Token}
    (hmove : ConnectionMove f f' completes) (h : f.WasDispatched operationId) :
    f'.WasDispatched operationId := by
  cases hmove with
  | kept hsame =>
      unfold WasDispatched
      rwa [hsame.operations]
  | provisioned _ _ _ hoperations =>
      unfold WasDispatched
      rwa [hoperations]
  | started hstarted =>
      obtain ⟨operation, hfind, hdispatched⟩ := h
      refine ⟨operation, ?_, hdispatched⟩
      rw [Table.find?_insert? hstarted.inserted, if_neg]
      · exact hfind
      · rintro rfl
        rw [(Table.insert?_eq_some hstarted.inserted).1] at hfind
        cases hfind
  | dispatched _ _ hf' =>
      subst hf'
      exact wasDispatched_setPhase (by decide) h rfl
  | uncertain _ _ hoperations => exact wasDispatched_setPhase (by decide) h hoperations
  | completed hcompleted => exact wasDispatched_setPhase (by decide) h hcompleted.operations

end FlickrTables

/-- An operation was marked as dispatched before its payload is written. -/
def Dispatching.Once (s : Dispatching ι) : Prop :=
  Handoff.Once DispatchPhase.held? s.system.db.flickr.WasDispatched s.dispatchers s.replaced

omit [DecidableEq ι] in
theorem Dispatching.once_initially : (initialDispatching ι).Once :=
  Handoff.Once.initially fun _ => rfl

theorem DispatchingStep.once (hwf : s.system.log.WellFormed) (h : s.Once)
    (hstep : DispatchingStep s event t) : t.Once := by
  have hkept : ∀ {move : SystemEvent} {system : System}, SystemStep s.system move system →
      ∀ operationId, s.system.db.flickr.WasDispatched operationId →
        system.db.flickr.WasDispatched operationId := by
    intro move system hmove operationId
    exact (hmove.connectionMove hwf).wasDispatched
  cases hstep with
  | system _ hmove => exact h.mono (hkept hmove)
  | start _ _ _ => exact h.drop rfl
  | @dispatch _ operationId heard system _ hmove =>
      cases heard with
      | false => exact Handoff.Once.drop (h.mono (hkept hmove)) rfl
      | true =>
          cases hmove with
          | commit hexec =>
              obtain ⟨f, hcall, rfl⟩ := Option.map_eq_some_iff.mp hexec
              obtain ⟨operation, hfind, hprepared, rfl⟩ :=
                FlickrTables.dispatchLifecycle_effect hcall
              have hfree : ¬ s.system.db.flickr.WasDispatched operationId := by
                rintro ⟨other, hother, hdispatched⟩
                rw [hfind] at hother
                cases hother
                exact hdispatched hprepared
              have hmarked : (s.system.db.flickr.setPhase operationId
                  .dispatched).WasDispatched operationId := by
                unfold FlickrTables.WasDispatched
                rw [FlickrTables.find?_setPhase, if_pos rfl, hfind]
                exact ⟨_, rfl, by simp⟩
              apply Handoff.Once.take h hfree _ hmarked rfl
              intro other hother
              exact FlickrTables.wasDispatched_setPhase (by decide) hother rfl
  | replace hheld =>
      apply Handoff.Once.handOff h
      · rw [hheld]
        rfl
      · split <;> rfl
  | markUncertain _ hmove => exact Handoff.Once.drop (h.mono (hkept hmove)) rfl
  | stop => exact h.drop rfl

theorem Dispatching.once_of_run {trace : List (Move (Dispatching ι) (DispatchingEvent ι))}
    (h : Run DispatchingStep (initialDispatching ι) trace t) : t.Once := by
  have hinit : SystemReachable (initialDispatching ι).system ∧ (initialDispatching ι).Once :=
    ⟨⟨initialSystem, [], rfl, Run.nil _⟩, Dispatching.once_initially⟩
  have hboth : SystemReachable t.system ∧ t.Once := by
    apply h.invariant hinit
    intro move _ hs hstep
    exact ⟨hstep.reachable hs.1, hstep.once hs.1.wellFormed hs.2⟩
  exact hboth.2

/-! ## Link revisions -/

namespace FlickrTables

variable {f f' : FlickrTables} {userId : Token} {link : FlickrLink} {completes : Option Token}

theorem find?_moveLink (f : FlickrTables) (moved : Token) (state : LinkState) (userId : Token) :
    (f.moveLink moved state).links.find? userId =
      if userId = moved then (f.links.find? userId).map fun link =>
        { link with state := state, linkRevision := link.linkRevision + 1 }
      else f.links.find? userId :=
  Table.find?_modify_eq _ _ _ _

theorem le_of_moveLink {moved : Token} {state : LinkState}
    (hlinks : f'.links = (f.moveLink moved state).links)
    (hfind : f.links.find? userId = some link) :
    ∃ link', f'.links.find? userId = some link' ∧ link.linkRevision ≤ link'.linkRevision ∧
      (userId = moved → link'.linkRevision = link.linkRevision + 1) := by
  rw [hlinks, find?_moveLink, hfind]
  by_cases hid : userId = moved
  · rw [if_pos hid]
    refine ⟨_, rfl, Nat.le_succ _, ?_⟩
    intro _
    rfl
  · rw [if_neg hid]
    exact ⟨link, rfl, le_refl _, fun hsame => absurd hsame hid⟩

/-- A link revision never decreases. -/
theorem ConnectionMove.link_le (h : ConnectionMove f f' completes)
    (hfind : f.links.find? userId = some link) :
    ∃ link', f'.links.find? userId = some link' ∧ link.linkRevision ≤ link'.linkRevision := by
  cases h with
  | kept hsame =>
      rw [hsame.links]
      exact ⟨link, hfind, le_refl _⟩
  | provisioned hlinks _ _ _ =>
      rw [hlinks, Table.find?_ensure, hfind]
      refine ⟨link, ?_, le_refl _⟩
      split <;> rfl
  | started hstarted =>
      obtain ⟨link', hfind', hle, _⟩ := le_of_moveLink hstarted.links hfind
      exact ⟨link', hfind', hle⟩
  | dispatched _ _ hf' =>
      rw [hf']
      exact ⟨link, hfind, le_refl _⟩
  | uncertain _ _ _ hlinks _ _ =>
      rw [hlinks]
      exact ⟨link, hfind, le_refl _⟩
  | completed hcompleted =>
      obtain ⟨link', hfind', hle, _⟩ := le_of_moveLink hcompleted.links hfind
      exact ⟨link', hfind', hle⟩

/-- The link of the user moved to the next revision. -/
def LinkMoved (f f' : FlickrTables) (userId : Token) : Prop :=
  ∃ link link', f.links.find? userId = some link ∧ f'.links.find? userId = some link' ∧
    link'.linkRevision = link.linkRevision + 1

theorem Started.linkMoved {operation : LifecycleOperation} (h : Started f operation f') :
    LinkMoved f f' operation.userId := by
  obtain ⟨link, hfind, _⟩ := h.expected
  obtain ⟨link', hfind', _, hnext⟩ := le_of_moveLink h.links hfind
  exact ⟨link, link', hfind, hfind', hnext rfl⟩

theorem Completed.linkMoved {operation : LifecycleOperation} (h : Completed f operation f') :
    LinkMoved f f' operation.userId := by
  obtain ⟨link, hfind, _⟩ := h.pausedFor
  obtain ⟨link', hfind', _, hnext⟩ := le_of_moveLink h.links hfind
  exact ⟨link, link', hfind, hfind', hnext rfl⟩

/-- A linked link is as it was, or a replacement just activated it. -/
theorem ConnectionMove.linked_back (h : ConnectionMove f f' completes)
    (hfind : f'.links.find? userId = some link) (hlinked : link.state = .linked) :
    (f.links.find? userId = some link ∧
      f'.credentials.find? userId = f.credentials.find? userId ∧
      ∀ operationId ∈ completes, ∀ operation, f.operations.find? operationId = some operation →
        operation.userId ≠ userId) ∨
      ∃ operation, completes = some operation.operationId ∧
        f.operations.find? operation.operationId = some operation ∧ operation.kind = .replace ∧
        operation.userId = userId ∧
        ∃ credential, f'.credentials.find? userId = some credential ∧
          credential.activeGeneration = operation.generation ∧
          credential.linkRevision = link.linkRevision := by
  cases h with
  | kept hsame =>
      left
      rw [hsame.links] at hfind
      rw [hsame.credentials]
      exact ⟨hfind, rfl, by simp⟩
  | @provisioned provisionedId _ hlinks _ hcredentials _ =>
      left
      rw [hcredentials]
      rw [hlinks, Table.find?_ensure] at hfind
      refine ⟨?_, rfl, by simp⟩
      by_cases hid : userId = provisionedId
      · rw [if_pos hid] at hfind
        cases hold : f.links.find? userId with
        | none =>
            rw [hold] at hfind
            cases hfind
            cases hlinked
        | some old =>
            rw [hold] at hfind
            exact hfind
      · rwa [if_neg hid] at hfind
  | @started operation hstarted =>
      left
      rw [hstarted.links, find?_moveLink] at hfind
      by_cases hid : userId = operation.userId
      · rw [if_pos hid] at hfind
        obtain ⟨_, _, rfl⟩ := Option.map_eq_some_iff.mp hfind
        cases hlinked
      · rw [if_neg hid] at hfind
        exact ⟨hfind, (hstarted.others userId hid).2, by simp⟩
  | dispatched _ _ hf' =>
      left
      rw [hf'] at hfind ⊢
      exact ⟨hfind, rfl, by simp⟩
  | uncertain _ _ _ hlinks hcredentials _ =>
      left
      rw [hlinks] at hfind
      rw [hcredentials]
      exact ⟨hfind, rfl, by simp⟩
  | @completed operation hcompleted =>
      by_cases hid : userId = operation.userId
      · subst hid
        right
        have hkind : operation.kind = .replace := by
          have hmoved := hfind
          rw [hcompleted.links, find?_moveLink, if_pos rfl] at hmoved
          obtain ⟨_, _, rfl⟩ := Option.map_eq_some_iff.mp hmoved
          simp only [completedState] at hlinked
          cases hkind : operation.kind with
          | replace => rfl
          | retire =>
              rw [hkind] at hlinked
              simp only at hlinked
              split at hlinked <;> cases hlinked
        obtain ⟨credential, hcredential, hgeneration, hrevision, _⟩ :=
          hcompleted.activated hkind link hfind
        exact ⟨operation, rfl, hcompleted.found, hkind, rfl, credential, hcredential,
          hgeneration, hrevision⟩
      · left
        rw [hcompleted.links, find?_moveLink, if_neg hid] at hfind
        refine ⟨hfind, (hcompleted.others userId hid).2, ?_⟩
        intro operationId hcompletes other hother
        cases hcompletes
        rw [hcompleted.found] at hother
        cases hother
        exact Ne.symm hid

end FlickrTables

/-- The operation a move completes, when it replaces the credential. -/
def replacementOf {ι : Type} (move : Move (Dispatching ι) (DispatchingEvent ι)) :
    Option LifecycleOperation :=
  (((move.label.system?).bind SystemEvent.completes).bind
    move.src.system.db.flickr.operations.find?).filter fun operation =>
      operation.kind == .replace

/-- The link was written by the last completed replacement of the user in the trace,
and its credential is the one that replacement activated. -/
def WrittenByLastReplacement {ι : Type} (trace : List (Move (Dispatching ι) (DispatchingEvent ι)))
    (t : Dispatching ι) (link : FlickrLink) : Prop :=
  ∃ before move after operation, trace = before ++ move :: after ∧
    replacementOf move = some operation ∧ operation.userId = link.userId ∧
    (∀ later ∈ after, ∀ other, replacementOf later = some other → other.userId ≠ link.userId) ∧
    move.dst.system.db.flickr.links.find? link.userId = some link ∧
    ∃ credential, move.dst.system.db.flickr.credentials.find? link.userId = some credential ∧
      t.system.db.flickr.credentials.find? link.userId = some credential ∧
      credential.activeGeneration = operation.generation ∧
      credential.linkRevision = link.linkRevision

omit [DecidableEq ι] in
/-- A step that completes no replacement of the user and leaves the credential. -/
theorem WrittenByLastReplacement.snoc {trace : List (Move (Dispatching ι) (DispatchingEvent ι))}
    {link : FlickrLink} (h : WrittenByLastReplacement trace s link)
    (hother : ∀ other, replacementOf ⟨s, event, t⟩ = some other → other.userId ≠ link.userId)
    (hcredential : t.system.db.flickr.credentials.find? link.userId =
      s.system.db.flickr.credentials.find? link.userId) :
    WrittenByLastReplacement (trace ++ [⟨s, event, t⟩]) t link := by
  obtain ⟨before, move, after, operation, rfl, hmove, huser, hlast, hlink, credential, hwritten,
    hkept, hfields⟩ := h
  refine ⟨before, move, after ++ [⟨s, event, t⟩], operation, by simp, hmove, huser, ?_, hlink,
    credential, hwritten, hcredential.trans hkept, hfields⟩
  intro later hlater
  rcases List.mem_append.mp hlater with hold | hnew
  · exact hlast later hold
  · rw [List.mem_singleton.mp hnew]
    exact hother

theorem linked_written_by_last_replacement
    {trace : List (Move (Dispatching ι) (DispatchingEvent ι))}
    (h : Run DispatchingStep (initialDispatching ι) trace t) {userId : Token} {link : FlickrLink}
    (hfind : t.system.db.flickr.links.find? userId = some link) (hlinked : link.state = .linked) :
    WrittenByLastReplacement trace t link := by
  induction h with
  | nil => cases hfind
  | @snoc u v trace event hrun hstep ih =>
      have hid := Table.key_of_find? hfind
      subst hid
      have hwf : u.system.log.WellFormed := (Dispatching.reachable hrun).wellFormed
      rcases hstep.system_cases with ⟨move, hmove, hsystem⟩ | ⟨hnone, hsame⟩
      · rcases (hsystem.connectionMove hwf).linked_back hfind hlinked with
          ⟨hold, hcredential, hothers⟩ | ⟨operation, hcompletes, hfound, hkind, huser, credential,
            hcredential, hgeneration, hrevision⟩
        · apply (ih hold).snoc _ hcredential
          intro other hother
          obtain ⟨hcompleted, _⟩ := Option.filter_eq_some_iff.mp hother
          obtain ⟨operationId, hcompletes, hfound⟩ := Option.bind_eq_some_iff.mp hcompleted
          rw [hmove] at hcompletes
          exact hothers operationId hcompletes other hfound
        · refine ⟨trace, ⟨u, event, v⟩, [], operation, rfl, ?_, huser, ?_, hfind, credential,
            hcredential, hcredential, hgeneration, hrevision⟩
          · apply Option.filter_eq_some_iff.mpr
            refine ⟨?_, by simp [hkind]⟩
            rw [hmove, Option.bind_some, hcompletes]
            exact hfound
          · intro later hlater
            exact absurd hlater List.not_mem_nil
      · rw [hsame] at hfind
        apply (ih hfind).snoc
        · intro other hother
          unfold replacementOf at hother
          rw [hnone] at hother
          cases hother
        · rw [hsame]

/-! ## Begins, completions and rejections -/

/-- The user whose operation a call begins or completes. -/
def LifecycleCall.mover (f : FlickrTables) : LifecycleCall → Option Token
  | .beginLifecycle userId _ _ _ _ _ => some userId
  | .reconcileLifecycle operationId _ _ =>
      (f.operations.find? operationId).map LifecycleOperation.userId
  | .rejectWorkerGrant snapshot _ _ _ => some snapshot.userId
  | .rejectCurrentGrant _ snapshot _ _ _ => some snapshot.userId
  | _ => none

/-- The user whose operation an event begins or completes. -/
def DispatchingEvent.mover {ι : Type} (f : FlickrTables) (event : DispatchingEvent ι) :
    Option Token :=
  match event.system? with
  | some (.commit (.lifecycle call)) => call.mover f
  | _ => none

theorem LifecycleCall.linkMoved {db : Db} {call : LifecycleCall} {f' : FlickrTables}
    {userId : Token} (h : db.flickr.gateLog.WellFormed) (hexec : call.exec db = some f')
    (hmover : call.mover db.flickr = some userId) : FlickrTables.LinkMoved db.flickr f' userId := by
  cases call with
  | beginLifecycle =>
      cases hmover
      obtain ⟨_, _, rfl, hstarted⟩ := FlickrTables.beginLifecycle_started h hexec
      exact hstarted.linkMoved
  | reconcileLifecycle =>
      obtain ⟨operation, rfl, hcompleted, _⟩ := FlickrTables.reconcileLifecycle_effect hexec
      simp only [mover, hcompleted.found, Option.map_some, Option.some.injEq] at hmover
      subst hmover
      exact hcompleted.linkMoved
  | rejectWorkerGrant =>
      cases hmover
      simp only [LifecycleCall.exec, FlickrTables.rejectWorkerGrant] at hexec
      split at hexec
      · next hheld =>
          obtain ⟨_, _, huser, hstarted⟩ := FlickrTables.rejectGrant_started h hheld hexec
          rw [← huser]
          exact hstarted.linkMoved
      · cases hexec
  | rejectCurrentGrant =>
      cases hmover
      simp only [LifecycleCall.exec, FlickrGroupAddr.rejectCurrentGrant] at hexec
      split at hexec
      · next hheld =>
          obtain ⟨_, _, huser, hstarted⟩ := FlickrTables.rejectGrant_started h hheld.2 hexec
          rw [← huser]
          exact hstarted.linkMoved
      · cases hexec
  | provision => cases hmover
  | dispatchLifecycle => cases hmover
  | markUncertain => cases hmover
  | commitBinding => cases hmover
  | commitUpload => cases hmover
  | operatorPause => cases hmover
  | recordConformance => cases hmover

theorem DispatchingStep.linkMoved (hwf : s.system.log.WellFormed) (h : DispatchingStep s event t)
    {userId : Token} (hmover : event.mover s.system.db.flickr = some userId) :
    FlickrTables.LinkMoved s.system.db.flickr t.system.db.flickr userId := by
  unfold DispatchingEvent.mover at hmover
  rcases h.system_cases with ⟨move, hmove, hstep⟩ | ⟨hnone, _⟩
  · rw [hmove] at hmover
    generalize t.system = system at hstep ⊢
    cases hstep with
    | @commit _ call hexec =>
        cases call with
        | lifecycle call =>
            obtain ⟨f, hcall, hsystem⟩ := Option.map_eq_some_iff.mp hexec
            rw [← hsystem]
            exact call.linkMoved hwf hcall hmover
        | queue => cases hmover
        | startResume => cases hmover
        | advanceResume => cases hmover
        | commitResume => cases hmover
    | refuse => cases hmover
    | stop => cases hmover
    | outside => cases hmover
  · rw [hnone] at hmover
    cases hmover

namespace FlickrTables

/-- The link has another revision or the credential another generation than the ones a
request was sent under. -/
def Superseded (f : FlickrTables) (snapshot : GrantSnapshot) : Prop :=
  (∃ link, f.links.find? snapshot.userId = some link ∧
    link.linkRevision ≠ snapshot.revision) ∨
  ∃ credential, f.credentials.find? snapshot.userId = some credential ∧
    credential.activeGeneration ≠ snapshot.generation

theorem Superseded.not_held {f : FlickrTables} {snapshot : GrantSnapshot}
    (h : f.Superseded snapshot) : ¬ f.grantHeld snapshot := by
  rintro ⟨⟨link, hlink, _, hrevision⟩, ⟨credential, hcredential, hgeneration, _⟩, _⟩
  rcases h with ⟨other, hother, hne⟩ | ⟨other, hother, hne⟩
  · have hsame := Option.some.inj (hother.symm.trans hlink)
    rw [hsame] at hne
    exact hne hrevision
  · have hsame := Option.some.inj (hother.symm.trans hcredential)
    rw [hsame] at hne
    exact hne hgeneration

theorem Superseded.not_rejected {db : Db} {snapshot : GrantSnapshot}
    (h : db.flickr.Superseded snapshot) (operationId generation : Token) (now : Us) :
    db.flickr.rejectWorkerGrant snapshot operationId generation now = none ∧
      ∀ auth, rejectCurrentGrant db auth snapshot operationId generation now = none := by
  constructor
  · exact if_neg h.not_held
  · intro auth
    apply if_neg
    intro hguard
    exact h.not_held hguard.2

end FlickrTables

/-- The lifecycle of native credentials, over every run of the coordination system and
its dispatchers. -/
theorem native_credential_lifecycle {trace : List (Move (Dispatching ι) (DispatchingEvent ι))}
    (h : Run DispatchingStep (initialDispatching ι) trace t) :
    (∀ userId left right, t.system.db.flickr.OpenFor userId left →
      t.system.db.flickr.OpenFor userId right → left = right) ∧
    (∀ userId operationId, t.system.db.flickr.OpenFor userId operationId →
      (∃ connection, t.system.db.flickr.connections.find? userId = some connection ∧
        connection.operationId = some operationId) ∧
      (∀ credential, t.system.db.flickr.credentials.find? userId = some credential →
        credential.operationId = some operationId) ∧
      ∀ gate, t.system.db.flickr.gates.find? (.user userId) = some gate →
        gate.enabled = false) ∧
    t.replaced.Nodup ∧
    (∀ event u, DispatchingStep t event u →
      (∀ userId link, t.system.db.flickr.links.find? userId = some link →
        ∃ link', u.system.db.flickr.links.find? userId = some link' ∧
          link.linkRevision ≤ link'.linkRevision) ∧
      ∀ userId, event.mover t.system.db.flickr = some userId →
        FlickrTables.LinkMoved t.system.db.flickr u.system.db.flickr userId) ∧
    (∀ userId link, t.system.db.flickr.links.find? userId = some link → link.state = .linked →
      WrittenByLastReplacement trace t link) ∧
    (∀ snapshot, t.system.db.flickr.Superseded snapshot → ∀ operationId generation now,
      t.system.db.flickr.rejectWorkerGrant snapshot operationId generation now = none ∧
      ∀ auth, rejectCurrentGrant t.system.db auth snapshot operationId generation now = none) ∧
    ∀ (call : QueueCall) db', call.exec t.system.db = some db' →
      FlickrTables.SameConnection t.system.db.flickr db'.flickr ∧
      FlickrTables.NoneEnabled t.system.db.flickr db'.flickr := by
  obtain ⟨hwf, hinv⟩ := (Dispatching.reachable h).connectionInvariant
  refine ⟨hinv.single, ?_, (Dispatching.once_of_run h).nodup, ?_, ?_, ?_, ?_⟩
  · intro userId operationId hopen
    exact ⟨hinv.connection userId operationId hopen, hinv.credential userId operationId hopen,
      hinv.paused userId operationId hopen⟩
  · intro event u hstep
    refine ⟨?_, fun userId hmover => hstep.linkMoved hwf hmover⟩
    intro userId link hfind
    rcases hstep.system_cases with ⟨_, _, hsystem⟩ | ⟨_, hsame⟩
    · exact (hsystem.connectionMove hwf).link_le hfind
    · rw [hsame]
      exact ⟨link, hfind, le_refl _⟩
  · intro userId link hfind hlinked
    exact linked_written_by_last_replacement h hfind hlinked
  · intro snapshot hsuperseded operationId generation now
    exact hsuperseded.not_rejected operationId generation now
  · intro call db' hexec
    exact QueueCall.connection_kept hwf hexec

/-- A run of the system without a dispatch is a run under idle dispatchers. -/
theorem Dispatching.run_of_system {s t : System} {trace : List (Move System SystemEvent)}
    (h : Run SystemStep s trace t) (hlabels : ∀ move ∈ trace, move.label.dispatches = false)
    (dispatchers : ι → DispatchPhase) (replaced : List Token) :
    ∃ trace', Run DispatchingStep ⟨s, dispatchers, replaced⟩ trace' ⟨t, dispatchers, replaced⟩ := by
  induction h with
  | nil => exact ⟨[], Run.nil _⟩
  | snoc _ hstep ih =>
      obtain ⟨trace', hrun⟩ := ih fun move hmove =>
        hlabels move (List.mem_append_left _ hmove)
      have hlabel := hlabels _ (List.mem_append_right _ (List.mem_singleton_self _))
      exact ⟨_, Run.snoc hrun (DispatchingStep.system hlabel hstep)⟩

namespace Sample

/-- The user logs in and starts to replace the credential. -/
def replacing : List SystemCall :=
  [.lifecycle (.provision user "12345@N00" (clock 0) (clock 0)),
    .lifecycle (.beginLifecycle user 1 .replace operation generation (clock 1))]

def dispatched : List SystemCall := [.lifecycle (.dispatchLifecycle operation)]

def reconciled : List SystemCall := [.lifecycle (.reconcileLifecycle operation .write (clock 2))]

end Sample

theorem dispatches_movesOf {start : System} {calls : List SystemCall}
    (h : ∀ call ∈ calls, (SystemEvent.commit call).dispatches = false) :
    ∀ move ∈ movesOf SystemCall.exec SystemEvent.commit start calls,
      move.label.dispatches = false := by
  intro move hmove
  obtain ⟨call, hcall, hlabel⟩ := label_of_mem_movesOf hmove
  rw [hlabel]
  exact h call hcall

/-- A credential that was replaced once. -/
theorem native_credential_lifecycle_replaced :
    ∃ (t : Dispatching Unit) (trace : List (Move (Dispatching Unit) (DispatchingEvent Unit)))
      (link : FlickrLink),
      Run DispatchingStep (initialDispatching Unit) trace t ∧
      t.replaced = [Sample.operation] ∧ link.linkRevision = 3 ∧
      t.system.db.flickr.links.find? Sample.user = some link ∧
      WrittenByLastReplacement trace t link := by
  have hexec : (execAll SystemCall.exec initialSystem
      (Sample.replacing ++ (Sample.dispatched ++ Sample.reconciled))).isSome = true := by
    decide +kernel
  obtain ⟨finish, hfinish⟩ := Option.isSome_iff_exists.mp hexec
  have hlinked : ∀ s ∈ execAll SystemCall.exec initialSystem
      (Sample.replacing ++ (Sample.dispatched ++ Sample.reconciled)),
      ∃ link ∈ s.db.flickr.links.find? Sample.user, link.state = .linked ∧
        link.linkRevision = 3 := by
    decide +kernel
  have hprepared : ∀ s ∈ execAll SystemCall.exec initialSystem Sample.replacing,
      ∃ operation ∈ s.db.flickr.operations.find? Sample.operation,
        operation.operationId = Sample.operation ∧ operation.phase = .prepared := by
    decide +kernel
  obtain ⟨link, hlink, hstate, hrevision⟩ := hlinked finish hfinish
  obtain ⟨begun, hbegun, hrest⟩ := execAll_append.mp hfinish
  obtain ⟨middle, hmiddle, hreconciled⟩ := execAll_append.mp hrest
  obtain ⟨_, hdispatch, hsame⟩ := Option.bind_eq_some_iff.mp hmiddle
  cases hsame
  obtain ⟨operation, hoperation, hid, hphase⟩ := hprepared begun hbegun
  have hone : ∀ before after : DispatchPhase,
      Function.update (fun _ : Unit => before) () after = fun _ => after := by
    intro before after
    funext dispatcher
    exact Function.update_self _ _ _
  rw [← hid] at hoperation hdispatch
  have hread := @DispatchingStep.start Unit _ ⟨begun, fun _ => .idle, []⟩ () operation rfl
    hoperation hphase
  have hcommit := @DispatchingStep.dispatch Unit _
    ⟨begun, fun _ => .batch operation.operationId, []⟩ () _ true middle rfl
    (SystemStep.commit hdispatch)
  have hwrite := @DispatchingStep.replace Unit _
    ⟨middle, fun _ => .replace operation.operationId, []⟩ () _ false rfl
  simp only [hone, Bool.false_eq_true, if_false, if_true] at hread hcommit hwrite
  obtain ⟨front, hfront⟩ := Dispatching.run_of_system (SystemCall.run hbegun)
    (dispatches_movesOf (by simp [Sample.replacing, SystemEvent.dispatches]))
    (fun _ : Unit => .idle) []
  obtain ⟨back, hback⟩ := Dispatching.run_of_system (SystemCall.run hreconciled)
    (dispatches_movesOf (by simp [Sample.reconciled, SystemEvent.dispatches]))
    (fun _ : Unit => .idle) [operation.operationId]
  have hrun := hfront.append (Run.cons hread (Run.cons hcommit (Run.cons hwrite hback)))
  obtain ⟨_, _, _, _, hwritten, _⟩ := native_credential_lifecycle hrun
  exact ⟨_, _, link, hrun, congrArg (fun id => [id]) hid, hrevision, hlink,
    hwritten Sample.user link hlink hstate⟩

namespace Sample

/-- The user authorizes the account again and enables the gate while the add of the
first link is in flight. -/
def relinkedInFlight : List SystemCall :=
  admitted ++ marked lease attempt ++
    [.lifecycle (.beginLifecycle user 3 .replace otherOperation otherGeneration (clock 10)),
      .lifecycle (.dispatchLifecycle otherOperation),
      .lifecycle (.reconcileLifecycle otherOperation .write (clock 11)),
      .startResume userCall ⟨user, .user, 3, none⟩, .advanceResume userCall,
      .commitResume userCall (clock 12)]

/-- Flickr answers the add that its credential is rejected. -/
def rejected : QueueCall :=
  .resolve lease attempt (.answered (.code 98)) (some artifact) ⟨0, 1⟩ (fun _ => none)
    ⟨clock 13, clock 13, clock 13, clock 13, clock 13⟩

end Sample

/-- The rejection of an add that was sent under the first link pauses the gate of the
second one. -/
theorem stale_rejection_pauses_gate :
    ¬ ∀ (s : System) (db' : Db) (lease : Lease) (attemptId : Token) (code : Int)
      (artifact : Option String) (counts : FailureCounts) (retryDelay : Int → Option Int)
      (clock : ResolutionClock) (attempt : SubmissionAttempt) (partition : GroupPartition)
      (link : FlickrLink),
      SystemReachable s → code = 98 ∨ code = 99 →
      s.db.queue.attempts.find? attemptId = some attempt →
      s.db.queue.partitions.find? lease.partitionId = some partition →
      s.db.flickr.links.find? partition.userId = some link →
      attempt.linkRevision < link.linkRevision →
      (QueueCall.resolve lease attemptId (.answered (.code code)) artifact counts retryDelay
        clock).exec s.db = some db' →
      db'.flickr.links.find? partition.userId = some link ∧
        db'.flickr.gates.find? (.user partition.userId) =
          s.db.flickr.gates.find? (.user partition.userId) := by
  intro hclaim
  have hexec : (execAll SystemCall.exec Sample.installed Sample.relinkedInFlight).isSome = true := by
    decide +kernel
  obtain ⟨s, hs⟩ := Option.isSome_iff_exists.mp hexec
  have hfacts : ∀ s ∈ execAll SystemCall.exec Sample.installed Sample.relinkedInFlight,
      (∃ attempt ∈ s.db.queue.attempts.find? Sample.attempt,
        ∃ partition ∈ s.db.queue.partitions.find? Sample.lease.partitionId,
        ∃ link ∈ s.db.flickr.links.find? partition.userId,
          attempt.linkRevision < link.linkRevision ∧
          ∃ db' ∈ Sample.rejected.exec s.db,
            db'.flickr.gates.find? (.user partition.userId) ≠
              s.db.flickr.gates.find? (.user partition.userId)) := by
    decide +kernel
  obtain ⟨attempt, hattempt, partition, hpartition, link, hlink, hstale, db', hcommit, hmoved⟩ :=
    hfacts s hs
  exact hmoved (hclaim s db' Sample.lease Sample.attempt 98 _ _ _ _ attempt partition link
    (Sample.installed_reachable.execAll hs) (Or.inl rfl) hattempt hpartition hlink hstale
    hcommit).2

end FlickrGroupAddr

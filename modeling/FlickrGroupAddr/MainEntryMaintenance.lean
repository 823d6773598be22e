import FlickrGroupAddr.MainEntryJournal

/-!
# Main-entry maintenance

`main_entry_maintenance.ts` as the events of one `MainEntryMaintenance`: calls that come
in, answers of the journal and of the operations, and the deletions from the sets of
promises, which run some time after a promise settled.  What the journal answered and
what an operation did is kept beside the fields of the source, so that a drain can be
compared with it.
-/

namespace FlickrGroupAddr

set_option autoImplicit false

open KeyedTable

/-! ## Invocations, effects and bodies -/

/-- Where `invoke` is. -/
inductive RunStage where
  /-- `journal.admit` has not answered. -/
  | admitting
  /-- The handler runs. -/
  | handling
  /-- `journal.returned` has not answered. -/
  | returning
  /-- The promise of `invoke` has settled. -/
  | settled
deriving DecidableEq

/-- One call of `run`. -/
structure MaintenanceRun where
  id : Nat
  stage : RunStage
  /-- The promise is in `active`. -/
  active : Bool
  /-- The journal has latched the invocation. -/
  admitted : Bool
  /-- The lease arrived, so that there is an `InvocationScope`. -/
  leased : Bool
  /-- `accepting` of the scope. -/
  accepting : Bool
  /-- How the handler ended. -/
  outcome : Option EntryOutcome
  /-- The journal has recorded the return. -/
  returnRecorded : Bool
deriving DecidableEq

/-- Where an effect is. -/
inductive EffectStage where
  /-- `journal.effect` has not answered. -/
  | requested
  /-- The operation runs. -/
  | running
  /-- `journal.settled` has not answered. -/
  | settling
  /-- The promise of the effect has settled. -/
  | settled
deriving DecidableEq

/-- One call of `InvocationScope.effect`. -/
structure ScopeEffect where
  id : Nat
  run : Nat
  kind : MainEffect
  /-- The body that a hold waits for or a cancellation releases. -/
  body : Option Nat
  stage : EffectStage
  /-- The promise is in `effects`. -/
  tracked : Bool
  /-- The operation has been called. -/
  started : Bool
  /-- The journal has permitted the effect. -/
  permitted : Bool
  /-- How the operation ended. -/
  completed : Option EntryOutcome
  /-- The journal has recorded the settlement. -/
  recorded : Bool
deriving DecidableEq

/-- One response body behind its proxy. -/
structure HeldBody where
  id : Nat
  run : Nat
  /-- The `provider-body` effect that holds it. -/
  hold : Nat
  finished : Bool
deriving DecidableEq

inductive MaintenanceState where
  | «open»
  | draining
  | stopped
  | refused
deriving DecidableEq

/-- Where the one `stop` that started is. -/
inductive StopStage where
  | idle
  /-- `journal.stop` has not answered. -/
  | stopping
  /-- `Promise.allSettled` over the promises that were active. -/
  | waiting (awaited : List Nat)
  /-- `observer.assess` has not answered. -/
  | assessing
  /-- The operation has its result. -/
  | assessed
deriving DecidableEq

structure Maintenance where
  state : MaintenanceState
  uncertain : Bool
  runs : Table MaintenanceRun.id
  effects : Table ScopeEffect.id
  bodies : Table HeldBody.id
  stop : StopStage
deriving DecidableEq

/-- A new `MainEntryMaintenance`. -/
def newMaintenance : Maintenance where
  state := .open
  uncertain := false
  runs := .empty
  effects := .empty
  bodies := .empty
  stop := .idle

/-- What `journal.admit` comes back with. -/
inductive AdmitAnswer where
  | failed
  | refused
  /-- A lease of another binding, invocation or entry. -/
  | mismatched
  | leased
deriving DecidableEq

/-- What a read of a body comes back with. -/
inductive ReadResult where
  | chunk
  | done
  | failed
deriving DecidableEq

/-! ## Steps -/

namespace Maintenance

/-- `uncertain()`. -/
def raise (s : Maintenance) (whether : Bool) : Maintenance :=
  { s with uncertain := s.uncertain || whether }

def setRun (s : Maintenance) (run : MaintenanceRun) : Maintenance :=
  { s with runs := s.runs.set run }

def setEffect (s : Maintenance) (effect : ScopeEffect) : Maintenance :=
  { s with effects := s.effects.set effect }

def setBody (s : Maintenance) (body : HeldBody) : Maintenance :=
  { s with bodies := s.bodies.set body }

/-- The ids of the promises in `active`. -/
def activeRuns (s : Maintenance) : List Nat :=
  (s.runs.rows.filter fun run => run.active).map MaintenanceRun.id

/-- `effects.size` of the scope of a run. -/
def trackedEffects (s : Maintenance) (run : Nat) : Nat :=
  (s.effects.rows.filter fun effect => effect.run = run ∧ effect.tracked = true).length

/-- `track` and the start of `effect`: register a promise, unless the scope has stopped
accepting. -/
def addEffect (s : Maintenance) (id run : Nat) (kind : MainEffect) (body : Option Nat)
    (started : Bool) : Option Maintenance :=
  match s.runs.find? run with
  | none => none
  | some row =>
      if row.leased = true ∧ row.accepting = true then
        (s.effects.insert? ⟨id, run, kind, body, .requested, true, started, false, none,
          false⟩).map fun effects => { s with effects := effects }
      else none

end Maintenance

/-- What can happen next. -/
inductive MaintenanceEvent where
  /-- `run` is called. -/
  | run (id : Nat)
  /-- The journal latches the invocation. -/
  | admitCalled (id : Nat)
  | admitAnswered (id : Nat) (answer : AdmitAnswer)
  /-- The handler ends, and `scope.returned` runs to its first await. -/
  | handled (id : Nat) (outcome : EntryOutcome)
  | returnAnswered (id : Nat) (recorded : Bool)
  /-- `active.delete`. -/
  | runDeleted (id : Nat)
  /-- A wrapped method of the environment is called. -/
  | effect (id run : Nat) (kind : MainEffect)
  | permitAnswered (id : Nat) (answer : Option Bool)
  | operationEnded (id : Nat) (outcome : EntryOutcome)
  /-- A provider operation ends with a response that has a body. -/
  | responded (id hold body : Nat)
  | settleAnswered (id : Nat) (recorded : Bool)
  /-- `effects.delete`. -/
  | effectDeleted (id : Nat)
  | read (body : Nat) (result : ReadResult)
  /-- `text`, `json` and the other whole reads. -/
  | consumed (body : Nat) (outcome : EntryOutcome)
  | cancel (body id : Nat) (threw : Bool)
  /-- A use of the body that the proxies refuse. -/
  | unsupported
  /-- `stop` is called. -/
  | stop
  | stopAnswered (accepted : Bool)
  | allSettled
  | assessAnswered (accepted : Bool)
  | stopEnds
  /-- The deadline passes, or the clock fails a check of `stop`. -/
  | stopExpires
deriving DecidableEq

namespace MaintenanceEvent

/-- One event; `none` when it cannot happen in the state, or when the call it is throws at
once and changes nothing. -/
def exec (s : Maintenance) : MaintenanceEvent → Option Maintenance
  | run id =>
      if s.state = .open ∧ s.activeRuns.length < 256 then
        (s.runs.insert? ⟨id, .admitting, true, false, false, false, none, false⟩).map fun runs =>
          { s with runs := runs }
      else none
  | admitCalled id => do
      let row ← s.runs.find? id
      if row.stage = .admitting then some (s.setRun { row with admitted := true }) else none
  | admitAnswered id answer => do
      let row ← s.runs.find? id
      if row.stage = .admitting then
        match answer with
        | .failed | .mismatched =>
            some ((s.setRun { row with stage := .settled }).raise true)
        | .refused =>
            if row.admitted = true then none
            else some (s.setRun { row with stage := .settled })
        | .leased =>
            if row.admitted = true then
              some (s.setRun { row with stage := .handling, leased := true, accepting := true })
            else none
      else none
  | handled id outcome => do
      let row ← s.runs.find? id
      if row.stage = .handling then
        let s := s.raise (outcome = .rejected)
        if s.trackedEffects id = 0 then
          some (s.setRun
            { row with stage := .returning, accepting := false, outcome := some outcome })
        else
          some ((s.setRun { row with stage := .settled, outcome := some outcome }).raise true)
      else none
  | returnAnswered id recorded => do
      let row ← s.runs.find? id
      if row.stage = .returning then
        some ((s.setRun { row with stage := .settled, returnRecorded := recorded }).raise
          !recorded)
      else none
  | runDeleted id => do
      let row ← s.runs.find? id
      if row.stage = .settled then some (s.setRun { row with active := false }) else none
  | effect id owner kind => s.addEffect id owner kind none false
  | permitAnswered id answer => do
      let row ← s.effects.find? id
      if row.stage = .requested then
        match answer with
        | none => some ((s.setEffect { row with stage := .settled }).raise true)
        | some allowed =>
            -- a permit that comes late does not revive the scope
            if (s.runs.find? row.run).any fun owner => owner.accepting then
              if allowed = true then
                some (s.setEffect
                  { row with stage := .running, started := true, permitted := true })
              else some ((s.setEffect { row with stage := .settled }).raise true)
            else some (s.setEffect { row with stage := .settled, permitted := allowed })
      else none
  | operationEnded id outcome => do
      let row ← s.effects.find? id
      if row.stage = .running then
        let settling := s.setEffect { row with stage := .settling, completed := some outcome }
        match row.body.bind s.bodies.find? with
        | none => some settling
        | some body =>
            if row.kind = .providerBody then
              -- the hold waits for `bodyDone`, which never rejects
              if body.finished = true ∧ outcome = .fulfilled then some settling else none
            else
              some ((settling.setBody { body with finished := true }).raise
                (outcome = .rejected))
      else none
  | responded id hold body => do
      let row ← s.effects.find? id
      if row.stage = .running ∧ row.kind = .provider then
        if (s.runs.find? row.run).any fun owner => owner.accepting then
          ((s.setEffect { row with stage := .settling, completed := some .fulfilled }).addEffect
            hold row.run .providerBody (some body) false).bind fun s =>
              (s.bodies.insert? ⟨body, row.run, hold, false⟩).map fun bodies =>
                { s with bodies := bodies }
        else some (s.setEffect { row with stage := .settling, completed := some .rejected })
      else none
  | settleAnswered id recorded => do
      let row ← s.effects.find? id
      if row.stage = .settling then
        some ((s.setEffect { row with stage := .settled, recorded := recorded }).raise
          !recorded)
      else none
  | effectDeleted id => do
      let row ← s.effects.find? id
      if row.stage = .settled then some (s.setEffect { row with tracked := false }) else none
  | read id result => do
      let body ← s.bodies.find? id
      match result with
      | .chunk => some s
      | .done => some (s.setBody { body with finished := true })
      | .failed => some ((s.setBody { body with finished := true }).raise true)
  | consumed id outcome => do
      let body ← s.bodies.find? id
      some ((s.setBody { body with finished := true }).raise (outcome = .rejected))
  | cancel bodyId id threw => do
      let body ← s.bodies.find? bodyId
      if (s.runs.find? body.run).any fun owner => owner.accepting then
        if threw = true then some ((s.setBody { body with finished := true }).raise true)
        else s.addEffect id body.run .providerCancel (some bodyId) true
      else none
  | unsupported => some (s.raise true)
  | stop =>
      if s.state = .open then some { s with state := .draining, stop := .stopping } else none
  | stopAnswered accepted =>
      if s.stop = .stopping ∧ s.state = .draining then
        if accepted = true then some { s with stop := .waiting s.activeRuns }
        else some { s with state := .refused }
      else none
  | allSettled =>
      match s.stop with
      | .waiting awaited =>
          if s.state = .draining ∧
              ∀ id ∈ awaited, (s.runs.find? id).any fun row => row.stage = .settled then
            if s.uncertain = true then some { s with state := .refused }
            else some { s with stop := .assessing }
          else none
      | _ => none
  | assessAnswered accepted =>
      if s.stop = .assessing ∧ s.state = .draining then
        if accepted = true then some { s with stop := .assessed }
        else some { s with state := .refused }
      else none
  | stopEnds =>
      if s.stop = .assessed ∧ s.state = .draining then
        if s.uncertain = true ∨ s.activeRuns ≠ [] then some { s with state := .refused }
        else some { s with state := .stopped }
      else none
  | stopExpires => if s.state = .draining then some { s with state := .refused } else none

end MaintenanceEvent

end FlickrGroupAddr

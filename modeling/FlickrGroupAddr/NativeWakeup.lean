import FlickrGroupAddr.Lib.Binary64
import FlickrGroupAddr.Lib.Fallible
import FlickrGroupAddr.Lib.Table
import FlickrGroupAddr.Lib.Workers

/-!
# The native wake ledger

`Pmb1NativeWakeup` of `pmb1-native-wakeup/candidate.ts`, one transaction of the object's
storage after the other, and the methods of `partition_maintenance.ts` that call it.  The
alarm of the platform is a hint: it may come late, twice or without due work.
-/

namespace FlickrGroupAddr.NativeWakeup

set_option autoImplicit false

open KeyedTable Program Workers Fallible

/-! ## The storage -/

/-- The code units of a text. -/
abbrev WakeText := List UInt16

/-- `pmb1_wake_work`, which has at most one row. -/
structure WakeWork where
  revision : Nat
  value : WakeText
  due : Option Nat
deriving DecidableEq

inductive ExecutionState where
  | admitted
  | externalPending
  | settled
  | cancelled
deriving DecidableEq

/-- `pmb1_wake_executions`. -/
structure WakeExecution where
  id : Nat
  generation : Nat
  revision : Nat
  value : WakeText
  state : ExecutionState
deriving DecidableEq

/-- The text of a result: `local:` before the value, or what the caller confirmed. -/
inductive WakeOutcome where
  | completed (value : WakeText)
  | confirmedSuccess
  | confirmedFailure
deriving DecidableEq

/-- `pmb1_wake_results`. -/
structure WakeResult where
  id : Nat
  result : WakeOutcome
deriving DecidableEq

inductive ControlState where
  | open
  | closed
deriving DecidableEq

/-- The storage of an object: `maintenance_control` with its one row, the tables, the counters
and the flag of the key-value store, and the alarm. -/
structure WakeStorage where
  generation : Nat
  state : ControlState
  work : Option WakeWork
  executions : Table WakeExecution.id
  results : Table WakeResult.id
  admission : Bool
  revision : Nat
  sequence : Nat
  alarm : Option Nat
deriving DecidableEq

/-- `bootstrap`. -/
def bootstrapWake : WakeStorage := ⟨1, .closed, none, .empty, .empty, false, 0, 0, none⟩

/-- `Admission`. -/
structure WakeAdmission where
  id : Nat
  generation : Nat
  revision : Nat
  value : WakeText
deriving DecidableEq

/-! ## Checks -/

inductive WakeRefusal where
  | invalidCounter
  | invalidTime
  | invalidValue
  | invalidAdmission
  | fenced
  | admissionStopped
  | counterExhausted
  | invalidWork
  | admissionFenced
  | revisionFenced
  | drainIncomplete
  | alarmUnsettled
  | transitionRefused
  | admissionNotStopped
  | dispositionUnconfirmed
  | maintenanceClosed
  | constraintFailed
  | bridgeRefused
deriving DecidableEq

abbrev Wake (α : Type) := Except WakeRefusal α

/-- `MAX_GENERATION`. -/
def maxGeneration : Nat := 9223372036854775807

def require (p : Prop) [Decidable p] (refusal : WakeRefusal) : Wake Unit :=
  if p then .ok () else .error refusal

@[simp] theorem require_eq_ok {p : Prop} [Decidable p] {refusal : WakeRefusal} {u : Unit} :
    require p refusal = .ok u ↔ p := by
  unfold require
  split
  · next h => simp [h]
  · next h => simp [h]

def counterInRange (value : Nat) : Prop := 1 ≤ value ∧ value ≤ maxGeneration

instance (value : Nat) : Decidable (counterInRange value) := inferInstanceAs (Decidable (_ ∧ _))

/-- `counter`. -/
def counter (value : Nat) : Wake Unit := require (counterInRange value) .invalidCounter

/-- `time`. -/
def wakeTime (value : Nat) : Wake Unit :=
  require (1 ≤ value ∧ value ≤ Binary64.Number.maxSafeInteger) .invalidTime

/-- `token`. -/
def wakeToken (t : WakeAdmission) : Wake Unit := do
  require (t.value.length ≤ 1024) .invalidAdmission
  counter t.id
  counter t.generation
  counter t.revision

/-- `next`: the counter after a stored one. -/
def nextCounter (previous : Nat) : Wake Nat := do
  require (previous ≤ maxGeneration) .invalidCounter
  require (previous ≠ maxGeneration) .counterExhausted
  pure (previous + 1)

namespace WakeStorage

variable (s : WakeStorage)

/-- `open`. -/
def opened (expected : Nat) : Wake Unit := do
  counter expected
  require (s.state = .open ∧ s.generation = expected) .fenced

/-- The triggers of the three tables: a row changes only while the control row is open. -/
def writable : Wake Unit :=
  require (s.state = .open ∧ counterInRange s.generation) .maintenanceClosed

/-- `execution`. -/
def execution (t : WakeAdmission) (state : ExecutionState) (currentRevision : Bool) : Wake Unit := do
  wakeToken t
  s.opened t.generation
  require (s.executions.find? t.id = some ⟨t.id, t.generation, t.revision, t.value, state⟩)
    .admissionFenced
  require (currentRevision = true → s.work.map WakeWork.revision = some t.revision)
    .revisionFenced

def insertExecution (e : WakeExecution) : Wake WakeStorage := do
  s.writable
  match s.executions.insert? e with
  | none => throw .constraintFailed
  | some executions => pure { s with executions := executions }

def insertResult (r : WakeResult) : Wake WakeStorage := do
  s.writable
  match s.results.insert? r with
  | none => throw .constraintFailed
  | some results => pure { s with results := results }

/-- `UPDATE pmb1_wake_executions SET state=… WHERE id=…`. -/
def setExecution (id : Nat) (state : ExecutionState) : Wake WakeStorage := do
  s.writable
  pure { s with executions := s.executions.modify id fun e => { e with state := state } }

/-! ## Transactions -/

/-- `schedule`. -/
def schedule (expected : Nat) (value : WakeText) (due : Nat) : Wake (Nat × WakeStorage) := do
  counter expected
  wakeTime due
  require (value.length ≤ 1024) .invalidValue
  s.opened expected
  require (s.admission = true) .admissionStopped
  let revision ← nextCounter s.revision
  s.writable
  pure (revision,
    { s with work := some ⟨revision, value, some due⟩, revision := revision, alarm := some due })

/-- The due work at a time, when there is some. -/
def dueWork (now : Nat) : Wake (Option WakeWork) :=
  match s.work with
  | none => pure none
  | some w => do
      counter w.revision
      require (w.value.length ≤ 1024) .invalidWork
      match w.due with
      | none => pure none
      | some due => do
          wakeTime due
          pure (if now < due then none else some w)

/-- `admitDue`. -/
def admitDue (expected now : Nat) : Wake (Option WakeAdmission × WakeStorage) := do
  s.opened expected
  require (s.admission = true) .admissionStopped
  wakeTime now
  match ← s.dueWork now with
  | none => pure (none, s)
  | some w => do
      let id ← nextCounter s.sequence
      wakeToken ⟨id, expected, w.revision, w.value⟩
      let admitted ← s.insertExecution ⟨id, expected, w.revision, w.value, .admitted⟩
      pure (some ⟨id, expected, w.revision, w.value⟩,
        { admitted with
          work := some { w with due := none }
          sequence := id
          alarm := none })

/-- `complete`. -/
def complete (t : WakeAdmission) : Wake WakeStorage := do
  s.execution t .admitted true
  let recorded ← s.insertResult ⟨t.id, .completed t.value⟩
  recorded.setExecution t.id .settled

/-- `cancel`. -/
def cancel (t : WakeAdmission) : Wake WakeStorage := do
  s.execution t .admitted false
  s.setExecution t.id .cancelled

/-- `beginExternal`. -/
def beginExternal (t : WakeAdmission) : Wake WakeStorage := do
  s.execution t .admitted true
  require (s.admission = true) .admissionStopped
  s.setExecution t.id .externalPending

/-- `settleExternal`. -/
def settleExternal (t : WakeAdmission) (success : Bool) : Wake WakeStorage := do
  s.execution t .externalPending false
  let recorded ← s.insertResult
    ⟨t.id, if success then .confirmedSuccess else .confirmedFailure⟩
  recorded.setExecution t.id .settled

/-- `suspendAdmission`. -/
def suspendAdmission (expected : Nat) : Wake WakeStorage := do
  s.opened expected
  pure { s with admission := false }

/-- `deleteScheduled`. -/
def deleteScheduled (expected : Nat) : Wake WakeStorage := do
  s.opened expected
  s.writable
  pure { s with work := none, alarm := none }

end WakeStorage

/-- An execution that is neither settled nor cancelled. -/
def WakeExecution.isOpen (e : WakeExecution) : Prop :=
  ¬ (e.state = .settled ∨ e.state = .cancelled)

instance (e : WakeExecution) : Decidable e.isOpen := inferInstanceAs (Decidable (¬ (_ ∨ _)))

namespace WakeStorage

variable (s : WakeStorage)

/-- `empty`. -/
def drained : Wake Unit := do
  require (∀ e ∈ s.executions, ¬ e.isOpen) .drainIncomplete
  require (∀ w ∈ s.work, w.due = none) .alarmUnsettled

/-- `transition`, with the trigger of `maintenance_control`. -/
def transition (expected : Nat) (source target : ControlState) : Wake WakeStorage := do
  counter expected
  require (s.generation = expected ∧ s.state = source) .transitionRefused
  require (expected ≠ maxGeneration) .counterExhausted
  pure { s with generation := s.generation + 1, state := target }

/-- `close`. -/
def close (expected : Nat) : Wake WakeStorage := do
  s.opened expected
  require (s.admission = false) .admissionNotStopped
  s.drained
  require (s.alarm = none) .alarmUnsettled
  s.transition expected .open .closed

/-- The transaction of `reopen`, once its disposition is confirmed. -/
def reopen (expected : Nat) : Wake WakeStorage := do
  s.drained
  require (s.alarm = none) .alarmUnsettled
  let reopened ← s.transition expected .closed .open
  pure { reopened with admission := true }

end WakeStorage

/-! ## Methods -/

/-- What the methods ask of the storage, of the verifier of a disposition and of the tables of
the bridge. -/
inductive WakeOp where
  | control
  | schedule (expected : Nat) (value : WakeText) (due : Nat)
  | admitDue (expected : Nat)
  | complete (t : WakeAdmission)
  | cancel (t : WakeAdmission)
  | beginExternal (t : WakeAdmission)
  | settleExternal (t : WakeAdmission) (success : Bool)
  | suspendAdmission (expected : Nat)
  | deleteScheduled (expected : Nat)
  | close (expected : Nat)
  | verify (expected : Nat)
  | reopen (expected : Nat)
  | checkNew (generation : Nat)
  | bridge
deriving DecidableEq

abbrev WakeOp.Answer : WakeOp → Type
  | .control => Wake Nat
  | .schedule .. => Wake Nat
  | .admitDue _ => Wake (Option WakeAdmission)
  | .verify _ => Wake Bool
  | .complete _ | .cancel _ | .beginExternal _ | .settleExternal .. | .suspendAdmission _
  | .deleteScheduled _ | .close _ | .reopen _ | .checkNew _ | .bridge => Wake Unit

abbrev WakeProg := Throws WakeOp.Answer WakeRefusal

/-- `admitCurrentDue`: the generation is captured before the transaction is asked for. -/
def admitCurrentDue : WakeProg (Option WakeAdmission) := do
  let captured ← attempt (Prog.query WakeOp.control)
  attempt (Prog.query (WakeOp.admitDue captured))

/-- `alarm`. -/
def alarm : WakeProg Unit := do
  let admission ← admitCurrentDue
  match admission with
  | none => pure ()
  | some t => attempt (Prog.query (WakeOp.complete t))

/-- `reopen`. -/
def reopen (expected : Nat) : WakeProg Unit := do
  attempt (pure (counter expected))
  let confirmed ← attempt (Prog.query (WakeOp.verify expected))
  attempt (pure (require (confirmed = true) .dispositionUnconfirmed))
  attempt (Prog.query (WakeOp.reopen expected))

/-! ### `partition_maintenance.ts` -/

/-- `arm`: the value is the partition. -/
def arm (generation : Nat) (partitionId : WakeText) (due : Nat) : WakeProg Nat := do
  attempt (Prog.query (WakeOp.checkNew generation))
  attempt (Prog.query (WakeOp.schedule generation partitionId due))

/-- `due`. -/
def dueAdmission (generation : Nat) : WakeProg (Option WakeAdmission) := do
  attempt (Prog.query (WakeOp.checkNew generation))
  let admission ← admitCurrentDue
  attempt (pure (require (∀ t ∈ admission, t.generation = generation) .bridgeRefused))
  pure admission

/-- `markDue`. -/
def markDue (generation : Nat) (t : WakeAdmission) : WakeProg Unit := do
  attempt (Prog.query (WakeOp.checkNew generation))
  attempt (pure (require (t.generation = generation) .bridgeRefused))
  attempt (Prog.query WakeOp.bridge)
  attempt (Prog.query (WakeOp.beginExternal t))

/-- `settleDue`. -/
def settleDue (t : WakeAdmission) : WakeProg Unit := do
  attempt (Prog.query WakeOp.bridge)
  attempt (Prog.query (WakeOp.settleExternal t true))

/-- The methods a caller or the platform starts. -/
inductive WakeMethod where
  | alarm
  | admitCurrentDue
  | schedule (expected : Nat) (value : WakeText) (due : Nat)
  | complete (t : WakeAdmission)
  | cancel (t : WakeAdmission)
  | beginExternal (t : WakeAdmission)
  | settleExternal (t : WakeAdmission) (success : Bool)
  | suspendAdmission (expected : Nat)
  | deleteScheduled (expected : Nat)
  | close (expected : Nat)
  | reopen (expected : Nat)
  | arm (generation : Nat) (partitionId : WakeText) (due : Nat)
  | due (generation : Nat)
  | markDue (generation : Nat) (t : WakeAdmission)
  | settleDue (t : WakeAdmission)

/-- A method whose result nobody waits for. -/
def detached {α : Type} (method : WakeProg α) : Prog WakeOp.Answer Unit :=
  method.run >>= fun _ => pure ()

def WakeMethod.program : WakeMethod → Prog WakeOp.Answer Unit
  | .alarm => detached NativeWakeup.alarm
  | .admitCurrentDue => detached NativeWakeup.admitCurrentDue
  | .schedule expected value dueAt => detached (attempt (Prog.query (WakeOp.schedule expected value dueAt)))
  | .complete t => detached (attempt (Prog.query (WakeOp.complete t)))
  | .cancel t => detached (attempt (Prog.query (WakeOp.cancel t)))
  | .beginExternal t => detached (attempt (Prog.query (WakeOp.beginExternal t)))
  | .settleExternal t success => detached (attempt (Prog.query (WakeOp.settleExternal t success)))
  | .suspendAdmission expected => detached (attempt (Prog.query (WakeOp.suspendAdmission expected)))
  | .deleteScheduled expected => detached (attempt (Prog.query (WakeOp.deleteScheduled expected)))
  | .close expected => detached (attempt (Prog.query (WakeOp.close expected)))
  | .reopen expected => detached (NativeWakeup.reopen expected)
  | .arm generation partitionId dueAt => detached (NativeWakeup.arm generation partitionId dueAt)
  | .due generation => detached (dueAdmission generation)
  | .markDue generation t => detached (NativeWakeup.markDue generation t)
  | .settleDue t => detached (NativeWakeup.settleDue t)

/-! ## The object -/

/-- A transaction commits with its answer, or it is refused and rolled back. -/
def transacts {α : Type} (s : WakeStorage) (transaction : Wake (α × WakeStorage)) (answer : Wake α)
    (s' : WakeStorage) : Prop :=
  match transaction with
  | .error refusal => answer = .error refusal ∧ s' = s
  | .ok (result, after) => answer = .ok result ∧ s' = after

/-- A transaction without a result. -/
def silent (transaction : Wake WakeStorage) : Wake (Unit × WakeStorage) :=
  transaction.map fun s => ((), s)

/-- How an operation meets the storage. -/
def serveWake (s : WakeStorage) : (o : WakeOp) → o.Answer → WakeStorage → Prop
  | .control, answer, s' => answer = .ok s.generation ∧ s' = s
  | .schedule expected value due, answer, s' =>
      transacts s (s.schedule expected value due) answer s'
  | .admitDue expected, answer, s' => ∃ now, transacts s (s.admitDue expected now) answer s'
  | .complete t, answer, s' => transacts s (silent (s.complete t)) answer s'
  | .cancel t, answer, s' => transacts s (silent (s.cancel t)) answer s'
  | .beginExternal t, answer, s' => transacts s (silent (s.beginExternal t)) answer s'
  | .settleExternal t success, answer, s' =>
      transacts s (silent (s.settleExternal t success)) answer s'
  | .suspendAdmission expected, answer, s' =>
      transacts s (silent (s.suspendAdmission expected)) answer s'
  | .deleteScheduled expected, answer, s' =>
      transacts s (silent (s.deleteScheduled expected)) answer s'
  | .close expected, answer, s' => transacts s (silent (s.close expected)) answer s'
  | .reopen expected, answer, s' => transacts s (silent (s.reopen expected)) answer s'
  | .verify _, _, s' => s' = s
  | .checkNew generation, answer, s' =>
      (answer = .ok () → s.state = .open ∧ s.generation = generation ∧ s.admission = true) ∧ s' = s
  | .bridge, _, s' => s' = s

/-- The object: its callers, and the platform, which takes an alarm off when it delivers it. -/
def wakeMachine : Machine WakeStorage WakeOp.Answer where
  serve := serveWake
  lost _ _ := False
  external s s' := s' = { s with alarm := none }
  program p := ∃ method : WakeMethod, p = method.program

end FlickrGroupAddr.NativeWakeup

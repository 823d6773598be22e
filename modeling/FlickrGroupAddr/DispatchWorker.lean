import FlickrGroupAddr.Coordination
import FlickrGroupAddr.FlickrRate
import FlickrGroupAddr.Lib.Calls
import FlickrGroupAddr.NativeLifecycle

/-!
# The dispatcher

`runPartition` of `fail_polite.ts` with what `consumePartition` of `dispatch_worker.ts` hands
it: the rate reservations, the credential of the user, and a transport whose answers are
whatever they are.  Any number of invocations run against one database, and each may stop
anywhere.
-/

namespace FlickrGroupAddr

set_option autoImplicit false

open KeyedTable Program Workers Transition

/-! ## What an invocation asks -/

/-- What the handlers of an invocation tell apart: any exception, a `FlickrFailure`, and the
proof that a request was never handed to the fetcher. -/
inductive DispatchFault where
  | failed
  | flickr (code : Int)
  | notDispatched
deriving DecidableEq

inductive FaultPoint where
  | beforeMembership
  | afterMembership
  | membershipCommitted
  | beforePreflight
  | afterPreflight
  | preflightCommitted
  | markerCommitted
  | responseReceived
  | resultCommitted
deriving DecidableEq

/-- The callbacks of `PartitionLifetime`. -/
inductive LifetimeStep where
  | checkNew
  | authority
  | claiming
  | claimed
  | attempted
  | dispatching
deriving DecidableEq

inductive DispatchOp where
  | lifetime (step : LifetimeStep)
  | fault (point : FaultPoint)
  | owner (partitionId : Token)
  | workerGrant (userId : Token)
  | claim (partitionId : Token) (revision : Option Nat) (policy : LeasePolicy)
  | unfinished (lease : Lease)
  | begin (lease : Lease)
  | record (lease : Lease) (attemptId : Token) (kind : RecordKind)
  | counts (lease : Lease)
  | resolve (lease : Lease) (attemptId : Token) (site : ResolutionSite)
      (artifact : Option String) (counts : FailureCounts)
  | rejectGrant (snapshot : GrantSnapshot)
  | beforePreflight (lease : Lease)
  | reserve (attempt : Attempt)
  | rateRetryDelayMs
  | check (reservation : Token) (attempt : Attempt)
  | consume (reservation : Token) (operation : RateOperation)
  | proveAddNotSent (reservation : Token)
  | close (reservation : Token)
  | refund (reservation : Token) (used : Nat)
  | monotonicUs
  | membership (attempt : Attempt)
  | preflight (attempt : Attempt)
  | prepareAdd (attempt : Attempt)
  | handoff (attempt : Attempt)
deriving DecidableEq

abbrev DispatchOp.Answer : DispatchOp → Type
  | .monotonicUs => Int
  | .reserve _ => Option Token
  | .close _ => Option Nat
  | .consume _ _ => Bool
  | .owner _ => Except DispatchFault (Option Token)
  | .workerGrant _ => Except DispatchFault (Option GrantSnapshot)
  | .claim _ _ _ => Except DispatchFault (Option Lease)
  | .unfinished _ => Except DispatchFault (Option Attempt)
  | .begin _ => Except DispatchFault Attempt
  | .counts _ => Except DispatchFault (Option FailureCounts)
  | .rateRetryDelayMs => Except DispatchFault Int
  | .check _ _ | .beforePreflight _ | .membership _ | .preflight _ => Except DispatchFault Bool
  | .handoff _ => Except DispatchFault AddResult
  | .lifetime _ | .fault _ | .record _ _ _ | .resolve _ _ _ _ _ | .rejectGrant _
  | .proveAddNotSent _ | .refund _ _ | .prepareAdd _ => Except DispatchFault Unit

abbrev DispatchProg := Prog DispatchOp.Answer

abbrev DispatchThrows := Throws DispatchOp.Answer DispatchFault

/-- What an invocation returns. -/
inductive PartitionResult where
  | disabled
  | noPartition
  | noClaim
  | recovered
  | deferred
  | expired
  | notDispatched
  | uncertain
  | resolved (outcome : DispatchOutcome)
deriving DecidableEq

namespace Dispatch

def lifetime (step : LifetimeStep) : DispatchThrows Unit :=
  attempt (Prog.query (DispatchOp.lifetime step))

def fault (point : FaultPoint) : DispatchThrows Unit :=
  attempt (Prog.query (DispatchOp.fault point))

/-- What `consumePartition` captures for an invocation. -/
structure Env where
  artifact : Option String
  snapshot : Option GrantSnapshot
  policy : LeasePolicy
deriving DecidableEq

/-- `onFlickrCode`: codes 98 and 99 reject the grant of the invocation. -/
def onFlickrCode (env : Env) (code : Int) : DispatchThrows Unit :=
  match env.snapshot with
  | none => pure ()
  | some snapshot =>
      if code = 98 ∨ code = 99 then attempt (Prog.query (DispatchOp.rejectGrant snapshot))
      else pure ()

/-- `resolveAttempt`: it reads the failure counts of the head before its batch. -/
def resolve (env : Env) (lease : Lease) (attemptId : Token) (site : ResolutionSite) :
    DispatchThrows Unit := do
  match ← attempt (Prog.query (DispatchOp.counts lease)) with
  | none => throw .failed
  | some counts =>
      attempt (Prog.query (DispatchOp.resolve lease attemptId site env.artifact counts))

/-- `try` and `finally`: the handle is closed, and what is not used given back; a failing
refund is ignored. -/
def releasing {α : Type} (reservation : Token) (body : DispatchThrows α) : DispatchThrows α :=
  ExceptT.mk do
    let result ← body.run
    match ← Prog.query (DispatchOp.close reservation) with
    | none => pure result
    | some used =>
        let _ ← Prog.query (DispatchOp.refund reservation used)
        pure result

section Attempt

variable (env : Env) (lease : Lease) (current : FlickrGroupAddr.Attempt) (reservation : Token)

/-- `rateUnavailable`. -/
def rateUnavailable : DispatchThrows PartitionResult := do
  let delayMs ← attempt (Prog.query DispatchOp.rateRetryDelayMs)
  resolve env lease current.attemptId (.rateUnavailable delayMs)
  pure .deferred

/-- `unavailable`, with the exception that was caught, if one was. -/
def unavailable (error : Option DispatchFault) : DispatchThrows PartitionResult := do
  match error with
  | some (.flickr code) =>
      resolve env lease current.attemptId (.unavailable (some code))
      onFlickrCode env code
      pure .deferred
  | _ =>
      resolve env lease current.attemptId (.unavailable none)
      pure .deferred

/-- `catch (error) {return await unavailable(error);}` around a call, which goes on with its
value. -/
def orUnavailable {α : Type} (call : DispatchThrows α)
    (next : α → DispatchThrows PartitionResult) : DispatchThrows PartitionResult := do
  match ← (ExceptT.lift call.run : DispatchThrows _) with
  | .ok value => next value
  | .error error => unavailable env lease current (some error)

/-- `reservation.consume(operation)`, which throws unless the handle lets the call through. -/
def consume (operation : RateOperation) : DispatchThrows Unit := do
  if ← (ExceptT.lift (Prog.query (DispatchOp.consume reservation operation)) :
      DispatchThrows Bool) then
    pure ()
  else throw .failed

/-- `fresh`. -/
def fresh (received : Int) : DispatchThrows Bool := do
  let now ← (ExceptT.lift (Prog.query DispatchOp.monotonicUs) : DispatchThrows Int)
  pure (preflightIsFresh received now)

def expired : DispatchThrows PartitionResult := do
  resolve env lease current.attemptId .preflightExpired
  pure .expired

/-- The hand-off and what follows its answer. -/
def handOff : DispatchThrows PartitionResult := do
  let handedOff : DispatchThrows AddResult := do
    consume reservation .add
    attempt (Prog.query (DispatchOp.handoff current))
  match ← (ExceptT.lift handedOff.run : DispatchThrows _) with
  | .error .notDispatched =>
      attempt (Prog.query (DispatchOp.proveAddNotSent reservation))
      resolve env lease current.attemptId .transportAborted
      pure .notDispatched
  | .error _ =>
      resolve env lease current.attemptId .unresolvedDispatch
      pure .uncertain
  | .ok result =>
      fault .responseReceived
      resolve env lease current.attemptId (.answered result)
      fault .resultCommitted
      match result with
      | .ok => pure (.resolved (classifyAdd result).outcome)
      | .code code =>
          onFlickrCode env code
          pure (.resolved (classifyAdd result).outcome)

/-- From the prepared request to the end. -/
def afterPrepare (received : Int) : DispatchThrows PartitionResult := do
  if ← fresh received then
    lifetime .checkNew
    attempt (Prog.query (DispatchOp.record lease current.attemptId (.marker (some reservation))))
    fault .markerCommitted
    lifetime .dispatching
    -- no await between this reading and the hand-off
    if ← fresh received then handOff env lease current reservation
    else expired env lease current
  else expired env lease current

/-- From the committed membership read to the end. -/
def afterMembership : DispatchThrows PartitionResult := do
  fault .beforePreflight
  lifetime .checkNew
  if ← attempt (Prog.query (DispatchOp.check reservation current)) then
    if ← attempt (Prog.query (DispatchOp.beforePreflight lease)) then
      lifetime .checkNew
      let read : DispatchThrows (Bool × Int) := do
        consume reservation .preflight
        let moderated ← attempt (Prog.query (DispatchOp.preflight current))
        let received ← (ExceptT.lift (Prog.query DispatchOp.monotonicUs) : DispatchThrows Int)
        pure (moderated, received)
      orUnavailable env lease current read fun (moderated, received) => do
        fault .afterPreflight
        attempt (Prog.query (DispatchOp.record lease current.attemptId (.preflight moderated)))
        fault .preflightCommitted
        if ← fresh received then
          lifetime .checkNew
          orUnavailable env lease current (attempt (Prog.query (DispatchOp.prepareAdd current)))
            fun _ => afterPrepare env lease current reservation received
        else expired env lease current
    else unavailable env lease current none
  else rateUnavailable env lease current

/-- What the reservation covers: the body of the outer `try`. -/
def attempted : DispatchThrows PartitionResult := do
  fault .beforeMembership
  lifetime .checkNew
  if ← attempt (Prog.query (DispatchOp.check reservation current)) then
    lifetime .checkNew
    let read : DispatchThrows Bool := do
      consume reservation .membership
      attempt (Prog.query (DispatchOp.membership current))
    orUnavailable env lease current read fun present => do
      fault .afterMembership
      attempt (Prog.query (DispatchOp.record lease current.attemptId (.membership (!present))))
      fault .membershipCommitted
      if present = true then
        resolve env lease current.attemptId .membershipPresent
        pure (.resolved .added)
      else afterMembership env lease current reservation
  else rateUnavailable env lease current

end Attempt

/-- Closing a handle and giving back what it did not use changes neither result. -/
theorem runs_releasing {S α : Type} {m : Monitor DispatchOp.Answer S} {s : S} {reservation : Token}
    {body : DispatchThrows α} (h : Runs m (fun _ _ => True) (fun _ _ => True) s body)
    (hclose : ∀ t, m.allows t (.close reservation))
    (hrefund : ∀ t used, m.allows t (.refund reservation used)) :
    Runs m (fun _ _ => True) (fun _ _ => True) s (releasing reservation body) := by
  show Program.Follows m _ s (body.run >>= _)
  rw [follows_bind]
  apply Program.Follows.imp h
  intro result t _
  have hends : ∀ t' : S, ends (fun _ _ => True) (fun _ _ => True) result t' := by
    intro t'
    cases result with
    | error => trivial
    | ok => trivial
  rw [follows_bind]
  refine ⟨hclose t, ?_⟩
  rintro (_ | used)
  · exact hends _
  · show Program.Follows m _ _ (_ >>= _)
    rw [follows_bind]
    exact ⟨hrefund _ used, fun _ => hends _⟩

/-- From a claimed lease to the end. -/
def underLease (env : Env) (lease : Lease) : DispatchThrows PartitionResult := do
  lifetime .claimed
  match ← attempt (Prog.query (DispatchOp.unfinished lease)) with
  | some old =>
      lifetime .attempted
      resolve env lease old.attemptId (.recovered old.marked)
      pure .recovered
  | none =>
      lifetime .checkNew
      let current ← attempt (Prog.query (DispatchOp.begin lease))
      lifetime .attempted
      match ← (ExceptT.lift (Prog.query (DispatchOp.reserve current)) : DispatchThrows _) with
      | none => rateUnavailable env lease current
      | some reservation => releasing reservation (attempted env lease current reservation)

end Dispatch

open Dispatch in
def runPartition (env : Env) (partitionId : Token) (revision : Option Nat) :
    DispatchThrows PartitionResult := do
  lifetime .checkNew
  lifetime .claiming
  match ← attempt (Prog.query (DispatchOp.claim partitionId revision env.policy)) with
  | none => pure .noClaim
  | some lease => underLease env lease

open Dispatch in
def consumePartition (enabled : Bool) (artifact : Option String) (partitionId : Token)
    (revision : Option Nat) : DispatchThrows PartitionResult := do
  lifetime .checkNew
  if enabled = false then pure .disabled
  else do
    match ← attempt (Prog.query (DispatchOp.owner partitionId)) with
    | none => pure .noPartition
    | some userId =>
        let snapshot ← attempt (Prog.query (DispatchOp.workerGrant userId))
        lifetime .authority
        runPartition ⟨artifact, snapshot, defaultLeasePolicy⟩ partitionId revision

end FlickrGroupAddr

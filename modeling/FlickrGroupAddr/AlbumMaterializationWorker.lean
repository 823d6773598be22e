import FlickrGroupAddr.AlbumInvocation
import FlickrGroupAddr.AlbumWork
import FlickrGroupAddr.Lib.Workers

/-!
# The worker that creates an album

`consumeAlbumMaterialization` of `album_materialization_worker.ts`, over the calls of its
store and of its transport.  The transport is not part of the repository's defaults, so
its answers are whatever they are.
-/

namespace FlickrGroupAddr

set_option autoImplicit false

open Program Workers

/-- What the worker can catch: any exception, or the strict adapter's `AlbumCreateRejected`. -/
inductive CreateFault where
  | failed
  | rejected (code : Nat)
deriving DecidableEq

/-- `AlbumCreateResult`. -/
structure AlbumCreateResult where
  photosetId : Token
  url : NavigationUrl
deriving DecidableEq

/-- What the worker asks its clock, its store and its transport. -/
inductive CreateOp where
  | monotonicMs
  | claim (bindingId : Token)
  | current (claim : AlbumMaterializationClaim) (minRemainingUs : Us)
  | transport (claim : AlbumMaterializationClaim)
  | contexts (claim : AlbumMaterializationClaim)
  | prepareCreate (claim : AlbumMaterializationClaim)
  | mark (claim : AlbumMaterializationClaim) (preContextIds : List Token)
  | handoff (claim : AlbumMaterializationClaim)
  | record (claim : AlbumMaterializationClaim) (created : AlbumCreateResult)
  | verify (claim : AlbumMaterializationClaim) (photosetId : Token)
  | finish (claim : AlbumMaterializationClaim) (proof : AlbumMaterializationProof)
  | fail (claim : AlbumMaterializationClaim)
  | unknown (claim : AlbumMaterializationClaim)
  | reject (claim : AlbumMaterializationClaim) (code : Nat)
deriving DecidableEq

abbrev CreateOp.Answer : CreateOp → Type
  | .monotonicMs => Int
  | .claim _ => Except CreateFault (Option AlbumMaterializationClaim)
  | .transport _ | .prepareCreate _ => Except CreateFault Unit
  | .contexts _ => Except CreateFault (List Token)
  | .handoff _ => Except CreateFault AlbumCreateResult
  | .verify _ _ => Except CreateFault AlbumMaterializationProof
  | .current _ _ | .mark _ _ | .record _ _ | .finish _ _ | .fail _ | .unknown _ | .reject _ _ =>
      Except CreateFault Bool

abbrev CreateProg := Prog CreateOp.Answer

abbrev CreateThrows := Throws CreateOp.Answer CreateFault

/-- `AlbumMaterializationOutcome`. -/
inductive AlbumMaterializationOutcome where
  | disabled
  | noWork
  | notDispatched
  | materialized
  | createRejected
  | createOutcomeUnknown
  | serviceUnavailable
deriving DecidableEq

def createInvocation : Invocation CreateOp.Answer CreateFault :=
  ⟨Prog.query CreateOp.monotonicMs, .failed, 45000⟩

namespace AlbumMaterialization

def callAndCommitMs : Int := 15000

def commitMs : Int := 5000

variable (started : Int) (claim : AlbumMaterializationClaim)

def assertCurrent (requiredMs : Int) : CreateThrows Unit :=
  createInvocation.assertCurrent started (fun us => Prog.query (CreateOp.current claim us)) requiredMs

/-- From the claim up to the dispatch marker, and whether it was set. -/
def dispatch : CreateThrows Bool := do
  assertCurrent started claim callAndCommitMs
  createInvocation.bounded started (Prog.query (CreateOp.transport claim))
  let preContextIds ← createInvocation.bounded started (Prog.query (CreateOp.contexts claim))
  assertCurrent started claim callAndCommitMs
  createInvocation.bounded started (Prog.query (CreateOp.prepareCreate claim))
  assertCurrent started claim callAndCommitMs
  createInvocation.bounded started (Prog.query (CreateOp.mark claim preContextIds))

/-- The one hand-off of a marked create. -/
def handoff : CreateThrows AlbumCreateResult := do
  let remaining ← createInvocation.remainingMs started
  if remaining ≤ callAndCommitMs then throw .failed
  else createInvocation.bounded started (Prog.query (CreateOp.handoff claim))

/-- From the returned create to its verified proof. -/
def complete (created : AlbumCreateResult) : CreateThrows Unit := do
  assertCurrent started claim commitMs
  let recorded ← createInvocation.bounded started (Prog.query (CreateOp.record claim created))
  if recorded = false then throw .failed
  else do
    assertCurrent started claim callAndCommitMs
    let proof ← createInvocation.bounded started (Prog.query (CreateOp.verify claim created.photosetId))
    assertCurrent started claim commitMs
    let finished ← createInvocation.bounded started (Prog.query (CreateOp.finish claim proof))
    if finished = false then throw .failed else pure ()

/-- A call whose outcome is ignored. -/
def settle (op : CreateProg (Except CreateFault Bool)) : CreateProg Unit := do
  let _ ← (createInvocation.bounded started op).run
  pure ()

def outcomeUnknown : CreateProg AlbumMaterializationOutcome := do
  settle started (Prog.query (CreateOp.unknown claim))
  pure .createOutcomeUnknown

def notDispatched : CreateProg AlbumMaterializationOutcome := do
  settle started (Prog.query (CreateOp.fail claim))
  pure .notDispatched

/-- What follows the marker; only a rejection that the hand-off itself reports can reject. -/
def afterMarker : CreateProg AlbumMaterializationOutcome := do
  match ← (handoff started claim).run with
  | .ok created =>
      match ← (complete started claim created).run with
      | .ok () => pure .materialized
      | .error _ => outcomeUnknown started claim
  | .error (.rejected code) =>
      match ← (createInvocation.bounded started (Prog.query (CreateOp.reject claim code))).run with
      | .ok true => pure .createRejected
      | _ => outcomeUnknown started claim
  | .error .failed => outcomeUnknown started claim

end AlbumMaterialization

open AlbumMaterialization in
def consumeAlbumMaterialization (enabled : Bool) (bindingId : Token) :
    CreateProg AlbumMaterializationOutcome := do
  if enabled = false then pure .disabled
  else do
    let started ← Prog.query CreateOp.monotonicMs
    match ← (createInvocation.bounded started (Prog.query (CreateOp.claim bindingId))).run with
    | .error _ => pure .serviceUnavailable
    | .ok none => pure .noWork
    | .ok (some claim) =>
        match ← (dispatch started claim).run with
        | .ok true => afterMarker started claim
        | .ok false =>
            -- A failure of this call is caught like every other, and the call is made again.
            match ← (createInvocation.bounded started (Prog.query (CreateOp.fail claim))).run with
            | .ok _ => pure .notDispatched
            | .error _ => notDispatched started claim
        | .error _ => notDispatched started claim

end FlickrGroupAddr

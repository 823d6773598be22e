import FlickrGroupAddr.AlbumInvocation
import FlickrGroupAddr.AlbumWork

/-!
# The worker that attaches a photo

`consumeAlbumAttachment` of `album_attachment_worker.ts`, over the calls of its store and
of its transport.
-/

namespace FlickrGroupAddr

set_option autoImplicit false

open Program

/-- What the worker can catch: any exception, or `AlbumAttachmentNeedsAttention`. -/
inductive AttachmentFault where
  | failed
  | needsAttention (reason : AttentionReason)
deriving DecidableEq

/-- What the worker asks its clock, its store and its transport. -/
inductive AttachmentOp where
  | monotonicMs
  | claim (obligationId : Token)
  | current (g : AttachmentGrant) (minRemainingUs : Us)
  | transport (c : AlbumAttachmentClaim)
  | read (c : AlbumAttachmentClaim)
  | prepareAdd (c : AlbumAttachmentClaim)
  | mark (g : AttachmentGrant) (contextIds : List Token)
  | handoff (c : AlbumAttachmentClaim)
  | record (g : AttachmentGrant) (result : AttachmentResult)
  | finish (g : AttachmentGrant) (proof : AlbumAttachmentProof)
  | defer (g : AttachmentGrant) (proof : AlbumAttachmentProof)
  | attention (g : AttachmentGrant) (reason : AttentionReason)
      (proof : Option AlbumAttachmentProof)
  | unknown (g : AttachmentGrant)
  | fail (g : AttachmentGrant)
deriving DecidableEq

abbrev AttachmentOp.Answer : AttachmentOp → Type
  | .monotonicMs => Int
  | .claim _ | .mark _ _ => Except AttachmentFault (Option AttachmentGrant)
  | .transport _ | .prepareAdd _ => Except AttachmentFault Unit
  | .read _ => Except AttachmentFault AlbumAttachmentProof
  | .handoff _ => Except AttachmentFault AttachmentResult
  | .current _ _ | .record _ _ | .finish _ _ | .defer _ _ | .attention _ _ _ | .unknown _
  | .fail _ => Except AttachmentFault Bool

abbrev AttachmentProg := Prog AttachmentOp.Answer

abbrev AttachmentThrows := Throws AttachmentOp.Answer AttachmentFault

/-- `AlbumAttachmentOutcome`. -/
inductive AlbumAttachmentOutcome where
  | disabled
  | noWork
  | notDispatched
  | membershipVerified
  | membershipReconciliationPending
  | retryScheduled
  | needsAttention
  | serviceUnavailable
deriving DecidableEq

def attachmentInvocation : Invocation AttachmentOp.Answer AttachmentFault :=
  ⟨Prog.query AttachmentOp.monotonicMs, .failed, 45000⟩

namespace AlbumAttachment

def callAndCommitMs : Int := 15000

def commitMs : Int := 5000

def maxDispatchAttempts : Nat := 8

variable (started : Int)

def bounded {α : Type} (operation : AttachmentProg (Except AttachmentFault α)) :
    AttachmentThrows α :=
  attachmentInvocation.bounded started operation

def assertCurrent (g : AttachmentGrant) (requiredMs : Int) : AttachmentThrows Unit :=
  attachmentInvocation.assertCurrent started (fun us => Prog.query (AttachmentOp.current g us))
    requiredMs

/-- A call that has to change its attempt. -/
def mustChange (operation : AttachmentProg (Except AttachmentFault Bool))
    (outcome : AlbumAttachmentOutcome) : AttachmentThrows AlbumAttachmentOutcome := do
  let changed ← bounded started operation
  if changed = false then throw .failed else pure outcome

/-- What a read concludes for the attempt, unless it is still to be tried. -/
def conclude (photosetId : Token) (g : AttachmentGrant) (proof : AlbumAttachmentProof) :
    AttachmentThrows (Option AlbumAttachmentOutcome) :=
  if photosetId ∈ proof.contextIds then
    some <$> mustChange started (Prog.query (AttachmentOp.finish g proof)) .membershipVerified
  else if g.archivedAfterFulfillment = true then
    some <$> mustChange started
      (Prog.query (AttachmentOp.attention g .archivedDriftUnresolved (some proof))) .needsAttention
  else if maxDispatchAttempts ≤ g.dispatchAttempts then
    some <$> mustChange started
      (Prog.query (AttachmentOp.attention g .retryExhausted (some proof))) .needsAttention
  else pure none

def deferred (g : AttachmentGrant) (proof : AlbumAttachmentProof) :
    AttachmentThrows AlbumAttachmentOutcome :=
  mustChange started (Prog.query (AttachmentOp.defer g proof)) .retryScheduled

/-- `completeRead`, of an attempt that was marked. -/
def completeRead (g marked : AttachmentGrant) : AttachmentThrows AlbumAttachmentOutcome := do
  assertCurrent started marked callAndCommitMs
  let proof ← bounded started (Prog.query (AttachmentOp.read g.claim))
  assertCurrent started marked commitMs
  match ← conclude started g.claim.photosetId marked proof with
  | some outcome => pure outcome
  | none => deferred started marked proof

/-- From the claim up to the dispatch marker: an outcome, or the marked claim. -/
def dispatch (g : AttachmentGrant) :
    AttachmentThrows (AlbumAttachmentOutcome ⊕ AttachmentGrant) := do
  assertCurrent started g callAndCommitMs
  bounded started (Prog.query (AttachmentOp.transport g.claim))
  assertCurrent started g callAndCommitMs
  let proof ← bounded started (Prog.query (AttachmentOp.read g.claim))
  assertCurrent started g commitMs
  match ← conclude started g.claim.photosetId g proof with
  | some outcome => pure (.inl outcome)
  | none =>
      if g.claim.reconciliationOnly = true then .inl <$> deferred started g proof
      else do
        assertCurrent started g callAndCommitMs
        bounded started (Prog.query (AttachmentOp.prepareAdd g.claim))
        assertCurrent started g callAndCommitMs
        match ← bounded started (Prog.query (AttachmentOp.mark g proof.contextIds)) with
        | none => throw .failed
        | some marked => pure (.inr marked)

/-- What the hand-off returned; what it throws proves nothing and is dropped. -/
def handoff (g : AttachmentGrant) : AttachmentThrows (Option AttachmentResult) :=
  attempt do
    match ← (bounded started (Prog.query (AttachmentOp.handoff g.claim))).run with
    | .ok result => pure (.ok (some result))
    | .error _ => pure (.ok none)

/-- The one hand-off of a marked add, and the read that follows it. -/
def afterMarker (g marked : AttachmentGrant) : AttachmentThrows AlbumAttachmentOutcome := do
  assertCurrent started marked callAndCommitMs
  match ← handoff started g with
  | none => completeRead started g marked
  | some result => do
      assertCurrent started marked commitMs
      let recorded ← bounded started (Prog.query (AttachmentOp.record marked result))
      if recorded = false then throw .failed else completeRead started g marked

/-- A call whose outcome is ignored. -/
def settle (operation : AttachmentProg (Except AttachmentFault Bool))
    (outcome : AlbumAttachmentOutcome) : AttachmentProg AlbumAttachmentOutcome := do
  let _ ← (bounded started operation).run
  pure outcome

/-- The attempt ends without an answer. -/
def unanswered (g : AttachmentGrant) (marked : Option AttachmentGrant) :
    AttachmentProg AlbumAttachmentOutcome :=
  if marked.isSome = true ∨ g.claim.reconciliationOnly = true then
    settle started (Prog.query (AttachmentOp.unknown (marked.getD g)))
      .membershipReconciliationPending
  else settle started (Prog.query (AttachmentOp.fail g)) .notDispatched

/-- The `catch` of the worker. -/
def caught (g : AttachmentGrant) (marked : Option AttachmentGrant) :
    AttachmentFault → AttachmentProg AlbumAttachmentOutcome
  | .failed => unanswered started g marked
  | .needsAttention reason => do
      match ← (bounded started
          (Prog.query (AttachmentOp.attention (marked.getD g) reason none))).run with
      | .ok true => pure .needsAttention
      | _ => unanswered started g marked

end AlbumAttachment

open AlbumAttachment in
def consumeAlbumAttachment (enabled : Bool) (obligationId : Token) :
    AttachmentProg AlbumAttachmentOutcome := do
  if enabled = false then pure .disabled
  else do
    let started ← Prog.query AttachmentOp.monotonicMs
    match ← (bounded started (Prog.query (AttachmentOp.claim obligationId))).run with
    | .error _ => pure .serviceUnavailable
    | .ok none => pure .noWork
    | .ok (some g) =>
        match ← (dispatch started g).run with
        | .error fault => caught started g none fault
        | .ok (.inl outcome) => pure outcome
        | .ok (.inr marked) =>
            match ← (afterMarker started g marked).run with
            | .error fault => caught started g (some marked) fault
            | .ok outcome => pure outcome

end FlickrGroupAddr

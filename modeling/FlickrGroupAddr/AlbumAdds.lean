import FlickrGroupAddr.AlbumAttachmentWorker
import FlickrGroupAddr.AlbumAttachments
import FlickrGroupAddr.AlbumPools
import FlickrGroupAddr.Lib.Grants

/-!
# The discipline of adds

Any number of workers attach photos from one database, next to every other album call.
An add needs the mark of its attempt, which one worker is granted once and which the
same worker asked for after a read that did not show the photoset.
-/

namespace FlickrGroupAddr

set_option autoImplicit false

open KeyedTable Transition Program Workers

/-! ## The store the workers share -/

namespace AttachmentOp

/-- What an operation does to the database, at any moment in any world. -/
def serve (db : AlbumDb) : (o : AttachmentOp) → o.Answer → AlbumDb → Prop
  | .claim obligationId, answer, db' => ∃ w clock attemptId leaseId,
      batchServed db (claimAlbumAttachment w clock db obligationId attemptId leaseId) answer db'
  | .current g minRemainingUs, answer, db' => db' = db ∧ ∃ m, ∀ isCurrent,
      answer = .ok isCurrent → isCurrent = decide (currentAlbumAttachment m db g minRemainingUs)
  | .mark g contextIds, answer, db' => ∃ m,
      batchServed db (markAlbumAttachmentDispatch m db g contextIds) answer db'
  | .record g result, answer, db' => ∃ m,
      batchServed db (recordAlbumAttachmentResult m db g result) answer db'
  | .finish g proof, answer, db' => ∃ m,
      batchServed db (finishAlbumAttachment m db g proof) answer db'
  | .defer g proof, answer, db' => ∃ m,
      batchServed db (deferAlbumAttachment m db g proof) answer db'
  | .attention g reason proof, answer, db' => ∃ m,
      batchServed db (attentionAlbumAttachment m db g reason proof) answer db'
  | .unknown g, answer, db' => ∃ m,
      batchServed db (unknownAlbumAttachment m db g) answer db'
  | .fail g, answer, db' => ∃ m,
      batchServed db (failAlbumAttachmentBeforeDispatch m db g) answer db'
  | .monotonicMs, _, db' | .transport _, _, db' | .read _, _, db' | .prepareAdd _, _, db'
  | .handoff _, _, db' => db' = db

/-- A lost answer shows as an exception; the clock always answers. -/
def lost : (o : AttachmentOp) → o.Answer → Prop
  | .monotonicMs, _ => False
  | .claim _, answer | .mark _ _, answer => answer.isOk = false
  | .transport _, answer | .prepareAdd _, answer => answer.isOk = false
  | .read _, answer => answer.isOk = false
  | .handoff _, answer => answer.isOk = false
  | .current _ _, answer | .record _ _, answer | .finish _ _, answer | .defer _ _, answer
  | .attention _ _ _, answer | .unknown _, answer | .fail _, answer => answer.isOk = false

end AttachmentOp

/-- The workers, the database they share, and every other call on it. -/
def attachmentMachine : Machine AlbumDb AttachmentOp.Answer where
  serve := AttachmentOp.serve
  lost := AttachmentOp.lost
  external := otherAlbumCall .attachments
  program := fun program => ∃ enabled obligationId,
    program = consumeAlbumAttachment enabled obligationId >>= fun _ => pure ()

theorem AttachmentOp.serve.writes {db db' : AlbumDb} {o : AttachmentOp} {answer : o.Answer}
    (h : o.serve db answer db') : AlbumWrites (some .attachments) db db' := by
  have hsame : db' = db → AlbumWrites (some .attachments) db db' := by
    rintro rfl
    exact Relation.ReflTransGen.refl
  cases o with
  | claim obligationId =>
      obtain ⟨w, clock, attemptId, leaseId, h⟩ := h
      exact h.writes fun _ => writes_claimAlbumAttachment rfl
  | current g us => exact hsame h.1
  | mark g ids =>
      obtain ⟨m, h⟩ := h
      exact h.writes fun _ => writes_markAlbumAttachmentDispatch rfl
  | record g result =>
      obtain ⟨m, h⟩ := h
      apply h.writes
      intro answer hrecord
      unfold recordAlbumAttachmentResult at hrecord
      split at hrecord
      · cases hrecord
        exact Relation.ReflTransGen.refl
      · exact writes_changeAttachment rfl hrecord
  | finish | defer | attention =>
      obtain ⟨m, h⟩ := h
      exact h.writes fun _ => writes_guarded fun _ => writes_changeAttachment rfl
  | unknown g =>
      obtain ⟨m, h⟩ := h
      exact h.writes fun _ => writes_unknownAlbumAttachment rfl
  | fail g =>
      obtain ⟨m, h⟩ := h
      exact h.writes fun _ => writes_changeAttachment rfl
  | _ => exact hsame h

theorem albumMachine_attachment : AlbumMachine attachmentMachine where
  serve _ _ _ _ h := ⟨_, AttachmentOp.serve.writes h⟩
  external _ _ h := by
    obtain ⟨move, _, hstep⟩ := h
    exact ⟨_, hstep.writes⟩

/-! ## The order of the operations -/

/-- How far a worker got with a grant. -/
inductive AddStage where
  | free
  | claimed (g : AttachmentGrant)
  | read (g : AttachmentGrant) (proof : AlbumAttachmentProof)
  | granted (g : AttachmentGrant) (proof : AlbumAttachmentProof) (marked : AttachmentGrant)
  | handed (g marked : AttachmentGrant)
  | reread (g marked : AttachmentGrant) (proof : AlbumAttachmentProof)
deriving DecidableEq

namespace AddStage

/-- The claim a worker may hand off. -/
def held? : AddStage → Option AlbumAttachmentClaim
  | .granted g _ _ => some g.claim
  | _ => none

/-- A mark is asked with what was read, an add is handed off under its mark, the photo is read
again after it, and an attempt is finished with what was read last. -/
def allows : AddStage → AttachmentOp → Prop
  | stage, .read c => ∃ g, g.claim = c ∧ (stage = .claimed g ∨
      ∃ marked, (∃ proof, stage = .granted g proof marked) ∨ stage = .handed g marked)
  | stage, .mark g contextIds => ∃ proof, stage = .read g proof ∧ proof.contextIds = contextIds
  | stage, .handoff c => ∃ g proof marked, g.claim = c ∧ stage = .granted g proof marked
  | stage, .finish g proof => stage = .read g proof ∨ ∃ first, stage = .reread first g proof
  | _, _ => True

def next : AddStage → (o : AttachmentOp) → o.Answer → AddStage
  | _, .claim _, .ok (some g) => .claimed g
  | _, .claim _, _ => .free
  | .claimed g, .read _, .ok proof => .read g proof
  | .granted g _ marked, .read _, .ok proof | .handed g marked, .read _, .ok proof =>
      .reread g marked proof
  | _, .read _, _ => .free
  | .read _ proof, .mark g _, .ok (some marked) => .granted g proof marked
  | _, .mark _ _, _ => .free
  | .granted g _ marked, .handoff _, _ => .handed g marked
  | _, .handoff _, _ => .free
  | stage, _, _ => stage

end AddStage

def addMonitor : Monitor AttachmentOp.Answer AddStage := ⟨AddStage.allows, AddStage.next⟩

namespace AlbumAttachment

variable {started : Int} {g marked : AttachmentGrant} {proof : AlbumAttachmentProof}
  {stage : AddStage}

theorem quiet_monotonicMs : Invocation.Quiet addMonitor attachmentInvocation.monotonicMs := by
  intro stage
  exact ⟨trivial, fun _ => rfl⟩

theorem quiet_current (us : Us) :
    Invocation.Quiet addMonitor (Prog.query (AttachmentOp.current g us)) := by
  intro stage
  exact ⟨trivial, fun _ => rfl⟩

theorem runs_bounded {α : Type} {operation : AttachmentProg (Except AttachmentFault α)}
    {post : α → AddStage → Prop}
    (h : Follows addMonitor (ends post fun _ _ => True) stage operation) :
    Runs addMonitor post (fun _ _ => True) stage (bounded started operation) :=
  Invocation.runs_bounded quiet_monotonicMs trivial (fun _ _ _ => trivial) h

theorem runs_quiet {α : Type} {operation : AttachmentProg (Except AttachmentFault α)}
    {post : α → AddStage → Prop} (hquiet : Invocation.Quiet addMonitor operation)
    (hpost : ∀ result, post result stage) :
    Runs addMonitor post (fun _ _ => True) stage (bounded started operation) :=
  Invocation.runs_bounded_of_quiet quiet_monotonicMs (fun _ _ => trivial) hquiet hpost

theorem runs_assertCurrent {requiredMs : Int} {post : Unit → AddStage → Prop}
    (hpost : post () stage) :
    Runs addMonitor post (fun _ _ => True) stage (assertCurrent started g requiredMs) :=
  Invocation.runs_assertCurrent quiet_monotonicMs quiet_current (fun _ _ => trivial) hpost

theorem runs_mustChange {operation : AttachmentProg (Except AttachmentFault Bool)}
    {outcome : AlbumAttachmentOutcome} {post : AlbumAttachmentOutcome → AddStage → Prop}
    (h : Follows addMonitor (fun _ t => t = stage) stage operation) (hpost : post outcome stage) :
    Runs addMonitor post (fun _ _ => True) stage (mustChange started operation outcome) := by
  unfold mustChange
  rw [runs_bind]
  apply runs_bounded
  apply h.imp
  rintro (_ | changed) _ rfl
  · trivial
  · show Runs _ _ _ _ (if _ then _ else _)
    split
    · trivial
    · exact hpost

/-- What a read concludes leaves the stage, and a read that concludes nothing asks nothing. -/
theorem runs_conclude {photosetId : Token}
    (hallows : stage.allows (.finish g proof)) :
    Runs addMonitor (fun _ t => t = stage) (fun _ _ => True) stage
      (conclude started photosetId g proof) := by
  unfold conclude
  split
  · rw [runs_map]
    exact runs_mustChange ⟨hallows, fun _ => rfl⟩ rfl
  · split
    · rw [runs_map]
      exact runs_mustChange ⟨trivial, fun _ => rfl⟩ rfl
    · split
      · rw [runs_map]
        exact runs_mustChange ⟨trivial, fun _ => rfl⟩ rfl
      · rfl

theorem runs_deferred {post : AlbumAttachmentOutcome → AddStage → Prop}
    (hpost : ∀ outcome, post outcome stage) :
    Runs addMonitor post (fun _ _ => True) stage (deferred started g proof) :=
  runs_mustChange ⟨trivial, fun _ => rfl⟩ (hpost _)

/-- A marked claim comes after a read of it, and grants the hand-off. -/
theorem runs_dispatch :
    Runs addMonitor
      (fun result stage => ∀ marked, result = .inr marked →
        ∃ proof, stage = .granted g proof marked)
      (fun _ _ => True) (.claimed g) (dispatch started g) := by
  unfold dispatch
  simp only [runs_bind]
  apply runs_assertCurrent
  refine runs_quiet (fun _ => ⟨trivial, fun _ => rfl⟩) ?_
  intro _
  apply runs_assertCurrent
  apply runs_bounded
  refine ⟨⟨g, rfl, Or.inl rfl⟩, ?_⟩
  rintro (_ | proof)
  · trivial
  · apply runs_assertCurrent
    apply Runs.imp (runs_conclude (Or.inl rfl)) _ (fun _ _ => id)
    rintro (_ | outcome) _ rfl
    · show Runs _ _ _ _ (if _ then _ else _)
      split
      · rw [runs_map]
        apply runs_deferred
        intro outcome marked hmarked
        cases hmarked
      · simp only [runs_bind]
        apply runs_assertCurrent
        refine runs_quiet (fun _ => ⟨trivial, fun _ => rfl⟩) ?_
        intro _
        apply runs_assertCurrent
        apply runs_bounded
        refine ⟨⟨proof, rfl, rfl⟩, ?_⟩
        rintro (_ | _ | marked)
        · trivial
        · trivial
        · intro other hother
          cases hother
          exact ⟨proof, rfl⟩
    · intro marked hmarked
      cases hmarked

/-- A marked add was handed off, or the time was over before it was. -/
def AfterHandoff (g marked : AttachmentGrant) (stage : AddStage) : Prop :=
  (∃ proof, stage = .granted g proof marked) ∨ stage = .handed g marked

theorem runs_handoff :
    Runs addMonitor (fun _ stage => AfterHandoff g marked stage) (fun _ _ => True)
      (.granted g proof marked) (handoff started g) := by
  unfold handoff
  rw [runs_attempt, follows_bind]
  have hbefore : AfterHandoff g marked (.granted g proof marked) := Or.inl ⟨proof, rfl⟩
  have hbounded : Runs addMonitor (fun _ stage => AfterHandoff g marked stage)
      (fun _ stage => AfterHandoff g marked stage) (.granted g proof marked)
      (bounded started (Prog.query (AttachmentOp.handoff g.claim))) := by
    refine Invocation.runs_bounded quiet_monotonicMs hbefore (fun _ _ h => h) ?_
    refine ⟨⟨g, proof, marked, rfl, rfl⟩, ?_⟩
    rintro (_ | result)
    · exact Or.inr rfl
    · exact Or.inr rfl
  apply Follows.imp hbounded
  rintro (_ | result) stage hstage
  · exact hstage
  · exact hstage

theorem runs_completeRead (h : AfterHandoff g marked stage) :
    Runs addMonitor (fun _ _ => True) (fun _ _ => True) stage
      (completeRead started g marked) := by
  unfold completeRead
  simp only [runs_bind]
  apply runs_assertCurrent
  apply runs_bounded
  have hfailed : ∀ fault, addMonitor.next stage (.read g.claim) (.error fault) = .free := by
    intro fault
    rcases h with ⟨_, rfl⟩ | rfl
    · rfl
    · rfl
  have hread : ∀ proof, addMonitor.next stage (.read g.claim) (.ok proof) =
      .reread g marked proof := by
    intro proof
    rcases h with ⟨_, rfl⟩ | rfl
    · rfl
    · rfl
  refine ⟨⟨g, rfl, Or.inr ⟨marked, h⟩⟩, ?_⟩
  intro answer
  show ends _ _ answer (addMonitor.next stage (.read g.claim) answer)
  cases answer with
  | error e =>
      rw [hfailed e]
      trivial
  | ok proof =>
      rw [hread proof]
      apply runs_assertCurrent
      apply Runs.imp (runs_conclude (Or.inr ⟨g, rfl⟩)) _ (fun _ _ => id)
      rintro (_ | outcome) _ rfl
      · exact runs_deferred fun _ => trivial
      · trivial

theorem runs_afterMarker :
    Runs addMonitor (fun _ _ => True) (fun _ _ => True) (.granted g proof marked)
      (afterMarker started g marked) := by
  unfold afterMarker
  simp only [runs_bind]
  apply runs_assertCurrent
  apply Runs.imp runs_handoff _ (fun _ _ => id)
  rintro (_ | result) stage hstage
  · exact runs_completeRead hstage
  · simp only [runs_bind]
    apply runs_assertCurrent
    refine runs_quiet (fun _ => ⟨trivial, fun _ => rfl⟩) ?_
    intro recorded
    show Runs _ _ _ _ (if _ then _ else _)
    split
    · trivial
    · exact runs_completeRead hstage

theorem follows_quiet {α : Type} {operation : AttachmentProg (Except AttachmentFault α)}
    {post : Except AttachmentFault α → AddStage → Prop}
    (hquiet : Invocation.Quiet addMonitor operation) (hpost : ∀ result t, post result t) :
    Follows addMonitor post stage (bounded started operation).run := by
  apply Follows.imp (runs_quiet hquiet fun _ => trivial : Runs _ (fun _ _ => True) _ _ _)
  intro result t _
  exact hpost result t

/-- What the worker does once it is out of the attempt may come at any stage. -/
theorem follows_caught {fault : AttachmentFault} {first : Option AttachmentGrant} :
    Follows addMonitor (fun _ _ => True) stage (caught started g first fault) := by
  have hunanswered : ∀ stage,
      Follows addMonitor (fun _ _ => True) stage (unanswered started g first) := by
    intro stage
    unfold unanswered settle
    split
    · rw [follows_bind]
      exact follows_quiet (fun _ => ⟨trivial, fun _ => rfl⟩) fun _ _ => trivial
    · rw [follows_bind]
      exact follows_quiet (fun _ => ⟨trivial, fun _ => rfl⟩) fun _ _ => trivial
  cases fault with
  | failed => exact hunanswered stage
  | needsAttention reason =>
      unfold caught
      rw [follows_bind]
      have hattention : Invocation.Quiet addMonitor
          (Prog.query (AttachmentOp.attention (first.getD g) reason none)) :=
        fun _ => ⟨trivial, fun _ => rfl⟩
      apply follows_quiet hattention
      rintro (_ | _ | _) t
      · exact hunanswered t
      · exact hunanswered t
      · trivial

end AlbumAttachment

open AlbumAttachment in
/-- The worker keeps the order of its operations. -/
theorem follows_consumeAlbumAttachment {enabled : Bool} {obligationId : Token} :
    Follows addMonitor (fun _ _ => True) .free
      (consumeAlbumAttachment enabled obligationId) := by
  unfold consumeAlbumAttachment
  split
  · trivial
  · rw [follows_bind]
    refine ⟨trivial, fun started => ?_⟩
    show Follows addMonitor _ .free (_ >>= _)
    rw [follows_bind]
    have hclaim : Runs addMonitor
        (fun result stage => ∀ g, result = some g → stage = .claimed g) (fun _ _ => True) .free
        (bounded started (Prog.query (AttachmentOp.claim obligationId))) := by
      apply runs_bounded
      refine ⟨trivial, ?_⟩
      rintro (_ | _ | g)
      · trivial
      · intro g hg
        cases hg
      · intro g' hg
        cases hg
        rfl
    apply Follows.imp hclaim
    rintro (_ | _ | g) stage hstage
    · trivial
    · trivial
    · obtain rfl : stage = .claimed g := hstage g rfl
      rw [follows_bind]
      apply Follows.imp runs_dispatch
      rintro (fault | outcome | marked) stage hstage
      · exact follows_caught
      · trivial
      · obtain ⟨proof, rfl⟩ := hstage marked rfl
        rw [follows_bind]
        apply Follows.imp runs_afterMarker
        rintro (fault | outcome) _ _
        · exact follows_caught
        · trivial

/-! ## What the operations do to the attempts -/

theorem AlbumWrites.attachments_eq {part : Option AlbumPart} {db db' : AlbumDb}
    (h : AlbumWrites part db db') (hother : part ≠ some .attachments) :
    db'.attachments = db.attachments := by
  induction h with
  | refl => rfl
  | tail _ hlast ih =>
      rcases hlast.attachments with heq | ⟨hpart, _⟩
      · exact heq.trans ih
      · exact absurd hpart hother

theorem otherAlbumCall.attachments_eq {db db' : AlbumDb}
    (h : otherAlbumCall .attachments db db') : db'.attachments = db.attachments := by
  obtain ⟨move, hother, hstep⟩ := h
  exact hstep.writes.attachments_eq hother

/-- Updating an attempt sets its row, and no other row. -/
theorem AlbumDb.updateAttachment_eq_some {m : Moment} {db db' : AlbumDb}
    {new : AlbumAttachmentAttempt} (h : AlbumDb.updateAttachment m db new = some db') :
    (db.attachments.find? new.attemptId = none ∧ db' = db) ∨
    ∃ old, db.attachments.find? new.attemptId = some old ∧
      AlbumDb.AttachmentUpdateAllowed m db old new ∧
      db'.attachments = db.attachments.set new := by
  unfold AlbumDb.updateAttachment at h
  split at h
  · next hnone =>
      left
      cases h
      exact ⟨hnone, rfl⟩
  · next old hold =>
      right
      split at h
      · next hallowed =>
          refine ⟨old, hold, hallowed, ?_⟩
          unfold AlbumDb.attachmentChanged at h
          split at h
          · split at h
            · cases h
              rfl
            · split at h
              · obtain ⟨events, _, h⟩ := Option.bind_eq_some_iff.mp h
                obtain ⟨stepped, hstepped, hmoved⟩ := Option.bind_eq_some_iff.mp h
                have hobligation : AlbumWrites none _ stepped :=
                  (AlbumWrite.obligation _ hstepped).writes
                have hbinding : AlbumWrites none stepped db' := AlbumDb.writes_moveBindingTo hmoved
                exact AlbumWrites.attachments_eq (hobligation.trans hbinding) (by simp)
              · cases h
                rfl
          · cases h
            rfl
      · cases h

/-- The attempt that `FENCE` found. -/
theorem fencedAttachment_eq_some {db : AlbumDb} {g : AttachmentGrant}
    {a : AlbumAttachmentAttempt} (h : fencedAttachment db g = some a) :
    db.attachments.find? g.claim.attemptId = some a ∧ a.claim = g.claim := by
  obtain ⟨hfind, hfence⟩ := Option.filter_eq_some_iff.mp h
  exact ⟨hfind, (of_decide_eq_true hfence).2.1⟩

theorem attachmentRow_claim {db : AlbumDb} {a : AlbumAttachmentAttempt} {g : AttachmentGrant}
    (h : attachmentRow db a = some g) : g.claim = a.claim := by
  unfold attachmentRow at h
  dsimp only at h
  rw [Option.ite_none_right_eq_some] at h
  rw [← Option.some.inj h.2]

/-- The attempt of the claim is marked. -/
def addMarked (db : AlbumDb) (c : AlbumAttachmentClaim) : Prop :=
  ∃ a ∈ db.attachments.find? c.attemptId, a.claim = c ∧ a.dispatch ≠ none

theorem addMarked.kept {db db' : AlbumDb} {c : AlbumAttachmentClaim}
    (hkept : Table.Kept AttachmentKept db.attachments db'.attachments) (h : addMarked db c) :
    addMarked db' c := by
  obtain ⟨a, ha, hclaim, hmarked⟩ := h
  obtain ⟨a', ha', hrow⟩ := hkept c.attemptId a ha
  refine ⟨a', ha', hrow.claim.trans hclaim, ?_⟩
  rw [hrow.marked hmarked]
  exact hmarked

/-- A mark is granted for an attempt that was not marked, and marks it. -/
theorem markAlbumAttachmentDispatch_granted {m : Moment} {db db' : AlbumDb}
    {g marked : AttachmentGrant} {contextIds : List Token}
    (h : markAlbumAttachmentDispatch m db g contextIds = some (db', some marked)) :
    ¬ addMarked db g.claim ∧ addMarked db' g.claim ∧ marked.claim = g.claim := by
  unfold markAlbumAttachmentDispatch at h
  split at h
  · split at h
    · cases h
    · next row hrow =>
        obtain ⟨a, ha, hmarkable⟩ := Option.bind_eq_some_iff.mp hrow
        obtain ⟨hfind, hclaim⟩ := fencedAttachment_eq_some ha
        split at hmarkable
        · next hmay =>
            cases hmarkable
            obtain ⟨after, hset, h⟩ := Option.map_eq_some_iff.mp h
            obtain ⟨hafter, hanswer⟩ := Prod.mk.inj h
            subst hafter
            obtain ⟨stored, hstored, hgrant⟩ := Option.bind_eq_some_iff.mp hanswer
            have hkey : a.attemptId = g.claim.attemptId :=
              congrArg AlbumAttachmentClaim.attemptId hclaim
            refine ⟨?_, ?_, ?_⟩
            · rintro ⟨other, hother, _, hmarked⟩
              have hsame : other = a := Option.some.inj (hother.symm.trans hfind)
              rw [hsame] at hmarked
              exact hmarked hmay.1.2.1
            · rcases AlbumDb.updateAttachment_eq_some hset with ⟨hnone, _⟩ | ⟨_, _, _, hrows⟩
              · have hnone : db.attachments.find? a.attemptId = none := hnone
                rw [hkey, hfind] at hnone
                cases hnone
              · refine ⟨{ a with state := .dispatched, dispatch := some ⟨m.now, contextIds⟩ },
                  ?_, hclaim, Option.some_ne_none _⟩
                rw [hrows, Table.find?_set, if_pos (by exact hkey.symm), hfind]
                rfl
            · obtain ⟨hfenced, _⟩ := Option.filter_eq_some_iff.mp hstored
              exact (attachmentRow_claim hgrant).trans (fencedAttachment_eq_some hfenced).2
        · cases hmarkable
  · cases h

/-! ## Handing off once -/

/-- The claim that an operation hands off. -/
def AttachmentOp.handedOff? : AttachmentOp → Option AlbumAttachmentClaim
  | .handoff c => some c
  | _ => none

/-- The claim whose hand-off an answer grants. -/
def AttachmentOp.granted? : (o : AttachmentOp) → o.Answer → Option AlbumAttachmentClaim
  | .mark g _, .ok (some _) => some g.claim
  | _, _ => none

namespace AttachmentOp

/-- No lost answer grants. -/
theorem granted?_of_lost {o : AttachmentOp} {answer : o.Answer} (h : o.lost answer) :
    o.granted? answer = none := by
  cases o with
  | mark g ids =>
      cases answer with
      | error e => rfl
      | ok marked => cases h
  | _ => rfl

theorem granted?_of_serve {db db' : AlbumDb} {o : AttachmentOp} {answer : o.Answer}
    {c : AlbumAttachmentClaim} (h : o.serve db answer db') (hgranted : o.granted? answer = some c) :
    ¬ addMarked db c ∧ addMarked db' c := by
  cases o with
  | mark g ids =>
      rcases answer with _ | _ | marked
      · cases hgranted
      · cases hgranted
      · obtain ⟨m, hserved⟩ := h
        cases hgranted
        obtain ⟨hfree, hmarked, _⟩ := markAlbumAttachmentDispatch_granted hserved
        exact ⟨hfree, hmarked⟩
  | _ => cases hgranted

end AttachmentOp

/-- A worker holds an add from the mark it was granted to its hand-off. -/
theorem AddStage.held?_next {stage : AddStage} {o : AttachmentOp} {answer : o.Answer}
    {c : AlbumAttachmentClaim} (h : (stage.next o answer).held? = some c) :
    o.granted? answer = some c ∨ (stage.held? = some c ∧ o.handedOff? = none) := by
  cases o with
  | claim obligationId =>
      rcases answer with _ | _ | g
      · cases h
      · cases h
      · cases h
  | read c =>
      cases stage with
      | _ =>
          cases answer with
          | _ => cases h
  | mark g ids =>
      rcases answer with _ | _ | marked
      · cases stage with
        | _ => cases h
      · cases stage with
        | _ => cases h
      · cases stage with
        | read first proof => exact Or.inl h
        | _ => cases h
  | handoff c =>
      cases stage with
      | _ => cases h
  | _ =>
      cases stage with
      | granted g proof marked => exact Or.inr ⟨h, rfl⟩
      | _ => cases h

theorem addGrants : Grants attachmentMachine addMonitor .free AddStage.held? addMarked
    AttachmentOp.granted? AttachmentOp.handedOff? where
  start := rfl
  holds _ _ _ _ _ h := AddStage.held?_next h
  hands stage o c hallows hhanded := by
    cases o with
    | handoff c =>
        cases hhanded
        obtain ⟨g, proof, marked, rfl, rfl⟩ := hallows
        rfl
    | _ => cases hhanded
  apart o answer c hgranted := by
    cases o with
    | handoff c => cases answer <;> cases hgranted
    | _ => rfl
  serves _ _ _ _ _ h := AttachmentOp.granted?_of_serve h
  loses _ _ h := AttachmentOp.granted?_of_lost h
  kept _ _ _ _ c h := by
    apply addMarked.kept
    exact (AttachmentOp.serve.writes h).attachmentsKept
  external _ _ c h := by
    apply addMarked.kept
    rw [otherAlbumCall.attachments_eq h]
    exact Table.Kept.same _

variable {ι : Type}

/-- The adds that were handed off, newest first. -/
def handedAdds (log : List (Entry ι AttachmentOp.Answer)) : List AlbumAttachmentClaim :=
  handedOff AttachmentOp.handedOff? log

/-! ## What the log shows -/

/-- The worker read the contexts of its claim after it got the claim. -/
def readAfterClaim (i : ι) (log : List (Entry ι AttachmentOp.Answer)) (g : AttachmentGrant)
    (proof : AlbumAttachmentProof) : Prop :=
  ∃ obligationId, List.Sublist
    [⟨i, .read g.claim, .ok proof⟩, ⟨i, .claim obligationId, .ok (some g)⟩] log

/-- The worker marked its claim with what it had read before. -/
def markedAfterRead (i : ι) (log : List (Entry ι AttachmentOp.Answer)) (g : AttachmentGrant)
    (proof : AlbumAttachmentProof) (marked : AttachmentGrant) : Prop :=
  ∃ obligationId, List.Sublist
    [⟨i, .mark g proof.contextIds, .ok (some marked)⟩, ⟨i, .read g.claim, .ok proof⟩,
      ⟨i, .claim obligationId, .ok (some g)⟩] log

/-- The worker was granted the hand-off of a claim. -/
def grantedTo (i : ι) (log : List (Entry ι AttachmentOp.Answer))
    (g marked : AttachmentGrant) : Prop :=
  ∃ contextIds, (⟨i, .mark g contextIds, .ok (some marked)⟩ : Entry ι AttachmentOp.Answer) ∈ log

/-- What the log shows of a worker at a stage. -/
def AddStage.shown (i : ι) (stage : AddStage) (log : List (Entry ι AttachmentOp.Answer)) : Prop :=
  match stage with
  | .free => True
  | .claimed g => ∃ obligationId, ⟨i, .claim obligationId, .ok (some g)⟩ ∈ log
  | .read g proof => readAfterClaim i log g proof
  | .granted g proof marked => markedAfterRead i log g proof marked
  | .handed g marked => grantedTo i log g marked
  | .reread g marked proof => grantedTo i log g marked ∧ ⟨i, .read g.claim, .ok proof⟩ ∈ log

/-- What the log shows when a worker asks an operation. -/
def AttachmentOp.shown (i : ι) (o : AttachmentOp) (log : List (Entry ι AttachmentOp.Answer)) :
    Prop :=
  match o with
  | .handoff c => ∃ g proof marked, g.claim = c ∧ markedAfterRead i log g proof marked
  | .finish g proof => ∃ first : AttachmentGrant, ⟨i, .read first.claim, .ok proof⟩ ∈ log ∧
      (first = g ∨ grantedTo i log first g)
  | _ => True

theorem grantedTo.cons {i : ι} {log : List (Entry ι AttachmentOp.Answer)}
    {g marked : AttachmentGrant} (h : grantedTo i log g marked)
    (entry : Entry ι AttachmentOp.Answer) : grantedTo i (entry :: log) g marked := by
  obtain ⟨contextIds, hmark⟩ := h
  exact ⟨contextIds, List.mem_cons_of_mem _ hmark⟩

theorem AddStage.shown.cons {i : ι} {stage : AddStage}
    {log : List (Entry ι AttachmentOp.Answer)} (h : stage.shown i log)
    (entry : Entry ι AttachmentOp.Answer) : stage.shown i (entry :: log) := by
  cases stage with
  | free => trivial
  | claimed g =>
      obtain ⟨obligationId, hclaim⟩ := h
      exact ⟨obligationId, List.mem_cons_of_mem _ hclaim⟩
  | read g proof =>
      obtain ⟨obligationId, hlog⟩ := h
      exact ⟨obligationId, hlog.cons entry⟩
  | granted g proof marked =>
      obtain ⟨obligationId, hlog⟩ := h
      exact ⟨obligationId, hlog.cons entry⟩
  | handed g marked => exact grantedTo.cons h entry
  | reread g marked proof => exact ⟨h.1.cons entry, List.mem_cons_of_mem _ h.2⟩

theorem AttachmentOp.shown.cons {i : ι} {o : AttachmentOp}
    {log : List (Entry ι AttachmentOp.Answer)} (h : o.shown i log)
    (entry : Entry ι AttachmentOp.Answer) : o.shown i (entry :: log) := by
  cases o with
  | handoff c =>
      obtain ⟨g, proof, marked, hclaim, obligationId, hlog⟩ := h
      exact ⟨g, proof, marked, hclaim, obligationId, hlog.cons entry⟩
  | finish g proof =>
      obtain ⟨first, hread, hgrant⟩ := h
      exact ⟨first, List.mem_cons_of_mem _ hread, hgrant.imp_right fun h => h.cons entry⟩
  | _ => trivial

/-- The mark of a read claim is in the log with the read. -/
theorem markedAfterRead.grantedTo {i : ι} {log : List (Entry ι AttachmentOp.Answer)}
    {g marked : AttachmentGrant} {proof : AlbumAttachmentProof}
    (h : markedAfterRead i log g proof marked) : grantedTo i log g marked := by
  obtain ⟨obligationId, hlog⟩ := h
  exact ⟨_, hlog.subset List.mem_cons_self⟩

/-- The order of the operations is borne out by the log. -/
theorem add_testimony :
    Testimony addMonitor .free (AddStage.shown : ι → AddStage → _ → Prop) AttachmentOp.shown where
  start _ _ := trivial
  kept _ _ _ entry h := h.cons entry
  next i stage log o answer h hallows := by
    cases o with
    | claim obligationId =>
        rcases answer with _ | _ | g
        · trivial
        · trivial
        · exact ⟨obligationId, List.mem_cons_self⟩
    | read c =>
        obtain ⟨g, rfl, rfl | ⟨marked, ⟨proof, rfl⟩ | rfl⟩⟩ := hallows
        · cases answer with
          | error e => trivial
          | ok proof =>
              obtain ⟨obligationId, hclaim⟩ := h
              exact ⟨obligationId, List.Sublist.cons_cons _ (List.singleton_sublist.mpr hclaim)⟩
        · cases answer with
          | error e => trivial
          | ok last =>
              have hgranted : grantedTo i log g marked := markedAfterRead.grantedTo h
              exact ⟨hgranted.cons _, List.mem_cons_self⟩
        · cases answer with
          | error e => trivial
          | ok last => exact ⟨grantedTo.cons h _, List.mem_cons_self⟩
    | mark g contextIds =>
        obtain ⟨proof, rfl, rfl⟩ := hallows
        rcases answer with _ | _ | marked
        · trivial
        · trivial
        · obtain ⟨obligationId, hlog⟩ := h
          exact ⟨obligationId, List.Sublist.cons_cons _ hlog⟩
    | handoff c =>
        obtain ⟨g, proof, marked, rfl, rfl⟩ := hallows
        have hgranted : grantedTo i log g marked := markedAfterRead.grantedTo h
        exact hgranted.cons _
    | _ => exact AddStage.shown.cons h _
  asks i stage log o h hallows := by
    cases o with
    | handoff c =>
        obtain ⟨g, proof, marked, hclaim, rfl⟩ := hallows
        exact ⟨g, proof, marked, hclaim, h⟩
    | finish g proof =>
        rcases hallows with rfl | ⟨first, rfl⟩
        · obtain ⟨obligationId, hlog⟩ := h
          exact ⟨g, hlog.subset List.mem_cons_self, Or.inl rfl⟩
        · exact ⟨first, h.2, Or.inr h.1⟩
    | _ => trivial
  stands _ _ _ entry h := h.cons entry

/-- The claim of a marked grant is the one that was marked. -/
def AttachmentOp.marksItself : (o : AttachmentOp) → o.Answer → Prop
  | .mark g _, .ok (some marked) => marked.claim = g.claim
  | _, _ => True

theorem AttachmentOp.marksItself_of_serve {db db' : AlbumDb} {o : AttachmentOp}
    {answer : o.Answer} (h : o.serve db answer db') : o.marksItself answer := by
  cases o with
  | mark g contextIds =>
      rcases answer with _ | _ | marked
      · trivial
      · trivial
      · obtain ⟨m, hserved⟩ := h
        exact (markAlbumAttachmentDispatch_granted hserved).2.2
  | _ => trivial

theorem AttachmentOp.marksItself_of_lost {o : AttachmentOp} {answer : o.Answer}
    (h : o.lost answer) : o.marksItself answer := by
  cases o with
  | mark g contextIds =>
      cases answer with
      | error e => trivial
      | ok marked => cases h
  | _ => trivial

/-! ## Where a verified attempt comes from -/

/-- No attempt was verified. -/
abbrev Unattached (db db' : AlbumDb) : Prop :=
  Table.AddsOnly (fun a => a.state ≠ .membershipVerified) db.attachments db'.attachments

theorem unattached_updateAttachment {m : Moment} {db db' : AlbumDb} {new : AlbumAttachmentAttempt}
    (h : AlbumDb.updateAttachment m db new = some db') (hnew : new.state ≠ .membershipVerified) :
    Unattached db db' := by
  rcases AlbumDb.updateAttachment_eq_some h with ⟨_, rfl⟩ | ⟨_, _, _, hset⟩
  · exact Table.AddsOnly.same _
  · unfold Unattached
    rw [hset]
    exact Table.AddsOnly.set hnew

/-- A batch that ends several attempts without an answer. -/
theorem unattached_foldlM {m : Moment} {next : AlbumAttachmentAttempt → AlbumAttachmentAttempt}
    {attempts : List AlbumAttachmentAttempt} {db db' : AlbumDb}
    (hnext : ∀ a, (next a).state ≠ .membershipVerified)
    (h : attempts.foldlM (fun db a => AlbumDb.updateAttachment m db (next a)) db = some db') :
    Unattached db db' := by
  induction attempts generalizing db with
  | nil =>
      cases h
      exact Table.AddsOnly.same _
  | cons a rest ih =>
      obtain ⟨middle, hset, h⟩ := Option.bind_eq_some_iff.mp h
      exact (unattached_updateAttachment hset (hnext a)).trans (ih h)

theorem expiredAttachment_state {now : Us} {a : AlbumAttachmentAttempt} :
    (expiredAttachment now a).state ≠ .membershipVerified := by
  unfold expiredAttachment attachmentEnded
  dsimp only
  split
  · nofun
  · nofun

theorem unattached_claimAlbumAttachment {w : AlbumWorld} {clock : ClaimClock} {db db' : AlbumDb}
    {obligationId attemptId leaseId : Token} {answer : Option AttachmentGrant}
    (h : claimAlbumAttachment w clock db obligationId attemptId leaseId = some (db', answer)) :
    Unattached db db' := by
  obtain ⟨expired, hexpire, h⟩ := Option.bind_eq_some_iff.mp h
  obtain ⟨inserted, hinsert, h⟩ := Option.map_eq_some_iff.mp h
  cases h
  refine (unattached_foldlM (fun _ => expiredAttachment_state) hexpire).trans ?_
  unfold insertSelected at hinsert
  split at hinsert
  · cases hinsert
    exact Table.AddsOnly.same _
  · obtain ⟨attempts, hrow, rfl⟩ := Option.map_eq_some_iff.mp hinsert
    obtain ⟨hadmissible, hrow⟩ := Table.insertIf?_eq_some.mp hrow
    apply Table.AddsOnly.insert? hrow
    rw [hadmissible.1.1]
    nofun

/-- What a fenced change did. -/
theorem changeAttachment_eq_some {m : Moment} {db db' : AlbumDb} {g : AttachmentGrant}
    {next : AlbumAttachmentAttempt → Option AlbumAttachmentAttempt} {changed : Bool}
    (h : changeAttachment m db g next = some (db', changed)) :
    db' = db ∨ ∃ a row, a.claim = g.claim ∧ next a = some row ∧
      AlbumDb.updateAttachment m db row = some db' := by
  unfold changeAttachment at h
  split at h
  · left
    cases h
    rfl
  · next row hrow =>
      right
      obtain ⟨a, ha, hnext⟩ := Option.bind_eq_some_iff.mp hrow
      obtain ⟨after, hset, h⟩ := Option.map_eq_some_iff.mp h
      cases h
      exact ⟨a, row, (fencedAttachment_eq_some ha).2, hnext, hset⟩

theorem unattached_changeAttachment {m : Moment} {db db' : AlbumDb} {g : AttachmentGrant}
    {next : AlbumAttachmentAttempt → Option AlbumAttachmentAttempt} {changed : Bool}
    (hnext : ∀ a row, next a = some row → row.state ≠ .membershipVerified)
    (h : changeAttachment m db g next = some (db', changed)) : Unattached db db' := by
  rcases changeAttachment_eq_some h with rfl | ⟨a, row, _, hrow, hset⟩
  · exact Table.AddsOnly.same _
  · exact unattached_updateAttachment hset (hnext a row hrow)

/-- What a batch adds that ran or aborted. -/
theorem unattached_batch {ε α : Type} {db db' : AlbumDb} {batch : Batch α} {answer : Except ε α}
    (h : batchServed db batch answer db')
    (hbatch : ∀ answer, batch = some (db', answer) → Unattached db db') : Unattached db db' := by
  cases answer with
  | ok answer => exact hbatch answer h
  | error e =>
      rw [h.2]
      exact Table.AddsOnly.same _

theorem unattached_guarded {α : Type} {db db' : AlbumDb} {guard : Prop} [Decidable guard]
    {batch : Batch α} {refused answer : α}
    (hbatch : ∀ answer, batch = some (db', answer) → Unattached db db')
    (h : (if guard then batch else unchanged db refused) = some (db', answer)) :
    Unattached db db' := by
  split at h
  · exact hbatch answer h
  · cases h
    exact Table.AddsOnly.same _

theorem unattached_markAlbumAttachmentDispatch {m : Moment} {db db' : AlbumDb}
    {g : AttachmentGrant} {contextIds : List Token} {answer : Option AttachmentGrant}
    (h : markAlbumAttachmentDispatch m db g contextIds = some (db', answer)) :
    Unattached db db' := by
  unfold markAlbumAttachmentDispatch at h
  split at h
  · split at h
    · cases h
      exact Table.AddsOnly.same _
    · next row hrow =>
        obtain ⟨a, _, hmarkable⟩ := Option.bind_eq_some_iff.mp hrow
        obtain ⟨after, hset, h⟩ := Option.map_eq_some_iff.mp h
        cases h
        apply unattached_updateAttachment hset
        split at hmarkable
        · cases hmarkable
          nofun
        · cases hmarkable
  · cases h
    exact Table.AddsOnly.same _

/-- The read of the operation is the one that verified the attempt. -/
def AttachmentOp.verifies (o : AttachmentOp) (a : AlbumAttachmentAttempt) : Prop :=
  a.state = .membershipVerified → ∃ g proof, o = .finish g proof ∧ a.claim = g.claim ∧
    ∃ kept ∈ a.proof, kept.contextIds = proof.contextIds

theorem verified_finishAlbumAttachment {m : Moment} {db db' : AlbumDb} {g : AttachmentGrant}
    {proof : AlbumAttachmentProof} {answer : Bool}
    (h : finishAlbumAttachment m db g proof = some (db', answer)) :
    Table.AddsOnly (AttachmentOp.finish g proof).verifies db.attachments db'.attachments := by
  unfold finishAlbumAttachment at h
  split at h
  · rcases changeAttachment_eq_some h with rfl | ⟨a, row, hclaim, hrow, hset⟩
    · exact Table.AddsOnly.same _
    · rcases AlbumDb.updateAttachment_eq_some hset with ⟨_, rfl⟩ | ⟨_, _, _, hrows⟩
      · exact Table.AddsOnly.same _
      · rw [hrows]
        apply Table.AddsOnly.set
        intro _
        split at hrow
        · cases hrow
          exact ⟨g, proof, rfl, hclaim, _, rfl, rfl⟩
        · cases hrow
  · cases h
    exact Table.AddsOnly.same _

/-- Only what a worker read verifies an attempt. -/
theorem AttachmentOp.serve_verified {db db' : AlbumDb} {o : AttachmentOp} {answer : o.Answer}
    (h : o.serve db answer db') :
    Table.AddsOnly o.verifies db.attachments db'.attachments := by
  have hother : Unattached db db' →
      Table.AddsOnly o.verifies db.attachments db'.attachments := by
    intro hunattached
    apply hunattached.imp
    intro a hstate hverified
    exact absurd hverified hstate
  cases o with
  | claim obligationId =>
      obtain ⟨w, clock, attemptId, leaseId, h⟩ := h
      exact hother (unattached_batch h fun _ => unattached_claimAlbumAttachment)
  | current g us => exact Table.AddsOnly.of_eq (congrArg AlbumDb.attachments h.1)
  | mark g contextIds =>
      obtain ⟨m, h⟩ := h
      exact hother (unattached_batch h fun _ => unattached_markAlbumAttachmentDispatch)
  | record g result =>
      obtain ⟨m, h⟩ := h
      apply hother
      apply unattached_batch h
      intro answer hrecord
      unfold recordAlbumAttachmentResult at hrecord
      split at hrecord
      · cases hrecord
        exact Table.AddsOnly.same _
      · apply unattached_changeAttachment _ hrecord
        intro a row hrow
        split at hrow
        · cases hrow
          nofun
        · cases hrow
  | finish g proof =>
      obtain ⟨m, h⟩ := h
      cases answer with
      | error e =>
          rw [h.2]
          exact Table.AddsOnly.same _
      | ok answer => exact verified_finishAlbumAttachment h
  | defer g proof =>
      obtain ⟨m, h⟩ := h
      apply hother
      apply unattached_batch h
      intro answer
      apply unattached_guarded
      intro answer
      apply unattached_changeAttachment
      intro a row hrow
      split at hrow
      · cases hrow
        nofun
      · cases hrow
  | attention g reason proof =>
      obtain ⟨m, h⟩ := h
      apply hother
      apply unattached_batch h
      intro answer
      apply unattached_guarded
      intro answer
      apply unattached_changeAttachment
      intro a row hrow
      split at hrow
      · cases hrow
        nofun
      · cases hrow
  | unknown g =>
      obtain ⟨m, h⟩ := h
      apply hother
      apply unattached_batch h
      intro answer hunknown
      unfold unknownAlbumAttachment at hunknown
      split at hunknown
      · obtain ⟨after, hset, hunknown⟩ := Option.map_eq_some_iff.mp hunknown
        cases hunknown
        have hpended : ∀ a, (attachmentPended m.now a).state ≠ .membershipVerified := by
          intro a hstate
          cases hstate
        exact unattached_foldlM hpended hset
      · cases hunknown
        exact Table.AddsOnly.same _
  | fail g =>
      obtain ⟨m, h⟩ := h
      apply hother
      apply unattached_batch h
      intro answer
      apply unattached_changeAttachment
      intro a row hrow
      split at hrow
      · cases hrow
        exact expiredAttachment_state
      · cases hrow
  | _ =>
      have hsame : db' = db := h
      rw [hsame]
      exact Table.AddsOnly.same _

/-- Every verified attempt keeps what a worker read of its claim. -/
def addsProven (db : AlbumDb) (log : List (Entry ι AttachmentOp.Answer)) : Prop :=
  ∀ a ∈ db.attachments, a.state = .membershipVerified → ∃ kept ∈ a.proof,
    ∃ i g proof, kept.contextIds = proof.contextIds ∧ a.claim = g.claim ∧
      AttachmentOp.shown i (.finish g proof) log

variable [DecidableEq ι]

theorem adds_proven {w : Watch AlbumDb ι AddStage AttachmentOp.Answer}
    (hw : Reachable (WatchStep attachmentMachine addMonitor .free)
      (WatchInitial AlbumInitial .free) w) : addsProven w.store w.log := by
  apply add_testimony.recorded addsProven ?_ ?_ ?_ ?_ hw
  · intro db hdb a ha
    rw [show db = emptyAlbumDb from hdb] at ha
    exact absurd ha (Table.not_mem_empty a)
  · intro db log entry h a ha hverified
    obtain ⟨kept, hkept, i, g, proof, hread, hclaim, hshown⟩ := h a ha hverified
    exact ⟨kept, hkept, i, g, proof, hread, hclaim, hshown.cons entry⟩
  · intro db db' log hexternal h a ha
    rw [otherAlbumCall.attachments_eq hexternal] at ha
    exact h a ha
  · intro db i o answer db' log hserve hasked h a ha hverified
    rcases AttachmentOp.serve_verified hserve a ha with hold | hverifies
    · exact h a hold hverified
    · obtain ⟨g, proof, rfl, hclaim, kept, hkept, hread⟩ := hverifies hverified
      exact ⟨kept, hkept, i, g, proof, hread, hclaim, hasked⟩

/-! ## The discipline -/

theorem attachmentMachine_follows (program : Prog AttachmentOp.Answer Unit)
    (h : attachmentMachine.program program) :
    Follows addMonitor (fun _ _ => True) .free program := by
  obtain ⟨enabled, obligationId, rfl⟩ := h
  rw [follows_bind]
  exact follows_consumeAlbumAttachment.imp fun _ _ _ => trivial

/-- The attempt of the claim may write and was marked with time left. -/
def addDispatched (db : AlbumDb) (c : AlbumAttachmentClaim) : Prop :=
  c.reconciliationOnly = false ∧ ∃ a ∈ db.attachments.find? c.attemptId, a.claim = c ∧
    ∃ d ∈ a.dispatch, a.hasLeft d.startedAtUs 15000000

variable {p : Pool AlbumDb ι AttachmentOp.Answer}

/-- An attempt hands off at most one add, after its worker read the contexts without the
photoset and marked the attempt with time left; a claim that only reconciles hands off none, and
the claim after an unresolved attempt only reconciles.  At most eight attempts are marked
between two verified memberships, and a membership is verified by a complete context set that
shows the photoset. -/
theorem album_attachment_discipline
    (hp : Reachable (PoolStep attachmentMachine) (PoolInitial AlbumInitial) p) :
    ((handedAdds p.log).map AlbumAttachmentClaim.attemptId).Nodup ∧
    (∀ c ∈ handedAdds p.log, addDispatched p.store c) ∧
    (∀ front back i c answer, p.log = front ++ ⟨i, .handoff c, answer⟩ :: back →
      ∃ g proof marked, g.claim = c ∧ markedAfterRead i back g proof marked) ∧
    (∀ a ∈ p.store.attachments, ∀ a' ∈ p.store.attachments, a.obligationId = a'.obligationId →
      a'.epoch = a.epoch + 1 → a.state.isOpen = false ∧
        (a.state = .membershipReconciliationPending → a'.claim ∉ handedAdds p.log)) ∧
    (∀ obligationId lo hi, unverifiedBetween p.store.attachments obligationId lo hi →
      marksBetween p.store.attachments obligationId lo hi ≤ 8) ∧
    (∀ o ∈ p.store.obligations, o.state = .membershipVerified →
      ∃ b ∈ p.store.bindings.find? o.albumBindingId, ∃ photosetId ∈ b.flickrPhotosetId,
        ∃ contextIds, membershipShown p.store o photosetId contextIds) ∧
    ∀ a ∈ p.store.attachments, a.state = .membershipVerified → ∃ kept ∈ a.proof, ∃ i proof,
      ⟨i, .read a.claim, .ok proof⟩ ∈ p.log ∧ kept.contextIds = proof.contextIds := by
  obtain ⟨w, hw, hwatches⟩ := watched attachmentMachine_follows hp
  have honce := addGrants.once hw
  have htestified := add_testimony.testified hw
  have hproven := adds_proven hw
  have hitself : ∀ entry ∈ w.log, entry.op.marksItself entry.answer :=
    answered (fun _ _ _ _ => AttachmentOp.marksItself_of_serve)
      (fun _ _ => AttachmentOp.marksItself_of_lost) hw
  rw [hwatches.log, hwatches.store] at honce hproven
  rw [hwatches.log] at hitself
  have hlog := htestified.log
  rw [hwatches.log] at hlog
  have hsound : AttachmentsSound p.store.attachments :=
    albumMachine_attachment.invariant (fun db => AttachmentsSound db.attachments)
      AttachmentsSound.empty (fun _ _ _ => AttachmentsSound.write) hp
  have hmemberships : MembershipsProven p.store :=
    albumMachine_attachment.invariant MembershipsProven MembershipsProven.empty
      (fun _ _ _ => MembershipsProven.write) hp
  have hdispatched : ∀ c ∈ handedAdds p.log, addDispatched p.store c := by
    intro c hc
    obtain ⟨a, ha, hclaim, hmarked⟩ := honce.marked_handed c hc
    obtain ⟨d, hd⟩ := Option.ne_none_iff_exists'.mp hmarked
    obtain ⟨hwrites, hlive, _⟩ := hsound.marked a (Table.mem_of_find? ha) d hd
    rw [hclaim] at hwrites
    exact ⟨hwrites, a, ha, hclaim, d, hd, hlive⟩
  refine ⟨?_, hdispatched, ?_, ?_, hsound.budget, ?_, ?_⟩
  · apply List.Nodup.map_on _ honce.nodup
    intro c hc c' hc' hsame
    obtain ⟨_, a, ha, hclaim, _⟩ := hdispatched c hc
    obtain ⟨_, a', ha', hclaim', _⟩ := hdispatched c' hc'
    rw [← hsame] at ha'
    rw [← hclaim, ← hclaim', Option.some.inj (ha.symm.trans ha')]
  · intro front back i c answer hsplit
    rw [hsplit] at hlog
    exact hlog.split
  · intro a ha a' ha' hsame hnext
    obtain ⟨hended, hreconciles⟩ := hsound.succeeds a ha a' ha' hsame hnext
    refine ⟨hended, ?_⟩
    intro hpending hhanded
    have hwrites := (hdispatched _ hhanded).1
    rw [hreconciles.mpr hpending] at hwrites
    cases hwrites
  · intro o ho hverified
    exact hmemberships.shown hsound ho hverified
  · intro a ha hverified
    obtain ⟨kept, hkept, i, g, proof, hread, hclaim, first, hentry, hgrant⟩ :=
      hproven a ha hverified
    refine ⟨kept, hkept, i, proof, ?_, hread⟩
    have hfirst : first.claim = a.claim := by
      rcases hgrant with rfl | ⟨contextIds, hmark⟩
      · exact hclaim.symm
      · have hmarked : g.claim = first.claim := hitself _ hmark
        exact (hclaim.trans hmarked).symm
    rw [← hfirst]
    exact hentry

namespace AlbumSample

def addAttempt : Token := ⟨"attach-1", Eq.refl true⟩
def addLease : Token := ⟨"attach-lease-1", Eq.refl true⟩
def addedPhotoset : Token := ⟨"photoset-7", Eq.refl true⟩
def addedUrl : NavigationUrl := ⟨"https://www.flickr.com/photos/owner-1/sets/photoset-7"⟩

/-- The album of the sample is created. -/
def materialized : List AlbumMove :=
  calls ++ created ++
    [⟨world, .recordCreate 7 createClaim addedPhotoset addedUrl⟩,
      ⟨world, .finishCreate 8 createClaim
        ⟨addedPhotoset, addedUrl, owner, firstPhoto, [addedPhotoset]⟩⟩]

/-- Flickr shows the photo in the photoset once an add of it was marked. -/
def addOracle (db : AlbumDb) : (o : AttachmentOp) → Option (o.Answer × AlbumDb)
  | .monotonicMs => some (0, db)
  | .claim obligationId =>
      answer (claimAlbumAttachment world ⟨20, 20, 20⟩ db obligationId addAttempt addLease)
  | .current g us => some (.ok (decide (currentAlbumAttachment ⟨world, 21⟩ db g us)), db)
  | .transport _ | .prepareAdd _ => some (.ok (), db)
  | .read c => some (.ok ⟨c.ownerNsid, c.photoId,
      if db.dispatchCount c.obligationId = 0 then [] else [c.photosetId]⟩, db)
  | .mark g contextIds => answer (markAlbumAttachmentDispatch ⟨world, 22⟩ db g contextIds)
  | .handoff _ => some (.ok .added, db)
  | .record g result => answer (recordAlbumAttachmentResult ⟨world, 23⟩ db g result)
  | .finish g proof => answer (finishAlbumAttachment ⟨world, 24⟩ db g proof)
  | .defer g proof => answer (deferAlbumAttachment ⟨world, 24⟩ db g proof)
  | .attention g reason proof => answer (attentionAlbumAttachment ⟨world, 24⟩ db g reason proof)
  | .unknown g => answer (unknownAlbumAttachment ⟨world, 24⟩ db g)
  | .fail g => answer (failAlbumAttachmentBeforeDispatch ⟨world, 24⟩ db g)
where
  /-- What a batch of the sample answers. -/
  answer {ε α : Type} (batch : Batch α) : Option (Except ε α × AlbumDb) :=
    batch.map fun (db, answer) => (.ok answer, db)

theorem addOracle_serve (db : AlbumDb) (o : AttachmentOp) (answer : o.Answer) (db' : AlbumDb)
    (h : addOracle db o = some (answer, db')) : attachmentMachine.serve db o answer db' := by
  have hbatch : ∀ {ε α : Type} {batch : Batch α} {answer : Except ε α},
      addOracle.answer batch = some (answer, db') → batchServed db batch answer db' := by
    intro ε α batch answer h
    obtain ⟨⟨after, result⟩, hrun, h⟩ := Option.map_eq_some_iff.mp h
    cases h
    exact hrun
  cases o with
  | claim obligationId => exact ⟨_, _, _, _, hbatch h⟩
  | current g us =>
      cases h
      refine ⟨rfl, ⟨world, 21⟩, ?_⟩
      intro isCurrent hanswer
      exact (Except.ok.inj hanswer).symm
  | mark | record | finish | defer | attention | unknown | fail => exact ⟨_, hbatch h⟩
  | _ =>
      cases h
      rfl

/-- The pool once a worker attached the second photo of the sample. -/
def addPool (db : AlbumDb) : Pool AlbumDb Unit AttachmentOp.Answer :=
  ((Pool.idle db).startAt ()
    (consumeAlbumAttachment true otherObligation >>= fun _ => pure ())).play addOracle () 120

end AlbumSample

/-- One worker attaches the second photo of the sample, with one add. -/
theorem album_attachment_discipline_sample : ∃ p : Pool AlbumDb Unit AttachmentOp.Answer,
    Reachable (PoolStep attachmentMachine) (PoolInitial AlbumInitial) p ∧
    (∃ o ∈ p.store.obligations, o.obligationId = AlbumSample.otherObligation ∧
      o.state = .membershipVerified) ∧
    (handedAdds p.log).length = 1 ∧
    ((handedAdds p.log).map AlbumAttachmentClaim.attemptId).Nodup := by
  have hsome : (execAll AlbumMove.exec emptyAlbumDb AlbumSample.materialized).isSome = true := by
    decide +kernel
  obtain ⟨db, hdb⟩ := Option.isSome_iff_exists.mp hsome
  have hfacts : ∀ db ∈ execAll AlbumMove.exec emptyAlbumDb AlbumSample.materialized,
      (∃ o ∈ (AlbumSample.addPool db).store.obligations,
        o.obligationId = AlbumSample.otherObligation ∧ o.state = .membershipVerified) ∧
      (handedAdds (AlbumSample.addPool db).log).length = 1 := by
    decide +kernel
  have hother : ∀ move ∈ AlbumSample.materialized, move.call.part ≠ some .attachments := by decide
  have hprogram : attachmentMachine.program
      (consumeAlbumAttachment true AlbumSample.otherObligation >>= fun _ => pure ()) :=
    ⟨true, AlbumSample.otherObligation, rfl⟩
  have hidle : Reachable (PoolStep attachmentMachine) (PoolInitial AlbumInitial)
      (Pool.idle db : Pool AlbumDb Unit AttachmentOp.Answer) :=
    reachable_calls rfl hother hdb
  have hreachable : Reachable (PoolStep attachmentMachine) (PoolInitial AlbumInitial)
      (AlbumSample.addPool db) :=
    reachable_play hidle hprogram AlbumSample.addOracle_serve () 120
  obtain ⟨hverified, hhanded⟩ := hfacts db hdb
  exact ⟨_, hreachable, hverified, hhanded, (album_attachment_discipline hreachable).1⟩

end FlickrGroupAddr

import FlickrGroupAddr.AlbumMaterializationWorker
import FlickrGroupAddr.AlbumPhotosets
import FlickrGroupAddr.AlbumPools
import FlickrGroupAddr.Lib.Grants

/-!
# At most one create

Any number of workers create albums from one database, next to every other album call.
A hand-off needs the mark of its attempt, which one worker is granted once, and no two
attempts of one binding are marked.
-/

namespace FlickrGroupAddr

set_option autoImplicit false

open KeyedTable Transition Program Workers Handoff

/-! ## The store the workers share -/

namespace CreateOp

/-- What an operation does to the database, at any moment in any world.  The clock and the
transport do nothing to it. -/
def serve (db : AlbumDb) : (o : CreateOp) → o.Answer → AlbumDb → Prop
  | .claim bindingId, answer, db' => ∃ w clock attemptId leaseId,
      batchServed db (claimAlbumMaterialization w clock db bindingId attemptId leaseId) answer db'
  | .current c minRemainingUs, answer, db' => db' = db ∧ ∃ m, ∀ isCurrent,
      answer = .ok isCurrent →
        isCurrent = decide (currentAlbumMaterialization m db c minRemainingUs)
  | .mark c preContextIds, answer, db' => ∃ m,
      batchServed db (markAlbumCreateDispatch m db c preContextIds) answer db'
  | .record c created, answer, db' => ∃ m,
      batchServed db (recordAlbumCreateResult m db c created.photosetId created.url) answer db'
  | .finish c proof, answer, db' => ∃ m,
      batchServed db (finishAlbumMaterialization m db c proof) answer db'
  | .fail c, answer, db' => ∃ m,
      batchServed db (failAlbumMaterializationBeforeDispatch m db c) answer db'
  | .unknown c, answer, db' => ∃ m,
      batchServed db (unknownAlbumMaterialization m db c) answer db'
  | .reject c code, answer, db' => ∃ m,
      batchServed db (rejectAlbumMaterialization m db c code) answer db'
  | .monotonicMs, _, db' | .transport _, _, db' | .contexts _, _, db' | .prepareCreate _, _, db'
  | .handoff _, _, db' | .verify _ _, _, db' => db' = db

/-- A lost answer shows as an exception; the clock always answers. -/
def lost : (o : CreateOp) → o.Answer → Prop
  | .monotonicMs, _ => False
  | .claim _, answer => answer.isOk = false
  | .transport _, answer | .prepareCreate _, answer => answer.isOk = false
  | .contexts _, answer => answer.isOk = false
  | .handoff _, answer => answer.isOk = false
  | .verify _ _, answer => answer.isOk = false
  | .current _ _, answer | .mark _ _, answer | .record _ _, answer | .finish _ _, answer
  | .fail _, answer | .unknown _, answer | .reject _ _, answer => answer.isOk = false

end CreateOp

/-- The workers, the database they share, and every other call on it. -/
def createMachine : Machine AlbumDb CreateOp.Answer where
  serve := CreateOp.serve
  lost := CreateOp.lost
  external := otherAlbumCall .creates
  program := fun program => ∃ enabled bindingId,
    program = consumeAlbumMaterialization enabled bindingId >>= fun _ => pure ()

theorem CreateOp.serve.writes {db db' : AlbumDb} {o : CreateOp} {answer : o.Answer}
    (h : o.serve db answer db') : AlbumWrites (some .creates) db db' := by
  have hsame : db' = db → AlbumWrites (some .creates) db db' := by
    rintro rfl
    exact Relation.ReflTransGen.refl
  cases o with
  | claim bindingId =>
      obtain ⟨w, clock, attemptId, leaseId, h⟩ := h
      exact h.writes fun _ => writes_claimAlbumMaterialization rfl
  | current claim us => exact hsame h.1
  | mark | record | finish | reject =>
      obtain ⟨m, h⟩ := h
      exact h.writes fun _ => writes_guarded fun _ => writes_changeCreate rfl
  | fail | unknown =>
      obtain ⟨m, h⟩ := h
      exact h.writes fun _ => writes_changeCreate rfl
  | _ => exact hsame h

theorem albumMachine_create : AlbumMachine createMachine where
  serve _ _ _ _ h := ⟨_, CreateOp.serve.writes h⟩
  external _ _ h := by
    obtain ⟨move, _, hstep⟩ := h
    exact ⟨_, hstep.writes⟩

/-! ## The order of the operations -/

/-- How far a worker got with a claim. -/
inductive CreateStage where
  | free
  | granted (claim : AlbumMaterializationClaim)
  | created (claim : AlbumMaterializationClaim) (result : AlbumCreateResult)
  | proven (claim : AlbumMaterializationClaim) (proof : AlbumMaterializationProof)
deriving DecidableEq

namespace CreateStage

/-- The claim a worker may hand off. -/
def held? : CreateStage → Option AlbumMaterializationClaim
  | .granted claim => some claim
  | _ => none

/-- A create is handed off under its mark, verified after it was returned, and finished with
the proof that was verified. -/
def allows : CreateStage → CreateOp → Prop
  | stage, .handoff claim => stage = .granted claim
  | stage, .verify claim photosetId => ∃ result, stage = .created claim result ∧
      result.photosetId = photosetId
  | stage, .finish claim proof => stage = .proven claim proof
  | _, _ => True

def next : CreateStage → (o : CreateOp) → o.Answer → CreateStage
  | _, .mark claim _, .ok true => .granted claim
  | _, .mark _ _, _ => .free
  | _, .handoff claim, .ok result => .created claim result
  | _, .handoff _, .error _ => .free
  | _, .verify claim _, .ok proof => .proven claim proof
  | _, .verify _ _, .error _ => .free
  | stage, _, _ => stage

end CreateStage

def createMonitor : Monitor CreateOp.Answer CreateStage := ⟨CreateStage.allows, CreateStage.next⟩

namespace AlbumMaterialization

variable {started : Int} {claim : AlbumMaterializationClaim} {stage : CreateStage}

theorem quiet_monotonicMs : Invocation.Quiet createMonitor createInvocation.monotonicMs := by
  intro stage
  exact ⟨trivial, fun _ => rfl⟩

theorem quiet_current (us : Us) :
    Invocation.Quiet createMonitor (Prog.query (CreateOp.current claim us)) := by
  intro stage
  exact ⟨trivial, fun _ => rfl⟩

theorem runs_bounded {α : Type} {operation : CreateProg (Except CreateFault α)}
    {post : α → CreateStage → Prop}
    (h : Follows createMonitor (ends post fun _ _ => True) stage operation) :
    Runs createMonitor post (fun _ _ => True) stage
      (createInvocation.bounded started operation) :=
  Invocation.runs_bounded quiet_monotonicMs trivial (fun _ _ _ => trivial) h

theorem runs_quiet {α : Type} {operation : CreateProg (Except CreateFault α)}
    {post : α → CreateStage → Prop}
    (hquiet : Invocation.Quiet createMonitor operation) (hpost : ∀ result, post result stage) :
    Runs createMonitor post (fun _ _ => True) stage
      (createInvocation.bounded started operation) :=
  Invocation.runs_bounded_of_quiet quiet_monotonicMs (fun _ _ => trivial) hquiet hpost

theorem runs_assertCurrent {requiredMs : Int} {post : Unit → CreateStage → Prop}
    (hpost : post () stage) :
    Runs createMonitor post (fun _ _ => True) stage
      (assertCurrent started claim requiredMs) :=
  Invocation.runs_assertCurrent quiet_monotonicMs quiet_current (fun _ _ => trivial) hpost

/-- A dispatch that was marked grants the hand-off. -/
theorem runs_dispatch :
    Runs createMonitor (fun marked stage => marked = true → stage = .granted claim)
      (fun _ _ => True) stage (dispatch started claim) := by
  unfold dispatch
  simp only [runs_bind]
  apply runs_assertCurrent
  refine runs_quiet (fun _ => ⟨trivial, fun _ => rfl⟩) ?_
  intro _
  refine runs_quiet (fun _ => ⟨trivial, fun _ => rfl⟩) ?_
  intro preContextIds
  apply runs_assertCurrent
  refine runs_quiet (fun _ => ⟨trivial, fun _ => rfl⟩) ?_
  intro _
  apply runs_assertCurrent
  apply runs_bounded
  refine ⟨trivial, ?_⟩
  rintro (_ | marked)
  · trivial
  · rintro rfl
    rfl

theorem runs_handoff :
    Runs createMonitor (fun result stage => stage = .created claim result) (fun _ _ => True)
      (.granted claim) (handoff started claim) := by
  unfold handoff
  rw [runs_bind]
  refine Invocation.runs_remainingMs quiet_monotonicMs ?_ trivial
  intro remaining
  split
  · trivial
  · apply runs_bounded
    refine ⟨rfl, ?_⟩
    rintro (_ | result)
    · trivial
    · rfl

theorem runs_complete {result : AlbumCreateResult} :
    Runs createMonitor (fun _ _ => True) (fun _ _ => True)
      (.created claim result) (complete started claim result) := by
  unfold complete
  simp only [runs_bind]
  apply runs_assertCurrent
  refine runs_quiet (fun _ => ⟨trivial, fun _ => rfl⟩) ?_
  intro recorded
  split
  · trivial
  · simp only [runs_bind]
    apply runs_assertCurrent
    apply runs_bounded
    refine ⟨⟨result, rfl, rfl⟩, ?_⟩
    rintro (_ | proof)
    · trivial
    · apply runs_assertCurrent
      apply runs_bounded
      refine ⟨rfl, ?_⟩
      rintro (_ | _ | _)
      · trivial
      · trivial
      · trivial

/-- A call that settles an attempt may come at any stage. -/
theorem follows_settle {operation : CreateProg (Except CreateFault Bool)}
    {outcome : AlbumMaterializationOutcome}
    (hquiet : Invocation.Quiet createMonitor operation) :
    Follows createMonitor (fun _ _ => True) stage (do
      settle started operation
      pure outcome) := by
  unfold settle
  simp only [follows_bind]
  have hruns := @runs_quiet started stage _ operation (fun _ _ => True) hquiet fun _ => trivial
  apply Follows.imp hruns
  intro _ _ _
  trivial

theorem follows_outcomeUnknown :
    Follows createMonitor (fun _ _ => True) stage (outcomeUnknown started claim) :=
  follows_settle fun _ => ⟨trivial, fun _ => rfl⟩

theorem follows_notDispatched :
    Follows createMonitor (fun _ _ => True) stage (notDispatched started claim) :=
  follows_settle fun _ => ⟨trivial, fun _ => rfl⟩

theorem follows_afterMarker :
    Follows createMonitor (fun _ _ => True) (.granted claim)
      (afterMarker started claim) := by
  unfold afterMarker
  rw [follows_bind]
  apply Follows.imp runs_handoff
  rintro ((_ | code) | result) stage hresult
  · exact follows_outcomeUnknown
  · rw [follows_bind]
    have hreject : Invocation.Quiet createMonitor (Prog.query (CreateOp.reject claim code)) :=
      fun _ => ⟨trivial, fun _ => rfl⟩
    have hruns := @runs_quiet started stage _ _ (fun _ _ => True) hreject fun _ => trivial
    apply Follows.imp hruns
    rintro (_ | _ | _) _ _
    · exact follows_outcomeUnknown
    · exact follows_outcomeUnknown
    · trivial
  · obtain rfl : stage = .created claim result := hresult
    rw [follows_bind]
    apply Follows.imp runs_complete
    rintro (_ | _) _ _
    · exact follows_outcomeUnknown
    · trivial

end AlbumMaterialization

open AlbumMaterialization in
/-- The worker keeps the order of its operations. -/
theorem follows_consumeAlbumMaterialization {enabled : Bool} {bindingId : Token} :
    Follows createMonitor (fun _ _ => True) .free
      (consumeAlbumMaterialization enabled bindingId) := by
  unfold consumeAlbumMaterialization
  split
  · trivial
  · rw [follows_bind]
    refine ⟨trivial, fun started => ?_⟩
    show Follows createMonitor _ .free (_ >>= _)
    rw [follows_bind]
    have hclaim : Invocation.Quiet createMonitor (Prog.query (CreateOp.claim bindingId)) :=
      fun _ => ⟨trivial, fun _ => rfl⟩
    have hruns := @runs_quiet started .free _ _ (fun _ _ => True) hclaim fun _ => trivial
    apply Follows.imp hruns
    rintro (_ | _ | claim) stage _
    · trivial
    · trivial
    · rw [follows_bind]
      apply Follows.imp runs_dispatch
      rintro (_ | _ | _) stage hmarked
      · exact follows_notDispatched
      · rw [follows_bind]
        have hfail : Invocation.Quiet createMonitor (Prog.query (CreateOp.fail claim)) :=
          fun _ => ⟨trivial, fun _ => rfl⟩
        have hruns := @runs_quiet started stage _ _ (fun _ _ => True) hfail fun _ => trivial
        apply Follows.imp hruns
        rintro (_ | _) _ _
        · exact follows_notDispatched
        · trivial
      · obtain rfl : stage = .granted claim := hmarked rfl
        exact follows_afterMarker

/-! ## What the operations do to the attempts -/

/-- Only a create call touches the create attempts. -/
theorem AlbumWrite.creates_eq {part : Option AlbumPart} {db db' : AlbumDb}
    (h : AlbumWrite part db db') (hother : part ≠ some .creates) :
    db'.materializations = db.materializations := by
  cases h with
  | binding new hset =>
      obtain ⟨bindings, events, titles, rfl⟩ := AlbumDb.movedOnly_setBinding hset
      rfl
  | obligation new hset =>
      rcases AlbumDb.setObligation_eq_some hset with ⟨_, rfl⟩ | ⟨_, _, _, _, _, rfl⟩
      · rfl
      · rfl
  | titleAttempt m new _ hset =>
      obtain ⟨titles, rfl⟩ := AlbumDb.titlesOnly_setTitleAttempt hset
      rfl
  | createClaimed hpart => exact absurd hpart hother
  | createChanged hpart => exact absurd hpart hother
  | _ => rfl

theorem AlbumWrites.creates_eq {part : Option AlbumPart} {db db' : AlbumDb}
    (h : AlbumWrites part db db') (hother : part ≠ some .creates) :
    db'.materializations = db.materializations := by
  induction h with
  | refl => rfl
  | tail _ hlast ih => exact (hlast.creates_eq hother).trans ih

theorem otherAlbumCall.creates_eq {db db' : AlbumDb} (h : otherAlbumCall .creates db db') :
    db'.materializations = db.materializations := by
  obtain ⟨move, hother, hstep⟩ := h
  exact hstep.writes.creates_eq hother

/-- Setting a create attempt sets its row, and no other row. -/
theorem AlbumDb.setMaterialization_eq_some {m : Moment} {db db' : AlbumDb}
    {new : AlbumMaterializationAttempt} (h : AlbumDb.setMaterialization m db new = some db') :
    (db.materializations.find? new.attemptId = none ∧ db' = db) ∨
    ∃ old, db.materializations.find? new.attemptId = some old ∧
      AlbumDb.CreateUpdateAllowed m db old new ∧
      db'.materializations = db.materializations.set new := by
  unfold AlbumDb.setMaterialization at h
  split at h
  · next hnone =>
      left
      cases h
      exact ⟨hnone, rfl⟩
  · next old hold =>
      right
      split at h
      · next hallowed =>
          refine ⟨old, hold, hallowed, ?_⟩
          obtain ⟨shown, hshow, hverify⟩ := Option.bind_eq_some_iff.mp h
          have hshown : AlbumWrites none
              { db with materializations := db.materializations.set new } shown :=
            writes_showCreate hshow
          have hverified : AlbumWrites none shown db' := by
            unfold verifyCreated at hverify
            split at hverify
            · cases hverify
              exact Relation.ReflTransGen.refl
            · exact writes_verifyFirstObligation hverify
          exact AlbumWrites.creates_eq (hshown.trans hverified) (by simp)
      · cases h

/-- What a fenced change of a create attempt did. -/
theorem changeCreate_eq_some {m : Moment} {db db' : AlbumDb} {claim : AlbumMaterializationClaim}
    {next : AlbumMaterializationAttempt → Option MaterializationPhase} {changed : Bool}
    (h : changeCreate m db claim next = some (db', changed)) :
    (changed = false ∧ db' = db) ∨
    ∃ a phase, changed = true ∧ db.materializations.find? claim.attemptId = some a ∧
      a.claim = claim ∧ next a = some phase ∧
      AlbumDb.CreateUpdateAllowed m db a { a with phase := phase } ∧
      db'.materializations = db.materializations.set { a with phase := phase } := by
  unfold changeCreate at h
  split at h
  · left
    cases h
    exact ⟨rfl, rfl⟩
  · next a ha =>
      obtain ⟨hfind, hfence⟩ := Option.filter_eq_some_iff.mp ha
      split at h
      · left
        cases h
        exact ⟨rfl, rfl⟩
      · next phase hphase =>
          right
          obtain ⟨after, hset, h⟩ := Option.map_eq_some_iff.mp h
          cases h
          have hclaim : a.claim = claim := (of_decide_eq_true hfence).2.1
          have hkey : a.attemptId = claim.attemptId := congrArg _ hclaim
          have hrow : db.materializations.find? ({ a with phase := phase } :
              AlbumMaterializationAttempt).attemptId = some a := by
            rw [← hkey] at hfind
            exact hfind
          refine ⟨a, phase, rfl, hfind, hclaim, hphase, ?_⟩
          rcases AlbumDb.setMaterialization_eq_some hset with ⟨hnone, _⟩ | ⟨old, hold, hdone⟩
          · cases hrow.symm.trans hnone
          · cases hrow.symm.trans hold
            exact hdone

/-- The attempt of the claim is marked. -/
def createMarked (db : AlbumDb) (claim : AlbumMaterializationClaim) : Prop :=
  ∃ a ∈ db.materializations.find? claim.attemptId, a.claim = claim ∧ a.phase.dispatch? ≠ none

theorem createMarked.kept {db db' : AlbumDb} {claim : AlbumMaterializationClaim}
    (hkept : PhotosetsKept db db') (h : createMarked db claim) : createMarked db' claim := by
  obtain ⟨a, ha, hclaim, hmarked⟩ := h
  obtain ⟨a', ha', hrow⟩ := hkept.creates claim.attemptId a ha
  refine ⟨a', ha', hrow.claim.trans hclaim, ?_⟩
  rw [hrow.marked hmarked]
  exact hmarked

/-- A mark is granted for an attempt that was not marked, and marks it. -/
theorem markAlbumCreateDispatch_granted {m : Moment} {db db' : AlbumDb}
    {claim : AlbumMaterializationClaim} {preContextIds : List Token}
    (h : markAlbumCreateDispatch m db claim preContextIds = some (db', true)) :
    ¬ createMarked db claim ∧ createMarked db' claim := by
  unfold markAlbumCreateDispatch at h
  split at h
  · rcases changeCreate_eq_some h with ⟨hfalse, _⟩ | ⟨a, phase, _, ha, hclaim, hnext, _, hset⟩
    · cases hfalse
    · split at hnext
      · next hclaimed =>
          cases hnext
          constructor
          · rintro ⟨other, hother, _, hmarked⟩
            have hsame : other = a := Option.some.inj (hother.symm.trans ha)
            rw [hsame, hclaimed.1] at hmarked
            exact hmarked rfl
          · refine ⟨{ a with phase := .dispatched ⟨m.now, preContextIds⟩ }, ?_, hclaim, ?_⟩
            · have hkey : claim.attemptId = a.attemptId := (congrArg _ hclaim).symm
              rw [hset, Table.find?_set]
              refine (if_pos (by exact hkey)).trans ?_
              rw [ha]
              rfl
            · simp [MaterializationPhase.dispatch?]
      · cases hnext
  · cases h

/-! ## Handing off once -/

/-- The claim that an operation hands off. -/
def CreateOp.handedOff? : CreateOp → Option AlbumMaterializationClaim
  | .handoff c => some c
  | _ => none

/-- The claim whose hand-off an answer grants. -/
def CreateOp.granted? : (o : CreateOp) → o.Answer → Option AlbumMaterializationClaim
  | .mark c _, .ok true => some c
  | _, _ => none

/-- No lost answer grants. -/
theorem granted?_of_lost {o : CreateOp} {answer : o.Answer} (h : o.lost answer) :
    o.granted? answer = none := by
  cases o with
  | mark claim preContextIds =>
      cases answer with
      | error e => rfl
      | ok marked => cases h
  | _ => rfl

theorem granted?_of_serve {db db' : AlbumDb} {o : CreateOp} {answer : o.Answer}
    {claim : AlbumMaterializationClaim} (h : o.serve db answer db')
    (hgranted : o.granted? answer = some claim) :
    ¬ createMarked db claim ∧ createMarked db' claim := by
  cases o with
  | mark other preContextIds =>
      rcases answer with _ | _ | _
      · cases hgranted
      · cases hgranted
      · obtain ⟨m, hserved⟩ := h
        cases hgranted
        exact markAlbumCreateDispatch_granted hserved
  | _ => cases hgranted

/-- A worker holds a create from the mark it was granted to its hand-off. -/
theorem held?_next {stage : CreateStage} {o : CreateOp} {answer : o.Answer}
    {claim : AlbumMaterializationClaim} (h : (stage.next o answer).held? = some claim) :
    o.granted? answer = some claim ∨ (stage.held? = some claim ∧ o.handedOff? = none) := by
  cases o with
  | mark c preContextIds =>
      rcases answer with _ | _ | _
      · cases h
      · cases h
      · exact Or.inl h
  | handoff c =>
      cases answer with
      | error e => cases h
      | ok result => cases h
  | verify c photosetId =>
      cases answer with
      | error e => cases h
      | ok proof => cases h
  | _ => exact Or.inr ⟨h, rfl⟩

theorem createGrants : Grants createMachine createMonitor .free CreateStage.held? createMarked
    CreateOp.granted? CreateOp.handedOff? where
  start := rfl
  holds _ _ _ _ _ h := held?_next h
  hands stage o claim hallows hhanded := by
    cases o with
    | handoff c =>
        cases hhanded
        rw [show stage = .granted claim from hallows]
        rfl
    | _ => cases hhanded
  apart o answer claim hgranted := by
    cases o with
    | handoff c => cases answer <;> cases hgranted
    | _ => rfl
  serves _ _ _ _ _ h := granted?_of_serve h
  loses _ _ h := granted?_of_lost h
  kept _ _ _ _ _ h := createMarked.kept (PhotosetsKept.writes (CreateOp.serve.writes h))
  external _ _ _ h := by
    obtain ⟨move, _, hmove⟩ := h
    exact createMarked.kept (PhotosetsKept.writes hmove.writes)

variable {ι : Type}

/-- The creates that were handed off, newest first. -/
def handedCreates (log : List (Entry ι CreateOp.Answer)) : List AlbumMaterializationClaim :=
  handedOff CreateOp.handedOff? log

/-! ## Where a verified photoset comes from -/

/-- One worker handed the create off, got a photoset, and then read the proof of it. -/
def createProven (log : List (Entry ι CreateOp.Answer)) (claim : AlbumMaterializationClaim)
    (proof : AlbumMaterializationProof) : Prop :=
  ∃ i created, List.Sublist
    [⟨i, .verify claim created.photosetId, .ok proof⟩, ⟨i, .handoff claim, .ok created⟩] log

/-- What the log shows of a worker at a stage. -/
def CreateStage.shown (i : ι) (stage : CreateStage) (log : List (Entry ι CreateOp.Answer)) :
    Prop :=
  match stage with
  | .free | .granted _ => True
  | .created c result => ⟨i, .handoff c, .ok result⟩ ∈ log
  | .proven c proof => createProven log c proof

/-- What the log shows when a worker asks an operation. -/
def CreateOp.shown (log : List (Entry ι CreateOp.Answer)) : CreateOp → Prop
  | .finish c proof => createProven log c proof
  | _ => True

theorem createProven.cons {log : List (Entry ι CreateOp.Answer)}
    {claim : AlbumMaterializationClaim} {proof : AlbumMaterializationProof}
    (h : createProven log claim proof) (entry : Entry ι CreateOp.Answer) :
    createProven (entry :: log) claim proof := by
  obtain ⟨i, created, hlog⟩ := h
  exact ⟨i, created, hlog.cons entry⟩

theorem CreateStage.shown.cons {i : ι} {stage : CreateStage}
    {log : List (Entry ι CreateOp.Answer)} (h : stage.shown i log)
    (entry : Entry ι CreateOp.Answer) : stage.shown i (entry :: log) := by
  cases stage with
  | free => trivial
  | granted c => trivial
  | created c created => exact List.mem_cons_of_mem _ h
  | proven c proof => exact createProven.cons h entry

/-- The order of the operations is borne out by the log. -/
theorem create_testimony :
    Testimony createMonitor .free (CreateStage.shown : ι → CreateStage → _ → Prop)
      fun _ o log => o.shown log where
  start _ _ := trivial
  kept _ _ _ entry h := h.cons entry
  next i stage log o answer h hallows := by
    cases o with
    | mark c preContextIds =>
        rcases answer with _ | _ | _
        · trivial
        · trivial
        · trivial
    | handoff c =>
        cases answer with
        | error e => trivial
        | ok created => exact List.mem_cons_self
    | verify c photosetId =>
        cases answer with
        | error e => trivial
        | ok proof =>
            obtain ⟨created, rfl, rfl⟩ := hallows
            exact ⟨i, created, List.Sublist.cons_cons _ (List.singleton_sublist.mpr h)⟩
    | _ => exact CreateStage.shown.cons h _
  asks i stage log o h hallows := by
    cases o with
    | finish c proof =>
        have hstage : stage = .proven c proof := hallows
        rw [hstage] at h
        exact h
    | _ => trivial
  stands _ o log entry h := by
    cases o with
    | finish c proof => exact createProven.cons h entry
    | _ => trivial

/-- No attempt was verified. -/
abbrev Unverified (db db' : AlbumDb) : Prop :=
  Table.AddsOnly (fun a => a.phase.verifiedPhotoset? = none) db.materializations
    db'.materializations

theorem unverified_setMaterialization {m : Moment} {db db' : AlbumDb}
    {new : AlbumMaterializationAttempt} (h : AlbumDb.setMaterialization m db new = some db')
    (hnew : new.phase.verifiedPhotoset? = none) : Unverified db db' := by
  rcases AlbumDb.setMaterialization_eq_some h with ⟨_, rfl⟩ | ⟨_, _, _, hset⟩
  · exact Table.AddsOnly.same _
  · unfold Unverified
    rw [hset]
    exact Table.AddsOnly.set hnew

theorem verifiedPhotoset?_expiredCreate {now : Us} {phase : MaterializationPhase} :
    (expiredCreate now phase).verifiedPhotoset? = none := by
  cases phase with
  | _ => rfl

theorem unverified_expireCreates {m : Moment} {db db' : AlbumDb} {bindingId : Token}
    (h : expireCreates m db bindingId = some db') : Unverified db db' := by
  unfold expireCreates at h
  generalize expiredCreates m.now db bindingId = expired at h
  induction expired generalizing db with
  | nil =>
      cases h
      exact Table.AddsOnly.same _
  | cons a expired ih =>
      obtain ⟨next, hset, h⟩ := Option.bind_eq_some_iff.mp h
      exact (unverified_setMaterialization hset verifiedPhotoset?_expiredCreate).trans (ih h)

theorem unverified_claimAlbumMaterialization {w : AlbumWorld} {clock : ClaimClock}
    {db db' : AlbumDb} {bindingId attemptId leaseId : Token}
    {answer : Option AlbumMaterializationClaim}
    (h : claimAlbumMaterialization w clock db bindingId attemptId leaseId = some (db', answer)) :
    Unverified db db' := by
  obtain ⟨expired, hexpire, h⟩ := Option.bind_eq_some_iff.mp h
  obtain ⟨inserted, hinsert, h⟩ := Option.map_eq_some_iff.mp h
  cases h
  refine (unverified_expireCreates hexpire).trans ?_
  unfold insertSelected at hinsert
  split at hinsert
  · cases hinsert
    exact Table.AddsOnly.same _
  · obtain ⟨attempts, hrow, rfl⟩ := Option.map_eq_some_iff.mp hinsert
    obtain ⟨hadmissible, hrow⟩ := Table.insertIf?_eq_some.mp hrow
    apply Table.AddsOnly.insert? hrow
    rw [hadmissible.1.1]
    rfl

/-- A fenced change to a phase that is not verified. -/
theorem unverified_changeCreate {m : Moment} {db db' : AlbumDb}
    {claim : AlbumMaterializationClaim}
    {next : AlbumMaterializationAttempt → Option MaterializationPhase} {answer : Bool}
    (hnext : ∀ a phase, next a = some phase → phase.verifiedPhotoset? = none)
    (h : changeCreate m db claim next = some (db', answer)) : Unverified db db' := by
  rcases changeCreate_eq_some h with ⟨_, rfl⟩ | ⟨a, phase, _, _, _, hphase, _, hset⟩
  · exact Table.AddsOnly.same _
  · unfold Unverified
    rw [hset]
    exact Table.AddsOnly.set (hnext a phase hphase)

/-- What a batch adds that ran or aborted. -/
theorem unverified_batch {ε α : Type} {db db' : AlbumDb} {batch : Batch α} {answer : Except ε α}
    (h : batchServed db batch answer db')
    (hbatch : ∀ answer, batch = some (db', answer) → Unverified db db') : Unverified db db' := by
  cases answer with
  | ok answer => exact hbatch answer h
  | error e =>
      rw [h.2]
      exact Table.AddsOnly.same _

theorem unverified_guarded {α : Type} {db db' : AlbumDb} {guard : Prop} [Decidable guard]
    {batch : Batch α} {refused answer : α}
    (hbatch : ∀ answer, batch = some (db', answer) → Unverified db db')
    (h : (if guard then batch else unchanged db refused) = some (db', answer)) :
    Unverified db db' := by
  split at h
  · exact hbatch answer h
  · cases h
    exact Table.AddsOnly.same _

/-- The proof of the operation is the one that verified the attempt. -/
def CreateOp.verifies (o : CreateOp) (a : AlbumMaterializationAttempt) : Prop :=
  ∀ photosetId ∈ a.phase.verifiedPhotoset?,
    ∃ proof, o = .finish a.claim proof ∧ proof.photosetId = photosetId

theorem verified_finishAlbumMaterialization {m : Moment} {db db' : AlbumDb}
    {claim : AlbumMaterializationClaim} {proof : AlbumMaterializationProof} {answer : Bool}
    (h : finishAlbumMaterialization m db claim proof = some (db', answer)) :
    Table.AddsOnly (CreateOp.finish claim proof).verifies db.materializations
      db'.materializations := by
  unfold finishAlbumMaterialization at h
  split at h
  · rcases changeCreate_eq_some h with ⟨_, rfl⟩ | ⟨a, phase, _, _, hclaim, hnext, _, hset⟩
    · exact Table.AddsOnly.same _
    · rw [hset]
      apply Table.AddsOnly.set
      intro photosetId hverified
      refine ⟨proof, congrArg (CreateOp.finish · proof) hclaim.symm, ?_⟩
      split at hnext
      · split at hnext
        · cases hnext
          exact Option.some.inj hverified
        · cases hnext
      · cases hnext
  · cases h
    exact Table.AddsOnly.same _

/-- Only the proof a worker read verifies an attempt. -/
theorem CreateOp.serve_verified {db db' : AlbumDb} {o : CreateOp} {answer : o.Answer}
    (h : o.serve db answer db') :
    Table.AddsOnly o.verifies db.materializations db'.materializations := by
  have hother : Unverified db db' →
      Table.AddsOnly o.verifies db.materializations db'.materializations := by
    intro hunverified
    apply hunverified.imp
    intro a hnone photosetId hverified
    rw [hnone] at hverified
    cases hverified
  cases o with
  | claim bindingId =>
      obtain ⟨w, clock, attemptId, leaseId, h⟩ := h
      exact hother (unverified_batch h fun _ => unverified_claimAlbumMaterialization)
  | current c us => exact Table.AddsOnly.of_eq (congrArg AlbumDb.materializations h.1)
  | mark c preContextIds =>
      obtain ⟨m, h⟩ := h
      apply hother
      apply unverified_batch h
      intro answer
      apply unverified_guarded
      intro answer
      apply unverified_changeCreate
      intro a phase hnext
      split at hnext
      · cases hnext
        rfl
      · cases hnext
  | record c result =>
      obtain ⟨m, h⟩ := h
      apply hother
      apply unverified_batch h
      intro answer
      apply unverified_guarded
      intro answer
      apply unverified_changeCreate
      intro a phase hnext
      split at hnext
      · split at hnext
        · cases hnext
          rfl
        · cases hnext
      · cases hnext
  | finish c proof =>
      obtain ⟨m, h⟩ := h
      cases answer with
      | error e =>
          rw [h.2]
          exact Table.AddsOnly.same _
      | ok answer => exact verified_finishAlbumMaterialization h
  | fail c =>
      obtain ⟨m, h⟩ := h
      apply hother
      apply unverified_batch h
      intro answer
      apply unverified_changeCreate
      intro a phase hnext
      split at hnext
      · cases hnext
        rfl
      · cases hnext
  | unknown c =>
      obtain ⟨m, h⟩ := h
      apply hother
      apply unverified_batch h
      intro answer
      apply unverified_changeCreate
      intro a phase hnext
      split at hnext
      · cases hnext
        rfl
      · cases hnext
        rfl
      · cases hnext
  | reject c code =>
      obtain ⟨m, h⟩ := h
      apply hother
      apply unverified_batch h
      intro answer
      apply unverified_guarded
      intro answer
      apply unverified_changeCreate
      intro a phase hnext
      split at hnext
      · split at hnext
        · cases hnext
          rfl
        · cases hnext
      · cases hnext
  | _ =>
      have hsame : db' = db := h
      rw [hsame]
      exact Table.AddsOnly.same _

/-- Every verified attempt has the proof of its photoset in the log. -/
def createsProven (db : AlbumDb) (log : List (Entry ι CreateOp.Answer)) : Prop :=
  ∀ a ∈ db.materializations, ∀ photosetId ∈ a.phase.verifiedPhotoset?,
    ∃ proof, proof.photosetId = photosetId ∧ createProven log a.claim proof

variable [DecidableEq ι]

theorem creates_proven {w : Watch AlbumDb ι CreateStage CreateOp.Answer}
    (hw : Reachable (WatchStep createMachine createMonitor .free)
      (WatchInitial AlbumInitial .free) w) : createsProven w.store w.log := by
  apply create_testimony.recorded createsProven ?_ ?_ ?_ ?_ hw
  · intro db hdb a ha
    rw [show db = emptyAlbumDb from hdb] at ha
    exact absurd ha (Table.not_mem_empty a)
  · intro db log entry h a ha photosetId hverified
    obtain ⟨proof, hproof, hshown⟩ := h a ha photosetId hverified
    exact ⟨proof, hproof, hshown.cons entry⟩
  · intro db db' log hexternal h a ha
    rw [otherAlbumCall.creates_eq hexternal] at ha
    exact h a ha
  · intro db i o answer db' log hserve hasked h a ha photosetId hverified
    rcases CreateOp.serve_verified hserve a ha with hold | hverifies
    · exact h a hold photosetId hverified
    · obtain ⟨proof, rfl, hproof⟩ := hverifies photosetId hverified
      exact ⟨proof, hproof, hasked⟩

/-! ## At most one create for an album -/

theorem createMachine_follows (program : Prog CreateOp.Answer Unit)
    (h : createMachine.program program) :
    Follows createMonitor (fun _ _ => True) .free program := by
  obtain ⟨enabled, bindingId, rfl⟩ := h
  rw [follows_bind]
  exact follows_consumeAlbumMaterialization.imp fun _ _ _ => trivial

/-- The program does not hold the hand-off of the claim: it was not granted it, or it is past
it. -/
def dropped (claim : AlbumMaterializationClaim) (program : Prog CreateOp.Answer Unit) : Prop :=
  ∃ stage : CreateStage, stage.held? ≠ some claim ∧
    Follows createMonitor (fun _ _ => True) stage program

variable {p p' : Pool AlbumDb ι CreateOp.Answer}

theorem handed_once (hp : Reachable (PoolStep createMachine) (PoolInitial AlbumInitial) p) :
    (handedCreates p.log).Nodup ∧ ∀ c ∈ handedCreates p.log, createMarked p.store c := by
  obtain ⟨w, hw, hwatches⟩ := watched createMachine_follows hp
  have honce := createGrants.once hw
  rw [hwatches.log, hwatches.store] at honce
  exact ⟨honce.nodup, honce.marked_handed⟩

/-- Two marked claims of one binding are one claim. -/
theorem createMarked.unique {db : AlbumDb} (h : PhotosetsSourced db)
    {c c' : AlbumMaterializationClaim} (hc : createMarked db c) (hc' : createMarked db c')
    (hbinding : c.bindingId = c'.bindingId) : c = c' := by
  obtain ⟨a, ha, rfl, hmarked⟩ := hc
  obtain ⟨a', ha', rfl, hmarked'⟩ := hc'
  rw [h.once a (Table.mem_of_find? ha) a' (Table.mem_of_find? ha') hbinding hmarked hmarked']

/-- At most one create is handed off for an album.  Once an attempt of the album is marked no
other create of it is, and when nobody holds its hand-off any more none is handed off at all.
The photoset of an album is the one a worker read the proof of, after its create, or the one an
accepted repair selected, and it never changes. -/
theorem album_created_once
    (hp : Reachable (PoolStep createMachine) (PoolInitial AlbumInitial) p) :
    ((handedCreates p.log).map AlbumMaterializationClaim.bindingId).Nodup ∧
    (∀ c ∈ handedCreates p.log, createMarked p.store c) ∧
    (∀ b ∈ p.store.bindings, ∀ photosetId ∈ b.flickrPhotosetId,
      (∃ a ∈ p.store.materializations, a.bindingId = b.bindingId ∧
        a.phase.verifiedPhotoset? = some photosetId ∧
        ∃ proof, proof.photosetId = photosetId ∧ createProven p.log a.claim proof) ∨
      ∃ r ∈ p.store.repairReceipts.find? b.bindingId, r.selectedPhotosetId = photosetId) ∧
    ∀ (p' : Pool AlbumDb ι CreateOp.Answer)
      (trace : List (Move (Pool AlbumDb ι CreateOp.Answer) (Act ι CreateOp.Answer))),
      Run (PoolStep createMachine) p trace p' →
      (∀ claim, createMarked p.store claim →
        (∀ c ∈ handedCreates p'.log, c.bindingId = claim.bindingId → c = claim) ∧
        ((∀ i, dropped claim (p.programs i)) →
          claim ∈ handedCreates p'.log → claim ∈ handedCreates p.log)) ∧
      ∀ b ∈ p.store.bindings, ∃ b' ∈ p'.store.bindings.find? b.bindingId,
        b.flickrPhotosetId ≠ none → b'.flickrPhotosetId = b.flickrPhotosetId := by
  have hsourced : ∀ {p : Pool AlbumDb ι CreateOp.Answer},
      Reachable (PoolStep createMachine) (PoolInitial AlbumInitial) p →
        PhotosetsSourced p.store := by
    intro p hp
    exact albumMachine_create.invariant PhotosetsSourced PhotosetsSourced.empty
      (fun _ _ _ => PhotosetsSourced.write) hp
  obtain ⟨hnodup, hmarked⟩ := handed_once hp
  refine ⟨?_, hmarked, ?_, ?_⟩
  · apply List.Nodup.map_on _ hnodup
    intro c hc c' hc' hbinding
    exact (hmarked c hc).unique (hsourced hp) (hmarked c' hc') hbinding
  · intro b hb photosetId hphotoset
    apply ((hsourced hp).sourced b hb photosetId hphotoset).imp _ id
    rintro ⟨a, ha, hbinding, hverified⟩
    obtain ⟨w, hw, hwatches⟩ := watched createMachine_follows hp
    have hproven := creates_proven hw
    rw [hwatches.store, hwatches.log] at hproven
    exact ⟨a, ha, hbinding, hverified, hproven a ha photosetId hverified⟩
  · intro p' trace hrun
    have hkept : PhotosetsKept p.store p'.store :=
      albumMachine_create.relates (fun _ _ _ => PhotosetsKept.write) hrun
    constructor
    · intro claim hclaim
      constructor
      · intro c hc hbinding
        exact ((handed_once (hp.run hrun)).2 c hc).unique (hsourced (hp.run hrun))
          (hclaim.kept hkept) hbinding
      · intro hdropped
        choose stage hheld hfollows using hdropped
        have hwatches : Watches createMonitor p
            (⟨p.store, stage, p.late, p.log⟩ : Watch AlbumDb ι CreateStage CreateOp.Answer) :=
          ⟨rfl, rfl, rfl, hfollows⟩
        obtain ⟨w', watchedRun, hwatched, hw'⟩ := hwatches.run createMachine_follows hrun
        obtain ⟨_, _, hlog⟩ := createGrants.closed_run hwatched hclaim hheld
        rw [hw'.log] at hlog
        exact hlog
    · intro b hb
      obtain ⟨b', hb', hrow⟩ := hkept.bindings b.bindingId b (Table.find?_of_mem hb)
      exact ⟨b', hb', hrow.photoset⟩

namespace AlbumSample

def photosetUrl : NavigationUrl := ⟨"https://www.flickr.com/photos/owner-1/sets/photoset-7"⟩
def photoset : Token := ⟨"photoset-7", Eq.refl true⟩

/-- What a batch of the sample answers a worker. -/
def answered {ε α : Type} (batch : Batch α) : Option (Except ε α × AlbumDb) :=
  batch.map fun (db, answer) => (.ok answer, db)

/-- Flickr creates the photoset, and every batch finds the sample world. -/
def createOracle (db : AlbumDb) : (o : CreateOp) → Option (o.Answer × AlbumDb)
  | .monotonicMs => some (0, db)
  | .claim bindingId =>
      answered (claimAlbumMaterialization world ⟨5, 5, 5⟩ db bindingId createAttempt createLease)
  | .current c us => some (.ok (decide (currentAlbumMaterialization ⟨world, 6⟩ db c us)), db)
  | .transport _ | .prepareCreate _ => some (.ok (), db)
  | .contexts _ => some (.ok [], db)
  | .mark c ids => answered (markAlbumCreateDispatch ⟨world, 7⟩ db c ids)
  | .handoff _ => some (.ok ⟨photoset, photosetUrl⟩, db)
  | .record c result =>
      answered (recordAlbumCreateResult ⟨world, 8⟩ db c result.photosetId result.url)
  | .verify c photosetId =>
      some (.ok ⟨photosetId, photosetUrl, c.ownerNsid, c.photoId, [photosetId]⟩, db)
  | .finish c proof => answered (finishAlbumMaterialization ⟨world, 9⟩ db c proof)
  | .fail c => answered (failAlbumMaterializationBeforeDispatch ⟨world, 9⟩ db c)
  | .unknown c => answered (unknownAlbumMaterialization ⟨world, 9⟩ db c)
  | .reject c code => answered (rejectAlbumMaterialization ⟨world, 9⟩ db c code)

theorem batchServed_answered {ε α : Type} {db db' : AlbumDb} {batch : Batch α}
    {answer : Except ε α} (h : answered batch = some (answer, db')) :
    batchServed db batch answer db' := by
  obtain ⟨⟨after, result⟩, hbatch, h⟩ := Option.map_eq_some_iff.mp h
  cases h
  exact hbatch

theorem createOracle_serve (db : AlbumDb) (o : CreateOp) (answer : o.Answer) (db' : AlbumDb)
    (h : createOracle db o = some (answer, db')) : createMachine.serve db o answer db' := by
  cases o with
  | claim bindingId => exact ⟨_, _, _, _, batchServed_answered h⟩
  | current c us =>
      cases h
      refine ⟨rfl, ⟨world, 6⟩, ?_⟩
      intro isCurrent hanswer
      exact (Except.ok.inj hanswer).symm
  | mark | record | finish | fail | unknown | reject => exact ⟨_, batchServed_answered h⟩
  | _ =>
      cases h
      rfl

/-- The tables of the sample once a worker created its album. -/
def createPool (db : AlbumDb) : Pool AlbumDb Unit CreateOp.Answer :=
  ((Pool.idle db).startAt ()
    (consumeAlbumMaterialization true album >>= fun _ => pure ())).play createOracle () 100

end AlbumSample

/-- One worker creates the album of the sample. -/
theorem album_created_once_sample : ∃ p : Pool AlbumDb Unit CreateOp.Answer,
    Reachable (PoolStep createMachine) (PoolInitial AlbumInitial) p ∧
    handedCreates p.log = [AlbumSample.createClaim] ∧
    (∃ b ∈ p.store.bindings, b.flickrPhotosetId = some AlbumSample.photoset) ∧
    ((handedCreates p.log).map AlbumMaterializationClaim.bindingId).Nodup := by
  have hsome : (execAll AlbumMove.exec emptyAlbumDb AlbumSample.calls).isSome = true := by
    decide +kernel
  obtain ⟨db, hdb⟩ := Option.isSome_iff_exists.mp hsome
  have hfacts : ∀ db ∈ execAll AlbumMove.exec emptyAlbumDb AlbumSample.calls,
      handedCreates (AlbumSample.createPool db).log = [AlbumSample.createClaim] ∧
      ∃ b ∈ (AlbumSample.createPool db).store.bindings,
        b.flickrPhotosetId = some AlbumSample.photoset := by
    decide +kernel
  have hother : ∀ move ∈ AlbumSample.calls, move.call.part ≠ some .creates := by decide
  have hprogram : createMachine.program
      (consumeAlbumMaterialization true AlbumSample.album >>= fun _ => pure ()) :=
    ⟨true, AlbumSample.album, rfl⟩
  have hidle : Reachable (PoolStep createMachine) (PoolInitial AlbumInitial)
      (Pool.idle db : Pool AlbumDb Unit CreateOp.Answer) :=
    reachable_calls rfl hother hdb
  have hreachable : Reachable (PoolStep createMachine) (PoolInitial AlbumInitial)
      (AlbumSample.createPool db) :=
    reachable_play hidle hprogram AlbumSample.createOracle_serve () 100
  obtain ⟨hhanded, hphotoset⟩ := hfacts db hdb
  exact ⟨_, hreachable, hhanded, hphotoset, (album_created_once hreachable).1⟩

end FlickrGroupAddr

import FlickrGroupAddr.LeaseFencing
import FlickrGroupAddr.SubmissionBlocks

/-!
# What an event does to the attempts

The attempts, their phases and their resolutions are only added to: by a begin, a record and a
resolution, each under its guard.  The last resolution of an intent is the only terminal one.
-/

namespace FlickrGroupAddr

set_option autoImplicit false

open KeyedTable Transition Relation

/-! ## Inversion -/

/-- The tables of the attempts are the same. -/
structure AttemptsKept (q q' : QueueTables) : Prop where
  attempts : q'.attempts = q.attempts
  memberships : q'.memberships = q.memberships
  preflights : q'.preflights = q.preflights
  dispatches : q'.dispatches = q.dispatches
  resolutions : q'.resolutions = q.resolutions

namespace AttemptsKept

theorem refl (q : QueueTables) : AttemptsKept q q := ⟨rfl, rfl, rfl, rfl, rfl⟩

theorem trans {q q' q'' : QueueTables} (h : AttemptsKept q q') (h' : AttemptsKept q' q'') :
    AttemptsKept q q'' :=
  ⟨h'.attempts.trans h.attempts, h'.memberships.trans h.memberships,
    h'.preflights.trans h.preflights, h'.dispatches.trans h.dispatches,
    h'.resolutions.trans h.resolutions⟩

end AttemptsKept

/-- What an event did to the attempts. -/
inductive AttemptMove (db : Db) (event : QueueEvent) (db' : Db) : Prop
  | kept (hkept : AttemptsKept db.queue db'.queue)
  | begun {lease : Lease} {attemptId : Token} {guardNow updateNow : ClockReading}
      {revisions : Revisions}
      (hevent : event = .commit (.begin lease attemptId guardNow updateNow))
      (hguard : beginGuard db lease guardNow.us)
      (hrow : db.queue.attempts.insert? (newAttempt db.queue lease attemptId revisions) =
        some db'.queue.attempts)
      (hrest : AttemptsKept { db.queue with attempts := db'.queue.attempts } db'.queue)
  | recorded {lease : Lease} {attemptId : Token} {kind : RecordKind}
      {guardNow updateNow : ClockReading}
      (hevent : event = .commit (.record lease attemptId kind guardNow updateNow))
      (hguard : recordGuard db lease attemptId kind guardNow.us)
      (hwrite : db.queue.recordPhase lease attemptId kind updateNow.us = some db'.queue)
  | resolved {lease : Lease} {attemptId : Token} {site : ResolutionSite}
      {artifact : Option String} {counts : FailureCounts} {retryDelay : Int → Option Int}
      {clock : ResolutionClock} {delay : Int}
      (hevent : event = .commit (.resolve lease attemptId site artifact counts retryDelay clock))
      (hguard : resolveGuard db.queue lease attemptId)
      (heffect : ResolveEffect db.queue lease attemptId (site.resolution artifact) delay clock
        db'.queue)

theorem AdmissionStep.attemptsKept {q q' : QueueTables} (h : AdmissionStep q q') :
    AttemptsKept q q' := by
  cases h with
  | addPartition => exact ⟨rfl, rfl, rfl, rfl, rfl⟩
  | enqueue => exact ⟨rfl, rfl, rfl, rfl, rfl⟩

theorem AdmissionStep.attemptsKept_steps {q q' : QueueTables}
    (h : ReflTransGen AdmissionStep q q') : AttemptsKept q q' := by
  induction h with
  | refl => exact AttemptsKept.refl q
  | tail _ hlast ih => exact ih.trans hlast.attemptsKept

/-- Every event is one of these. -/
theorem QueueEventStep.attemptMove {db db' : Db} {event : QueueEvent}
    (h : QueueEventStep db event db') : AttemptMove db event db' := by
  cases h with
  | refuse => exact .kept (AttemptsKept.refl _)
  | outside hsame =>
      apply AttemptMove.kept
      rw [hsame]
      exact AttemptsKept.refl _
  | @commit _ call hexec =>
      cases call with
      | admitRequest =>
          obtain ⟨_, hadmission, rfl⟩ := Option.map_eq_some_iff.mp hexec
          exact .kept (AdmissionStep.attemptsKept_steps (admitRequest_steps hadmission).1)
      | claim =>
          obtain ⟨_, hclaim, rfl⟩ := Option.map_eq_some_iff.mp hexec
          rw [(claimPartition_effect hclaim).1]
          exact .kept ⟨rfl, rfl, rfl, rfl, rfl⟩
      | renew =>
          obtain ⟨_, _, _, rfl⟩ := renewLease_effect hexec
          exact .kept ⟨rfl, rfl, rfl, rfl, rfl⟩
      | release =>
          obtain ⟨_, rfl⟩ := releaseLease_effect hexec
          exact .kept ⟨rfl, rfl, rfl, rfl, rfl⟩
      | defer =>
          obtain ⟨_, _, _, rfl⟩ := deferHead_effect hexec
          exact .kept ⟨rfl, rfl, rfl, rfl, rfl⟩
      | begin =>
          obtain ⟨hguard, revisions, q, _, hwrite, rfl⟩ := begin_effect hexec
          obtain ⟨attempts, hinsert, rfl⟩ := Option.map_eq_some_iff.mp hwrite
          exact .begun rfl hguard hinsert ⟨rfl, rfl, rfl, rfl, rfl⟩
      | record =>
          obtain ⟨hguard, q, hwrite, rfl⟩ := record_effect hexec
          exact .recorded rfl hguard hwrite
      | resolve =>
          obtain ⟨hguard, delay, q, _, _, hwrite, rfl⟩ := resolveAttempt_effect hexec
          exact .resolved rfl hguard (QueueTables.resolve_effect hwrite)

/-- The one row that a record inserts. -/
def PhaseRows (q q' : QueueTables) (attemptId : Token) : RecordKind → Prop
  | .membership targetAbsent =>
      q.memberships.insert? ⟨attemptId, targetAbsent⟩ = some q'.memberships ∧
        q'.preflights = q.preflights ∧ q'.dispatches = q.dispatches
  | .preflight moderated =>
      q.preflights.insert? ⟨attemptId, moderated⟩ = some q'.preflights ∧
        q'.memberships = q.memberships ∧ q'.dispatches = q.dispatches
  | .marker _ =>
      q.dispatches.insert? ⟨attemptId⟩ = some q'.dispatches ∧
        q'.memberships = q.memberships ∧ q'.preflights = q.preflights

/-- A record inserts one phase row and touches no other table of the attempts. -/
theorem QueueTables.recordPhase_rows {q q' : QueueTables} {lease : Lease} {attemptId : Token}
    {kind : RecordKind} {now : Us} (h : q.recordPhase lease attemptId kind now = some q') :
    q'.attempts = q.attempts ∧ q'.resolutions = q.resolutions ∧
      PhaseRows q q' attemptId kind := by
  cases kind with
  | membership =>
      obtain ⟨_, hinsert, rfl⟩ := Option.map_eq_some_iff.mp h
      exact ⟨rfl, rfl, hinsert, rfl, rfl⟩
  | preflight =>
      obtain ⟨_, hinsert, rfl⟩ := Option.map_eq_some_iff.mp h
      exact ⟨rfl, rfl, hinsert, rfl, rfl⟩
  | marker =>
      obtain ⟨_, hinsert, rfl⟩ := Option.map_eq_some_iff.mp h
      exact ⟨rfl, rfl, hinsert, rfl, rfl⟩

/-! ## What every event keeps -/

section Kept

variable {db db' : Db} {event : QueueEvent}

/-- The rows of a table stay as they are. -/
def Table.Grows {ρ κ : Type} [DecidableEq κ] {key : ρ → κ} (table table' : Table key) : Prop :=
  ∀ k row, table.find? k = some row → table'.find? k = some row

theorem Table.Grows.of_eq {ρ κ : Type} [DecidableEq κ] {key : ρ → κ} {table table' : Table key}
    (h : table' = table) : Table.Grows table table' := by
  subst h
  exact fun _ _ => id

theorem Table.Grows.insert {ρ κ : Type} [DecidableEq κ] {key : ρ → κ} {table table' : Table key}
    {row : ρ} (h : table.insert? row = some table') : Table.Grows table table' := by
  intro k old hold
  have hkept : Table.Kept Eq table table' := Table.kept_insert? h
  obtain ⟨_, hfind, rfl⟩ := hkept k old hold
  exact hfind

/-- The rows of the attempts and of their phases stay as they are. -/
structure RowsKept (q q' : QueueTables) : Prop where
  attempt : Table.Grows q.attempts q'.attempts
  membership : Table.Grows q.memberships q'.memberships
  preflight : Table.Grows q.preflights q'.preflights
  dispatch : Table.Grows q.dispatches q'.dispatches
  resolution : Table.Grows q.resolutions q'.resolutions

theorem RowsKept.marked {q q' : QueueTables} (h : RowsKept q q') {attemptId : Token}
    (hmarked : q.marked attemptId = true) : q'.marked attemptId = true := by
  obtain ⟨row, hrow⟩ := Option.isSome_iff_exists.mp hmarked
  exact Option.isSome_iff_exists.mpr ⟨row, h.dispatch _ _ hrow⟩

theorem AttemptMove.rowsKept (h : AttemptMove db event db') :
    RowsKept db.queue db'.queue := by
  cases h with
  | kept hkept =>
      exact ⟨.of_eq hkept.attempts, .of_eq hkept.memberships, .of_eq hkept.preflights,
        .of_eq hkept.dispatches, .of_eq hkept.resolutions⟩
  | begun _ _ hrow hrest =>
      exact ⟨.insert hrow, .of_eq hrest.memberships, .of_eq hrest.preflights,
        .of_eq hrest.dispatches, .of_eq hrest.resolutions⟩
  | @recorded _ _ kind _ _ _ _ hwrite =>
      obtain ⟨ha, hr, hphase⟩ := QueueTables.recordPhase_rows hwrite
      cases kind with
      | membership =>
          exact ⟨.of_eq ha, .insert hphase.1, .of_eq hphase.2.1, .of_eq hphase.2.2, .of_eq hr⟩
      | preflight =>
          exact ⟨.of_eq ha, .of_eq hphase.2.1, .insert hphase.1, .of_eq hphase.2.2, .of_eq hr⟩
      | marker =>
          exact ⟨.of_eq ha, .of_eq hphase.2.1, .of_eq hphase.2.2, .insert hphase.1, .of_eq hr⟩
  | resolved _ _ heffect =>
      exact ⟨.of_eq heffect.attempts, .of_eq heffect.memberships, .of_eq heffect.preflights,
        .of_eq heffect.dispatches, .insert heffect.resolutions⟩

/-- A marker is new only through a record of it. -/
theorem AttemptMove.marker_new (h : AttemptMove db event db') {attemptId : Token}
    (hbefore : db.queue.marked attemptId = false) (hafter : db'.queue.marked attemptId = true) :
    ∃ lease reservationId guardNow updateNow,
      event = .commit (.record lease attemptId (.marker reservationId) guardNow updateNow) ∧
        recordGuard db lease attemptId (.marker reservationId) guardNow.us := by
  have hsame : db'.queue.dispatches = db.queue.dispatches → False := by
    intro hsame
    rw [QueueTables.marked, hsame] at hafter
    exact Bool.false_ne_true (hbefore.symm.trans hafter)
  cases h with
  | kept hkept => exact absurd hkept.dispatches hsame
  | begun _ _ _ hrest => exact absurd hrest.dispatches hsame
  | @recorded lease other kind guardNow updateNow hevent hguard hwrite =>
      obtain ⟨_, _, hphase⟩ := QueueTables.recordPhase_rows hwrite
      cases kind with
      | membership => exact absurd hphase.2.2 hsame
      | preflight => exact absurd hphase.2.2 hsame
      | marker reservationId =>
          have hother : attemptId = other := by
            by_contra hne
            rw [QueueTables.marked, Table.find?_insert? hphase.1, if_neg hne] at hafter
            exact Bool.false_ne_true (hbefore.symm.trans hafter)
          subst hother
          exact ⟨lease, reservationId, guardNow, updateNow, hevent, hguard⟩
  | resolved _ _ heffect => exact absurd heffect.dispatches hsame

/-- An attempt row is new only through a begin. -/
theorem AttemptMove.attempt_new (h : AttemptMove db event db') {row : SubmissionAttempt}
    (hbefore : row ∉ db.queue.attempts) (hafter : row ∈ db'.queue.attempts) :
    ∃ lease attemptId guardNow updateNow revisions,
      event = .commit (.begin lease attemptId guardNow updateNow) ∧
        beginGuard db lease guardNow.us ∧
        row = newAttempt db.queue lease attemptId revisions := by
  cases h with
  | kept hkept =>
      rw [hkept.attempts] at hafter
      exact absurd hafter hbefore
  | @begun lease attemptId guardNow updateNow revisions hevent hguard hrow hrest =>
      refine ⟨lease, attemptId, guardNow, updateNow, revisions, hevent, hguard, ?_⟩
      exact ((Table.mem_insert? hrow).mp hafter).resolve_left hbefore
  | recorded _ _ hwrite =>
      rw [(QueueTables.recordPhase_rows hwrite).1] at hafter
      exact absurd hafter hbefore
  | resolved _ _ heffect =>
      rw [heffect.attempts] at hafter
      exact absurd hafter hbefore

/-- A resolution row is new only through a resolution. -/
theorem AttemptMove.resolution_new (h : AttemptMove db event db') {row : AttemptResolution}
    (hbefore : row ∉ db.queue.resolutions) (hafter : row ∈ db'.queue.resolutions) :
    ∃ lease attemptId site artifact counts retryDelay clock,
      event = .commit (.resolve lease attemptId site artifact counts retryDelay clock) ∧
        resolveGuard db.queue lease attemptId ∧ row.attemptId = attemptId ∧
        row.outcome = (site.resolution artifact).outcome ∧
        row.reason = (site.resolution artifact).reason := by
  cases h with
  | kept hkept =>
      rw [hkept.resolutions] at hafter
      exact absurd hafter hbefore
  | begun _ _ _ hrest =>
      rw [hrest.resolutions] at hafter
      exact absurd hafter hbefore
  | recorded _ _ hwrite =>
      rw [(QueueTables.recordPhase_rows hwrite).2.1] at hafter
      exact absurd hafter hbefore
  | @resolved lease attemptId site artifact counts retryDelay clock _ hevent hguard heffect =>
      have hrow := ((Table.mem_insert? heffect.resolutions).mp hafter).resolve_left hbefore
      exact ⟨lease, attemptId, site, artifact, counts, retryDelay, clock, hevent, hguard,
        by rw [hrow], by rw [hrow], by rw [hrow]⟩

/-- An intent keeps who it is. -/
theorem QueueStep.intent_kept {q q' : QueueTables} (h : QueueStep q q') {k : Token}
    {intent : SubmissionIntent} (hfind : q.intents.find? k = some intent) :
    ∃ intent', q'.intents.find? k = some intent' ∧ intent'.identity = intent.identity := by
  rcases h.sameIdentities_or_insert with hsame | ⟨_, _, _, _, _, _, rfl⟩ |
    ⟨_, _, _, _, _, _, _, _, hinsert, rfl⟩
  · have hmap := hsame.intents k
    rw [hfind] at hmap
    exact Option.map_eq_some_iff.mp hmap
  · exact ⟨intent, hfind, rfl⟩
  · exact ⟨intent, Table.Grows.insert hinsert _ _ hfind, rfl⟩

theorem QueueEventStep.intent_kept (h : QueueEventStep db event db') {k : Token}
    {intent : SubmissionIntent} (hfind : db.queue.intents.find? k = some intent) :
    ∃ intent', db'.queue.intents.find? k = some intent' ∧
      intent'.identity = intent.identity := by
  have hsteps := h.steps
  generalize db'.queue = q' at hsteps
  induction hsteps with
  | refl => exact ⟨intent, hfind, rfl⟩
  | tail _ hlast ih =>
      obtain ⟨middle, hmiddle, hsame⟩ := ih
      obtain ⟨last, hlast, hlater⟩ := hlast.intent_kept hmiddle
      exact ⟨last, hlast, hlater.trans hsame⟩

theorem QueueEventStep.generation_le (h : QueueEventStep db event db') (k : Token) :
    generationOf db.queue k ≤ generationOf db'.queue k := by
  rcases h.generation k with ⟨_, hgeneration⟩ | hgeneration <;> omega

end Kept

/-! ## Final resolutions -/

/-- The attempt of an intent has a resolution that takes the intent out of its queue. -/
def QueueTables.finished (q : QueueTables) (intentId attemptId : Token) : Prop :=
  ∃ row ∈ q.attempts.find? attemptId, ∃ resolution ∈ q.resolutions.find? attemptId,
    row.intentId = intentId ∧ resolution.outcome.state.active = false

/-- A final resolution is the last one of its intent. -/
structure FinalAgreement (q : QueueTables) : Prop where
  closed : ∀ intentId attemptId, q.finished intentId attemptId →
    ∃ intent ∈ q.intents, intent.intentId = intentId ∧ intent.state.active = false
  single : ∀ intentId left right, q.finished intentId left → q.finished intentId right →
    left = right

namespace FinalAgreement

variable {db db' : Db} {event : QueueEvent}

theorem initially : FinalAgreement emptyDb.queue := by
  refine ⟨?_, ?_⟩
  · rintro intentId attemptId ⟨row, hrow, _⟩
    cases hrow
  · rintro intentId left right ⟨row, hrow, _⟩
    cases hrow

/-- What is finished was so before, or the event is a final resolution of it. -/
theorem finished_cases (hq : AttemptAgreement db.queue) (hmove : AttemptMove db event db')
    {intentId attemptId : Token} (h : db'.queue.finished intentId attemptId) :
    db.queue.finished intentId attemptId ∨
      ∃ lease r delay clock, resolveGuard db.queue lease attemptId ∧
        ResolveEffect db.queue lease attemptId r delay clock db'.queue ∧
        lease.headId = intentId ∧ r.outcome.state.active = false := by
  obtain ⟨row, hrow, resolution, hresolution, hintent, hfinal⟩ := h
  have hold : resolution ∈ db.queue.resolutions → db.queue.finished intentId attemptId := by
    intro hmem
    have hkey : resolution.attemptId = attemptId := Table.key_of_find? hresolution
    obtain ⟨old, hattempt, hid⟩ := hq.attemptKnown resolution hmem
    have hfind := Table.find?_of_mem hattempt
    rw [hid, hkey] at hfind
    have hsame := hmove.rowsKept.attempt _ _ hfind
    cases hrow.symm.trans hsame
    refine ⟨row, hfind, resolution, ?_, hintent, hfinal⟩
    rw [← hkey]
    exact Table.find?_of_mem hmem
  cases hmove with
  | kept hkept =>
      rw [hkept.resolutions] at hresolution
      exact Or.inl (hold (Table.mem_of_find? hresolution))
  | begun _ _ _ hrest =>
      rw [hrest.resolutions] at hresolution
      exact Or.inl (hold (Table.mem_of_find? hresolution))
  | recorded _ _ hwrite =>
      rw [(QueueTables.recordPhase_rows hwrite).2.1] at hresolution
      exact Or.inl (hold (Table.mem_of_find? hresolution))
  | @resolved lease other site artifact _ _ clock delay _ hguard heffect =>
      have hfind := Table.find?_insert? heffect.resolutions attemptId
      split at hfind
      · next hid =>
          right
          subst hid
          obtain ⟨attempt, hattempt, hhead⟩ := hguard.2.1
          rw [heffect.attempts] at hrow
          cases hrow.symm.trans hattempt
          cases hresolution.symm.trans hfind
          exact ⟨lease, _, delay, clock, hguard, heffect, hhead.symm.trans hintent, hfinal⟩
      · exact Or.inl (hold (Table.mem_of_find? (hfind.symm.trans hresolution)))

theorem step (h : FinalAgreement db.queue) (hq : QueueInvariant db.queue)
    (hstep : QueueEventStep db event db') : FinalAgreement db'.queue := by
  have hcases := fun intentId attemptId =>
    @finished_cases db db' event hq.attempts hstep.attemptMove intentId attemptId
  -- a final resolution finds its intent at the head, so nothing finished it before
  have hnew : ∀ lease attemptId old, resolveGuard db.queue lease attemptId →
      ¬ db.queue.finished lease.headId old := by
    intro lease attemptId old hguard hfinished
    obtain ⟨intent, hmem, hid, hinactive⟩ := h.closed _ _ hfinished
    obtain ⟨head, hhead, hheadId, _⟩ := hguard.1.head
    have hisHead := QueueTables.isHead_of_headIntent hhead
    have hsame := Table.eq_of_key_eq hmem hisHead.mem (hid.trans hheadId.symm)
    rw [hsame, hisHead.active] at hinactive
    cases hinactive
  refine ⟨?_, ?_⟩
  · intro intentId attemptId hfinished
    rcases hcases _ _ hfinished with hbefore |
      ⟨lease, r, delay, clock, hguard, heffect, rfl, hfinal⟩
    · obtain ⟨intent, hmem, hid, hinactive⟩ := h.closed _ _ hbefore
      exact ⟨intent, QueueStep.terminal_kept_steps hq hstep.steps hmem hinactive, hid, hinactive⟩
    · obtain ⟨head, hu, hfind⟩ := heffect.headUpdate hguard.1
      exact ⟨_, hu.head'_mem, hu.intentId.trans (Table.key_of_find? hfind), hfinal⟩
  · intro intentId left right hleft hright
    rcases hcases _ _ hleft with hleft | ⟨lease, r, delay, clock, hguard, heffect, rfl, _⟩
    · rcases hcases _ _ hright with hright | ⟨lease, r, delay, clock, hguard, _, rfl, _⟩
      · exact h.single _ _ _ hleft hright
      · exact absurd hleft (hnew _ _ _ hguard)
    · rcases hcases _ _ hright with hright | ⟨lease', _, _, _, hguard', heffect', _, _⟩
      · exact absurd hright (hnew _ _ _ hguard)
      · -- one event resolves one attempt
        by_contra hne
        have hunresolved : db'.queue.resolutions.find? left = none := by
          rw [Table.find?_insert? heffect'.resolutions, if_neg hne]
          exact hguard.2.2
        rw [Table.find?_insert? heffect.resolutions, if_pos rfl] at hunresolved
        cases hunresolved

end FinalAgreement

theorem QueueReachable.finalAgreement {db : Db} (h : QueueReachable db) :
    FinalAgreement db.queue := by
  have hall : QueueInvariant db.queue ∧ FinalAgreement db.queue := by
    apply Reachable.invariant h
    · rintro _ rfl
      exact ⟨QueueInvariant.initially, FinalAgreement.initially⟩
    · rintro before event after ⟨hq, hfinal⟩ hstep
      exact ⟨hq.steps hstep.steps, hfinal.step hq hstep⟩
  exact hall.2

end FlickrGroupAddr

import FlickrGroupAddr.Coordination

/-!
# Attempt counters

An intent counts the attempts whose POST may have been sent: a dispatch marker adds
one, and a resolution that proves the POST was not sent takes it back.  The counter
and the ordinals of the attempts are what the attempt tables say.
-/

namespace FlickrGroupAddr

set_option autoImplicit false

open KeyedTable Transition Relation

variable {q q' : QueueTables}

/-! ## What the attempt tables say -/

/-- The resolution proves that the POST was not sent. -/
def AttemptResolution.notDispatched (resolution : AttemptResolution) : Bool :=
  resolution.reason = "not_dispatched_preflight_expired" ||
    resolution.reason = "not_dispatched_transport_aborted"

namespace QueueTables

/-- The attempts of an intent, in the order they were begun. -/
def attemptsOf (q : QueueTables) (intentId : Token) : List SubmissionAttempt :=
  q.attempts.rows.filter fun attempt => attempt.intentId = intentId

/-- The attempt has a marker and no resolution that takes it back. -/
def dispatched (q : QueueTables) (attempt : SubmissionAttempt) : Bool :=
  q.marked attempt.attemptId &&
    !(q.resolutions.find? attempt.attemptId).any AttemptResolution.notDispatched

/-- The attempts of an intent whose POST may have been sent. -/
def dispatchedCount (q : QueueTables) (intentId : Token) : Nat :=
  (q.attemptsOf intentId).countP q.dispatched

/-- The attempts of an intent that are not resolved. -/
def openCount (q : QueueTables) (intentId : Token) : Nat :=
  (q.attemptsOf intentId).countP fun attempt => decide (q.unresolved attempt.attemptId)

theorem mem_attemptsOf {attempt : SubmissionAttempt} {intentId : Token} :
    attempt ∈ q.attemptsOf intentId ↔ attempt ∈ q.attempts ∧ attempt.intentId = intentId := by
  simp [attemptsOf, Table.mem_def]

theorem dispatchedCount_eq (q : QueueTables) (intentId : Token) :
    q.dispatchedCount intentId = q.attempts.rows.countP fun attempt =>
      q.dispatched attempt && decide (attempt.intentId = intentId) := by
  simp only [dispatchedCount, attemptsOf, List.countP_filter]

end QueueTables

/-! ## Agreement -/

/-- Counters and ordinals agree with the attempts, and markers are those of attempts. -/
structure CounterAgreement (q : QueueTables) : Prop where
  counts : ∀ intent ∈ q.intents, intent.addDispatchCount = q.dispatchedCount intent.intentId
  ordinals : ∀ intentId, ((q.attemptsOf intentId).map SubmissionAttempt.ordinal).Perm
    (List.range' 1 (q.attemptsOf intentId).length)
  markerKnown : ∀ dispatch ∈ q.dispatches,
    ∃ attempt ∈ q.attempts, attempt.attemptId = dispatch.attemptId

namespace CounterAgreement

theorem initially : CounterAgreement emptyDb.queue := by
  refine ⟨?_, ?_, ?_⟩
  · intro intent hmem
    exact absurd hmem (Table.not_mem_empty intent)
  · intro intentId
    exact List.Perm.refl _
  · intro dispatch hmem
    exact absurd hmem (Table.not_mem_empty dispatch)

/-- Steps that leave the attempt tables and every counter alone. -/
theorem of_counters (h : CounterAgreement q) (ha : q'.attempts = q.attempts)
    (hd : q'.dispatches = q.dispatches) (hr : q'.resolutions = q.resolutions)
    (hcounts : ∀ intent ∈ q'.intents, intent.addDispatchCount = q.dispatchedCount intent.intentId) :
    CounterAgreement q' := by
  have hsame : ∀ intentId, q'.dispatchedCount intentId = q.dispatchedCount intentId := by
    intro intentId
    simp only [QueueTables.dispatchedCount, QueueTables.attemptsOf, ha]
    congr 1
    funext attempt
    simp only [QueueTables.dispatched, QueueTables.marked, hd, hr]
  refine ⟨?_, ?_, ?_⟩
  · intro intent hmem
    rw [hsame]
    exact hcounts intent hmem
  · intro intentId
    simp only [QueueTables.attemptsOf, ha]
    exact h.ordinals intentId
  · rw [hd, ha]
    exact h.markerKnown

theorem congr (h : CounterAgreement q) (ha : q'.attempts = q.attempts)
    (hd : q'.dispatches = q.dispatches) (hr : q'.resolutions = q.resolutions)
    (hi : q'.intents = q.intents) : CounterAgreement q' := by
  refine h.of_counters ha hd hr ?_
  rw [hi]
  exact h.counts

/-- An update of the head that leaves its counter alone. -/
theorem of_headUpdate (h : CounterAgreement q) {partitionId : Token}
    {head head' : SubmissionIntent} (hu : HeadUpdate q q' partitionId head head')
    (ha : q'.attempts = q.attempts) (hd : q'.dispatches = q.dispatches)
    (hr : q'.resolutions = q.resolutions)
    (hcount : head'.addDispatchCount = head.addDispatchCount) : CounterAgreement q' := by
  refine h.of_counters ha hd hr ?_
  intro intent hmem
  rcases hu.mem_iff.mp hmem with rfl | ⟨hold, _⟩
  · rw [hcount, hu.intentId]
    exact h.counts head hu.head_mem
  · exact h.counts intent hold

/-- One attempt of the head changed its test, and the counter of the head moved along. -/
theorem of_attempt (h : CounterAgreement q) {partitionId : Token} {head head' : SubmissionIntent}
    (hu : HeadUpdate q q' partitionId head head') (ha : q'.attempts = q.attempts)
    {attempt : SubmissionAttempt} (hattempt : attempt ∈ q.attempts)
    (hhead : attempt.intentId = head.intentId)
    (hothers : ∀ other ∈ q.attempts, other.attemptId ≠ attempt.attemptId →
      q'.dispatched other = q.dispatched other)
    (hcount : head'.addDispatchCount + (if q.dispatched attempt then 1 else 0) =
      head.addDispatchCount + if q'.dispatched attempt then 1 else 0)
    (hmarkers : ∀ dispatch ∈ q'.dispatches,
      ∃ attempt ∈ q.attempts, attempt.attemptId = dispatch.attemptId) : CounterAgreement q' := by
  refine ⟨?_, ?_, ?_⟩
  · intro intent hmem
    rcases hu.mem_iff.mp hmem with rfl | ⟨hold, hid⟩
    · have hmoved := Table.countP_test hattempt
        (p := fun other => q.dispatched other && decide (other.intentId = head.intentId))
        (q := fun other => q'.dispatched other && decide (other.intentId = head.intentId))
        (fun other hother hne => by rw [hothers other hother hne])
      have hold := h.counts head hu.head_mem
      rw [hu.intentId, q'.dispatchedCount_eq, ha]
      rw [q.dispatchedCount_eq] at hold
      simp only [hhead, decide_true, Bool.and_true] at hmoved
      cases hbefore : q.dispatched attempt <;> cases hafter : q'.dispatched attempt <;>
        simp only [hbefore, hafter, Bool.false_eq_true, if_true, if_false] at hcount hmoved <;>
        omega
    · rw [h.counts intent hold, q.dispatchedCount_eq, q'.dispatchedCount_eq, ha]
      congr 1
      refine List.countP_congr fun other hother => ?_
      by_cases hsame : other.attemptId = attempt.attemptId
      · have hrow : other = attempt := Table.eq_of_key_eq hother hattempt hsame
        have hne : other.intentId ≠ intent.intentId := by
          rw [hrow, hhead]
          exact fun heq => hid heq.symm
        simp [hne]
      · rw [hothers other hother hsame]
  · intro intentId
    simp only [QueueTables.attemptsOf, ha]
    exact h.ordinals intentId
  · rw [ha]
    exact hmarkers

/-! ### The steps -/

theorem enqueue (h : CounterAgreement q) (hattempts : AttemptAgreement q)
    {new : SubmissionIntent} (heffect : EnqueueEffect q new q') (hzero : new.addDispatchCount = 0) :
    CounterAgreement q' := by
  refine h.of_counters heffect.attempts heffect.dispatches heffect.resolutions ?_
  intro intent hmem
  rcases (heffect.tail.mem_iff intent).mp hmem with hold | rfl
  · exact h.counts intent hold
  · -- no attempt can be of an intent that was not there
    have hnone : q.attemptsOf intent.intentId = [] := by
      rw [List.eq_nil_iff_forall_not_mem]
      intro attempt hattempt
      obtain ⟨hin, hid⟩ := QueueTables.mem_attemptsOf.mp hattempt
      obtain ⟨old, hold, hsame⟩ := hattempts.intentKnown attempt hin
      exact Table.find?_eq_none.mp heffect.fresh old hold (hsame.trans hid)
    simp [QueueTables.dispatchedCount, hnone, hzero]

/-- The greatest of the ordinals `1..n`. -/
theorem foldr_max_of_perm {ordinals : List Nat} {n : Nat}
    (h : ordinals.Perm (List.range' 1 n)) : ordinals.foldr max 0 = n := by
  have hperm : ordinals.foldr max 0 = (List.range' 1 n).foldr max 0 :=
    List.Perm.foldr_eq h 0
  rw [hperm]
  clear hperm h
  induction n with
  | zero => rfl
  | succ n ih =>
      rw [List.range'_concat, List.foldr_append]
      have hlast : ∀ (front : List Nat) (last : Nat),
          front.foldr max last = max (front.foldr max 0) last := by
        intro front last
        induction front with
        | nil => simp
        | cons first rest ihfront => simp [ihfront, max_assoc]
      simp only [List.foldr_cons, List.foldr_nil]
      rw [hlast, ih]
      omega

theorem begin (h : CounterAgreement q) {lease : Lease} {attemptId : Token} {revisions : Revisions}
    {now : Us} (howns : q.ownsHead lease)
    (hwrite : q.beginAttempt lease attemptId revisions now = some q') : CounterAgreement q' := by
  obtain ⟨head, hu, hid, hinsert, hresolutions, _⟩ := beginAttempt_headUpdate howns hwrite
  have hdispatches : q'.dispatches = q.dispatches := by
    obtain ⟨_, _, rfl⟩ := Option.map_eq_some_iff.mp hwrite
    rfl
  let new := newAttempt q lease attemptId revisions
  have hrows : q'.attempts.rows = q.attempts.rows ++ [new] := (Table.insert?_eq_some hinsert).2
  have hof : ∀ intentId, q'.attemptsOf intentId =
      q.attemptsOf intentId ++ if lease.headId = intentId then [new] else [] := by
    intro intentId
    simp only [QueueTables.attemptsOf, hrows, List.filter_append]
    congr 1
    simp [List.filter_cons, new, newAttempt]
  have htest : q'.dispatched = q.dispatched := by
    funext attempt
    simp only [QueueTables.dispatched, QueueTables.marked, hdispatches, hresolutions]
  have hunmarked : q.dispatched new = false := by
    have hnone : q.dispatches.find? new.attemptId = none := by
      refine Table.find?_eq_none.mpr fun dispatch hdispatch hkey => ?_
      obtain ⟨attempt, hattempt, hsame⟩ := h.markerKnown dispatch hdispatch
      exact Table.find?_eq_none.mp (Table.insert?_eq_some hinsert).1 attempt hattempt
        (hsame.trans hkey)
    simp [QueueTables.dispatched, QueueTables.marked, hnone]
  have hcount : ∀ intentId, q'.dispatchedCount intentId = q.dispatchedCount intentId := by
    intro intentId
    rw [QueueTables.dispatchedCount, htest, hof, List.countP_append]
    split
    · simp [hunmarked, QueueTables.dispatchedCount]
    · simp [QueueTables.dispatchedCount]
  refine ⟨?_, ?_, ?_⟩
  · intro intent hmem
    rw [hcount]
    rcases hu.mem_iff.mp hmem with rfl | ⟨hold, _⟩
    · rw [hu.intentId]
      exact h.counts head hu.head_mem
    · exact h.counts intent hold
  · intro intentId
    have hold := h.ordinals intentId
    rw [hof]
    split
    · next hsame =>
        -- the new ordinal is one more than the greatest
        have hordinal : new.ordinal = (q.attemptsOf intentId).length + 1 := by
          simp only [new, newAttempt, QueueTables.nextAttemptOrdinal, hsame]
          exact congrArg (· + 1) (foldr_max_of_perm hold)
        rw [List.map_append, List.length_append, List.length_singleton, List.range'_concat]
        refine hold.append ?_
        simp [hordinal, Nat.add_comm]
    · rw [List.append_nil]
      exact hold
  · intro dispatch hmem
    rw [hdispatches] at hmem
    obtain ⟨attempt, hattempt, hsame⟩ := h.markerKnown dispatch hmem
    exact ⟨attempt, (Table.mem_insert? hinsert).mpr (Or.inl hattempt), hsame⟩

/-- A marker is new, so it counts an attempt that did not count. -/
theorem record (h : CounterAgreement q) {lease : Lease} {attemptId : Token} {kind : RecordKind}
    {now : Us} (howns : q.ownsHead lease)
    (hattempt : ∃ attempt ∈ q.attempts.find? attemptId, attempt.intentId = lease.headId)
    (hunresolved : q.unresolved attemptId)
    (hwrite : q.recordPhase lease attemptId kind now = some q') : CounterAgreement q' := by
  cases kind with
  | membership =>
      obtain ⟨_, _, rfl⟩ := Option.map_eq_some_iff.mp hwrite
      exact h.congr rfl rfl rfl rfl
  | preflight =>
      obtain ⟨_, _, rfl⟩ := Option.map_eq_some_iff.mp hwrite
      exact h.congr rfl rfl rfl rfl
  | marker =>
      obtain ⟨attempt, hfind, hintent⟩ := hattempt
      obtain ⟨head, hhead, hid, _⟩ := howns.head
      obtain ⟨dispatches, hinsert, rfl⟩ := Option.map_eq_some_iff.mp hwrite
      have hu : HeadUpdate q
          { q with
            dispatches := dispatches
            intents := q.intents.modify lease.headId fun intent =>
              { intent with
                addDispatchCount := intent.addDispatchCount + 1
                stateVersion := intent.stateVersion + 1
                stateChangedAtUs := now } }
          lease.partitionId head
          { head with
            addDispatchCount := head.addDispatchCount + 1
            stateVersion := head.stateVersion + 1
            stateChangedAtUs := now } :=
        HeadUpdate.of_modify hhead hid (fun _ => Table.find?_modify_eq _ _ _ _) rfl rfl
      have hkey : attempt.attemptId = attemptId := Table.key_of_find? hfind
      have hfresh : q.dispatches.find? attemptId = none := (Table.insert?_eq_some hinsert).1
      have hmarkers := fun k => Table.find?_insert? hinsert k
      refine h.of_attempt hu rfl (Table.mem_of_find? hfind) (hintent.trans hid.symm) ?_ ?_ ?_
      · intro other _ hne
        rw [hkey] at hne
        simp only [QueueTables.dispatched, QueueTables.marked, hmarkers, if_neg hne]
      · have hbefore : q.dispatched attempt = false := by
          simp [QueueTables.dispatched, QueueTables.marked, hkey, hfresh]
        have hafter : QueueTables.dispatched { q with
            dispatches := dispatches
            intents := q.intents.modify lease.headId fun intent =>
              { intent with
                addDispatchCount := intent.addDispatchCount + 1
                stateVersion := intent.stateVersion + 1
                stateChangedAtUs := now } } attempt = true := by
          have hnone : q.resolutions.find? attemptId = none := hunresolved
          simp [QueueTables.dispatched, QueueTables.marked, hmarkers, hkey, hnone]
        rw [hbefore, hafter]
        simp
      · intro dispatch hmem
        rcases (Table.mem_insert? hinsert).mp hmem with hold | rfl
        · exact h.markerKnown dispatch hold
        · exact ⟨attempt, Table.mem_of_find? hfind, hkey⟩

/-- A resolution takes a marker back exactly when it subtracts it. -/
theorem resolve (h : CounterAgreement q) {lease : Lease} {attemptId : Token} {r : Resolution}
    {delay : Int} {clock : ResolutionClock} (hguard : resolveGuard q lease attemptId)
    (heffect : ResolveEffect q lease attemptId r delay clock q') : CounterAgreement q' := by
  obtain ⟨howns, ⟨attempt, hfind, hintent⟩, hunresolved⟩ := hguard
  obtain ⟨head, hu, hhead⟩ := heffect.headUpdate howns
  have hid : head.intentId = lease.headId := Table.key_of_find? hhead
  have hkey : attempt.attemptId = attemptId := Table.key_of_find? hfind
  have hresolutions := fun k => Table.find?_insert? heffect.resolutions k
  have hmarked : ∀ k, q'.marked k = q.marked k := by
    intro k
    simp only [QueueTables.marked, heffect.dispatches]
  refine h.of_attempt hu heffect.attempts (Table.mem_of_find? hfind) (hintent.trans hid.symm)
    ?_ ?_ ?_
  · intro other _ hne
    rw [hkey] at hne
    simp only [QueueTables.dispatched, hmarked, hresolutions, if_neg hne]
  · have hbefore : q.dispatched attempt = q.marked attemptId := by
      have hnone : q.resolutions.find? attemptId = none := hunresolved
      simp [QueueTables.dispatched, hkey, hnone]
    have hafter : q'.dispatched attempt = (q.marked attemptId && !r.notDispatched) := by
      simp only [QueueTables.dispatched, hmarked, hkey, hresolutions, if_true, Option.any_some]
      rfl
    rw [hbefore, hafter]
    simp only [resolvedIntent]
    cases hmark : q.marked attemptId <;> cases hback : r.notDispatched <;> simp
  · rw [heffect.dispatches]
    exact h.markerKnown

theorem step (h : CounterAgreement q) (hq : QueueInvariant q) (hstep : QueueStep q q') :
    CounterAgreement q' := by
  cases hstep with
  | admission hinsert =>
      cases hinsert with
      | addPartition => exact h.congr rfl rfl rfl rfl
      | enqueue _ hpartition _ hinsert =>
          exact h.enqueue hq.attempts (hq.layout.enqueue_effect hpartition hinsert) rfl
  | claim => exact h.congr rfl rfl rfl rfl
  | renew => exact h.congr rfl rfl rfl rfl
  | release => exact h.congr rfl rfl rfl rfl
  | defer _ hdeferrable =>
      obtain ⟨head, hu, _⟩ := deferTo_headUpdate hdeferrable _ _
      exact h.of_headUpdate hu rfl rfl rfl rfl
  | begin howns _ _ _ _ hwrite => exact h.begin howns hwrite
  | record howns hattempt hunresolved hwrite => exact h.record howns hattempt hunresolved hwrite
  | resolve hguard hwrite => exact h.resolve hguard (QueueTables.resolve_effect hwrite)

end CounterAgreement

/-! ## Reachable states -/

theorem CounterAgreement.steps (h : CounterAgreement q) (hq : QueueInvariant q)
    (hsteps : ReflTransGen QueueStep q q') : CounterAgreement q' := by
  induction hsteps with
  | refl => exact h
  | tail hfront hlast ih => exact ih.step (hq.steps hfront) hlast

theorem QueueReachable.counterAgreement {db : Db} (h : QueueReachable db) :
    CounterAgreement db.queue := by
  have hinv : QueueInvariant db.queue ∧ CounterAgreement db.queue := by
    apply h.invariant
    · rintro _ rfl
      exact ⟨QueueInvariant.initially, CounterAgreement.initially⟩
    · intro s _ t hboth hstep
      exact ⟨hboth.1.steps hstep.steps, hboth.2.steps hboth.1 hstep.steps⟩
  exact hinv.2

/-- An intent has an open attempt, and only one, exactly while it is attempting. -/
theorem AttemptAgreement.openCount_eq (h : AttemptAgreement q) {intent : SubmissionIntent}
    (hmem : intent ∈ q.intents) :
    q.openCount intent.intentId = if intent.state = .attempting then 1 else 0 := by
  have hopen : ∀ attempt, attempt ∈ (q.attemptsOf intent.intentId).filter
      (fun attempt => decide (q.unresolved attempt.attemptId)) ↔
        q.IsOpen attempt ∧ attempt.intentId = intent.intentId := by
    intro attempt
    rw [List.mem_filter, QueueTables.mem_attemptsOf, QueueTables.IsOpen, decide_eq_true_eq]
    tauto
  have hnodup : ((q.attemptsOf intent.intentId).filter
      fun attempt => decide (q.unresolved attempt.attemptId)).Nodup := by
    refine List.Nodup.filter _ (List.Nodup.filter _ ?_)
    exact List.Nodup.of_map _ q.attempts.nodup
  rw [QueueTables.openCount, List.countP_eq_length_filter]
  split
  · next hattempting =>
      obtain ⟨attempt, hattempt⟩ := (h.attempting intent hmem).mp hattempting
      have hsingle : (q.attemptsOf intent.intentId).filter
          (fun attempt => decide (q.unresolved attempt.attemptId)) = [attempt] := by
        refine List.perm_singleton.mp ((List.perm_ext_iff_of_nodup hnodup
          (List.nodup_singleton attempt)).mpr fun other => ?_)
        rw [hopen, List.mem_singleton]
        constructor
        · rintro ⟨hother, hid⟩
          exact h.single other attempt hother hattempt.1 (hid.trans hattempt.2.symm)
        · rintro rfl
          exact hattempt
      rw [hsingle, List.length_singleton]
  · next hquiet =>
      rw [List.length_eq_zero_iff, List.eq_nil_iff_forall_not_mem]
      intro attempt hattempt
      exact hquiet ((h.attempting intent hmem).mpr ⟨attempt, (hopen attempt).mp hattempt⟩)

/-- An attempting intent is the head of its partition. -/
theorem AttemptAgreement.head_of_attempting (h : AttemptAgreement q) {intent : SubmissionIntent}
    (hmem : intent ∈ q.intents) (hstate : intent.state = .attempting) :
    q.headIntent intent.partitionId = some intent := by
  have hactive : intent.state.active = true := by
    rw [hstate]
    rfl
  obtain ⟨head, hhead, _⟩ := QueueTables.exists_headIntent hmem rfl hactive
  by_cases hsame : intent = head
  · rw [hhead, ← hsame]
  · have hqueued := (h.tail _ head hhead intent hmem rfl hactive hsame).1
    exact IntentState.noConfusion (hstate.symm.trans hqueued)

/-- In every reachable state the counters of an intent are what its attempts say: it
counts the attempts with a marker that no resolution took back, the ordinals are
`1..n`, and it is attempting exactly with one open attempt, as the head of its
partition. -/
theorem attempt_counters (db : Db) (hdb : QueueReachable db) :
    ∀ intent ∈ db.queue.intents,
      intent.addDispatchCount = db.queue.dispatchedCount intent.intentId ∧
      0 ≤ intent.addDispatchCount ∧
      ((db.queue.attemptsOf intent.intentId).map SubmissionAttempt.ordinal).Perm
        (List.range' 1 (db.queue.attemptsOf intent.intentId).length) ∧
      (intent.state = .attempting ↔ db.queue.openCount intent.intentId = 1) ∧
      db.queue.openCount intent.intentId ≤ 1 ∧
      ∀ attempt ∈ db.queue.attemptsOf intent.intentId, db.queue.unresolved attempt.attemptId →
        db.queue.headIntent intent.partitionId = some intent := by
  have hinv := hdb.queueInvariant
  have hcounters := hdb.counterAgreement
  intro intent hmem
  have hcount := hcounters.counts intent hmem
  have hopen := hinv.attempts.openCount_eq hmem
  refine ⟨hcount, ?_, hcounters.ordinals intent.intentId, ?_, ?_, ?_⟩
  · rw [hcount]
    exact Int.natCast_nonneg _
  · rw [hopen]
    split <;> simp_all
  · rw [hopen]
    split <;> decide
  · intro attempt hattempt hunresolved
    obtain ⟨hin, hid⟩ := QueueTables.mem_attemptsOf.mp hattempt
    exact hinv.attempts.head_of_attempting hmem
      ((hinv.attempts.attempting intent hmem).mpr ⟨attempt, ⟨hin, hunresolved⟩, hid⟩)

namespace Sample

/-- The first attempt is marked and aborted before the hand-off, a second one is begun. -/
def abortedOnce : List QueueCall :=
  begun ++
    [.record lease attempt (.membership true) (clock 7) (clock 7),
      .record lease attempt (.preflight true) (clock 8) (clock 8),
      .record lease attempt (.marker none) (clock 9) (clock 9),
      .resolve lease attempt .transportAborted none ⟨0, 1⟩ (fun _ => some 1)
        ⟨clock 10, clock 10, clock 10, clock 10, clock 10⟩,
      .claim partition ⟨"sweep-2", Eq.refl true⟩ none defaultLeasePolicy (clock 2000),
      .begin ⟨partition, ⟨"sweep-2", Eq.refl true⟩, 2, intent, 60002000⟩ ⟨"attempt-2", Eq.refl true⟩
        (clock 2001) (clock 2001)]

end Sample

/-- An intent in its second attempt, whose first one was taken back. -/
theorem attempt_counters_second :
    ∃ db, execAll QueueCall.exec Sample.db Sample.abortedOnce = some db ∧
      ∃ intent ∈ db.queue.intents, intent.state = .attempting ∧
        db.queue.openCount intent.intentId = 1 ∧ intent.addDispatchCount = 0 ∧
        (db.queue.attemptsOf intent.intentId).length = 2 := by
  have hrun : (execAll QueueCall.exec Sample.db Sample.abortedOnce).isSome = true := by
    decide +kernel
  obtain ⟨db, hdb⟩ := Option.isSome_iff_exists.mp hrun
  have hsecond : ∀ db ∈ execAll QueueCall.exec Sample.db Sample.abortedOnce,
      ∃ intent ∈ db.queue.intents, intent.state = .attempting ∧ intent.addDispatchCount = 0 ∧
        (db.queue.attemptsOf intent.intentId).length = 2 := by
    decide +kernel
  obtain ⟨intent, hmem, hstate, hzero, htwo⟩ := hsecond db hdb
  have hcounters := attempt_counters db (Sample.reachable.execAll hdb) intent hmem
  exact ⟨db, hdb, intent, hmem, hstate, hcounters.2.2.2.1.mp hstate, hzero, htwo⟩

end FlickrGroupAddr

import FlickrGroupAddr.LeaseFencing

/-!
# FIFO order and wake-ups

The due time and the wake revision of a partition are copies kept next to the FIFO.
The due time is the one the head asks for, and the revision goes up whenever the
head or the due time changes, so no wake-up is lost and no stale hint claims.
-/

namespace FlickrGroupAddr

set_option autoImplicit false

open KeyedTable Transition Relation

variable {q q' : QueueTables}

/-! ## Wake revisions -/

/-- The stored due time of a partition. -/
def dueOf (q : QueueTables) (partitionId : Token) : Option Us :=
  (q.partitions.find? partitionId).bind GroupPartition.nextWorkNotBeforeUs

/-- The stored wake revision; there is none before the partition. -/
def wakeRevisionOf (q : QueueTables) (partitionId : Token) : Nat :=
  ((q.partitions.find? partitionId).map GroupPartition.wakeRevision).getD 0

/-- Which intent is the head. -/
def headIdOf (q : QueueTables) (partitionId : Token) : Option Token :=
  (q.headIntent partitionId).map SubmissionIntent.intentId

/-- The wake revision did not fall, and where it stayed so did head and due time. -/
structure Woken (q q' : QueueTables) (k : Token) : Prop where
  le : wakeRevisionOf q k ≤ wakeRevisionOf q' k
  same : wakeRevisionOf q' k = wakeRevisionOf q k →
    headIdOf q' k = headIdOf q k ∧ dueOf q' k = dueOf q k

namespace Woken

variable {k : Token}

theorem refl (q : QueueTables) (k : Token) : Woken q q k := ⟨le_refl _, fun _ => ⟨rfl, rfl⟩⟩

theorem trans {q'' : QueueTables} (h : Woken q q' k) (h' : Woken q' q'' k) : Woken q q'' k := by
  refine ⟨h.le.trans h'.le, fun hsame => ?_⟩
  have hle := h.le
  have hle' := h'.le
  obtain ⟨hhead, hdue⟩ := h.same (by omega)
  obtain ⟨hhead', hdue'⟩ := h'.same (by omega)
  exact ⟨hhead'.trans hhead, hdue'.trans hdue⟩

/-- A step that leaves the partition row and the head alone. -/
theorem of_eq (hpartition : q'.partitions.find? k = q.partitions.find? k)
    (hhead : headIdOf q' k = headIdOf q k) : Woken q q' k := by
  constructor
  · rw [wakeRevisionOf, wakeRevisionOf, hpartition]
  · intro _
    rw [dueOf, dueOf, hpartition]
    exact ⟨hhead, rfl⟩

/-- A step that rewrites the row of a stored partition. -/
theorem of_map {f : GroupPartition → GroupPartition} {partition : GroupPartition}
    (hfind : q.partitions.find? k = some partition)
    (hfind' : q'.partitions.find? k = (q.partitions.find? k).map f)
    (hle : partition.wakeRevision ≤ (f partition).wakeRevision)
    (hsame : (f partition).wakeRevision = partition.wakeRevision →
      headIdOf q' k = headIdOf q k ∧
        (f partition).nextWorkNotBeforeUs = partition.nextWorkNotBeforeUs) : Woken q q' k := by
  rw [hfind, Option.map_some] at hfind'
  constructor
  · simp only [wakeRevisionOf, hfind, hfind', Option.map_some, Option.getD_some]
    exact hle
  · simp only [wakeRevisionOf, dueOf, hfind, hfind', Option.map_some, Option.getD_some,
      Option.bind_some]
    exact hsame

end Woken

/-- The head update of a step that keeps the head active keeps which intent it is. -/
theorem HeadUpdate.headIdOf {partitionId : Token} {head head' : SubmissionIntent}
    (hu : HeadUpdate q q' partitionId head head') (hunique : q'.OrdinalsUnique)
    (hactive : head'.state.active = true) (k : Token) :
    FlickrGroupAddr.headIdOf q' k = FlickrGroupAddr.headIdOf q k := by
  unfold FlickrGroupAddr.headIdOf
  by_cases hk : k = partitionId
  · rw [hk, hu.headIntent_of_active hunique hactive, hu.wasHead, Option.map_some, Option.map_some,
      hu.intentId]
  · rw [hu.headIntent_of_ne hunique hk]

theorem headIdOf_congr (h : q'.intents = q.intents) (k : Token) : headIdOf q' k = headIdOf q k := by
  rw [headIdOf, headIdOf, QueueTables.headIntent_congr h]

theorem AdmissionStep.woken (hq : QueueStructure q) (hq' : QueueStructure q')
    (h : AdmissionStep q q') (k : Token) : Woken q q' k := by
  cases h with
  | @addPartition partitionId _ _ _ _ hinsert =>
      have hfind := Table.find?_insert? hinsert k
      have hfresh : q.partitions.find? partitionId = none := (Table.insert?_eq_some hinsert).1
      by_cases hk : k = partitionId
      · subst hk
        replace hfind := hfind.trans (if_pos rfl)
        have hwake : wakeRevisionOf q k = 0 := by rw [wakeRevisionOf, hfresh]; rfl
        have hdue : dueOf q k = none := by rw [dueOf, hfresh]; rfl
        refine ⟨hwake ▸ Nat.zero_le _, fun _ => ⟨rfl, ?_⟩⟩
        rw [hdue, dueOf, hfind]
        rfl
      · exact Woken.of_eq (hfind.trans (if_neg hk)) rfl
  | enqueue _ hpartition _ hinsert =>
      obtain ⟨new, heffect⟩ : ∃ new, EnqueueEffect q new _ :=
        ⟨_, hq.enqueue_effect hpartition hinsert⟩
      have hunique := hq'.ordinals
      generalize QueueTables.enqueued _ _ _ = q' at heffect hunique
      by_cases hk : k = new.partitionId
      · subst hk
        obtain ⟨partition, hfind⟩ := heffect.home
        refine Woken.of_map hfind ((heffect.partitions _).trans (if_pos rfl))
          (Nat.le_add_right _ _) fun hsame => ?_
        simp only [enqueuedPartition] at hsame
        by_cases hidle : q.headIntent new.partitionId = none
        · rw [if_pos hidle] at hsame
          omega
        · obtain ⟨head, hhead⟩ := Option.ne_none_iff_exists'.mp hidle
          refine ⟨?_, if_neg hidle⟩
          rw [headIdOf, headIdOf, heffect.tail.headIntent_of_some hunique hhead, hhead]
      · refine Woken.of_eq ((heffect.partitions k).trans (if_neg hk)) ?_
        rw [headIdOf, headIdOf, heffect.tail.headIntent_of_ne hunique hk]

/-- A row rewrite of one partition that keeps revision and due time, or raises the
revision. -/
theorem Woken.of_modify {partitionId : Token} {f : GroupPartition → GroupPartition}
    (hpartitions : ∀ k, q'.partitions.find? k =
      if k = partitionId then (q.partitions.find? k).map f else q.partitions.find? k)
    (hstored : ∃ partition, q.partitions.find? partitionId = some partition)
    (hothers : ∀ k, k ≠ partitionId → headIdOf q' k = headIdOf q k)
    (hle : ∀ partition, partition.wakeRevision ≤ (f partition).wakeRevision)
    (hsame : ∀ partition, (f partition).wakeRevision = partition.wakeRevision →
      headIdOf q' partitionId = headIdOf q partitionId ∧
        (f partition).nextWorkNotBeforeUs = partition.nextWorkNotBeforeUs) (k : Token) :
    Woken q q' k := by
  by_cases hk : k = partitionId
  · subst hk
    obtain ⟨partition, hfind⟩ := hstored
    exact Woken.of_map hfind ((hpartitions _).trans (if_pos rfl)) (hle partition) (hsame partition)
  · exact Woken.of_eq ((hpartitions k).trans (if_neg hk)) (hothers k hk)

theorem QueueTables.owns.stored {lease : Lease} (h : q.owns lease) :
    ∃ partition, q.partitions.find? lease.partitionId = some partition := by
  obtain ⟨partition, hfind, _⟩ := h
  exact ⟨partition, hfind⟩

/-- Every step raises the wake revision of the partitions whose head or due time it
changes. -/
theorem QueueStep.woken (hq : QueueStructure q) (hq' : QueueStructure q') (h : QueueStep q q')
    (k : Token) : Woken q q' k := by
  cases h with
  | admission hinsert => exact hinsert.woken hq hq' k
  | claim hfind =>
      refine Woken.of_modify (fun _ => Table.find?_modify_eq _ _ _ _) ⟨_, hfind⟩ ?_ ?_ ?_ k
      · exact fun _ _ => rfl
      · exact fun partition => le_refl partition.wakeRevision
      · exact fun _ _ => ⟨rfl, rfl⟩
  | renew howns =>
      refine Woken.of_modify (fun _ => Table.find?_modify_eq _ _ _ _) howns.stored ?_ ?_ ?_ k
      · exact fun _ _ => rfl
      · exact fun partition => le_refl partition.wakeRevision
      · exact fun _ _ => ⟨rfl, rfl⟩
  | release howns =>
      refine Woken.of_modify (fun _ => Table.find?_modify_eq _ _ _ _) howns.stored ?_ ?_ ?_ k
      · exact fun _ _ => rfl
      · exact fun partition => le_refl partition.wakeRevision
      · exact fun _ _ => ⟨rfl, rfl⟩
  | defer howns hdeferrable =>
      obtain ⟨_, hu, _⟩ := deferTo_headUpdate hdeferrable _ _
      refine Woken.of_modify (fun _ => Table.find?_modify_eq _ _ _ _) howns.stored
        (fun k _ => hu.headIdOf hq'.ordinals rfl k) (fun _ => Nat.le_succ _) ?_ k
      intro partition hsame
      exact absurd hsame (Nat.succ_ne_self _)
  | begin howns _ _ _ _ hwrite =>
      obtain ⟨_, hu, _, _, _, hpartitions, _⟩ := beginAttempt_headUpdate howns hwrite
      exact Woken.of_eq (by rw [hpartitions]) (hu.headIdOf hq'.ordinals rfl k)
  | record howns _ _ hwrite =>
      obtain ⟨⟨hpartitions, _⟩, hintents | ⟨_, hu⟩⟩ := recordPhase_intents howns hwrite
      · exact Woken.of_eq (by rw [hpartitions]) (headIdOf_congr hintents k)
      · exact Woken.of_eq (by rw [hpartitions]) (hu.headIdOf hq'.ordinals hu.isHead.active k)
  | resolve hguard hwrite =>
      have heffect := QueueTables.resolve_effect hwrite
      obtain ⟨_, hu, _⟩ := heffect.headUpdate hguard.1
      refine Woken.of_modify heffect.partitions hguard.1.1.stored ?_ (fun _ => Nat.le_succ _) ?_ k
      · intro other hne
        rw [headIdOf, headIdOf, hu.headIntent_of_ne hq'.ordinals hne]
      · intro partition hsame
        exact absurd hsame (Nat.succ_ne_self _)

theorem woken_of_steps (hq : QueueInvariant q) (h : ReflTransGen QueueStep q q') (k : Token) :
    Woken q q' k := by
  induction h with
  | refl => exact Woken.refl q k
  | tail hfront hlast ih =>
      have hmiddle := hq.steps hfront
      exact ih.trans (hlast.woken hmiddle.layout (hmiddle.step hlast).layout k)

/-! ## The claim behind an attempt -/

/-- The attempt was running before the step, under the same due time. -/
def KeptRunning (q q' : QueueTables) (k : Token) (head' : SubmissionIntent)
    (attempt : SubmissionAttempt) : Prop :=
  ∃ head, q.headIntent k = some head ∧ head.state = .attempting ∧
    head.intentId = head'.intentId ∧ q.IsOpen attempt ∧ dueOf q' k = dueOf q k

/-- The step began the attempt under the stored lease. -/
def BegunUnderLease (q q' : QueueTables) (k : Token) (attempt : SubmissionAttempt) : Prop :=
  ∃ partition, q.partitions.find? k = some partition ∧ (∃ columns ∈ partition.lease,
    columns.leaseId = attempt.leaseId) ∧ partition.leaseGeneration = attempt.leaseGeneration ∧
    dueOf q' k = dueOf q k

theorem dueOf_of_modify {partitionId : Token} {f : GroupPartition → GroupPartition}
    (hpartitions : ∀ k, q'.partitions.find? k =
      if k = partitionId then (q.partitions.find? k).map f else q.partitions.find? k)
    (k : Token)
    (hdue : ∀ partition, (f partition).nextWorkNotBeforeUs =
      partition.nextWorkNotBeforeUs := by intro _; rfl) : dueOf q' k = dueOf q k := by
  rw [dueOf, dueOf, hpartitions]
  split
  · rw [Option.bind_map]
    congr 1
    funext partition
    exact hdue partition
  · rfl

theorem dueOf_of_ne {partitionId : Token} {f : GroupPartition → GroupPartition}
    (hpartitions : ∀ k, q'.partitions.find? k =
      if k = partitionId then (q.partitions.find? k).map f else q.partitions.find? k)
    {k : Token} (hne : k ≠ partitionId) : dueOf q' k = dueOf q k := by
  rw [dueOf, dueOf, hpartitions, if_neg hne]

section AttemptingBack

variable {k : Token} {head' : SubmissionIntent} {attempt : SubmissionAttempt}

theorem AdmissionStep.attempting_back (hq : QueueStructure q) (hq' : QueueStructure q')
    (h : AdmissionStep q q') (hhead : q'.headIntent k = some head')
    (hstate : head'.state = .attempting) (hopen : q'.IsOpen attempt) :
    KeptRunning q q' k head' attempt := by
  cases h with
  | @addPartition partitionId _ _ _ _ hinsert =>
      refine ⟨head', hhead, hstate, rfl, hopen, ?_⟩
      have htop := QueueTables.isHead_of_headIntent hhead
      obtain ⟨partition, hfind, _⟩ := hq.home head' htop.mem
      rw [htop.partition] at hfind
      have hne : k ≠ partitionId := by
        rintro rfl
        cases (Table.insert?_eq_some hinsert).1.symm.trans hfind
      rw [dueOf, dueOf, (Table.find?_insert? hinsert k).trans (if_neg hne)]
  | enqueue _ hpartition _ hinsert =>
      obtain ⟨new, heffect, hqueued⟩ : ∃ new, EnqueueEffect q new _ ∧ new.state = .queued :=
        ⟨_, hq.enqueue_effect hpartition hinsert, rfl⟩
      have hunique := hq'.ordinals
      generalize QueueTables.enqueued _ _ _ = q' at heffect hunique hhead hopen ⊢
      have hopen' : q.IsOpen attempt := by
        simpa only [QueueTables.IsOpen, QueueTables.unresolved, heffect.attempts,
          heffect.resolutions] using hopen
      by_cases hk : k = new.partitionId
      · subst hk
        cases htop : q.headIntent new.partitionId with
        | none =>
            rw [heffect.tail.headIntent_of_none hunique htop] at hhead
            cases hhead
            exact IntentState.noConfusion (hqueued.symm.trans hstate)
        | some top =>
            rw [heffect.tail.headIntent_of_some hunique htop] at hhead
            cases hhead
            refine ⟨head', htop, hstate, rfl, hopen', dueOf_of_modify heffect.partitions _ ?_⟩
            intro partition
            refine if_neg ?_
            rw [htop]
            exact Option.some_ne_none head'
      · rw [heffect.tail.headIntent_of_ne hunique hk] at hhead
        exact ⟨head', hhead, hstate, rfl, hopen', dueOf_of_ne heffect.partitions hk⟩

/-- Where an attempting head comes from. -/
theorem QueueStep.attempting_back (hq : QueueInvariant q) (hq' : QueueStructure q')
    (h : QueueStep q q') (hhead : q'.headIntent k = some head')
    (hstate : head'.state = .attempting) (hopen : q'.IsOpen attempt)
    (hof : attempt.intentId = head'.intentId) :
    KeptRunning q q' k head' attempt ∨ BegunUnderLease q q' k attempt := by
  cases h with
  | admission hinsert => exact Or.inl (hinsert.attempting_back hq.layout hq' hhead hstate hopen)
  | claim =>
      exact Or.inl ⟨head', hhead, hstate, rfl, hopen,
        dueOf_of_modify (fun _ => Table.find?_modify_eq _ _ _ _) k⟩
  | renew =>
      exact Or.inl ⟨head', hhead, hstate, rfl, hopen,
        dueOf_of_modify (fun _ => Table.find?_modify_eq _ _ _ _) k⟩
  | release =>
      exact Or.inl ⟨head', hhead, hstate, rfl, hopen,
        dueOf_of_modify (fun _ => Table.find?_modify_eq _ _ _ _) k⟩
  | @defer lease dueUs now _ hdeferrable =>
      obtain ⟨head, hu, _⟩ := deferTo_headUpdate hdeferrable dueUs now
      by_cases hk : k = lease.partitionId
      · rw [hk, hu.headIntent_of_active hq'.ordinals rfl] at hhead
        cases hhead
        cases hstate
      · rw [hu.headIntent_of_ne hq'.ordinals hk] at hhead
        exact Or.inl ⟨head', hhead, hstate, rfl, hopen,
          dueOf_of_ne (fun _ => Table.find?_modify_eq _ _ _ _) hk⟩
  | @begin lease attemptId revisions _ _ _ howns _ _ _ hnone hwrite =>
      obtain ⟨head, hu, hid, hinsert, hresolutions, hpartitions, _⟩ :=
        beginAttempt_headUpdate howns hwrite
      have hdue : dueOf q' k = dueOf q k := by rw [dueOf, dueOf, hpartitions]
      have hcases : q.IsOpen attempt ∨ attempt = newAttempt q lease attemptId revisions := by
        refine ((Table.mem_insert? hinsert).mp hopen.1).imp_left fun hold => ⟨hold, ?_⟩
        simpa only [QueueTables.unresolved, hresolutions] using hopen.2
      by_cases hk : k = lease.partitionId
      · -- the only open attempt of the new head is the new one
        rw [hk, hu.headIntent_of_active hq'.ordinals rfl] at hhead
        cases hhead
        have hnew := hcases.resolve_left fun hold =>
          hnone attempt hold.1 (hof.trans hid) hold.2
        obtain ⟨⟨partition, hfind, ⟨columns, hcolumns, hleaseId⟩, hgeneration⟩, _⟩ := howns
        subst hk hnew
        exact Or.inr ⟨partition, hfind, ⟨columns, hcolumns, hleaseId⟩, hgeneration, hdue⟩
      · rw [hu.headIntent_of_ne hq'.ordinals hk] at hhead
        refine Or.inl ⟨head', hhead, hstate, rfl, hcases.resolve_right ?_, hdue⟩
        rintro rfl
        have htop := QueueTables.isHead_of_headIntent hhead
        have hsame : head' = head := Table.eq_of_key_eq htop.mem hu.head_mem (hof.symm.trans hid.symm)
        exact hk (htop.partition.symm.trans (hsame ▸ hu.isHead.partition))
  | @record lease _ _ _ _ howns _ _ hwrite =>
      obtain ⟨⟨hpartitions, hattempts, hresolutions, _⟩, hintents⟩ := recordPhase_intents howns hwrite
      have hdue : dueOf q' k = dueOf q k := by rw [dueOf, dueOf, hpartitions]
      have hopen' : q.IsOpen attempt := by
        simpa only [QueueTables.IsOpen, QueueTables.unresolved, hattempts, hresolutions] using hopen
      rcases hintents with hintents | ⟨head, hu⟩
      · rw [QueueTables.headIntent_congr hintents] at hhead
        exact Or.inl ⟨head', hhead, hstate, rfl, hopen', hdue⟩
      · by_cases hk : k = lease.partitionId
        · rw [hk, hu.headIntent_of_active hq'.ordinals hu.isHead.active] at hhead
          cases hhead
          exact Or.inl ⟨head, hk ▸ hu.wasHead, hstate, rfl, hopen', hdue⟩
        · rw [hu.headIntent_of_ne hq'.ordinals hk] at hhead
          exact Or.inl ⟨head', hhead, hstate, rfl, hopen', hdue⟩
  | @resolve lease attemptId _ _ _ _ _ hguard hwrite =>
      have heffect := QueueTables.resolve_effect hwrite
      obtain ⟨head, hu, _⟩ := heffect.headUpdate hguard.1
      have hisHead := QueueTables.isHead_of_headIntent hhead
      by_cases hk : k = lease.partitionId
      · subst hk
        rcases hu.mem_iff.mp hisHead.mem with rfl | ⟨hold, hne⟩
        · exact absurd hstate (DispatchOutcome.state_ne_attempting _)
        · have hqueued := (hq.attempts.tail _ _ hu.wasHead head' hold hisHead.partition
            hisHead.active fun heq => hne (heq ▸ rfl)).1
          exact IntentState.noConfusion (hqueued.symm.trans hstate)
      · rw [hu.headIntent_of_ne hq'.ordinals hk] at hhead
        refine Or.inl ⟨head', hhead, hstate, rfl, ⟨heffect.attempts ▸ hopen.1, ?_⟩,
          dueOf_of_ne heffect.partitions hk⟩
        exact (QueueStep.resolve hguard hwrite).unresolved_back hopen.2

theorem AdmissionStep.attempting_back_steps (hq : QueueInvariant q)
    (h : ReflTransGen AdmissionStep q q') (hhead : q'.headIntent k = some head')
    (hstate : head'.state = .attempting) (hopen : q'.IsOpen attempt) :
    KeptRunning q q' k head' attempt := by
  induction h generalizing head' with
  | refl => exact ⟨head', hhead, hstate, rfl, hopen, rfl⟩
  | tail hfront hlast ih =>
      have hmiddle := hq.steps (ReflTransGen.mono (fun _ _ => QueueStep.admission) _ _ hfront)
      have hlast' := hmiddle.step (QueueStep.admission hlast)
      obtain ⟨top, htop, hrunning, hid, hopen', hdue⟩ :=
        hlast.attempting_back hmiddle.layout hlast'.layout hhead hstate hopen
      obtain ⟨first, hfirst, hfirstState, hfirstId, hfirstOpen, hfirstDue⟩ :=
        ih htop hrunning hopen'
      exact ⟨first, hfirst, hfirstState, hfirstId.trans hid, hfirstOpen, hdue.trans hfirstDue⟩

end AttemptingBack

/-- The trace has a committed claim of the partition with this lease, generation and
clock. -/
def RecordedClaim (trace : List (Move Db QueueEvent)) (partitionId leaseId : Token)
    (generation : Nat) (startedAtUs : Us) : Prop :=
  ∃ move ∈ trace, ∃ revision config now,
    move.label = .commit (.claim partitionId leaseId revision config now) ∧
    generationOf move.dst.queue partitionId = generation ∧ now.us = startedAtUs

/-- Stored leases and running attempts go back to claims of the trace, which came when
the partition was due. -/
structure ClaimHistory (trace : List (Move Db QueueEvent)) (q : QueueTables) : Prop where
  lease : ∀ k partition, q.partitions.find? k = some partition → ∀ columns ∈ partition.lease,
    RecordedClaim trace k columns.leaseId partition.leaseGeneration columns.startedAtUs
  attempt : ∀ k head, q.headIntent k = some head → head.state = .attempting → ∀ attempt,
    q.IsOpen attempt → attempt.intentId = head.intentId → ∃ due startedAtUs,
      dueOf q k = some due ∧ due ≤ startedAtUs ∧
        RecordedClaim trace k attempt.leaseId attempt.leaseGeneration startedAtUs

variable {trace : List (Move Db QueueEvent)} {db db' : Db} {event : QueueEvent}

theorem RecordedClaim.snoc {k leaseId : Token} {generation : Nat} {startedAtUs : Us}
    (h : RecordedClaim trace k leaseId generation startedAtUs) (move : Move Db QueueEvent) :
    RecordedClaim (trace ++ [move]) k leaseId generation startedAtUs := by
  obtain ⟨claim, hmem, hclaim⟩ := h
  exact ⟨claim, List.mem_append_left _ hmem, hclaim⟩

theorem ClaimHistory.snoc (h : ClaimHistory trace q) (move : Move Db QueueEvent) :
    ClaimHistory (trace ++ [move]) q where
  lease k partition hfind columns hcolumns := (h.lease k partition hfind columns hcolumns).snoc move
  attempt k head hhead hstate attempt hopen hof := by
    obtain ⟨due, startedAtUs, hdue, hle, hclaim⟩ :=
      h.attempt k head hhead hstate attempt hopen hof
    exact ⟨due, startedAtUs, hdue, hle, hclaim.snoc move⟩

/-- A committed call extends the history. -/
theorem ClaimHistory.commit (hq : QueueInvariant db.queue) (h : ClaimHistory trace db.queue)
    {call : QueueCall} (hexec : call.exec db = some db') :
    ClaimHistory (trace ++ [⟨db, .commit call, db'⟩]) db'.queue := by
  constructor
  · intro k partition' hfind' columns hcolumns
    cases hfind : db.queue.partitions.find? k with
    | none =>
        have hnone := (QueueCall.lease_fresh hexec hfind hfind').1
        cases hnone.symm.trans hcolumns
    | some partition =>
        obtain ⟨_, hsame, hchange⟩ := QueueCall.leaseChange hexec hfind
        cases hsame.symm.trans hfind'
        have hold := h.lease k partition hfind
        cases hchange with
        | claimed hcall _ _ hlease =>
            cases hlease.symm.trans hcolumns
            rw [Table.key_of_find? hfind] at hcall
            exact ⟨_, List.mem_append_right _ (List.mem_singleton_self _), _, _, _,
              congrArg QueueEvent.commit hcall, generationOf_eq hfind', rfl⟩
        | renewed _ _ _ _ hgeneration hlease =>
            rw [hlease] at hcolumns
            obtain ⟨old, hcolumnsOld, rfl⟩ := Option.map_eq_some_iff.mp hcolumns
            rw [hgeneration]
            exact (hold old hcolumnsOld).snoc _
        | dropped _ hlease => cases hlease.symm.trans hcolumns
        | kept hgeneration hlease =>
            rw [hgeneration]
            exact (hold columns (hlease ▸ hcolumns)).snoc _
  · intro k head' hhead hstate attempt hopen hof
    have hback : KeptRunning db.queue db'.queue k head' attempt ∨
        BegunUnderLease db.queue db'.queue k attempt := by
      rcases QueueCall.step_cases hexec with hadmission | hstep
      · exact Or.inl (AdmissionStep.attempting_back_steps hq hadmission hhead hstate hopen)
      · exact hstep.attempting_back hq (hq.step hstep).layout hhead hstate hopen hof
    rcases hback with ⟨head, htop, hrunning, hid, hopen', hdueSame⟩ |
      ⟨partition, hfind, ⟨columns, hcolumns, hleaseId⟩, hgeneration, hdueSame⟩
    · obtain ⟨due, startedAtUs, hdue, hle, hclaim⟩ :=
        h.attempt k head htop hrunning attempt hopen' (hof.trans hid.symm)
      exact ⟨due, startedAtUs, hdueSame.trans hdue, hle, hclaim.snoc _⟩
    · obtain ⟨due, hdue, hle⟩ := hq.due.leaseDue k partition hfind columns hcolumns
      refine ⟨due, columns.startedAtUs, ?_, hle, ?_⟩
      · rw [hdueSame, dueOf, hfind]
        exact hdue
      · rw [← hleaseId, ← hgeneration]
        exact (h.lease k partition hfind columns hcolumns).snoc _

theorem QueueInvariant.of_run (hrun : Run QueueEventStep emptyDb trace db) :
    QueueInvariant db.queue :=
  QueueReachable.queueInvariant ⟨emptyDb, trace, rfl, hrun⟩

theorem ClaimHistory.of_run (hrun : Run QueueEventStep emptyDb trace db) :
    ClaimHistory trace db.queue := by
  induction hrun with
  | nil =>
      constructor
      · intro k partition hfind
        exact absurd (Table.mem_of_find? hfind) (Table.not_mem_empty partition)
      · intro k head hhead
        exact absurd (QueueTables.isHead_of_headIntent hhead).mem (Table.not_mem_empty head)
  | snoc hfront hlast ih =>
      have hlastStep := hlast
      cases hlastStep with
      | commit hexec => exact ih.commit (QueueInvariant.of_run hfront) hexec
      | refuse => exact ih.snoc _
      | outside hsame =>
          rw [hsame]
          exact ih.snoc _

/-! ## Order and due times -/

/-- What a partition stores about its FIFO. -/
structure PartitionAgreement (trace : List (Move Db QueueEvent)) (q : QueueTables)
    (partition : GroupPartition) : Prop where
  /-- The ordinals are exactly the numbers below the counter. -/
  ordinals : ∀ n, (∃ intent ∈ q.intents, intent.partitionId = partition.partitionId ∧
    intent.enqueueOrdinal = n) ↔ 1 ≤ n ∧ n < partition.nextEnqueueOrdinal
  unique : ∀ left ∈ q.intents, ∀ right ∈ q.intents, left.partitionId = partition.partitionId →
    right.partitionId = partition.partitionId → left.enqueueOrdinal = right.enqueueOrdinal →
    left = right
  /-- Every active member but the one with the smallest ordinal waits untouched. -/
  tail : ∀ intent ∈ q.intents, intent.partitionId = partition.partitionId →
    intent.state.active = true →
    (∃ other ∈ q.intents, other.partitionId = partition.partitionId ∧
      other.state.active = true ∧ other.enqueueOrdinal < intent.enqueueOrdinal) →
    intent.state = .queued ∧ ∀ attempt ∈ q.attempts, attempt.intentId ≠ intent.intentId
  /-- No due time exactly when no member is active. -/
  idle : partition.nextWorkNotBeforeUs = none ↔ ∀ intent ∈ q.intents,
    intent.partitionId = partition.partitionId → intent.state.active = false
  queued : ∀ head, q.headIntent partition.partitionId = some head → head.state = .queued →
    partition.nextWorkNotBeforeUs = some head.createdAtUs
  retrying : ∀ head, q.headIntent partition.partitionId = some head → head.state = .retrying →
    head.nextAttemptNotBeforeUs.isSome = true ∧
      partition.nextWorkNotBeforeUs = head.nextAttemptNotBeforeUs
  throttled : ∀ head, q.headIntent partition.partitionId = some head → head.state = .throttled →
    partition.nextProbeNotBeforeUs.isSome = true ∧
      partition.nextWorkNotBeforeUs = partition.nextProbeNotBeforeUs
  /-- An attempting head has one open attempt, and the due time had come when the claim
  behind that attempt committed. -/
  attempting : ∀ head, q.headIntent partition.partitionId = some head →
    head.state = .attempting → ∃ attempt, q.IsOpen attempt ∧
      attempt.intentId = head.intentId ∧ ∃ due startedAtUs,
        partition.nextWorkNotBeforeUs = some due ∧ due ≤ startedAtUs ∧
        RecordedClaim trace partition.partitionId attempt.leaseId attempt.leaseGeneration
          startedAtUs
  /-- Once the stored due time has come, so has the one the claim tests on the head. -/
  dueTest : ∀ head now, q.headIntent partition.partitionId = some head →
    partitionDue partition now → head.state = .attempting ∨ head.state = .queued ∨
      (head.state = .retrying ∧ ∃ due ∈ head.nextAttemptNotBeforeUs, due ≤ now) ∨
      (head.state = .throttled ∧ ∃ due ∈ partition.nextProbeNotBeforeUs, due ≤ now)

theorem partitionAgreement_of_run (hrun : Run QueueEventStep emptyDb trace db)
    {partition : GroupPartition} (hmem : partition ∈ db.queue.partitions) :
    PartitionAgreement trace db.queue partition := by
  have hq := QueueInvariant.of_run hrun
  have hfind := Table.find?_of_mem hmem
  have hdue := hq.due.due _ partition hfind
  have hhead : ∀ head, db.queue.headIntent partition.partitionId = some head →
      dueAgrees partition (some head) := by
    intro head htop
    rw [← htop]
    exact hdue
  refine ⟨hq.layout.range partition hmem, ?_, ?_, ?_, ?_, ?_, ?_, ?_, ?_⟩
  · intro left hleft right hright hhome hhome' hordinal
    exact hq.layout.ordinals left hleft right hright (hhome.trans hhome'.symm) hordinal
  · rintro intent hintent hhome hactive ⟨other, hother, hotherHome, hotherActive, hlt⟩
    obtain ⟨head, htop, hle⟩ := QueueTables.exists_headIntent hother hotherHome hotherActive
    refine hq.attempts.tail _ head htop intent hintent hhome hactive ?_
    rintro rfl
    omega
  · rw [← QueueTables.headIntent_eq_none]
    constructor
    · intro hnone
      cases htop : db.queue.headIntent partition.partitionId with
      | none => rfl
      | some head =>
          obtain ⟨due, hsome, _⟩ := hhead head htop
          cases hnone.symm.trans hsome
    · intro hnone
      rw [hnone] at hdue
      exact hdue
  · intro head htop hstate
    obtain ⟨due, hsome, hqueued, _⟩ := hhead head htop
    rw [hsome, hqueued hstate]
  · intro head htop hstate
    obtain ⟨due, hsome, _, hretrying, _⟩ := hhead head htop
    rw [hsome, hretrying hstate]
    exact ⟨rfl, rfl⟩
  · intro head htop hstate
    obtain ⟨due, hsome, _, _, hthrottled⟩ := hhead head htop
    rw [hsome, hthrottled hstate]
    exact ⟨rfl, rfl⟩
  · intro head htop hstate
    have hisHead := QueueTables.isHead_of_headIntent htop
    obtain ⟨attempt, hopen, hof⟩ := (hq.attempts.attempting head hisHead.mem).mp hstate
    obtain ⟨due, startedAtUs, hstored, hle, hclaim⟩ :=
      (ClaimHistory.of_run hrun).attempt _ head htop hstate attempt hopen hof
    rw [dueOf, hfind] at hstored
    exact ⟨attempt, hopen, hof, due, startedAtUs, hstored, hle, hclaim⟩
  · rintro head now htop ⟨stored, hstored, hle⟩
    have hactive := (QueueTables.isHead_of_headIntent htop).active
    obtain ⟨due, hsome, _, hretrying, hthrottled⟩ := hhead head htop
    cases hstored.symm.trans hsome
    cases hstate : head.state with
    | attempting => exact Or.inl rfl
    | queued => exact Or.inr (Or.inl rfl)
    | retrying => exact Or.inr (Or.inr (Or.inl ⟨rfl, stored, hretrying hstate, hle⟩))
    | throttled => exact Or.inr (Or.inr (Or.inr ⟨rfl, stored, hthrottled hstate, hle⟩))
    | _ =>
        rw [hstate] at hactive
        cases hactive

/-! ## No lost wake -/

/-- A hint with an older revision claims nothing. -/
theorem stale_hint_refused {k leaseId : Token} {revision : Nat} {config : LeasePolicy}
    {now : ClockReading} (hstale : revision < wakeRevisionOf db.queue k) :
    claimPartition db k leaseId (some revision) config now = none := by
  cases hclaim : claimPartition db k leaseId (some revision) config now with
  | none => rfl
  | some result =>
      obtain ⟨_, partition, head, heffect⟩ := claimPartition_effect hclaim
      have hfresh := heffect.fresh revision rfl
      rw [wakeRevisionOf, heffect.stored, Option.map_some, Option.getD_some, hfresh] at hstale
      exact absurd hstale (lt_irrefl _)

/-- In every run from the empty schema every partition agrees with its FIFO, every
event that changes a head or a due time raises the wake revision of its partition,
and a hint with an older revision is refused from then on. -/
theorem fifo_no_lost_wake (trace : List (Move Db QueueEvent)) (db : Db)
    (hrun : Run QueueEventStep emptyDb trace db) :
    (∀ partition ∈ db.queue.partitions, PartitionAgreement trace db.queue partition) ∧
    (∀ event db', QueueEventStep db event db' → ∀ k,
      wakeRevisionOf db.queue k ≤ wakeRevisionOf db'.queue k ∧
      (headIdOf db'.queue k ≠ headIdOf db.queue k ∨ dueOf db'.queue k ≠ dueOf db.queue k →
        wakeRevisionOf db.queue k < wakeRevisionOf db'.queue k)) ∧
    (∀ k leaseId revision config now, revision < wakeRevisionOf db.queue k →
      claimPartition db k leaseId (some revision) config now = none) := by
  have hq := QueueInvariant.of_run hrun
  refine ⟨fun partition hmem => partitionAgreement_of_run hrun hmem, ?_,
    fun _ _ _ _ _ hstale => stale_hint_refused hstale⟩
  intro event db' hstep k
  have hwoken := woken_of_steps hq hstep.steps k
  refine ⟨hwoken.le, fun hchange => lt_of_le_of_ne hwoken.le fun hsame => ?_⟩
  obtain ⟨hheadSame, hdueSame⟩ := hwoken.same hsame.symm
  rcases hchange with hne | hne
  · exact hne hheadSame
  · exact hne hdueSame

/-- After the first admission the revision is one, and a hint of revision zero is stale. -/
theorem fifo_no_lost_wake_admitted : ∃ trace db, Run QueueEventStep emptyDb trace db ∧
    (∃ partition ∈ db.queue.partitions, partition.partitionId = Sample.partition ∧
      PartitionAgreement trace db.queue partition) ∧
    ∀ leaseId config now,
      claimPartition db Sample.partition leaseId (some 0) config now = none := by
  have hrun : (execAll QueueCall.exec Sample.db Sample.begun).isSome = true := by decide +kernel
  obtain ⟨db, hdb⟩ := Option.isSome_iff_exists.mp hrun
  have hwoken : ∀ db ∈ execAll QueueCall.exec Sample.db Sample.begun,
      (∃ partition ∈ db.queue.partitions, partition.partitionId = Sample.partition) ∧
      0 < wakeRevisionOf db.queue Sample.partition := by
    decide +kernel
  obtain ⟨⟨partition, hmem, hid⟩, hwake⟩ := hwoken db hdb
  obtain ⟨_, trace, rfl, htrace⟩ := Sample.reachable.execAll hdb
  have hagrees := fifo_no_lost_wake trace db htrace
  exact ⟨trace, db, htrace, ⟨partition, hmem, hid, hagrees.1 partition hmem⟩,
    fun _ _ _ => hagrees.2.2 _ _ _ _ _ hwake⟩

end FlickrGroupAddr

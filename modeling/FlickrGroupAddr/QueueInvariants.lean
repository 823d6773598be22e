import FlickrGroupAddr.HeadUpdates

/-!
# The invariants of the queue

Attempts, due times and blocks are copies of what the intents say.  Each group of
invariants states one such agreement and is proved by cases on `QueueStep`; a step
that rewrites the head goes through `HeadUpdate`, an admission through `TailInsert`.
-/

namespace FlickrGroupAddr

set_option autoImplicit false

open KeyedTable

variable {q q' : QueueTables}

/-! ## The updates of the head -/

theorem deferTo_headUpdate {lease : Lease} (h : deferrable q lease) (dueUs now : Us) :
    ∃ head, HeadUpdate q (q.deferTo lease dueUs now) lease.partitionId head
        { head with
          state := .retrying
          stateVersion := head.stateVersion + 1
          nextAttemptNotBeforeUs := some dueUs
          stateChangedAtUs := now } ∧
      (head.state = .queued ∨ head.state = .retrying) := by
  obtain ⟨head, hhead, hid, hstate⟩ := h
  exact ⟨head, HeadUpdate.of_modify hhead hid (fun _ => Table.find?_modify_eq _ _ _ _) rfl rfl,
    hstate⟩

theorem beginAttempt_headUpdate {lease : Lease} {attemptId : Token} {revisions : Revisions}
    {now : Us} (howns : q.ownsHead lease)
    (h : q.beginAttempt lease attemptId revisions now = some q') :
    ∃ head, HeadUpdate q q' lease.partitionId head
        { head with
          state := .attempting
          nextAttemptNotBeforeUs := none
          stateVersion := head.stateVersion + 1
          stateChangedAtUs := now } ∧
      head.intentId = lease.headId ∧
      q.attempts.insert? (newAttempt q lease attemptId revisions) = some q'.attempts ∧
      q'.resolutions = q.resolutions ∧ q'.partitions = q.partitions ∧ q'.blocks = q.blocks := by
  obtain ⟨head, hhead, hid, _⟩ := howns.head
  obtain ⟨attempts, hinsert, rfl⟩ := Option.map_eq_some_iff.mp h
  exact ⟨head, HeadUpdate.of_modify hhead hid (fun _ => Table.find?_modify_eq _ _ _ _) rfl rfl,
    hid, hinsert, rfl, rfl, rfl⟩

/-- A phase record leaves the intents alone but for the marker, which counts the
dispatch. -/
theorem recordPhase_intents {lease : Lease} {attemptId : Token} {kind : RecordKind} {now : Us}
    (howns : q.ownsHead lease) (h : q.recordPhase lease attemptId kind now = some q') :
    (q'.partitions = q.partitions ∧ q'.attempts = q.attempts ∧
      q'.resolutions = q.resolutions ∧ q'.blocks = q.blocks) ∧
    (q'.intents = q.intents ∨ ∃ head, HeadUpdate q q' lease.partitionId head
      { head with
        addDispatchCount := head.addDispatchCount + 1
        stateVersion := head.stateVersion + 1
        stateChangedAtUs := now }) := by
  cases kind with
  | membership =>
      obtain ⟨_, _, rfl⟩ := Option.map_eq_some_iff.mp h
      exact ⟨⟨rfl, rfl, rfl, rfl⟩, Or.inl rfl⟩
  | preflight =>
      obtain ⟨_, _, rfl⟩ := Option.map_eq_some_iff.mp h
      exact ⟨⟨rfl, rfl, rfl, rfl⟩, Or.inl rfl⟩
  | marker =>
      obtain ⟨head, hhead, hid, _⟩ := howns.head
      obtain ⟨_, _, rfl⟩ := Option.map_eq_some_iff.mp h
      exact ⟨⟨rfl, rfl, rfl, rfl⟩, Or.inr ⟨head,
        HeadUpdate.of_modify hhead hid (fun _ => Table.find?_modify_eq _ _ _ _) rfl rfl⟩⟩

theorem ResolveEffect.headUpdate {lease : Lease} {attemptId : Token} {r : Resolution}
    {delay : Int} {clock : ResolutionClock} (howns : q.ownsHead lease)
    (h : ResolveEffect q lease attemptId r delay clock q') :
    ∃ head, HeadUpdate q q' lease.partitionId head
        (resolvedIntent r (if q.marked attemptId then 1 else 0) delay clock.intent.us head) ∧
      q.intents.find? lease.headId = some head := by
  obtain ⟨head, hhead, hid, hfind⟩ := howns.head
  refine ⟨head, HeadUpdate.of_modify hhead hid (fun k => ?_) rfl rfl, hfind⟩
  rw [h.intents]
  exact Table.find?_modify_eq _ _ _ k

/-! ## Attempts -/

/-- The attempt is there and has no resolution. -/
def QueueTables.IsOpen (q : QueueTables) (attempt : SubmissionAttempt) : Prop :=
  attempt ∈ q.attempts ∧ q.unresolved attempt.attemptId

/-- What attempts and resolutions say about the intents. -/
structure AttemptAgreement (q : QueueTables) : Prop where
  intentKnown : ∀ attempt ∈ q.attempts, ∃ intent ∈ q.intents, intent.intentId = attempt.intentId
  attemptKnown : ∀ resolution ∈ q.resolutions,
    ∃ attempt ∈ q.attempts, attempt.attemptId = resolution.attemptId
  attempting : ∀ intent ∈ q.intents, intent.state = .attempting ↔
    ∃ attempt, q.IsOpen attempt ∧ attempt.intentId = intent.intentId
  single : ∀ left right, q.IsOpen left → q.IsOpen right → left.intentId = right.intentId →
    left = right
  /-- Behind the head every active member is queued and was never attempted. -/
  tail : ∀ partitionId head, q.headIntent partitionId = some head → ∀ intent ∈ q.intents,
    intent.partitionId = partitionId → intent.state.active = true → intent ≠ head →
    intent.state = .queued ∧ ∀ attempt ∈ q.attempts, attempt.intentId ≠ intent.intentId
  retryTime : ∀ intent ∈ q.intents,
    intent.nextAttemptNotBeforeUs.isSome = true ↔ intent.state = .retrying

namespace AttemptAgreement

theorem congr (h : AttemptAgreement q) (hi : q'.intents = q.intents)
    (ha : q'.attempts = q.attempts) (hr : q'.resolutions = q.resolutions) :
    AttemptAgreement q' := by
  cases q
  cases q'
  cases hi
  cases ha
  cases hr
  exact ⟨h.intentKnown, h.attemptKnown, h.attempting, h.single, h.tail, h.retryTime⟩

/-- A new queued member behind the others. -/
theorem enqueue (h : AttemptAgreement q) {new : SubmissionIntent}
    (heffect : EnqueueEffect q new q') (hunique : q'.OrdinalsUnique)
    (hqueued : new.state = .queued) (hretry : new.nextAttemptNotBeforeUs = none) :
    AttemptAgreement q' := by
  obtain ⟨hnew, hfresh, -, -, ha, -, -, -, hr, -⟩ := heffect
  have hopen : ∀ attempt, q'.IsOpen attempt ↔ q.IsOpen attempt := by
    intro attempt
    simp only [QueueTables.IsOpen, QueueTables.unresolved, ha, hr]
  have hnone : ∀ attempt ∈ q.attempts, attempt.intentId ≠ new.intentId := by
    intro attempt hmem heq
    obtain ⟨intent, hintent, hid⟩ := h.intentKnown attempt hmem
    exact Table.find?_eq_none.mp hfresh intent hintent (hid.trans heq)
  refine ⟨?_, ?_, ?_, ?_, ?_, ?_⟩
  · intro attempt hmem
    rw [ha] at hmem
    obtain ⟨intent, hintent, hid⟩ := h.intentKnown attempt hmem
    exact ⟨intent, (hnew.mem_iff intent).mpr (Or.inl hintent), hid⟩
  · rw [ha, hr]
    exact h.attemptKnown
  · intro intent hmem
    simp only [hopen]
    rcases (hnew.mem_iff intent).mp hmem with hold | rfl
    · exact h.attempting intent hold
    · rw [hqueued]
      refine iff_of_false (by decide) ?_
      rintro ⟨attempt, hattempt, hid⟩
      exact hnone attempt hattempt.1 hid
  · intro left right hleft hright
    exact h.single left right ((hopen left).mp hleft) ((hopen right).mp hright)
  · intro partitionId head hhead intent hmem hhome hactive hne
    rw [ha]
    rcases (hnew.mem_iff intent).mp hmem with hold | rfl
    · by_cases hpartition : partitionId = new.partitionId
      · subst hpartition
        cases htop : q.headIntent new.partitionId with
        | none =>
            have hinactive := QueueTables.headIntent_eq_none.mp htop intent hold hhome
            exact absurd (hinactive.symm.trans hactive) Bool.false_ne_true
        | some top =>
            rw [hnew.headIntent_of_some hunique htop] at hhead
            cases hhead
            exact h.tail _ _ htop intent hold hhome hactive hne
      · rw [hnew.headIntent_of_ne hunique hpartition] at hhead
        exact h.tail _ _ hhead intent hold hhome hactive hne
    · exact ⟨hqueued, hnone⟩
  · intro intent hmem
    rcases (hnew.mem_iff intent).mp hmem with hold | rfl
    · exact h.retryTime intent hold
    · rw [hqueued, hretry]
      decide

/-- A step that rewrites the head and touches only attempts of the head. -/
theorem of_headUpdate (h : AttemptAgreement q) {partitionId : Token}
    {head head' : SubmissionIntent} (hu : HeadUpdate q q' partitionId head head')
    (hunique : q'.OrdinalsUnique)
    (hattempts : ∀ attempt ∈ q'.attempts, attempt ∈ q.attempts ∨
      attempt.intentId = head.intentId)
    (hresolutions : ∀ resolution ∈ q'.resolutions,
      ∃ attempt ∈ q'.attempts, attempt.attemptId = resolution.attemptId)
    (hothers : ∀ attempt, attempt.intentId ≠ head.intentId →
      (q'.IsOpen attempt ↔ q.IsOpen attempt))
    (hheadOpen : head'.state = .attempting ↔
      ∃ attempt, q'.IsOpen attempt ∧ attempt.intentId = head.intentId)
    (hheadSingle : ∀ left right, q'.IsOpen left → q'.IsOpen right →
      left.intentId = head.intentId → right.intentId = head.intentId → left = right)
    (hheadRetry : head'.nextAttemptNotBeforeUs.isSome = true ↔ head'.state = .retrying) :
    AttemptAgreement q' := by
  refine ⟨?_, hresolutions, ?_, ?_, ?_, ?_⟩
  · intro attempt hmem
    by_cases hid : attempt.intentId = head.intentId
    · exact ⟨head', hu.head'_mem, hu.intentId.trans hid.symm⟩
    · rcases hattempts attempt hmem with hold | hsame
      · obtain ⟨intent, hintent, hintentId⟩ := h.intentKnown attempt hold
        exact ⟨intent, hu.mem_iff.mpr (Or.inr ⟨hintent, hintentId ▸ hid⟩), hintentId⟩
      · exact absurd hsame hid
  · intro intent hmem
    rcases hu.mem_iff.mp hmem with rfl | ⟨hold, hid⟩
    · rw [hu.intentId]
      exact hheadOpen
    · refine (h.attempting intent hold).trans (exists_congr fun attempt => ?_)
      refine and_congr_left fun hsame => (hothers attempt ?_).symm
      rw [hsame]
      exact hid
  · intro left right hleft hright hsame
    by_cases hid : left.intentId = head.intentId
    · exact hheadSingle left right hleft hright hid (hsame.symm.trans hid)
    · exact h.single left right ((hothers left hid).mp hleft)
        ((hothers right fun heq => hid (hsame.trans heq)).mp hright) hsame
  · intro other top htop intent hmem hhome hactive hne
    have hquiet : ∀ old ∈ q.intents, old.intentId ≠ head.intentId →
        (old.state = .queued ∧ ∀ attempt ∈ q.attempts, attempt.intentId ≠ old.intentId) →
        old.state = .queued ∧ ∀ attempt ∈ q'.attempts, attempt.intentId ≠ old.intentId := by
      rintro old - hid ⟨hqueued, hnone⟩
      refine ⟨hqueued, fun attempt hattempt heq => ?_⟩
      rcases hattempts attempt hattempt with hold | hsame
      · exact hnone attempt hold heq
      · exact hid (heq.symm.trans hsame)
    by_cases hpartition : other = partitionId
    · subst hpartition
      have hne' : intent ≠ head' := by
        rintro rfl
        rw [hu.headIntent_of_active hunique hactive] at htop
        exact hne (Option.some.inj htop)
      rcases hu.mem_iff.mp hmem with heq | ⟨hold, hid⟩
      · exact absurd heq hne'
      · exact hquiet intent hold hid
          (h.tail _ _ hu.wasHead intent hold hhome hactive fun heq => hid (heq ▸ rfl))
    · rw [hu.headIntent_of_ne hunique hpartition] at htop
      rcases hu.mem_iff.mp hmem with rfl | ⟨hold, hid⟩
      · exact absurd (hhome.symm.trans hu.partition) hpartition
      · exact hquiet intent hold hid (h.tail _ _ htop intent hold hhome hactive hne)
  · intro intent hmem
    rcases hu.mem_iff.mp hmem with rfl | ⟨hold, _⟩
    · exact hheadRetry
    · exact h.retryTime intent hold

/-- A head that is not attempting has no open attempt. -/
theorem not_open_of_head (h : AttemptAgreement q) {partitionId : Token} {head : SubmissionIntent}
    (hhead : q.headIntent partitionId = some head) (hstate : head.state ≠ .attempting)
    {attempt : SubmissionAttempt} (hopen : q.IsOpen attempt) :
    attempt.intentId ≠ head.intentId := by
  intro heq
  exact hstate ((h.attempting head (QueueTables.isHead_of_headIntent hhead).mem).mpr
    ⟨attempt, hopen, heq⟩)

theorem begin (h : AttemptAgreement q) (hunique : q'.OrdinalsUnique) {lease : Lease}
    {attemptId : Token} {revisions : Revisions} {now : Us} (howns : q.ownsHead lease)
    (hnone : ∀ attempt ∈ q.attempts, attempt.intentId = lease.headId →
      ¬ q.unresolved attempt.attemptId)
    (hwrite : q.beginAttempt lease attemptId revisions now = some q') : AttemptAgreement q' := by
  obtain ⟨head, hu, hid, hinsert, hresolutions, _⟩ := beginAttempt_headUpdate howns hwrite
  let new := newAttempt q lease attemptId revisions
  have hmem : ∀ attempt, attempt ∈ q'.attempts ↔ attempt ∈ q.attempts ∨ attempt = new :=
    fun attempt => Table.mem_insert? hinsert
  have hfresh : q'.unresolved new.attemptId := by
    refine Table.find?_eq_none.mpr fun resolution hresolution hkey => ?_
    rw [hresolutions] at hresolution
    obtain ⟨attempt, hattempt, hid'⟩ := h.attemptKnown resolution hresolution
    exact Table.find?_eq_none.mp (Table.insert?_eq_some hinsert).1 attempt hattempt
      (hid'.trans hkey)
  -- the new attempt is the only open one of the head
  have hnew : ∀ attempt, q'.IsOpen attempt → attempt.intentId = head.intentId →
      attempt = new := by
    rintro attempt ⟨hattempt, hunresolved⟩ hsame
    refine ((hmem attempt).mp hattempt).resolve_left fun hold => ?_
    rw [QueueTables.unresolved, hresolutions] at hunresolved
    exact hnone attempt hold (hsame.trans hid) hunresolved
  refine h.of_headUpdate hu hunique ?_ ?_ ?_ ?_ ?_ ?_
  · intro attempt hattempt
    rcases (hmem attempt).mp hattempt with hold | rfl
    · exact Or.inl hold
    · exact Or.inr hid.symm
  · intro resolution hresolution
    rw [hresolutions] at hresolution
    obtain ⟨attempt, hattempt, hkey⟩ := h.attemptKnown resolution hresolution
    exact ⟨attempt, (hmem attempt).mpr (Or.inl hattempt), hkey⟩
  · intro attempt hne
    simp only [QueueTables.IsOpen, QueueTables.unresolved, hresolutions, hmem]
    refine and_congr_left fun _ => or_iff_left ?_
    rintro rfl
    exact hne hid.symm
  · exact iff_of_true rfl ⟨new, ⟨(hmem new).mpr (Or.inr rfl), hfresh⟩, hid.symm⟩
  · intro left right hleft hright hleftId hrightId
    rw [hnew left hleft hleftId, hnew right hright hrightId]
  · exact iff_of_false Bool.false_ne_true IntentState.noConfusion

theorem resolve (h : AttemptAgreement q) (hunique : q'.OrdinalsUnique) {lease : Lease}
    {attemptId : Token} {r : Resolution} {delay : Int} {clock : ResolutionClock}
    (hguard : resolveGuard q lease attemptId)
    (heffect : ResolveEffect q lease attemptId r delay clock q') : AttemptAgreement q' := by
  obtain ⟨howns, ⟨attempt, hattempt, hintentId⟩, hunresolved⟩ := hguard
  obtain ⟨head, hu, hfind⟩ := heffect.headUpdate howns
  have hid : head.intentId = lease.headId := Table.key_of_find? hfind
  have hopen : ∀ other, q'.IsOpen other ↔ q.IsOpen other ∧ other.attemptId ≠ attemptId := by
    intro other
    simp only [QueueTables.IsOpen, QueueTables.unresolved, heffect.attempts,
      Table.find?_insert? heffect.resolutions]
    by_cases hother : other.attemptId = attemptId
    · simp [hother]
    · simp [hother]
  -- the resolved attempt was the only open one of the head
  have hclosed : ∀ other, q'.IsOpen other → other.intentId ≠ head.intentId := by
    intro other hother hsame
    obtain ⟨hwas, hne⟩ := (hopen other).mp hother
    have hthis : q.IsOpen attempt :=
      ⟨Table.mem_of_find? hattempt, (Table.key_of_find? hattempt).symm ▸ hunresolved⟩
    have heq := h.single other attempt hwas hthis (hsame.trans (hid.trans hintentId.symm))
    exact hne (heq ▸ Table.key_of_find? hattempt)
  refine h.of_headUpdate hu hunique ?_ ?_ ?_ ?_ ?_ ?_
  · intro other hmem
    rw [heffect.attempts] at hmem
    exact Or.inl hmem
  · intro resolution hmem
    rw [heffect.attempts]
    rcases (Table.mem_insert? heffect.resolutions).mp hmem with hold | rfl
    · exact h.attemptKnown resolution hold
    · exact ⟨attempt, Table.mem_of_find? hattempt, Table.key_of_find? hattempt⟩
  · intro other hne
    refine (hopen other).trans (and_iff_left_of_imp fun hwas heq => hne ?_)
    have hsame : other = attempt := Table.eq_of_key_eq hwas.1 (Table.mem_of_find? hattempt)
      (heq.trans (Table.key_of_find? hattempt).symm)
    rw [hsame, hintentId, hid]
  · refine iff_of_false r.outcome.state_ne_attempting ?_
    rintro ⟨other, hother, hsame⟩
    exact hclosed other hother hsame
  · intro left right hleft _ hsame
    exact absurd hsame (hclosed left hleft)
  · by_cases hretrying : r.outcome = .retrying <;> simp [resolvedIntent, hretrying]

theorem step (h : AttemptAgreement q) (hq : QueueStructure q) (hq' : QueueStructure q')
    (hstep : QueueStep q q') : AttemptAgreement q' := by
  cases hstep with
  | admission hinsert =>
      cases hinsert with
      | addPartition => exact h.congr rfl rfl rfl
      | enqueue _ hpartition _ hinsert =>
          exact h.enqueue (hq.enqueue_effect hpartition hinsert) hq'.ordinals rfl rfl
  | claim => exact h.congr rfl rfl rfl
  | renew => exact h.congr rfl rfl rfl
  | release => exact h.congr rfl rfl rfl
  | defer _ hdeferrable =>
      obtain ⟨head, hu, hstate⟩ := deferTo_headUpdate hdeferrable _ _
      have hquiet : head.state ≠ .attempting := by
        rcases hstate with hstate | hstate <;> rw [hstate] <;> exact IntentState.noConfusion
      refine h.of_headUpdate hu hq'.ordinals (fun _ => Or.inl) h.attemptKnown
        (fun _ _ => Iff.rfl) ?_ ?_ ?_
      · refine iff_of_false IntentState.noConfusion ?_
        rintro ⟨attempt, hopen, heq⟩
        exact h.not_open_of_head hu.wasHead hquiet hopen heq
      · intro left right hleft _ hid
        exact absurd hid (h.not_open_of_head hu.wasHead hquiet hleft)
      · exact iff_of_true rfl rfl
  | begin howns _ _ _ hnone hwrite => exact h.begin hq'.ordinals howns hnone hwrite
  | record howns _ _ hwrite =>
      obtain ⟨⟨_, hattempts, hresolutions, _⟩, hintents | ⟨head, hu⟩⟩ :=
        recordPhase_intents howns hwrite
      · exact h.congr hintents hattempts hresolutions
      · have hopen : ∀ attempt, q'.IsOpen attempt ↔ q.IsOpen attempt := by
          intro attempt
          simp only [QueueTables.IsOpen, QueueTables.unresolved, hattempts, hresolutions]
        refine h.of_headUpdate hu hq'.ordinals ?_ ?_ (fun attempt _ => hopen attempt) ?_ ?_ ?_
        · rw [hattempts]
          exact fun _ => Or.inl
        · rw [hattempts, hresolutions]
          exact h.attemptKnown
        · simp only [hopen]
          exact h.attempting head hu.head_mem
        · intro left right hleft hright hleftId hrightId
          exact h.single left right ((hopen left).mp hleft) ((hopen right).mp hright)
            (hleftId.trans hrightId.symm)
        · exact h.retryTime head hu.head_mem
  | resolve hguard hwrite =>
      exact h.resolve hq'.ordinals hguard (QueueTables.resolve_effect hwrite)

end AttemptAgreement

/-! ## Due times -/

/-- The due time of a partition is the one its head asks for; an attempting head
only asks for some due time. -/
def dueAgrees (partition : GroupPartition) : Option SubmissionIntent → Prop
  | none => partition.nextWorkNotBeforeUs = none
  | some head => ∃ due, partition.nextWorkNotBeforeUs = some due ∧
      (head.state = .queued → due = head.createdAtUs) ∧
      (head.state = .retrying → head.nextAttemptNotBeforeUs = some due) ∧
      (head.state = .throttled → partition.nextProbeNotBeforeUs = some due)

/-- Every due time agrees with the head, and a lease was taken when it had come. -/
structure DueAgreement (q : QueueTables) : Prop where
  due : ∀ k partition, q.partitions.find? k = some partition →
    dueAgrees partition (q.headIntent k)
  leaseDue : ∀ k partition, q.partitions.find? k = some partition →
    ∀ columns ∈ partition.lease, ∃ due ∈ partition.nextWorkNotBeforeUs,
      due ≤ columns.startedAtUs

theorem dueAgrees_of_isSome {partition : GroupPartition} {head : Option SubmissionIntent}
    (h : dueAgrees partition head) {due : Us} (hdue : partition.nextWorkNotBeforeUs = some due) :
    head.isSome = true := by
  cases head with
  | none => cases h.symm.trans hdue
  | some => rfl

/-- The row of a partition may change in the columns the agreement does not read. -/
theorem dueAgrees.congr {partition partition' : GroupPartition}
    {head : Option SubmissionIntent} (h : dueAgrees partition head)
    (hdue : partition'.nextWorkNotBeforeUs = partition.nextWorkNotBeforeUs)
    (hprobe : partition'.nextProbeNotBeforeUs = partition.nextProbeNotBeforeUs) :
    dueAgrees partition' head := by
  cases head with
  | none => exact hdue.trans h
  | some => simpa only [dueAgrees, hdue, hprobe] using h

namespace DueAgreement

theorem congr (h : DueAgreement q) (hpartitions : q'.partitions = q.partitions)
    (hintents : q'.intents = q.intents) : DueAgreement q' := by
  constructor
  · rw [hpartitions]
    intro k
    rw [QueueTables.headIntent_congr hintents]
    exact h.due k
  · rw [hpartitions]
    exact h.leaseDue

/-- A step that touches the row and the head of one partition only. -/
theorem of_partitionChange (h : DueAgreement q) {partitionId : Token}
    {f : GroupPartition → GroupPartition}
    (hpartitions : ∀ k, q'.partitions.find? k =
      if k = partitionId then (q.partitions.find? k).map f else q.partitions.find? k)
    (hheads : ∀ k, k ≠ partitionId → q'.headIntent k = q.headIntent k)
    (hdue : ∀ partition, q.partitions.find? partitionId = some partition →
      dueAgrees (f partition) (q'.headIntent partitionId))
    (hlease : ∀ partition, q.partitions.find? partitionId = some partition →
      ∀ columns ∈ (f partition).lease, ∃ due ∈ (f partition).nextWorkNotBeforeUs,
        due ≤ columns.startedAtUs) : DueAgreement q' := by
  constructor
  · intro k partition' hfind
    rw [hpartitions] at hfind
    by_cases hk : k = partitionId
    · subst hk
      rw [if_pos rfl] at hfind
      obtain ⟨partition, hold, rfl⟩ := Option.map_eq_some_iff.mp hfind
      exact hdue partition hold
    · rw [if_neg hk] at hfind
      rw [hheads k hk]
      exact h.due k partition' hfind
  · intro k partition' hfind
    rw [hpartitions] at hfind
    by_cases hk : k = partitionId
    · subst hk
      rw [if_pos rfl] at hfind
      obtain ⟨partition, hold, rfl⟩ := Option.map_eq_some_iff.mp hfind
      exact hlease partition hold
    · rw [if_neg hk] at hfind
      exact h.leaseDue k partition' hfind

/-- The head was rewritten and stays active; the partitions are as before. -/
theorem of_activeUpdate (h : DueAgreement q) {partitionId : Token} {head head' : SubmissionIntent}
    (hu : HeadUpdate q q' partitionId head head') (hunique : q'.OrdinalsUnique)
    (hpartitions : q'.partitions = q.partitions) (hactive : head'.state.active = true)
    (hsame : ∀ partition, dueAgrees partition (some head) → dueAgrees partition (some head')) :
    DueAgreement q' := by
  have hrows : ∀ k, q'.partitions.find? k =
      if k = partitionId then (q.partitions.find? k).map id else q.partitions.find? k := by
    intro k
    simp [hpartitions]
  refine h.of_partitionChange hrows (fun k hk => hu.headIntent_of_ne hunique hk) ?_ ?_
  · intro partition hfind
    rw [hu.headIntent_of_active hunique hactive]
    exact hsame partition (hu.wasHead ▸ h.due _ partition hfind)
  · intro partition hfind
    exact h.leaseDue _ partition hfind

theorem addPartition (h : DueAgreement q) (hq : QueueStructure q)
    {partitionId userId groupId : Token} {partitions : Table GroupPartition.partitionId}
    (hinsert : q.partitions.insert? (newPartition partitionId userId groupId) =
      some partitions) : DueAgreement ({ q with partitions := partitions } : QueueTables) := by
  have hfresh : q.partitions.find? partitionId = none := (Table.insert?_eq_some hinsert).1
  have hidle : q.headIntent partitionId = none := by
    refine QueueTables.headIntent_eq_none.mpr fun intent hmem hhome => ?_
    obtain ⟨partition, hfind, _⟩ := hq.home intent hmem
    rw [hhome, hfresh] at hfind
    cases hfind
  constructor
  · intro k partition hfind
    simp only [Table.find?_insert? hinsert] at hfind
    split at hfind
    · next hk =>
        cases hfind
        have hhead : q.headIntent k = none := hk ▸ hidle
        exact hhead ▸ (rfl : dueAgrees (newPartition partitionId userId groupId) none)
    · exact h.due k partition hfind
  · intro k partition hfind columns hcolumns
    simp only [Table.find?_insert? hinsert] at hfind
    split at hfind
    · cases hfind
      cases hcolumns
    · exact h.leaseDue k partition hfind columns hcolumns

theorem enqueue (h : DueAgreement q) {new : SubmissionIntent}
    (heffect : EnqueueEffect q new q') (hunique : q'.OrdinalsUnique)
    (hqueued : new.state = .queued) : DueAgreement q' := by
  refine h.of_partitionChange heffect.partitions
    (fun k hk => heffect.tail.headIntent_of_ne hunique hk) ?_ ?_
  · intro partition hfind
    have hold := h.due _ partition hfind
    cases hhead : q.headIntent new.partitionId with
    | none =>
        rw [heffect.tail.headIntent_of_none hunique hhead]
        refine ⟨new.createdAtUs, if_pos hhead, fun _ => rfl, ?_, ?_⟩ <;>
          exact fun hstate => IntentState.noConfusion (hqueued.symm.trans hstate)
    | some head =>
        rw [hhead] at hold
        rw [heffect.tail.headIntent_of_some hunique hhead]
        refine hold.congr (if_neg ?_) rfl
        rw [hhead]
        exact Option.some_ne_none head
  · intro partition hfind columns hcolumns
    obtain ⟨due, hdue, hle⟩ := h.leaseDue _ partition hfind columns hcolumns
    refine ⟨due, (if_neg fun hidle => ?_).trans hdue, hle⟩
    have hhead := dueAgrees_of_isSome (h.due _ partition hfind) hdue
    rw [hidle] at hhead
    cases hhead

/-- A due time recomputed from the head agrees with it. -/
theorem of_headDue (hattempts : AttemptAgreement q) {partition partition' : GroupPartition}
    (hdue : partition'.nextWorkNotBeforeUs = q.headDue partition)
    (hprobe : partition'.nextProbeNotBeforeUs = partition.nextProbeNotBeforeUs)
    (hthrottled : ∀ head, q.headIntent partition.partitionId = some head →
      head.state = .throttled → partition.nextProbeNotBeforeUs.isSome = true) :
    dueAgrees partition' (q.headIntent partition.partitionId) := by
  unfold QueueTables.headDue at hdue
  cases hhead : q.headIntent partition.partitionId with
  | none =>
      rw [hhead] at hdue
      exact hdue
  | some head =>
      have hretry := hattempts.retryTime head (QueueTables.isHead_of_headIntent hhead).mem
      rw [hhead, Option.bind_some] at hdue
      by_cases hstate : head.state = .throttled
      · obtain ⟨due, hprobeDue⟩ := Option.isSome_iff_exists.mp (hthrottled head hhead hstate)
        rw [if_pos hstate, hprobeDue] at hdue
        refine ⟨due, hdue, ?_, ?_, fun _ => hprobe.trans hprobeDue⟩ <;>
          exact fun hother => IntentState.noConfusion (hstate.symm.trans hother)
      · rw [if_neg hstate] at hdue
        cases hnext : head.nextAttemptNotBeforeUs with
        | none =>
            have hnot : head.state ≠ .retrying := by
              rw [Ne, ← hretry, hnext]
              exact Bool.false_ne_true
            rw [hnext] at hdue
            exact ⟨head.createdAtUs, hdue, fun _ => rfl, fun h => absurd h hnot,
              fun h => absurd h hstate⟩
        | some due =>
            have his : head.state = .retrying := hretry.mp (by rw [hnext]; rfl)
            rw [hnext] at hdue
            exact ⟨due, hdue, fun h => IntentState.noConfusion (his.symm.trans h),
              fun _ => hnext, fun h => absurd h hstate⟩

/-- A resolution recomputes the due time from the head it leaves. -/
theorem resolve (h : DueAgreement q) (hattempts : AttemptAgreement q)
    (hattempts' : AttemptAgreement q') (hunique : q'.OrdinalsUnique) {lease : Lease}
    {attemptId : Token} {r : Resolution} {delay : Int} {clock : ResolutionClock}
    (howns : q.ownsHead lease) (heffect : ResolveEffect q lease attemptId r delay clock q') :
    DueAgreement q' := by
  obtain ⟨head, hu, _⟩ := heffect.headUpdate howns
  refine h.of_partitionChange heffect.partitions (fun k hk => hu.headIntent_of_ne hunique hk) ?_ ?_
  · intro partition hfind
    let probed := probedPartition r (clock.probe.us + delay * 1000) partition
    have hkey : probed.partitionId = lease.partitionId := by
      refine Eq.trans ?_ (Table.key_of_find? hfind)
      simp only [probed, probedPartition]
      split <;> rfl
    rw [← hkey]
    refine of_headDue hattempts' rfl rfl fun top htop hthrottled => ?_
    rw [hkey] at htop
    have hisHead := QueueTables.isHead_of_headIntent htop
    rcases hu.mem_iff.mp hisHead.mem with rfl | ⟨hold, hne⟩
    · have houtcome : r.outcome = .throttled := (DispatchOutcome.state_eq_throttled _).mp hthrottled
      simp only [probed, probedPartition, if_pos houtcome]
      rfl
    · have hqueued := (hattempts.tail _ _ hu.wasHead top hold hisHead.partition hisHead.active
        fun heq => hne (heq ▸ rfl)).1
      exact IntentState.noConfusion (hqueued.symm.trans hthrottled)
  · intro partition _ columns hcolumns
    cases hcolumns

theorem step (h : DueAgreement q) (hattempts : AttemptAgreement q)
    (hattempts' : AttemptAgreement q') (hq : QueueStructure q) (hq' : QueueStructure q')
    (hstep : QueueStep q q') : DueAgreement q' := by
  cases hstep with
  | admission hinsert =>
      cases hinsert with
      | addPartition _ hinsert => exact h.addPartition hq hinsert
      | enqueue _ hpartition _ hinsert =>
          exact h.enqueue (hq.enqueue_effect hpartition hinsert) hq'.ordinals rfl
  | claim hfind _ hdue _ =>
      refine h.of_partitionChange (fun k => Table.find?_modify_eq _ _ _ k) (fun _ _ => rfl) ?_ ?_
      · intro partition hfind
        exact (h.due _ partition hfind).congr rfl rfl
      · rintro partition hpartition columns ⟨⟩
        cases hpartition.symm.trans hfind
        exact hdue
  | renew _ =>
      refine h.of_partitionChange (fun k => Table.find?_modify_eq _ _ _ k) (fun _ _ => rfl) ?_ ?_
      · intro partition hfind
        exact (h.due _ partition hfind).congr rfl rfl
      · intro partition hfind columns hcolumns
        obtain ⟨old, hold, rfl⟩ := Option.map_eq_some_iff.mp hcolumns
        exact h.leaseDue _ partition hfind old hold
  | release _ =>
      refine h.of_partitionChange (fun k => Table.find?_modify_eq _ _ _ k) (fun _ _ => rfl) ?_ ?_
      · intro partition hfind
        exact (h.due _ partition hfind).congr rfl rfl
      · intro partition _ columns hcolumns
        cases hcolumns
  | defer _ hdeferrable =>
      obtain ⟨head, hu, _⟩ := deferTo_headUpdate hdeferrable _ _
      refine h.of_partitionChange (fun k => Table.find?_modify_eq _ _ _ k)
        (fun k hk => hu.headIntent_of_ne hq'.ordinals hk) ?_ ?_
      · intro partition _
        rw [hu.headIntent_of_active hq'.ordinals rfl]
        exact ⟨_, rfl, nofun, fun _ => rfl, nofun⟩
      · intro partition _ columns hcolumns
        cases hcolumns
  | begin howns _ _ _ _ hwrite =>
      obtain ⟨head, hu, _, _, _, hpartitions, _⟩ := beginAttempt_headUpdate howns hwrite
      refine h.of_activeUpdate hu hq'.ordinals hpartitions rfl ?_
      rintro partition ⟨due, hdue, _⟩
      exact ⟨due, hdue, nofun, nofun, nofun⟩
  | record howns _ _ hwrite =>
      obtain ⟨⟨hpartitions, _⟩, hintents | ⟨head, hu⟩⟩ := recordPhase_intents howns hwrite
      · exact h.congr hpartitions hintents
      · refine h.of_activeUpdate hu hq'.ordinals hpartitions hu.isHead.active ?_
        exact fun _ hsame => hsame
  | resolve hguard hwrite =>
      exact h.resolve hattempts hattempts' hq'.ordinals hguard.1 (QueueTables.resolve_effect hwrite)

end DueAgreement

/-! ## Blocks and terminal states -/

/-- The block the state of an intent calls for. -/
def blockAgrees (intent : SubmissionIntent) : Option SubmissionBlock → Prop
  | none => intent.state ≠ .deliveryUncertain ∧ intent.state ≠ .moderationSubmitted
  | some block =>
      (intent.state = .deliveryUncertain ∧ block.firstReason = "delivery_uncertain") ∨
      (intent.state = .moderationSubmitted ∧
        (block.firstReason = "flickr_code_6" ∨ block.firstReason = "flickr_code_7"))

/-- Blocks and terminal times agree with the states. -/
structure BlockAgreement (q : QueueTables) : Prop where
  terminal : ∀ intent ∈ q.intents,
    intent.terminalAtUs.isSome = true ↔ intent.state.active = false
  block : ∀ intent ∈ q.intents,
    blockAgrees intent (q.blocks.find? (intent.photoId, intent.groupId))
  intentKnown : ∀ block ∈ q.blocks,
    ∃ intent ∈ q.intents, intent.photoId = block.photoId ∧ intent.groupId = block.groupId

theorem IntentState.of_active {state : IntentState} (h : state.active = true) :
    state ≠ .deliveryUncertain ∧ state ≠ .moderationSubmitted := by
  constructor <;> rintro rfl <;> cases h

/-- Only a moderation answer has the reason of a moderation code. -/
theorem ResolutionSite.reason_class (site : ResolutionSite) (artifact : Option String) :
    ((site.resolution artifact).outcome = .deliveryUncertain →
      ¬ ((site.resolution artifact).reason = "flickr_code_6" ∨
        (site.resolution artifact).reason = "flickr_code_7")) ∧
    ((site.resolution artifact).outcome = .moderationSubmitted →
      (site.resolution artifact).reason = "flickr_code_6" ∨
      (site.resolution artifact).reason = "flickr_code_7") := by
  cases site with
  | recovered marked => cases marked <;> exact ⟨fun _ => by simp [resolution], nofun⟩
  | rateUnavailable => exact ⟨nofun, nofun⟩
  | unavailable code => cases code <;> exact ⟨nofun, nofun⟩
  | membershipPresent => exact ⟨nofun, nofun⟩
  | preflightExpired => exact ⟨nofun, nofun⟩
  | transportAborted => exact ⟨nofun, nofun⟩
  | unresolvedDispatch => exact ⟨fun _ => by simp [resolution], nofun⟩
  | answered result =>
      simp only [ResolutionSite.resolution]
      rcases classifyAdd_cases result with ⟨_, _, h⟩ | ⟨reason, hreason, h⟩ | ⟨_, _, h⟩ | h |
        ⟨_, _, _, h⟩ | ⟨_, _, _, h⟩ | ⟨_, _, _, h⟩ | ⟨_, _, _, h⟩ <;> rw [h]
      · exact ⟨nofun, nofun⟩
      · refine ⟨nofun, fun _ => ?_⟩
        simpa using hreason
      · exact ⟨nofun, nofun⟩
      · exact ⟨nofun, nofun⟩
      · exact ⟨nofun, nofun⟩
      · exact ⟨nofun, nofun⟩
      · exact ⟨nofun, nofun⟩
      · exact ⟨fun _ => by simp, nofun⟩

namespace BlockAgreement

theorem congr (h : BlockAgreement q) (hi : q'.intents = q.intents)
    (hb : q'.blocks = q.blocks) : BlockAgreement q' := by
  cases q
  cases q'
  cases hi
  cases hb
  exact ⟨h.terminal, h.block, h.intentKnown⟩

/-- The pair of an active intent has no block. -/
theorem find?_of_active (h : BlockAgreement q) {intent : SubmissionIntent}
    (hmem : intent ∈ q.intents) (hactive : intent.state.active = true) :
    q.blocks.find? (intent.photoId, intent.groupId) = none := by
  have hstate := IntentState.of_active hactive
  have hblock := h.block intent hmem
  cases hfind : q.blocks.find? (intent.photoId, intent.groupId) with
  | none => rfl
  | some block =>
      rw [hfind] at hblock
      rcases hblock with ⟨hbad, _⟩ | ⟨hbad, _⟩
      · exact absurd hbad hstate.1
      · exact absurd hbad hstate.2

theorem enqueue (h : BlockAgreement q) {new : SubmissionIntent}
    (heffect : EnqueueEffect q new q') (hnone : ¬ q.blocked new.photoId new.groupId)
    (hterminal : new.terminalAtUs = none) : BlockAgreement q' := by
  refine ⟨?_, ?_, ?_⟩
  · intro intent hmem
    rcases (heffect.tail.mem_iff intent).mp hmem with hold | rfl
    · exact h.terminal intent hold
    · rw [hterminal, heffect.tail.active]
      decide
  · intro intent hmem
    rw [heffect.blocks]
    rcases (heffect.tail.mem_iff intent).mp hmem with hold | rfl
    · exact h.block intent hold
    · rw [Option.not_isSome_iff_eq_none.mp hnone]
      exact IntentState.of_active heffect.tail.active
  · intro block hmem
    rw [heffect.blocks] at hmem
    obtain ⟨intent, hintent, hpair⟩ := h.intentKnown block hmem
    exact ⟨intent, (heffect.tail.mem_iff intent).mpr (Or.inl hintent), hpair⟩

/-- A step that rewrites the head and may block its pair. -/
theorem of_headUpdate (h : BlockAgreement q) (hq : QueueStructure q) {partitionId : Token}
    {head head' : SubmissionIntent} (hu : HeadUpdate q q' partitionId head head')
    (hterminal : head'.terminalAtUs.isSome = true ↔ head'.state.active = false)
    (hblock : blockAgrees head' (q'.blocks.find? (head.photoId, head.groupId)))
    (hothers : ∀ pair, pair ≠ (head.photoId, head.groupId) →
      q'.blocks.find? pair = q.blocks.find? pair) : BlockAgreement q' := by
  have hphoto : head'.photoId = head.photoId := congrArg IntentIdentity.photoId hu.identity
  have hgroup : head'.groupId = head.groupId := congrArg IntentIdentity.groupId hu.identity
  refine ⟨?_, ?_, ?_⟩
  · intro intent hmem
    rcases hu.mem_iff.mp hmem with rfl | ⟨hold, _⟩
    · exact hterminal
    · exact h.terminal intent hold
  · intro intent hmem
    rcases hu.mem_iff.mp hmem with rfl | ⟨hold, hid⟩
    · rw [hphoto, hgroup]
      exact hblock
    · rw [hothers]
      · exact h.block intent hold
      · intro hpair
        have hsame : intent = head := hq.pairs intent hold head hu.head_mem
          (congrArg Prod.fst hpair) (congrArg Prod.snd hpair)
        exact hid (hsame ▸ rfl)
  · intro block hmem
    by_cases hpair : block.pair = (head.photoId, head.groupId)
    · exact ⟨head', hu.head'_mem, hphoto.trans (congrArg Prod.fst hpair).symm,
        hgroup.trans (congrArg Prod.snd hpair).symm⟩
    · have hfind := Table.find?_of_mem hmem
      rw [hothers _ hpair] at hfind
      obtain ⟨intent, hintent, hsame⟩ := h.intentKnown block (Table.mem_of_find? hfind)
      by_cases hid : intent.intentId = head.intentId
      · have hsameRow : intent = head := Table.eq_of_key_eq hintent hu.head_mem hid
        rw [hsameRow] at hsame
        exact ⟨head', hu.head'_mem, hphoto.trans hsame.1, hgroup.trans hsame.2⟩
      · exact ⟨intent, hu.mem_iff.mpr (Or.inr ⟨hintent, hid⟩), hsame⟩

/-- A head that stays active keeps its null terminal time and has no block. -/
theorem of_activeUpdate (h : BlockAgreement q) (hq : QueueStructure q) {partitionId : Token}
    {head head' : SubmissionIntent} (hu : HeadUpdate q q' partitionId head head')
    (hterminal : head'.terminalAtUs = head.terminalAtUs) (hactive : head'.state.active = true)
    (hblocks : q'.blocks = q.blocks) : BlockAgreement q' := by
  refine h.of_headUpdate hq hu ?_ ?_ ?_
  · rw [hterminal, h.terminal head hu.head_mem, hactive, hu.isHead.active]
  · rw [hblocks, h.find?_of_active hu.head_mem hu.isHead.active]
    exact IntentState.of_active hactive
  · intro pair _
    rw [hblocks]

/-- A resolution blocks the pair exactly when the outcome says so. -/
theorem resolve (h : BlockAgreement q) (hq : QueueStructure q) {lease : Lease}
    {attemptId : Token} {site : ResolutionSite} {artifact : Option String} {delay : Int}
    {clock : ResolutionClock} (howns : q.ownsHead lease)
    (heffect : ResolveEffect q lease attemptId (site.resolution artifact) delay clock q') :
    BlockAgreement q' := by
  obtain ⟨head, hu, hfind⟩ := heffect.headUpdate howns
  have hreason := site.reason_class artifact
  generalize site.resolution artifact = r at heffect hu hreason
  have hfree := h.find?_of_active hu.head_mem hu.isHead.active
  have hwrite := heffect.blocks
  simp only [QueueTables.blockPair, hfind] at hwrite
  have hterminal : (resolvedIntent r (if q.marked attemptId then 1 else 0) delay
      clock.intent.us head).terminalAtUs.isSome = true ↔ r.outcome.state.active = false := by
    rw [r.active_outcome]
    cases hterminal : r.terminal <;> simp [resolvedIntent, hterminal]
  by_cases hblocks : r.blocks = true
  · have hfree' : ¬ q.blocked head.photoId head.groupId := by
      rw [QueueTables.blocked, hfree]
      exact Bool.false_ne_true
    rw [if_pos hblocks, if_neg hfree'] at hwrite
    obtain ⟨blocks, hinsert, hsame⟩ := Option.map_eq_some_iff.mp hwrite
    obtain rfl : blocks = q'.blocks := congrArg QueueTables.blocks hsame
    have hfind' := fun pair => Table.find?_insert? hinsert pair
    refine h.of_headUpdate hq hu hterminal ?_ ?_
    · rw [(hfind' (head.photoId, head.groupId)).trans (if_pos rfl)]
      rcases r.blocks_iff.mp hblocks with houtcome | houtcome
      · refine Or.inr ⟨?_, ?_⟩
        · simp only [resolvedIntent, houtcome, DispatchOutcome.state]
        · simp only [Resolution.blockReason, if_pos (hreason.2 houtcome)]
          exact hreason.2 houtcome
      · refine Or.inl ⟨?_, ?_⟩
        · simp only [resolvedIntent, houtcome, DispatchOutcome.state]
        · exact if_neg (hreason.1 houtcome)
    · intro pair hpair
      exact (hfind' pair).trans (if_neg hpair)
  · rw [if_neg hblocks] at hwrite
    have hsame : q'.blocks = q.blocks :=
      (congrArg QueueTables.blocks (Option.some.inj hwrite)).symm
    refine h.of_headUpdate hq hu hterminal ?_ ?_
    · rw [hsame, hfree]
      rw [r.blocks_iff] at hblocks
      simp only [blockAgrees, resolvedIntent]
      cases houtcome : r.outcome <;> simp_all [DispatchOutcome.state]
    · intro pair _
      rw [hsame]

theorem step (h : BlockAgreement q) (hq : QueueStructure q) (hstep : QueueStep q q') :
    BlockAgreement q' := by
  cases hstep with
  | admission hinsert =>
      cases hinsert with
      | addPartition => exact h.congr rfl rfl
      | enqueue _ hpartition hnone hinsert =>
          exact h.enqueue (hq.enqueue_effect hpartition hinsert) hnone rfl
  | claim => exact h.congr rfl rfl
  | renew => exact h.congr rfl rfl
  | release => exact h.congr rfl rfl
  | defer _ hdeferrable =>
      obtain ⟨head, hu, _⟩ := deferTo_headUpdate hdeferrable _ _
      exact h.of_activeUpdate hq hu rfl rfl rfl
  | begin howns _ _ _ _ hwrite =>
      obtain ⟨head, hu, _, _, _, _, hblocks⟩ := beginAttempt_headUpdate howns hwrite
      exact h.of_activeUpdate hq hu rfl rfl hblocks
  | record howns _ _ hwrite =>
      obtain ⟨⟨_, _, _, hblocks⟩, hintents | ⟨head, hu⟩⟩ := recordPhase_intents howns hwrite
      · exact h.congr hintents hblocks
      · exact h.of_activeUpdate hq hu rfl hu.isHead.active hblocks
  | resolve hguard hwrite =>
      exact h.resolve hq hguard.1 (QueueTables.resolve_effect hwrite)

end BlockAgreement

/-! ## All of them -/

/-- What holds of the queue tables in every reachable state. -/
structure QueueInvariant (q : QueueTables) : Prop where
  layout : QueueStructure q
  attempts : AttemptAgreement q
  due : DueAgreement q
  blocks : BlockAgreement q

theorem QueueInvariant.step (h : QueueInvariant q) (hstep : QueueStep q q') :
    QueueInvariant q' :=
  have hlayout := h.layout.step hstep
  have hattempts := h.attempts.step h.layout hlayout hstep
  ⟨hlayout, hattempts, h.due.step h.attempts hattempts h.layout hlayout hstep,
    h.blocks.step h.layout hstep⟩

theorem QueueInvariant.initially : QueueInvariant emptyDb.queue := by
  have hintents : ∀ intent, intent ∉ emptyDb.queue.intents := Table.not_mem_empty
  have hattempts : ∀ attempt, attempt ∉ emptyDb.queue.attempts := Table.not_mem_empty
  have hpartitions : ∀ partition, partition ∉ emptyDb.queue.partitions := Table.not_mem_empty
  refine ⟨⟨?_, ?_, ?_, ?_, ?_, ?_⟩, ⟨?_, ?_, ?_, ?_, ?_, ?_⟩, ⟨?_, ?_⟩, ⟨?_, ?_, ?_⟩⟩
  · exact fun intent hmem => absurd hmem (hintents intent)
  · exact fun left hmem => absurd hmem (hpartitions left)
  · exact fun left hmem => absurd hmem (hintents left)
  · exact fun left hmem => absurd hmem (hintents left)
  · exact fun partition hmem => absurd hmem (hpartitions partition)
  · exact fun partition hmem => absurd hmem (hpartitions partition)
  · exact fun attempt hmem => absurd hmem (hattempts attempt)
  · exact fun resolution hmem => absurd hmem (Table.not_mem_empty resolution)
  · exact fun intent hmem => absurd hmem (hintents intent)
  · exact fun left _ hleft => absurd hleft.1 (hattempts left)
  · exact fun _ _ _ intent hmem => absurd hmem (hintents intent)
  · exact fun intent hmem => absurd hmem (hintents intent)
  · exact fun _ partition hfind => absurd (Table.mem_of_find? hfind) (hpartitions partition)
  · exact fun _ partition hfind => absurd (Table.mem_of_find? hfind) (hpartitions partition)
  · exact fun intent hmem => absurd hmem (hintents intent)
  · exact fun intent hmem => absurd hmem (hintents intent)
  · exact fun block hmem => absurd hmem (Table.not_mem_empty block)

end FlickrGroupAddr

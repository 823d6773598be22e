import FlickrGroupAddr.AdmissionBatch
import FlickrGroupAddr.Lib.Fallible

/-!
# Replayed and overlapping admissions

Any number of admissions run side by side with the dispatcher.  Each draws its ids,
checks once outside a transaction and then sends its batch.  A pair gets one intent
for ever; an admission answers the intent of every requested pair and creates the
missing ones only; an admission that fails leaves no trace.
-/

namespace FlickrGroupAddr

set_option autoImplicit false

open KeyedTable Transition Relation

/-! ## What a committed admission did -/

/-- The pair of a photo and a group has an intent. -/
def QueueTables.hasIntent (q : QueueTables) (photoId groupId : Token) : Prop :=
  ∃ intent ∈ q.intents, intent.photoId = photoId ∧ intent.groupId = groupId

/-- What an accepted admission of `binding` changed and answered. -/
structure Admitted (before after : AdmissionTables) (call : AdmitCall) (binding : PhotoBinding)
    (result : AdmissionResult) : Prop where
  photo : result.photoId = binding.photoId
  inOrder : result.items.map AdmissionItem.groupId = call.request.flickrGroupIds
  answered : ∀ item ∈ result.items, ∃ intent ∈ after.db.queue.intents,
    intent.photoId = binding.photoId ∧ intent.groupId = item.groupId ∧
      intent.intentId = item.intentId ∧ intent.enqueueOrdinal = item.ordinal ∧
      intent.state = item.state
  /-- A pair that had an intent is answered with it, as not created. -/
  existing : ∀ item ∈ result.items, ∀ intent ∈ before.db.queue.intents,
    intent.photoId = binding.photoId → intent.groupId = item.groupId →
      item.intentId = intent.intentId ∧ item.created = false
  /-- A missing pair takes the next ordinal of the partition of its group. -/
  missing : ∀ item ∈ result.items, ¬ before.db.queue.hasIntent binding.photoId item.groupId →
    item.created = true ∧
      item.ordinal = before.db.queue.nextOrdinal binding.userId item.groupId ∧
      after.db.queue.nextOrdinal binding.userId item.groupId = item.ordinal + 1
  kept : ∀ intent ∈ before.db.queue.intents, intent ∈ after.db.queue.intents
  onlyMissing : ∀ intent ∈ after.db.queue.intents, intent ∈ before.db.queue.intents ∨
    (intent.photoId = binding.photoId ∧ intent.groupId ∈ call.request.flickrGroupIds ∧
      intent.createdRequestId = call.requestId ∧
      ¬ before.db.queue.hasIntent binding.photoId intent.groupId)
  /-- No other partition allocates an ordinal. -/
  otherOrdinals : ∀ user group, (user ≠ binding.userId ∨ group ∉ call.request.flickrGroupIds ∨
      before.db.queue.hasIntent binding.photoId group) →
    after.db.queue.nextOrdinal user group = before.db.queue.nextOrdinal user group
  guards : after.guards = before.guards
  outside : { after.db with queue := before.db.queue } = before.db
  /-- A request without a missing pair changes no row. -/
  replay : (∀ group ∈ call.request.flickrGroupIds,
    before.db.queue.hasIntent binding.photoId group) → after = before

theorem AdmitCall.map_group_requested (call : AdmitCall) :
    call.requested.map Requested.group = call.request.flickrGroupIds := by
  rw [requested, List.map_map]
  have hfst : (Requested.group ∘ fun row : Token × Token × Token => ⟨row.1, row.2.1, row.2.2⟩) =
      Prod.fst := rfl
  rw [hfst, List.map_fst_zip]
  exact call.drawn.ge

theorem AdmitCall.group_mem (call : AdmitCall) {r : Requested} (h : r ∈ call.requested) :
    r.group ∈ call.request.flickrGroupIds := by
  rw [← call.map_group_requested]
  exact List.mem_map_of_mem h

theorem AdmitCall.exists_requested (call : AdmitCall) {group : Token}
    (h : group ∈ call.request.flickrGroupIds) : ∃ r ∈ call.requested, r.group = group := by
  rw [← call.map_group_requested] at h
  exact List.mem_map.mp h

namespace QueueStructure

variable {q : QueueTables}

theorem hasIntent_iff (hq : QueueStructure q) {photoId groupId : Token} :
    q.hasIntent photoId groupId ↔ (q.pairIntent photoId groupId).isSome = true := by
  rw [Option.isSome_iff_exists]
  constructor
  · rintro ⟨intent, hmem, hpair⟩
    exact ⟨intent, hq.pairIntent_eq_some.mpr ⟨hmem, hpair⟩⟩
  · rintro ⟨intent, hfound⟩
    obtain ⟨hmem, hpair⟩ := hq.pairIntent_eq_some.mp hfound
    exact ⟨intent, hmem, hpair⟩

end QueueStructure

/-- When every requested pair has an intent, the answer names each group once, in order. -/
theorem map_groupId_admissionItems {q : QueueTables} (hq : QueueStructure q)
    {binding : PhotoBinding} (requestId : Token) {groups : List Token}
    (h : ∀ group ∈ groups, (q.pairIntent binding.photoId group).isSome = true) :
    (admissionItems q binding requestId groups).map AdmissionItem.groupId = groups := by
  induction groups with
  | nil => rfl
  | cons group rest ih =>
      obtain ⟨intent, hfound⟩ := Option.isSome_iff_exists.mp (h group List.mem_cons_self)
      have hrest := ih fun group' hgroup' => h group' (List.mem_cons_of_mem group hgroup')
      have hgroup : intent.groupId = group := (hq.pairIntent_eq_some.mp hfound).2.2
      simp only [admissionItems, List.filterMap_cons, hfound, Option.map_some, List.map_cons,
        hgroup, List.cons.injEq, true_and]
      exact hrest

theorem mem_admissionItems {q : QueueTables} {binding : PhotoBinding} {requestId : Token}
    {groups : List Token} {item : AdmissionItem}
    (h : item ∈ admissionItems q binding requestId groups) :
    ∃ intent, q.pairIntent binding.photoId item.groupId = some intent ∧
      item.groupId ∈ groups ∧ item.intentId = intent.intentId ∧
      item.state = intent.state ∧ item.ordinal = intent.enqueueOrdinal ∧
      item.created = decide (intent.createdRequestId = requestId) := by
  obtain ⟨group, hgroup, hitem⟩ := List.mem_filterMap.mp h
  obtain ⟨intent, hfound, rfl⟩ := Option.map_eq_some_iff.mp hitem
  have hpair := List.find?_some hfound
  simp only [decide_eq_true_eq] at hpair
  obtain ⟨_, rfl⟩ := hpair
  exact ⟨intent, hfound, hgroup, rfl, rfl, rfl, rfl⟩

/-- A table that a statement left as it was gains no event. -/
theorem admittedEvents_same (q : QueueTables) : admittedEvents q q = [] := by
  simp only [admittedEvents, List.map_eq_nil_iff, List.filter_eq_nil_iff]
  intro intent hmem hnone
  have hfound : q.intents.find? intent.intentId = some intent := Table.find?_of_mem hmem
  simp [hfound] at hnone

namespace BatchEffect

variable {call : AdmitCall} {now : ClockReading} {tables : AdmissionTables}
  {t : AdmissionTransaction} {binding : PhotoBinding} {middle queue : QueueTables}

/-- Both inserts as a whole. -/
theorem inserts (h : BatchEffect call now tables t binding middle queue)
    (hq : QueueStructure tables.db.queue) :
    QueueStructure middle ∧ QueueStructure queue ∧
    PartitionsEnsured tables.db.queue middle binding.userId call.request.flickrGroupIds ∧
    IntentsEnqueued middle queue binding call.requestId now.us call.requested := by
  obtain ⟨hmiddle, hpartitions⟩ := PartitionsEnsured.all hq h.partitions
  rw [call.map_group_requested] at hpartitions
  have hgroups : (call.requested.map Requested.group).Nodup := by
    rw [call.map_group_requested]
    exact call.request.groups_nodup
  obtain ⟨hqueue, hintents⟩ := IntentsEnqueued.all hmiddle hgroups h.intents
  exact ⟨hmiddle, hqueue, hpartitions, hintents⟩

theorem middle_intents (h : BatchEffect call now tables t binding middle queue)
    (hq : QueueStructure tables.db.queue) : middle.intents = tables.db.queue.intents := by
  rw [(h.inserts hq).2.2.1.others]

/-- Every requested pair has an intent after the batch. -/
theorem present (h : BatchEffect call now tables t binding middle queue)
    (hq : QueueStructure tables.db.queue) :
    ∀ group ∈ call.request.flickrGroupIds,
      (queue.pairIntent binding.photoId group).isSome = true := by
  obtain ⟨_, _, hpartitions, hintents⟩ := h.inserts hq
  intro group hgroup
  obtain ⟨r, hr, rfl⟩ := call.exists_requested hgroup
  exact hintents.present r hr (hpartitions.present r.group hgroup)

/-- A request without a missing pair leaves the queue as it was. -/
theorem queue_same (h : BatchEffect call now tables t binding middle queue)
    (hq : QueueStructure tables.db.queue)
    (hall : ∀ group ∈ call.request.flickrGroupIds,
      tables.db.queue.hasIntent binding.photoId group) :
    middle = tables.db.queue ∧ queue = tables.db.queue := by
  have hmiddle : middle = tables.db.queue := by
    refine Option.some.inj (h.partitions.symm.trans (PartitionsEnsured.same ?_))
    intro r hr
    have hgroup := call.group_mem hr
    obtain ⟨intent, hmem, hphoto, hsame⟩ := hall r.group hgroup
    -- the pair's intent is of the same user, and its partition exists
    have hfound := hq.pairIntent_eq_some.mpr ⟨hmem, hphoto, hsame⟩
    have huser := (h.valid.2.2.2 r.group hgroup intent hfound).2.1
    rw [← huser, ← hsame]
    exact hq.partitionOf_isSome hmem
  refine ⟨hmiddle, ?_⟩
  subst hmiddle
  refine Option.some.inj (h.intents.symm.trans (IntentsEnqueued.same ?_))
  intro r hr
  exact hq.hasIntent_iff.mp (hall r.group (call.group_mem hr))

theorem answer_ok (h : BatchEffect call now tables t binding middle queue)
    (hq : QueueStructure tables.db.queue) :
    call.answer t = .ok
      { bindingId := call.request.fgaPhotoBindingId
        photoId := binding.photoId
        items := admissionItems queue binding call.requestId call.request.flickrGroupIds
        hint := admissionHint queue call.requestId } := by
  have hitems := map_groupId_admissionItems (h.inserts hq).2.1 call.requestId
    (h.present hq)
  have hlength : t.rows.length = call.request.flickrGroupIds.length := by
    rw [h.rows, List.length_map, ← List.length_map AdmissionItem.groupId, hitems]
  have hphotos : ∀ row ∈ t.rows, row.photoId = binding.photoId := by
    rw [h.rows]
    simp
  have hback : t.rows.map ResultRow.item =
      admissionItems queue binding call.requestId call.request.flickrGroupIds := by
    rw [h.rows, List.map_map]
    exact List.map_id _
  unfold AdmitCall.answer
  cases hrows : t.rows with
  | nil =>
      have hpos := call.request.groups_pos
      rw [hrows] at hlength
      simp only [List.length_nil] at hlength
      omega
  | cons first rest =>
      rw [hrows] at hlength hback hphotos
      simp only [hlength, if_true, hback, h.hint, hphotos first List.mem_cons_self]

theorem admitted (h : BatchEffect call now tables t binding middle queue)
    (hq : QueueStructure tables.db.queue)
    (hfresh : ∀ intent ∈ tables.db.queue.intents, intent.createdRequestId ≠ call.requestId)
    {result : AdmissionResult} (hanswer : call.answer t = .ok result) :
    Admitted tables t.tables call binding result := by
  rw [h.answer_ok hq] at hanswer
  cases hanswer
  obtain ⟨hmiddle, hqueue, hpartitions, hintents⟩ := h.inserts hq
  have hsame := h.middle_intents hq
  have hleft : t.tables.db.queue = queue := by rw [h.left]
  have hpair : ∀ photoId groupId,
      middle.pairIntent photoId groupId = tables.db.queue.pairIntent photoId groupId := by
    intro photoId groupId
    simp only [QueueTables.pairIntent, hsame]
  refine ⟨rfl, ?_, ?_, ?_, ?_, ?_, ?_, ?_, ?_, ?_, ?_⟩
  · exact map_groupId_admissionItems hqueue _ (h.present hq)
  · intro item hitem
    obtain ⟨intent, hfound, _, hid, hstate, hordinal, _⟩ := mem_admissionItems hitem
    obtain ⟨hmem, hphoto, hgroup⟩ := hqueue.pairIntent_eq_some.mp hfound
    rw [hleft]
    exact ⟨intent, hmem, hphoto, hgroup, hid.symm, hordinal.symm, hstate.symm⟩
  · intro item hitem old hold hphoto hgroup
    obtain ⟨intent, hfound, _, hid, _, _, hcreated⟩ := mem_admissionItems hitem
    have hkept := hintents.pairIntent_kept hmiddle hqueue
      ((hpair _ _).trans (hq.pairIntent_eq_some.mpr ⟨hold, hphoto, hgroup⟩))
    rw [hkept] at hfound
    cases hfound
    refine ⟨hid, ?_⟩
    rw [hcreated]
    exact decide_eq_false (hfresh old hold)
  · intro item hitem hmissing
    obtain ⟨intent, hfound, hgroup, _, _, hordinal, hcreated⟩ := mem_admissionItems hitem
    obtain ⟨hmem, hphoto, hsameGroup⟩ := hqueue.pairIntent_eq_some.mp hfound
    rcases hintents.added intent hmem with hold | ⟨r, hr, hnone, partition, hpartition, rfl⟩
    · rw [hsame] at hold
      exact absurd ⟨intent, hold, hphoto, hsameGroup⟩ hmissing
    · have hsome : (middle.partitionOf binding.userId r.group).isSome = true := by
        rw [hpartition]
        rfl
      have hnext := hintents.allocated r hr hnone hsome
      have hbefore := hpartitions.ordinals binding.userId r.group
      have hcounter : middle.nextOrdinal binding.userId r.group = partition.nextEnqueueOrdinal := by
        simp [QueueTables.nextOrdinal, hpartition]
      have hrow : r.group = item.groupId := hsameGroup
      have htaken : item.ordinal = partition.nextEnqueueOrdinal := hordinal
      rw [hrow] at hnext hbefore hcounter
      refine ⟨?_, ?_, ?_⟩
      · rw [hcreated]
        exact decide_eq_true rfl
      · rw [htaken, ← hcounter, hbefore]
      · rw [hleft, hnext, hcounter, htaken]
  · intro intent hmem
    rw [hleft]
    rw [← hsame] at hmem
    exact hintents.kept intent hmem
  · intro intent hmem
    rw [hleft] at hmem
    rcases hintents.added intent hmem with hold | ⟨r, hr, hnone, partition, _, rfl⟩
    · left
      rw [← hsame]
      exact hold
    · refine Or.inr ⟨rfl, call.group_mem hr, rfl, ?_⟩
      rw [hpair] at hnone
      rw [hq.hasIntent_iff]
      simp only [newIntent, hnone, Option.isSome_none, Bool.false_eq_true, not_false_eq_true]
  · intro user group hquiet
    rw [hleft, ← hpartitions.ordinals]
    simp only [QueueTables.nextOrdinal]
    rw [hintents.otherPartitions]
    rcases hquiet with hquiet | hquiet | hquiet
    · exact Or.inl hquiet
    · right
      left
      intro r hr hsameGroup
      exact hquiet (hsameGroup ▸ call.group_mem hr)
    · right
      right
      rw [hpair]
      exact hq.hasIntent_iff.mp hquiet
  · rw [h.left]
  · rw [h.left]
  · intro hall
    obtain ⟨hmiddleSame, hqueueSame⟩ := h.queue_same hq hall
    have hany : (tables.db.queue.intents.rows.any fun intent =>
        intent.createdRequestId = call.requestId) = false := by
      rw [List.any_eq_false]
      intro intent hmem
      simpa using hfresh intent hmem
    rw [h.left, hmiddleSame, hqueueSame, admittedEvents_same, touched, hany, List.append_nil]
    rfl

end BatchEffect

/-! ## Any number of admissions -/

/-- Where a call of `admit` is. -/
inductive AdmitStage where
  | opened
  | checked
deriving DecidableEq

/-- The tables, the calls in flight, and the request ids drawn so far. -/
structure AdmissionSystem where
  tables : AdmissionTables
  calls : List (AdmitCall × AdmitStage)
  drawn : List Token

inductive AdmissionEvent where
  /-- A call draws its ids; no request id is drawn twice. -/
  | start (call : AdmitCall)
  /-- The check outside the transaction. -/
  | check (now : ClockReading)
  | batch (failing : AdmissionStatement → Bool) (now : ClockReading)
  /-- A caller goes away. -/
  | crash
  /-- The scheduler or the dispatcher commits. -/
  | queue (call : QueueCall)
  /-- Other columns and tables change. -/
  | outside

inductive AdmissionSystemStep : AdmissionSystem → AdmissionEvent → AdmissionSystem → Prop
  | start {s : AdmissionSystem} {call : AdmitCall} : call.requestId ∉ s.drawn →
      AdmissionSystemStep s (.start call)
        ⟨s.tables, (call, .opened) :: s.calls, call.requestId :: s.drawn⟩
  | pass {tables : AdmissionTables} {front back : List (AdmitCall × AdmitStage)}
      {drawn : List Token} {call : AdmitCall} {now : ClockReading} :
      call.valid tables.db now = true →
      AdmissionSystemStep ⟨tables, front ++ (call, .opened) :: back, drawn⟩ (.check now)
        ⟨tables, front ++ (call, .checked) :: back, drawn⟩
  | reject {tables : AdmissionTables} {front back : List (AdmitCall × AdmitStage)}
      {drawn : List Token} {call : AdmitCall} {now : ClockReading} :
      call.valid tables.db now = false →
      AdmissionSystemStep ⟨tables, front ++ (call, .opened) :: back, drawn⟩ (.check now)
        ⟨tables, front ++ back, drawn⟩
  | batch {tables : AdmissionTables} {front back : List (AdmitCall × AdmitStage)}
      {drawn : List Token} {call : AdmitCall} {failing : AdmissionStatement → Bool}
      {now : ClockReading} :
      AdmissionSystemStep ⟨tables, front ++ (call, .checked) :: back, drawn⟩ (.batch failing now)
        ⟨(call.admitFrom failing now tables).1, front ++ back, drawn⟩
  | crash {tables : AdmissionTables} {front back : List (AdmitCall × AdmitStage)}
      {drawn : List Token} {call : AdmitCall × AdmitStage} :
      AdmissionSystemStep ⟨tables, front ++ call :: back, drawn⟩ .crash
        ⟨tables, front ++ back, drawn⟩
  | queue {s : AdmissionSystem} {call : QueueCall} {db : Db} :
      call.isAdmission = false → call.exec s.tables.db = some db →
      AdmissionSystemStep s (.queue call) { s with tables := { s.tables with db := db } }
  | outside {s : AdmissionSystem} {tables : AdmissionTables} :
      tables.db.queue = s.tables.db.queue → tables.guards = s.tables.guards →
      AdmissionSystemStep s .outside { s with tables := tables }

/-- Nothing admitted, nothing in flight. -/
def emptyAdmissions : AdmissionSystem := ⟨⟨emptyDb, .empty, [], .empty⟩, [], []⟩

def AdmissionReachable (s : AdmissionSystem) : Prop :=
  Reachable AdmissionSystemStep (fun start => start = emptyAdmissions) s

/-! ## Invariants -/

/-- No intent of the old tables is lost, and none changes an identity column. -/
def IntentsKept (q q' : QueueTables) : Prop :=
  ∀ intent ∈ q.intents, ∃ later ∈ q'.intents, later.identity = intent.identity

instance : IsPreorder QueueTables IntentsKept where
  refl _ intent hmem := ⟨intent, hmem, rfl⟩
  trans _ _ _ h h' intent hmem := by
    obtain ⟨middle, hmiddle, hid⟩ := h intent hmem
    obtain ⟨later, hlater, hid'⟩ := h' middle hmiddle
    exact ⟨later, hlater, hid'.trans hid⟩

theorem QueueStep.intentsKept {q q' : QueueTables} (h : QueueStep q q') : IntentsKept q q' := by
  rcases h.sameIdentities_or_insert with
    hsame | ⟨_, _, _, _, _, _, rfl⟩ | ⟨_, _, _, _, _, _, _, _, hinsert, rfl⟩
  · intro intent hmem
    exact hsame.intent_forward hmem
  · exact refl_of IntentsKept _
  · intro intent hmem
    exact ⟨intent, (Table.mem_insert? hinsert).mpr (Or.inl hmem), rfl⟩

theorem IntentsKept.steps {q q' : QueueTables} (h : ReflTransGen QueueStep q q') :
    IntentsKept q q' := by
  induction h with
  | refl => exact refl_of IntentsKept _
  | tail _ hstep ih => exact trans_of IntentsKept ih hstep.intentsKept

/-- The batch of a call leaves the tables alone or is an admission of the queue. -/
theorem AdmitCall.admitFrom_cases (call : AdmitCall) (failing : AdmissionStatement → Bool)
    (now : ClockReading) (tables : AdmissionTables) :
    (∃ failure, call.admitFrom failing now tables = (tables, .error failure)) ∨
    ∃ t binding middle queue, BatchEffect call now tables t binding middle queue ∧
      call.admitFrom failing now tables = (t.tables, call.answer t) := by
  unfold AdmitCall.admitFrom
  cases hbatch : call.batch failing now tables with
  | none =>
      left
      exact ⟨_, rfl⟩
  | some t =>
      right
      obtain ⟨binding, middle, queue, heffect⟩ := AdmitCall.batch_effect hbatch
      exact ⟨t, binding, middle, queue, heffect, rfl⟩

/-- What holds between any two steps. -/
structure AdmissionSystem.Inv (s : AdmissionSystem) : Prop where
  reachable : QueueReachable s.tables.db
  guards : s.tables.guards = .empty
  drawn : ∀ call ∈ s.calls, call.1.requestId ∈ s.drawn
  distinct : (s.calls.map fun call => call.1.requestId).Nodup
  created : ∀ intent ∈ s.tables.db.queue.intents, intent.createdRequestId ∈ s.drawn ∧
    ∀ call ∈ s.calls, intent.createdRequestId ≠ call.1.requestId

namespace AdmissionSystem.Inv

theorem initially : emptyAdmissions.Inv where
  reachable := ⟨emptyDb, [], rfl, Run.nil _⟩
  guards := rfl
  drawn := by simp [emptyAdmissions]
  distinct := List.nodup_nil
  created := by
    intro intent hmem
    exact absurd hmem (Table.not_mem_empty intent)

/-- Fewer calls are in flight. -/
theorem fewer {tables : AdmissionTables} {calls calls' : List (AdmitCall × AdmitStage)}
    {drawn : List Token} (h : Inv ⟨tables, calls, drawn⟩) (hsub : calls'.Sublist calls) :
    Inv ⟨tables, calls', drawn⟩ where
  reachable := h.reachable
  guards := h.guards
  drawn := by
    intro call hcall
    exact h.drawn call (hsub.subset hcall)
  distinct := (hsub.map _).nodup h.distinct
  created := by
    intro intent hmem
    refine ⟨(h.created intent hmem).1, ?_⟩
    intro call hcall
    exact (h.created intent hmem).2 call (hsub.subset hcall)

/-- The stage of a call does not matter. -/
theorem restaged {tables : AdmissionTables} {front back : List (AdmitCall × AdmitStage)}
    {drawn : List Token} {call : AdmitCall} {stage : AdmitStage} (stage' : AdmitStage)
    (h : Inv ⟨tables, front ++ (call, stage) :: back, drawn⟩) :
    Inv ⟨tables, front ++ (call, stage') :: back, drawn⟩ := by
  have hsame : ∀ other ∈ front ++ (call, stage') :: back,
      ∃ old ∈ front ++ (call, stage) :: back, old.1 = other.1 := by
    intro other hother
    rcases List.mem_append.mp hother with hfront | hrest
    · exact ⟨other, List.mem_append_left _ hfront, rfl⟩
    · rcases List.mem_cons.mp hrest with rfl | hback
      · exact ⟨(call, stage), by simp, rfl⟩
      · exact ⟨other, by simp [hback], rfl⟩
  refine ⟨h.reachable, h.guards, ?_, ?_, ?_⟩
  · intro other hother
    obtain ⟨old, hold, heq⟩ := hsame other hother
    exact heq ▸ h.drawn old hold
  · have hdistinct := h.distinct
    simp only [List.map_append, List.map_cons] at hdistinct ⊢
    exact hdistinct
  · intro intent hmem
    refine ⟨(h.created intent hmem).1, ?_⟩
    intro other hother
    obtain ⟨old, hold, heq⟩ := hsame other hother
    exact heq ▸ (h.created intent hmem).2 old hold

theorem structured {s : AdmissionSystem} (h : s.Inv) : QueueStructure s.tables.db.queue :=
  h.reachable.queueInvariant.layout

/-- No intent was created under the request id of a call in flight. -/
theorem fresh {s : AdmissionSystem} (h : s.Inv) {call : AdmitCall × AdmitStage}
    (hcall : call ∈ s.calls) :
    ∀ intent ∈ s.tables.db.queue.intents, intent.createdRequestId ≠ call.1.requestId := by
  intro intent hmem
  exact (h.created intent hmem).2 call hcall

theorem batch {tables : AdmissionTables} {front back : List (AdmitCall × AdmitStage)}
    {drawn : List Token} {call : AdmitCall} {stage : AdmitStage}
    (h : Inv ⟨tables, front ++ (call, stage) :: back, drawn⟩)
    (failing : AdmissionStatement → Bool) (now : ClockReading) :
    Inv ⟨(call.admitFrom failing now tables).1, front ++ back, drawn⟩ := by
  have hin : (call, stage) ∈ front ++ (call, stage) :: back := by simp
  have hrest : Inv ⟨tables, front ++ back, drawn⟩ := h.fewer (by simp)
  rcases call.admitFrom_cases failing now tables with ⟨_, hran⟩ |
    ⟨t, binding, middle, queue, heffect, hran⟩
  · rw [hran]
    exact hrest
  · rw [hran]
    obtain ⟨result, hrequest⟩ := heffect.admitRequest
    have hcommit : QueueCall.exec tables.db
        (.admitRequest call.auth call.request call.requestId call.ids now) =
        some t.tables.db := by
      simp [QueueCall.exec, hrequest]
    have hadmitted := heffect.admitted h.structured (h.fresh hin) (heffect.answer_ok h.structured)
    refine ⟨Reachable.extend h.reachable (QueueEventStep.commit hcommit), ?_, hrest.drawn,
      hrest.distinct, ?_⟩
    · exact hadmitted.guards.trans h.guards
    · intro intent hmem
      rcases hadmitted.onlyMissing intent hmem with hold | ⟨_, _, hcreated, _⟩
      · exact hrest.created intent hold
      · rw [hcreated]
        refine ⟨h.drawn _ hin, ?_⟩
        intro other hother hsame
        have hdistinct := h.distinct
        simp only [List.map_append, List.map_cons, List.nodup_middle, List.nodup_cons] at hdistinct
        apply hdistinct.1
        rw [hsame, ← List.map_append]
        exact List.mem_map_of_mem hother

theorem step {s s' : AdmissionSystem} {event : AdmissionEvent} (h : s.Inv)
    (hstep : AdmissionSystemStep s event s') : s'.Inv := by
  cases hstep with
  | start hfresh =>
      refine ⟨h.reachable, h.guards, ?_, ?_, ?_⟩
      · intro call hcall
        rcases List.mem_cons.mp hcall with rfl | hcall
        · exact List.mem_cons_self
        · exact List.mem_cons_of_mem _ (h.drawn call hcall)
      · rw [List.map_cons, List.nodup_cons]
        refine ⟨?_, h.distinct⟩
        intro hmem
        obtain ⟨call, hcall, hsame⟩ := List.mem_map.mp hmem
        exact hfresh (hsame ▸ h.drawn call hcall)
      · intro intent hmem
        obtain ⟨hdrawn, hothers⟩ := h.created intent hmem
        refine ⟨List.mem_cons_of_mem _ hdrawn, ?_⟩
        intro call hcall
        rcases List.mem_cons.mp hcall with rfl | hcall
        · intro hsame
          exact hfresh (hsame ▸ hdrawn)
        · exact hothers call hcall
  | pass => exact h.restaged _
  | reject => exact h.fewer (by simp)
  | batch => exact h.batch _ _
  | crash => exact h.fewer (by simp)
  | queue hother hexec =>
      refine ⟨Reachable.extend h.reachable (QueueEventStep.commit hexec), h.guards, h.drawn,
        h.distinct, ?_⟩
      intro intent hmem
      obtain ⟨old, hold, hid⟩ := (QueueCall.sameIdentities hother hexec).intent_back hmem
      have hcreated : old.createdRequestId = intent.createdRequestId :=
        congrArg IntentIdentity.createdRequestId hid
      exact hcreated ▸ h.created old hold
  | outside hqueue hguards =>
      refine ⟨Reachable.extend h.reachable (QueueEventStep.outside hqueue),
        hguards.trans h.guards, h.drawn, h.distinct, ?_⟩
      intro intent hmem
      rw [hqueue] at hmem
      exact h.created intent hmem

end AdmissionSystem.Inv

theorem AdmissionReachable.inv {s : AdmissionSystem} (h : AdmissionReachable s) : s.Inv := by
  apply h.invariant
  · rintro _ rfl
    exact AdmissionSystem.Inv.initially
  · intro _ _ _ hinv hstep
    exact hinv.step hstep

/-- A step loses no intent. -/
theorem AdmissionSystemStep.intentsKept {s s' : AdmissionSystem} {event : AdmissionEvent}
    (h : AdmissionSystemStep s event s') :
    IntentsKept s.tables.db.queue s'.tables.db.queue := by
  cases h with
  | start => exact refl_of IntentsKept _
  | pass => exact refl_of IntentsKept _
  | reject => exact refl_of IntentsKept _
  | @batch tables front back drawn call failing now =>
      rcases call.admitFrom_cases failing now tables with ⟨_, hran⟩ |
        ⟨t, binding, middle, queue, heffect, hran⟩
      · rw [hran]
        exact refl_of IntentsKept _
      · rw [hran]
        obtain ⟨result, hrequest⟩ := heffect.admitRequest
        refine IntentsKept.steps ?_
        exact ReflTransGen.mono (fun _ _ => QueueStep.admission) _ _
          (admitRequest_steps hrequest).1
  | crash => exact refl_of IntentsKept _
  | queue _ hexec => exact IntentsKept.steps (QueueCall.steps hexec)
  | outside hqueue _ =>
      rw [hqueue]
      exact refl_of IntentsKept _

/-! ## Idempotent and atomic -/

/-- In every state of any number of admissions, a pair has one intent and keeps it; an
admission in flight leaves every table as it was when it fails at any statement, and
creates exactly the missing intents when it is accepted. -/
theorem admission_idempotent_atomic {s : AdmissionSystem} (h : AdmissionReachable s) :
    s.tables.guards = .empty ∧
    (∀ left ∈ s.tables.db.queue.intents, ∀ right ∈ s.tables.db.queue.intents,
      left.photoId = right.photoId → left.groupId = right.groupId → left = right) ∧
    (∀ trace t, Run AdmissionSystemStep s trace t →
      ∀ intent ∈ s.tables.db.queue.intents, ∃ later ∈ t.tables.db.queue.intents,
        later.identity = intent.identity) ∧
    ∀ call ∈ s.calls, ∀ failing now,
      (∀ failure, (call.1.admitFrom failing now s.tables).2 = .error failure →
        (call.1.admitFrom failing now s.tables).1 = s.tables) ∧
      (∀ result, (call.1.admitFrom failing now s.tables).2 = .ok result →
        ∃ binding, call.1.binding s.tables.db = some binding ∧
          Admitted s.tables (call.1.admitFrom failing now s.tables).1 call.1 binding result) := by
  have hinv := h.inv
  refine ⟨hinv.guards, hinv.structured.pairs, ?_, ?_⟩
  · intro trace t hrun
    have hkept : ∀ s a t, AdmissionSystemStep s a t →
        IntentsKept s.tables.db.queue t.tables.db.queue := fun _ _ _ => (·.intentsKept)
    have : IsPreorder AdmissionSystem fun s t =>
        IntentsKept s.tables.db.queue t.tables.db.queue :=
      { refl := fun _ => refl_of IntentsKept _
        trans := fun _ _ _ => trans_of IntentsKept }
    exact hrun.relates hkept
  · intro call hcall failing now
    rcases call.1.admitFrom_cases failing now s.tables with ⟨failure, hran⟩ |
      ⟨t, binding, middle, queue, heffect, hran⟩
    · rw [hran]
      refine ⟨fun _ _ => rfl, ?_⟩
      intro result hresult
      cases hresult
    · rw [hran]
      constructor
      · intro failure hfailure
        rw [heffect.answer_ok hinv.structured] at hfailure
        cases hfailure
      · intro result hresult
        exact ⟨binding, heffect.bound,
          heffect.admitted hinv.structured (hinv.fresh hcall) hresult⟩

namespace Sample

def secondGroup : Token := ⟨"group-2", Eq.refl true⟩

/-- The first admission of the photo, to one group. -/
def firstAdmission : AdmitCall where
  auth := ⟨installation, "digest-1"⟩
  request := request
  requestId := requestId
  ids := [(partition, intent)]
  drawn := rfl

/-- A second admission, to another group and to the same one. -/
def overlapping : AdmitCall where
  auth := ⟨installation, "digest-1"⟩
  request := { request with
    flickrGroupIds := [secondGroup, group]
    groups_pos := by decide
    groups_le := by decide
    groups_nodup := by decide }
  requestId := ⟨"request-2", Eq.refl true⟩
  ids := [(⟨"partition-2", Eq.refl true⟩, ⟨"intent-2", Eq.refl true⟩),
    (⟨"partition-3", Eq.refl true⟩, ⟨"intent-3", Eq.refl true⟩)]
  drawn := rfl

def admissionTables : AdmissionTables := ⟨db, .empty, [], .empty⟩

/-- The first admission has committed, the second one is in flight. -/
def overlappingSystem : AdmissionSystem :=
  ⟨(firstAdmission.admitFrom (fun _ => false) (clock 1) admissionTables).1,
    [(overlapping, .opened)], [overlapping.requestId, requestId]⟩

theorem overlapping_reachable : AdmissionReachable overlappingSystem := by
  have hdb : AdmissionSystemStep emptyAdmissions .outside ⟨admissionTables, [], []⟩ :=
    AdmissionSystemStep.outside rfl rfl
  have hopened := @AdmissionSystemStep.start ⟨admissionTables, [], []⟩ firstAdmission
    List.not_mem_nil
  have hchecked := @AdmissionSystemStep.pass admissionTables [] [] [requestId] firstAdmission
    (clock 1) (by decide)
  have hadmitted := @AdmissionSystemStep.batch admissionTables [] [] [requestId] firstAdmission
    (fun _ => false) (clock 1)
  have hagain := @AdmissionSystemStep.start
    ⟨(firstAdmission.admitFrom (fun _ => false) (clock 1) admissionTables).1, [], [requestId]⟩
    overlapping (by decide)
  exact ⟨emptyAdmissions, _, rfl,
    Run.snoc (Run.snoc (Run.snoc (Run.snoc (Run.single hdb) hopened) hchecked) hadmitted) hagain⟩

end Sample

/-- The overlapping admission creates one of its two intents. -/
theorem admission_idempotent_atomic_sample :
    ∃ result binding,
      (Sample.overlapping.admitFrom (fun _ => false) (Sample.clock 2)
        Sample.overlappingSystem.tables).2 = .ok result ∧
      result.items.map AdmissionItem.created = [true, false] ∧
      Admitted Sample.overlappingSystem.tables
        (Sample.overlapping.admitFrom (fun _ => false) (Sample.clock 2)
          Sample.overlappingSystem.tables).1 Sample.overlapping binding result := by
  have hall := (admission_idempotent_atomic Sample.overlapping_reachable).2.2.2
    (Sample.overlapping, .opened) List.mem_cons_self (fun _ => false) (Sample.clock 2)
  have hcreated : ((Sample.overlapping.admitFrom (fun _ => false) (Sample.clock 2)
      Sample.overlappingSystem.tables).2.toOption.map fun result =>
        result.items.map AdmissionItem.created) = some [true, false] := by
    decide +kernel
  obtain ⟨result, hresult, hitems⟩ := Option.map_eq_some_iff.mp hcreated
  have hok := Fallible.eq_ok_of_toOption hresult
  obtain ⟨binding, _, hadmitted⟩ := hall.2 result hok
  exact ⟨result, binding, hok, hitems, hadmitted⟩

end FlickrGroupAddr

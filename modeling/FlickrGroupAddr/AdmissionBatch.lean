import FlickrGroupAddr.Coordination

/-!
# The batch of an admission

`admission.ts` sends seven statements as one D1 batch: they run in order in one
transaction, and a statement that fails undoes those before it.  The guard row of
the request holds the clock of the batch and is deleted by its last statement.
-/

namespace FlickrGroupAddr

set_option autoImplicit false

open KeyedTable Transition Relation

/-! ## Tables -/

/-- `transaction_guards`; a row is stored with `approved = 1` or not at all. -/
structure TransactionGuard where
  transactionId : Token
  nowUs : Us
deriving DecidableEq

/-- `photo_bindings.last_admission_at_us`, where it is not null. -/
structure LastAdmission where
  bindingId : Token
  atUs : Us
deriving DecidableEq

/-- `submission_intent_events`, without its random key. -/
structure IntentEvent where
  intentId : Token
  kind : String
  correlationId : Token
  createdAtUs : Us
deriving DecidableEq

/-- The tables an admission reads and writes. -/
structure AdmissionTables where
  db : Db
  lastAdmissions : Table LastAdmission.bindingId
  events : List IntentEvent
  guards : Table TransactionGuard.transactionId
deriving DecidableEq

/-- What one call of `admit` binds to its statements: the request, the request id
and one fresh pair of ids for each group. -/
structure AdmitCall where
  auth : AdmissionAuth
  request : AdmissionRequest
  requestId : Token
  ids : List (Token × Token)
  drawn : ids.length = request.flickrGroupIds.length

namespace AdmitCall

/-- The common table expression `requested`. -/
def requested (call : AdmitCall) : List Requested :=
  (call.request.flickrGroupIds.zip call.ids).map fun row => ⟨row.1, row.2.1, row.2.2⟩

/-- The common table expression `binding`. -/
def binding (call : AdmitCall) (db : Db) : Option PhotoBinding :=
  admissionBinding db call.auth call.request.fgaPhotoBindingId
    call.request.expectedVerificationRevision

/-- The value of `VALID`. -/
def valid (call : AdmitCall) (db : Db) (now : ClockReading) : Bool :=
  match call.binding db with
  | none => false
  | some binding => decide (admissionValid db.queue binding call.request.flickrGroupIds now.us)

end AdmitCall

/-! ## Statements -/

/-- The statements of the batch, in its order. -/
inductive AdmissionStatement where
  | insertGuard
  | insertPartitions
  | insertIntents
  | touchBinding
  | selectRows
  | selectHint
  | deleteGuard
deriving DecidableEq

/-- A row of the fifth statement. -/
structure ResultRow where
  item : AdmissionItem
  photoId : Token
deriving DecidableEq

/-- The tables inside the transaction, with what the two reads returned so far. -/
structure AdmissionTransaction where
  tables : AdmissionTables
  rows : List ResultRow
  hint : Option WakeHint
deriving DecidableEq

/-- The events the trigger `intent_enqueued` adds for the rows a statement inserted. -/
def admittedEvents (before after : QueueTables) : List IntentEvent :=
  (after.intents.rows.filter fun intent => (before.intents.find? intent.intentId).isNone).map
    fun intent => ⟨intent.intentId, "admitted", intent.createdRequestId, intent.createdAtUs⟩

namespace AdmissionStatement

/-- One statement; `none` is a constraint or a trigger that aborts.  `now` is the clock of
the first statement, the only one that reads it. -/
def exec (call : AdmitCall) (now : ClockReading) (t : AdmissionTransaction) :
    AdmissionStatement → Option AdmissionTransaction
  | insertGuard =>
      (t.tables.guards.insertIf? (call.valid t.tables.db now = true)
        ⟨call.requestId, now.us⟩).map fun guards =>
          { t with tables := { t.tables with guards := guards } }
  | insertPartitions =>
      match call.binding t.tables.db with
      | none => some t
      | some binding =>
          (call.requested.foldlM (fun (q : QueueTables) r => q.ensurePartition binding.userId r)
            t.tables.db.queue).map fun queue =>
              { t with tables := { t.tables with db := { t.tables.db with queue := queue } } }
  | insertIntents =>
      match call.binding t.tables.db, t.tables.guards.find? call.requestId with
      | some binding, some guard =>
          (call.requested.foldlM
            (fun (q : QueueTables) r => q.enqueue binding call.requestId guard.nowUs r)
            t.tables.db.queue).map fun queue =>
              { t with
                tables :=
                  { t.tables with
                    db := { t.tables.db with queue := queue }
                    events := t.tables.events ++ admittedEvents t.tables.db.queue queue } }
      | _, _ => some t
  | touchBinding =>
      match t.tables.guards.find? call.requestId,
        t.tables.db.flickr.bindings.find? call.request.fgaPhotoBindingId with
      | some guard, some binding =>
          if t.tables.db.queue.intents.rows.any fun intent =>
              intent.createdRequestId = call.requestId then
            some { t with
              tables :=
                { t.tables with
                  lastAdmissions := (t.tables.lastAdmissions.ensure
                    ⟨binding.bindingId, guard.nowUs⟩).set ⟨binding.bindingId, guard.nowUs⟩ } }
          else some t
      | _, _ => some t
  | selectRows =>
      match call.binding t.tables.db with
      | none => some { t with rows := [] }
      | some binding =>
          some { t with
            rows := (admissionItems t.tables.db.queue binding call.requestId
              call.request.flickrGroupIds).map fun item => ⟨item, binding.photoId⟩ }
  | selectHint => some { t with hint := admissionHint t.tables.db.queue call.requestId }
  | deleteGuard =>
      some { t with
        tables := { t.tables with guards := t.tables.guards.erase call.requestId } }

/-- The statements in the order of the batch. -/
def all : List AdmissionStatement :=
  [insertGuard, insertPartitions, insertIntents, touchBinding, selectRows, selectHint,
    deleteGuard]

end AdmissionStatement

/-- `AdmissionError` as `admit` throws it from its batch on. -/
inductive AdmissionFailure where
  | transactionNotConfirmed
  | committedSnapshotInconsistent
deriving DecidableEq

namespace AdmitCall

/-- `db.batch(statements)`; `failing` are the statements the store fails on for reasons of
its own. -/
def batch (call : AdmitCall) (failing : AdmissionStatement → Bool) (now : ClockReading)
    (tables : AdmissionTables) : Option AdmissionTransaction :=
  execAll (fun t statement => if failing statement then none else statement.exec call now t)
    ⟨tables, [], none⟩ AdmissionStatement.all

/-- What `admit` makes of the results of its batch. -/
def answer (call : AdmitCall) (t : AdmissionTransaction) :
    Except AdmissionFailure AdmissionResult :=
  match t.rows with
  | [] => .error .committedSnapshotInconsistent
  | first :: _ =>
      if t.rows.length = call.request.flickrGroupIds.length then
        .ok
          { bindingId := call.request.fgaPhotoBindingId
            photoId := first.photoId
            items := t.rows.map ResultRow.item
            hint := t.hint }
      else .error .committedSnapshotInconsistent

/-- `admit` from its batch on: the tables it leaves and what it answers. -/
def admitFrom (call : AdmitCall) (failing : AdmissionStatement → Bool) (now : ClockReading)
    (tables : AdmissionTables) : AdmissionTables × Except AdmissionFailure AdmissionResult :=
  match call.batch failing now tables with
  | none => (tables, .error .transactionNotConfirmed)
  | some t => (t.tables, call.answer t)

end AdmitCall

/-! ## Lookups by pair -/

/-- The ordinal the next intent of a user and a group takes. -/
def QueueTables.nextOrdinal (q : QueueTables) (userId groupId : Token) : Nat :=
  ((q.partitionOf userId groupId).map GroupPartition.nextEnqueueOrdinal).getD 1

namespace QueueStructure

variable {q q' : QueueTables}

theorem pairIntent_eq_some (hq : QueueStructure q) {photoId groupId : Token}
    {intent : SubmissionIntent} : q.pairIntent photoId groupId = some intent ↔
      intent ∈ q.intents ∧ intent.photoId = photoId ∧ intent.groupId = groupId := by
  constructor
  · intro h
    have hpair := List.find?_some h
    simp only [decide_eq_true_eq] at hpair
    exact ⟨List.mem_of_find?_eq_some h, hpair⟩
  · rintro ⟨hmem, hphoto, hgroup⟩
    cases hfind : q.pairIntent photoId groupId with
    | none =>
        have hno := List.find?_eq_none.mp hfind intent hmem
        simp [hphoto, hgroup] at hno
    | some other =>
        have hpair := List.find?_some hfind
        simp only [decide_eq_true_eq] at hpair
        have hother : other ∈ q.intents := List.mem_of_find?_eq_some hfind
        rw [hq.pairs other hother intent hmem (hpair.1.trans hphoto.symm)
          (hpair.2.trans hgroup.symm)]

theorem partitionOf_eq_some (hq : QueueStructure q) {userId groupId : Token}
    {partition : GroupPartition} : q.partitionOf userId groupId = some partition ↔
      partition ∈ q.partitions ∧ partition.userId = userId ∧ partition.groupId = groupId := by
  constructor
  · exact mem_of_partitionOf
  · rintro ⟨hmem, huser, hgroup⟩
    cases hfind : q.partitionOf userId groupId with
    | none =>
        have hno := List.find?_eq_none.mp hfind partition hmem
        simp [huser, hgroup] at hno
    | some other =>
        obtain ⟨hother, huser', hgroup'⟩ := mem_of_partitionOf hfind
        rw [hq.partitionPairs other hother partition hmem (huser'.trans huser.symm)
          (hgroup'.trans hgroup.symm)]

theorem pairIntent_eq_none {photoId groupId : Token} (h : q.pairIntent photoId groupId = none)
    {intent : SubmissionIntent} (hmem : intent ∈ q.intents) (hphoto : intent.photoId = photoId) :
    intent.groupId ≠ groupId := by
  intro hgroup
  have hno := List.find?_eq_none.mp h intent hmem
  simp [hphoto, hgroup] at hno

/-- An intent's group has a partition for its user. -/
theorem partitionOf_isSome (hq : QueueStructure q) {intent : SubmissionIntent}
    (hmem : intent ∈ q.intents) :
    (q.partitionOf intent.userId intent.groupId).isSome = true := by
  obtain ⟨partition, hfind, hpair⟩ := hq.home intent hmem
  rw [hq.partitionOf_eq_some.mpr ⟨Table.mem_of_find? hfind, hpair⟩]
  rfl

/-- The structure after any number of inserts. -/
theorem admission (hq : QueueStructure q) (h : ReflTransGen AdmissionStep q q') :
    QueueStructure q' := by
  induction h with
  | refl => exact hq
  | tail _ hstep ih => exact ih.step (QueueStep.admission hstep)

end QueueStructure

/-! ## The partitions of a request -/

/-- What `INSERT INTO group_partitions` did for some groups of a user. -/
structure PartitionsEnsured (q q' : QueueTables) (userId : Token) (groups : List Token) :
    Prop where
  others : q' = { q with partitions := q'.partitions }
  kept : ∀ partition ∈ q.partitions, partition ∈ q'.partitions
  present : ∀ group ∈ groups, (q'.partitionOf userId group).isSome = true
  ordinals : ∀ user group, q'.nextOrdinal user group = q.nextOrdinal user group

namespace PartitionsEnsured

variable {q q' q'' : QueueTables} {userId : Token}

theorem nil (q : QueueTables) (userId : Token) : PartitionsEnsured q q userId [] where
  others := rfl
  kept := by
    intro _ hmem
    exact hmem
  present := by
    intro _ hgroup
    exact absurd hgroup List.not_mem_nil
  ordinals := by
    intro _ _
    rfl

theorem step (hq : QueueStructure q) {requested : Requested}
    (h : q.ensurePartition userId requested = some q') :
    PartitionsEnsured q q' userId [requested.group] := by
  have hq' := hq.admission (ensurePartition_steps h)
  unfold QueueTables.ensurePartition at h
  split at h
  · next hsome =>
      cases h
      refine { nil q userId with present := ?_ }
      intro group hgroup
      rw [List.mem_singleton.mp hgroup, hsome]
      rfl
  · next hnone =>
      obtain ⟨partitions, hinsert, rfl⟩ := Option.map_eq_some_iff.mp h
      have hmem : ∀ partition, partition ∈ partitions ↔ partition ∈ q.partitions ∨
          partition = newPartition requested.partition userId requested.group :=
        fun _ => Table.mem_insert? hinsert
      have hfound := hq'.partitionOf_eq_some.mpr ⟨(hmem _).mpr (Or.inr rfl), rfl, rfl⟩
      refine ⟨rfl, ?_, ?_, ?_⟩
      · intro partition hold
        exact (hmem partition).mpr (Or.inl hold)
      · intro group hgroup
        rw [List.mem_singleton.mp hgroup]
        exact Option.isSome_of_mem hfound
      · intro user group
        unfold QueueTables.nextOrdinal
        cases hold : q.partitionOf user group with
        | some partition =>
            obtain ⟨hin, hpair⟩ := hq.partitionOf_eq_some.mp hold
            rw [hq'.partitionOf_eq_some.mpr ⟨(hmem partition).mpr (Or.inl hin), hpair⟩]
        | none =>
            cases hnew : ({ q with partitions := partitions } : QueueTables).partitionOf user group
              with
            | none => rfl
            | some partition =>
                obtain ⟨hin, hpair⟩ := hq'.partitionOf_eq_some.mp hnew
                rcases (hmem partition).mp hin with hin | rfl
                · cases hold.symm.trans (hq.partitionOf_eq_some.mpr ⟨hin, hpair⟩)
                · rfl

theorem append (hq' : QueueStructure q') (hq'' : QueueStructure q'') {front back : List Token}
    (h : PartitionsEnsured q q' userId front) (h' : PartitionsEnsured q' q'' userId back) :
    PartitionsEnsured q q'' userId (front ++ back) where
  others := by rw [h'.others, h.others]
  kept := by
    intro partition hmem
    exact h'.kept partition (h.kept partition hmem)
  present := by
    intro group hgroup
    rcases List.mem_append.mp hgroup with hfront | hback
    · obtain ⟨partition, hfound⟩ := Option.isSome_iff_exists.mp (h.present group hfront)
      obtain ⟨hmem, hpair⟩ := hq'.partitionOf_eq_some.mp hfound
      rw [hq''.partitionOf_eq_some.mpr ⟨h'.kept partition hmem, hpair⟩]
      rfl
    · exact h'.present group hback
  ordinals := by
    intro user group
    rw [h'.ordinals, h.ordinals]

/-- The whole statement. -/
theorem all {requested : List Requested} (hq : QueueStructure q)
    (h : requested.foldlM (fun (q : QueueTables) r => q.ensurePartition userId r) q = some q') :
    QueueStructure q' ∧ PartitionsEnsured q q' userId (requested.map Requested.group) := by
  induction requested generalizing q with
  | nil =>
      cases h
      exact ⟨hq, nil _ _⟩
  | cons r rest ih =>
      rw [List.foldlM_cons] at h
      obtain ⟨middle, hfirst, hrest⟩ := Option.bind_eq_some_iff.mp h
      have hmiddle := hq.admission (ensurePartition_steps hfirst)
      obtain ⟨hq', hensured⟩ := ih hmiddle hrest
      exact ⟨hq', append hmiddle hq' (step hq hfirst) hensured⟩

/-- Groups that all have a partition need none. -/
theorem same {requested : List Requested}
    (h : ∀ r ∈ requested, (q.partitionOf userId r.group).isSome = true) :
    requested.foldlM (fun (q : QueueTables) r => q.ensurePartition userId r) q = some q := by
  induction requested with
  | nil => rfl
  | cons r rest ih =>
      obtain ⟨partition, hfound⟩ := Option.isSome_iff_exists.mp (h r List.mem_cons_self)
      have hfirst : q.ensurePartition userId r = some q := by
        simp [QueueTables.ensurePartition, hfound]
      rw [List.foldlM_cons, hfirst]
      apply ih
      intro r' hr'
      exact h r' (List.mem_cons_of_mem r hr')

end PartitionsEnsured

/-! ## The intents of a request -/

/-- What `INSERT INTO submission_intents` did for some requested rows of a binding. -/
structure IntentsEnqueued (q q' : QueueTables) (binding : PhotoBinding) (requestId : Token)
    (createdAtUs : Us) (requested : List Requested) : Prop where
  others : q' = { q with partitions := q'.partitions, intents := q'.intents }
  kept : ∀ intent ∈ q.intents, intent ∈ q'.intents
  added : ∀ intent ∈ q'.intents, intent ∈ q.intents ∨ ∃ r ∈ requested,
    q.pairIntent binding.photoId r.group = none ∧
    ∃ partition, q.partitionOf binding.userId r.group = some partition ∧
      intent = newIntent binding partition r requestId createdAtUs
  present : ∀ r ∈ requested, (q.partitionOf binding.userId r.group).isSome = true →
    (q'.pairIntent binding.photoId r.group).isSome = true
  otherPartitions : ∀ user group, (user ≠ binding.userId ∨
    (∀ r ∈ requested, r.group ≠ group) ∨ (q.pairIntent binding.photoId group).isSome = true) →
    q'.partitionOf user group = q.partitionOf user group
  allocated : ∀ r ∈ requested, q.pairIntent binding.photoId r.group = none →
    (q.partitionOf binding.userId r.group).isSome = true →
    q'.nextOrdinal binding.userId r.group = q.nextOrdinal binding.userId r.group + 1

namespace IntentsEnqueued

variable {q q' q'' : QueueTables} {binding : PhotoBinding} {requestId : Token}
  {createdAtUs : Us}

/-- The pairs that had an intent keep it. -/
theorem pairIntent_kept {requested : List Requested} (hq : QueueStructure q)
    (hq' : QueueStructure q')
    (h : IntentsEnqueued q q' binding requestId createdAtUs requested)
    {photoId groupId : Token} {intent : SubmissionIntent}
    (hfound : q.pairIntent photoId groupId = some intent) :
    q'.pairIntent photoId groupId = some intent := by
  obtain ⟨hmem, hpair⟩ := hq.pairIntent_eq_some.mp hfound
  exact hq'.pairIntent_eq_some.mpr ⟨h.kept intent hmem, hpair⟩

theorem nil (q : QueueTables) (binding : PhotoBinding) (requestId : Token) (createdAtUs : Us) :
    IntentsEnqueued q q binding requestId createdAtUs [] where
  others := rfl
  kept := by
    intro _ hmem
    exact hmem
  added := by
    intro _ hmem
    exact Or.inl hmem
  present := by simp
  otherPartitions := by
    intro _ _ _
    rfl
  allocated := by simp

/-- A requested row whose pair has an intent, or whose group has no partition. -/
theorem skipped {requested : Requested}
    (h : (q.pairIntent binding.photoId requested.group).isSome = true ∨
      q.partitionOf binding.userId requested.group = none) :
    IntentsEnqueued q q binding requestId createdAtUs [requested] := by
  refine ⟨rfl, fun _ => id, fun _ => Or.inl, ?_, fun _ _ _ => rfl, ?_⟩
  · intro r hr hpartition
    rw [List.mem_singleton.mp hr] at hpartition ⊢
    rcases h with h | h
    · exact h
    · simp [h] at hpartition
  · intro r hr hnone hpartition
    rw [List.mem_singleton.mp hr] at hnone hpartition
    rcases h with h | h
    · simp [hnone] at h
    · simp [h] at hpartition

/-- The partition rows after an allocation, by user and group. -/
theorem partitionOf_enqueued (hq : QueueStructure q) {intents : Table SubmissionIntent.intentId}
    {partition : GroupPartition} (hmember : partition ∈ q.partitions)
    (hq' : QueueStructure
      (({ q with intents := intents }).enqueued partition.partitionId createdAtUs)) :
    (∀ user group, (user ≠ partition.userId ∨ group ≠ partition.groupId) →
      (({ q with intents := intents }).enqueued partition.partitionId createdAtUs).partitionOf
        user group = q.partitionOf user group) ∧
    (({ q with intents := intents }).enqueued partition.partitionId createdAtUs).nextOrdinal
      partition.userId partition.groupId = partition.nextEnqueueOrdinal + 1 := by
  constructor
  · intro user group hother
    ext row
    rw [hq'.partitionOf_eq_some, hq.partitionOf_eq_some]
    constructor
    · rintro ⟨hmem, huser, hgroup⟩
      simp only [QueueTables.enqueued, Table.mem_modify] at hmem
      obtain ⟨old, hold, rfl⟩ := hmem
      split at huser
      · next hsame =>
          have heq : old = partition := Table.eq_of_key_eq hold hmember hsame
          rw [if_pos hsame] at hgroup
          subst heq
          rcases hother with hother | hother
          · exact absurd huser.symm hother
          · exact absurd hgroup.symm hother
      · next hne =>
          rw [if_neg hne] at hgroup ⊢
          exact ⟨hold, huser, hgroup⟩
    · rintro ⟨hmem, huser, hgroup⟩
      refine ⟨?_, huser, hgroup⟩
      simp only [QueueTables.enqueued, Table.mem_modify]
      refine ⟨row, hmem, ?_⟩
      rw [if_neg]
      intro hsame
      have heq : row = partition := Table.eq_of_key_eq hmem hmember hsame
      subst heq
      rcases hother with hother | hother
      · exact absurd huser.symm hother
      · exact absurd hgroup.symm hother
  · cases hfound : (({ q with intents := intents }).enqueued partition.partitionId
        createdAtUs).partitionOf partition.userId partition.groupId with
    | none =>
        obtain ⟨new, hnew, hpair⟩ := QueueStructure.find?_enqueued { q with intents := intents }
          partition.partitionId createdAtUs (Table.find?_of_mem hmember)
        cases hfound.symm.trans
          (hq'.partitionOf_eq_some.mpr ⟨Table.mem_of_find? hnew, hpair⟩)
    | some row =>
        obtain ⟨hmem, huser, hgroup⟩ := hq'.partitionOf_eq_some.mp hfound
        obtain ⟨old, hold, hid, huser', hgroup', hnext⟩ := QueueStructure.mem_enqueued hmem
        have heq : old = partition := hq.partitionPairs old hold partition hmember
          (huser'.symm.trans huser) (hgroup'.symm.trans hgroup)
        subst heq
        simp [QueueTables.nextOrdinal, hfound, hnext]

theorem step (hq : QueueStructure q) {requested : Requested}
    (h : q.enqueue binding requestId createdAtUs requested = some q') :
    IntentsEnqueued q q' binding requestId createdAtUs [requested] := by
  have hq' := hq.admission (enqueue_steps h)
  unfold QueueTables.enqueue at h
  split at h
  · next hsome =>
      cases h
      exact skipped (Or.inl (Option.isSome_of_mem hsome))
  · next hnone =>
      split at h
      · next hpartition =>
          cases h
          exact skipped (Or.inr hpartition)
      · next partition hpartition =>
          split at h
          · cases h
          · obtain ⟨intents, hinsert, rfl⟩ := Option.map_eq_some_iff.mp h
            obtain ⟨hmember, huser, hgroup⟩ := QueueStructure.mem_of_partitionOf hpartition
            obtain ⟨hothers, hnext⟩ := partitionOf_enqueued hq hmember hq'
            have hmem : ∀ intent, intent ∈ intents ↔ intent ∈ q.intents ∨
                intent = newIntent binding partition requested requestId createdAtUs :=
              fun _ => Table.mem_insert? hinsert
            refine ⟨rfl, ?_, ?_, ?_, ?_, ?_⟩
            · intro intent hold
              exact (hmem intent).mpr (Or.inl hold)
            · intro intent hin
              rcases (hmem intent).mp hin with hold | rfl
              · exact Or.inl hold
              · exact Or.inr ⟨requested, List.mem_singleton_self _, hnone, partition, hpartition,
                  rfl⟩
            · intro r hr _
              rw [List.mem_singleton.mp hr]
              exact Option.isSome_of_mem
                (hq'.pairIntent_eq_some.mpr ⟨(hmem _).mpr (Or.inr rfl), rfl, rfl⟩)
            · intro user group hother
              apply hothers
              rw [huser, hgroup]
              rcases hother with hother | hother | hother
              · exact Or.inl hother
              · exact Or.inr (Ne.symm (hother requested (List.mem_singleton_self _)))
              · right
                rintro rfl
                simp [hnone] at hother
            · intro r hr _ _
              rw [List.mem_singleton.mp hr]
              rw [huser, hgroup] at hnext
              rw [hnext]
              simp [QueueTables.nextOrdinal, hpartition]

/-- Rows of other groups after the first one. -/
theorem cons (hq : QueueStructure q) (hq' : QueueStructure q') (hq'' : QueueStructure q'')
    {r : Requested} {rest : List Requested} (hfresh : ∀ r' ∈ rest, r'.group ≠ r.group)
    (h : IntentsEnqueued q q' binding requestId createdAtUs [r])
    (h' : IntentsEnqueued q' q'' binding requestId createdAtUs rest) :
    IntentsEnqueued q q'' binding requestId createdAtUs (r :: rest) := by
  have hother : ∀ r' ∈ rest, q'.partitionOf binding.userId r'.group =
      q.partitionOf binding.userId r'.group := by
    intro r' hr'
    apply h.otherPartitions
    right
    left
    intro r'' hr''
    rw [List.mem_singleton.mp hr'']
    exact Ne.symm (hfresh r' hr')
  have hmissing : ∀ r' ∈ rest, q.pairIntent binding.photoId r'.group = none →
      q'.pairIntent binding.photoId r'.group = none := by
    intro r' hr' hnone
    cases hfound : q'.pairIntent binding.photoId r'.group with
    | none => rfl
    | some intent =>
        obtain ⟨hmem, hphoto, hgroup⟩ := hq'.pairIntent_eq_some.mp hfound
        rcases h.added intent hmem with hold | ⟨r'', hr'', _, _, _, rfl⟩
        · exact absurd hgroup (QueueStructure.pairIntent_eq_none hnone hold hphoto)
        · rw [List.mem_singleton.mp hr''] at hgroup
          exact absurd hgroup.symm (hfresh r' hr')
  refine ⟨by rw [h'.others, h.others], ?_, ?_, ?_, ?_, ?_⟩
  · intro intent hmem
    exact h'.kept intent (h.kept intent hmem)
  · intro intent hmem
    rcases h'.added intent hmem with hold | ⟨r', hr', hnone, partition, hpartition, rfl⟩
    · rcases h.added intent hold with hold | ⟨r', hr', hrow⟩
      · exact Or.inl hold
      · rw [List.mem_singleton.mp hr'] at hrow
        exact Or.inr ⟨r, List.mem_cons_self, hrow⟩
    · right
      refine ⟨r', List.mem_cons_of_mem r hr', ?_, partition, ?_, rfl⟩
      · cases hfound : q.pairIntent binding.photoId r'.group with
        | none => rfl
        | some intent => cases hnone.symm.trans (h.pairIntent_kept hq hq' hfound)
      · rw [← hother r' hr']
        exact hpartition
  · intro r' hr' hpartition
    rcases List.mem_cons.mp hr' with rfl | hr'
    · obtain ⟨intent, hfound⟩ := Option.isSome_iff_exists.mp
        (h.present r' (List.mem_singleton_self _) hpartition)
      exact Option.isSome_of_mem (h'.pairIntent_kept hq' hq'' hfound)
    · rw [← hother r' hr'] at hpartition
      exact h'.present r' hr' hpartition
  · intro user group hquiet
    rw [h'.otherPartitions, h.otherPartitions]
    · rcases hquiet with hquiet | hquiet | hquiet
      · exact Or.inl hquiet
      · right
        left
        intro r' hr'
        exact hquiet r' (List.mem_singleton.mp hr' ▸ List.mem_cons_self)
      · exact Or.inr (Or.inr hquiet)
    · rcases hquiet with hquiet | hquiet | hquiet
      · exact Or.inl hquiet
      · right
        left
        intro r' hr'
        exact hquiet r' (List.mem_cons_of_mem r hr')
      · right
        right
        obtain ⟨intent, hfound⟩ := Option.isSome_iff_exists.mp hquiet
        exact Option.isSome_of_mem (h.pairIntent_kept hq hq' hfound)
  · intro r' hr' hnone hpartition
    rcases List.mem_cons.mp hr' with rfl | hr'
    · rw [← h.allocated r' (List.mem_singleton_self _) hnone hpartition]
      simp only [QueueTables.nextOrdinal]
      rw [h'.otherPartitions]
      exact Or.inr (Or.inl hfresh)
    · rw [h'.allocated r' hr' (hmissing r' hr' hnone) (by rw [hother r' hr']; exact hpartition)]
      simp only [QueueTables.nextOrdinal, hother r' hr']

/-- The whole statement. -/
theorem all {requested : List Requested} (hq : QueueStructure q)
    (hgroups : (requested.map Requested.group).Nodup)
    (h : requested.foldlM
      (fun (q : QueueTables) r => q.enqueue binding requestId createdAtUs r) q = some q') :
    QueueStructure q' ∧ IntentsEnqueued q q' binding requestId createdAtUs requested := by
  induction requested generalizing q with
  | nil =>
      cases h
      exact ⟨hq, nil _ _ _ _⟩
  | cons r rest ih =>
      rw [List.foldlM_cons] at h
      obtain ⟨middle, hfirst, hrest⟩ := Option.bind_eq_some_iff.mp h
      rw [List.map_cons, List.nodup_cons] at hgroups
      have hmiddle := hq.admission (enqueue_steps hfirst)
      obtain ⟨hq', henqueued⟩ := ih hmiddle hgroups.2 hrest
      refine ⟨hq', cons hq hmiddle hq' ?_ (step hq hfirst) henqueued⟩
      intro r' hr' hsame
      exact hgroups.1 (List.mem_map.mpr ⟨r', hr', hsame⟩)

/-- Pairs that all have an intent need none. -/
theorem same {requested : List Requested}
    (h : ∀ r ∈ requested, (q.pairIntent binding.photoId r.group).isSome = true) :
    requested.foldlM (fun (q : QueueTables) r => q.enqueue binding requestId createdAtUs r) q =
      some q := by
  induction requested with
  | nil => rfl
  | cons r rest ih =>
      obtain ⟨intent, hfound⟩ := Option.isSome_iff_exists.mp (h r List.mem_cons_self)
      have hfirst : q.enqueue binding requestId createdAtUs r = some q := by
        simp [QueueTables.enqueue, hfound]
      rw [List.foldlM_cons, hfirst]
      apply ih
      intro r' hr'
      exact h r' (List.mem_cons_of_mem r hr')

end IntentsEnqueued

/-! ## The committed batch -/

/-- `last_admission_at_us` after the batch: written when the request created an intent. -/
def touched (tables : AdmissionTables) (call : AdmitCall) (queue : QueueTables)
    (bindingId : Token) (now : Us) : Table LastAdmission.bindingId :=
  if queue.intents.rows.any fun intent => intent.createdRequestId = call.requestId then
    (tables.lastAdmissions.ensure ⟨bindingId, now⟩).set ⟨bindingId, now⟩
  else tables.lastAdmissions

/-- What a committed batch checked, did and returned. -/
structure BatchEffect (call : AdmitCall) (now : ClockReading) (tables : AdmissionTables)
    (t : AdmissionTransaction) (binding : PhotoBinding) (middle queue : QueueTables) : Prop where
  bound : call.binding tables.db = some binding
  valid : admissionValid tables.db.queue binding call.request.flickrGroupIds now.us
  partitions : call.requested.foldlM
    (fun (q : QueueTables) r => q.ensurePartition binding.userId r) tables.db.queue = some middle
  intents : call.requested.foldlM
    (fun (q : QueueTables) r => q.enqueue binding call.requestId now.us r) middle = some queue
  left : t.tables =
    { db := { tables.db with queue := queue }
      lastAdmissions := touched tables call queue binding.bindingId now.us
      events := tables.events ++ admittedEvents middle queue
      guards := tables.guards }
  rows : t.rows = (admissionItems queue binding call.requestId call.request.flickrGroupIds).map
    fun item => ⟨item, binding.photoId⟩
  hint : t.hint = admissionHint queue call.requestId

/-- The row of a binding that the join found. -/
theorem admissionBinding_stored {db : Db} {auth : AdmissionAuth} {bindingId : Token}
    {revision : Nat} {binding : PhotoBinding}
    (h : admissionBinding db auth bindingId revision = some binding) :
    db.flickr.bindings.find? bindingId = some binding := by
  obtain ⟨stored, hfind, h⟩ := Option.bind_eq_some_iff.mp h
  obtain ⟨_, _, h⟩ := Option.bind_eq_some_iff.mp h
  obtain ⟨_, _, h⟩ := Option.bind_eq_some_iff.mp h
  obtain ⟨_, _, h⟩ := Option.bind_eq_some_iff.mp h
  obtain ⟨_, _, h⟩ := Option.bind_eq_some_iff.mp h
  rw [(Option.ite_none_right_eq_some.mp h).2] at hfind
  exact hfind

/-- A guard row that is inserted and deleted again leaves no trace. -/
theorem erase_of_insert? {guards guards' : Table TransactionGuard.transactionId}
    {guard : TransactionGuard} (h : guards.insert? guard = some guards') :
    guards'.erase guard.transactionId = guards := by
  obtain ⟨hfresh, hrows⟩ := Table.insert?_eq_some h
  ext1
  simp only [Table.erase, hrows, List.filter_append, decide_not]
  rw [List.filter_eq_self.mpr]
  · simp
  · intro row hrow
    have hne := Table.find?_eq_none.mp hfresh row hrow
    simp [hne]

theorem AdmitCall.batch_effect {call : AdmitCall} {failing : AdmissionStatement → Bool}
    {now : ClockReading} {tables : AdmissionTables} {t : AdmissionTransaction}
    (h : call.batch failing now tables = some t) :
    ∃ binding middle queue, BatchEffect call now tables t binding middle queue := by
  have hall : execAll (fun t statement => AdmissionStatement.exec call now t statement)
      ⟨tables, [], none⟩ AdmissionStatement.all = some t := by
    refine execAll_mono ?_ h
    intro s statement s' hexec
    exact (Option.ite_none_left_eq_some.mp hexec).2
  clear h
  simp only [AdmissionStatement.all, execAll, Option.bind_eq_some_iff] at hall
  obtain ⟨t₁, hguard, t₂, hpartitions, t₃, hintents, t₄, htouch, t₅, hrows, t₆, hhint, t₇, hdelete,
    hlast⟩ := hall
  cases hlast
  obtain ⟨guards, hinsert, rfl⟩ := Option.map_eq_some_iff.mp hguard
  obtain ⟨hvalid, hinsert⟩ := Table.insertIf?_eq_some.mp hinsert
  have hfound : guards.find? call.requestId = some ⟨call.requestId, now.us⟩ := by
    rw [Table.find?_insert? hinsert, if_pos rfl]
  cases hbinding : call.binding tables.db with
  | none => simp [AdmitCall.valid, hbinding] at hvalid
  | some binding =>
      have hstored := admissionBinding_stored hbinding
      have hid : binding.bindingId = call.request.fgaPhotoBindingId := Table.key_of_find? hstored
      simp only [AdmitCall.valid, hbinding, decide_eq_true_eq] at hvalid
      -- no statement of the batch writes a table the join reads
      have hjoin : ∀ queue : QueueTables,
          call.binding { tables.db with queue := queue } = some binding := fun _ => hbinding
      simp only [AdmissionStatement.exec, hbinding] at hpartitions
      obtain ⟨middle, hmiddle, rfl⟩ := Option.map_eq_some_iff.mp hpartitions
      simp only [AdmissionStatement.exec, hjoin, hfound] at hintents
      obtain ⟨queue, hqueue, rfl⟩ := Option.map_eq_some_iff.mp hintents
      have htouched : t₄ =
          { tables :=
              { db := { tables.db with queue := queue }
                lastAdmissions := touched tables call queue binding.bindingId now.us
                events := tables.events ++ admittedEvents middle queue
                guards := guards }
            rows := []
            hint := none } := by
        simp only [AdmissionStatement.exec, hfound, hstored] at htouch
        unfold touched
        split at htouch
        · next hany =>
            cases htouch
            rw [if_pos hany]
        · next hany =>
            cases htouch
            rw [if_neg hany]
      subst htouched
      simp only [AdmissionStatement.exec, hjoin, Option.some.injEq] at hrows
      subst hrows
      simp only [AdmissionStatement.exec, Option.some.injEq] at hhint
      subst hhint
      simp only [AdmissionStatement.exec, Option.some.injEq] at hdelete
      subst hdelete
      exact ⟨binding, middle, queue, hbinding, hvalid, hmiddle, hqueue,
        by simp only [erase_of_insert? hinsert], rfl, rfl⟩

/-- A committed batch is the admission of the coordination model. -/
theorem BatchEffect.admitRequest {call : AdmitCall} {now : ClockReading}
    {tables : AdmissionTables} {t : AdmissionTransaction} {binding : PhotoBinding}
    {middle queue : QueueTables} (h : BatchEffect call now tables t binding middle queue) :
    ∃ result, FlickrGroupAddr.admitRequest tables.db call.auth call.request call.requestId call.ids
      now = some (t.tables.db, result) := by
  have hqueue : tables.db.queue.enqueueAll binding call.requestId now.us call.requested =
      some queue := by
    simp [QueueTables.enqueueAll, h.partitions, h.intents]
  have hbound : admissionBinding tables.db call.auth call.request.fgaPhotoBindingId
      call.request.expectedVerificationRevision = some binding := h.bound
  unfold AdmitCall.requested at hqueue
  simp [FlickrGroupAddr.admitRequest, hbound, call.drawn, h.valid, hqueue, h.left]

end FlickrGroupAddr

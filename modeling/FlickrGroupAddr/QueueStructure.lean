import FlickrGroupAddr.QueueSteps

/-!
# The structure of the queue

What the keys and the identity columns guarantee in every reachable state: an
intent is in the partition of its user and group, a pair has one intent, and the
ordinals of a partition are the numbers below its counter, each used once.  No
step but the inserts touches an identity column, so most steps keep the structure
for one reason.
-/

namespace FlickrGroupAddr

set_option autoImplicit false

open KeyedTable

/-! ## Identity columns -/

/-- The columns `intent_identity_immutable` protects. -/
structure IntentIdentity where
  intentId : Token
  bindingId : Token
  userId : Token
  photoId : Token
  groupId : Token
  partitionId : Token
  enqueueOrdinal : Nat
  createdAtUs : Us
  createdRequestId : Token

def SubmissionIntent.identity (intent : SubmissionIntent) : IntentIdentity where
  intentId := intent.intentId
  bindingId := intent.bindingId
  userId := intent.userId
  photoId := intent.photoId
  groupId := intent.groupId
  partitionId := intent.partitionId
  enqueueOrdinal := intent.enqueueOrdinal
  createdAtUs := intent.createdAtUs
  createdRequestId := intent.createdRequestId

/-- The columns of a partition that only an insert or an allocation moves. -/
structure PartitionIdentity where
  partitionId : Token
  userId : Token
  groupId : Token
  nextEnqueueOrdinal : Nat

def GroupPartition.identity (partition : GroupPartition) : PartitionIdentity where
  partitionId := partition.partitionId
  userId := partition.userId
  groupId := partition.groupId
  nextEnqueueOrdinal := partition.nextEnqueueOrdinal

/-- No row was added or lost, and no identity column changed. -/
structure SameIdentities (q q' : QueueTables) : Prop where
  intents : ∀ k, (q'.intents.find? k).map SubmissionIntent.identity =
    (q.intents.find? k).map SubmissionIntent.identity
  partitions : ∀ k, (q'.partitions.find? k).map GroupPartition.identity =
    (q.partitions.find? k).map GroupPartition.identity

namespace SameIdentities

variable {q q' q'' : QueueTables}

/-- Every intent of the new state is an old one up to its mutable columns. -/
theorem intent_back (h : SameIdentities q q') {intent : SubmissionIntent}
    (hmem : intent ∈ q'.intents) :
    ∃ old ∈ q.intents, old.identity = intent.identity := by
  have hfind := h.intents intent.intentId
  rw [Table.find?_of_mem hmem] at hfind
  obtain ⟨old, hold, hsame⟩ := Option.map_eq_some_iff.mp hfind.symm
  exact ⟨old, Table.mem_of_find? hold, hsame⟩

theorem intent_forward (h : SameIdentities q q') {intent : SubmissionIntent}
    (hmem : intent ∈ q.intents) :
    ∃ new ∈ q'.intents, new.identity = intent.identity := by
  have hfind := h.intents intent.intentId
  rw [Table.find?_of_mem hmem] at hfind
  obtain ⟨new, hnew, hsame⟩ := Option.map_eq_some_iff.mp hfind
  exact ⟨new, Table.mem_of_find? hnew, hsame⟩

theorem partition_back (h : SameIdentities q q') {partition : GroupPartition}
    (hmem : partition ∈ q'.partitions) :
    ∃ old ∈ q.partitions, old.identity = partition.identity := by
  have hfind := h.partitions partition.partitionId
  rw [Table.find?_of_mem hmem] at hfind
  obtain ⟨old, hold, hsame⟩ := Option.map_eq_some_iff.mp hfind.symm
  exact ⟨old, Table.mem_of_find? hold, hsame⟩

theorem partition_forward (h : SameIdentities q q') {k : Token} {partition : GroupPartition}
    (hfind : q.partitions.find? k = some partition) :
    ∃ new, q'.partitions.find? k = some new ∧ new.identity = partition.identity := by
  have hmap := h.partitions k
  rw [hfind] at hmap
  exact Option.map_eq_some_iff.mp hmap

end SameIdentities

theorem settledPartition_identity (q : QueueTables) (r : Resolution) (probeUs : Us)
    (partition : GroupPartition) :
    (settledPartition q r probeUs partition).identity = partition.identity := by
  unfold settledPartition probedPartition
  split <;> rfl

theorem ResolveEffect.sameIdentities {q q' : QueueTables} {lease : Lease} {attemptId : Token}
    {r : Resolution} {delay : Int} {clock : ResolutionClock}
    (h : ResolveEffect q lease attemptId r delay clock q') : SameIdentities q q' := by
  refine ⟨fun k => ?_, fun k => ?_⟩
  · rw [h.intents]
    exact Table.map_find?_modify _ _ _ k
  · rw [h.partitions]
    split
    · rw [Option.map_map]
      congr 1
      funext partition
      exact settledPartition_identity _ _ _ partition
    · rfl

theorem QueueTables.recordPhase_sameIdentities {q q' : QueueTables} {lease : Lease}
    {attemptId : Token} {kind : RecordKind} {now : Us}
    (h : q.recordPhase lease attemptId kind now = some q') : SameIdentities q q' := by
  cases kind with
  | membership =>
      obtain ⟨_, _, rfl⟩ := Option.map_eq_some_iff.mp h
      exact ⟨fun _ => rfl, fun _ => rfl⟩
  | preflight =>
      obtain ⟨_, _, rfl⟩ := Option.map_eq_some_iff.mp h
      exact ⟨fun _ => rfl, fun _ => rfl⟩
  | marker =>
      obtain ⟨_, _, rfl⟩ := Option.map_eq_some_iff.mp h
      exact ⟨fun _ => Table.map_find?_modify _ _ _ _, fun _ => rfl⟩

/-- A step that inserts neither a partition nor an intent keeps the identities. -/
theorem QueueStep.sameIdentities_or_insert {q q' : QueueTables} (h : QueueStep q q') :
    SameIdentities q q' ∨
    (∃ partitionId userId groupId partitions, q.partitionOf userId groupId = none ∧
      q.partitions.insert? (newPartition partitionId userId groupId) = some partitions ∧
      q' = { q with partitions := partitions }) ∨
    (∃ binding partition requested requestId createdAtUs intents,
      q.pairIntent binding.photoId requested.group = none ∧
      q.partitionOf binding.userId requested.group = some partition ∧
      q.intents.insert? (newIntent binding partition requested requestId createdAtUs) =
        some intents ∧
      q' = ({ q with intents := intents }).enqueued partition.partitionId createdAtUs) := by
  cases h with
  | admission hinsert =>
      cases hinsert with
      | addPartition hnone hinsert => exact Or.inr (Or.inl ⟨_, _, _, _, hnone, hinsert, rfl⟩)
      | enqueue hnone hpartition _ hinsert =>
          exact Or.inr (Or.inr ⟨_, _, _, _, _, _, hnone, hpartition, hinsert, rfl⟩)
  | claim => exact Or.inl ⟨fun _ => rfl, fun _ => Table.map_find?_modify _ _ _ _⟩
  | renew => exact Or.inl ⟨fun _ => rfl, fun _ => Table.map_find?_modify _ _ _ _⟩
  | release => exact Or.inl ⟨fun _ => rfl, fun _ => Table.map_find?_modify _ _ _ _⟩
  | defer =>
      exact Or.inl ⟨fun _ => Table.map_find?_modify _ _ _ _,
        fun _ => Table.map_find?_modify _ _ _ _⟩
  | begin _ _ _ _ _ hwrite =>
      obtain ⟨attempts, _, rfl⟩ := Option.map_eq_some_iff.mp hwrite
      exact Or.inl ⟨fun _ => Table.map_find?_modify _ _ _ _, fun _ => rfl⟩
  | record _ _ _ hwrite => exact Or.inl (QueueTables.recordPhase_sameIdentities hwrite)
  | resolve _ hwrite => exact Or.inl (QueueTables.resolve_effect hwrite).sameIdentities

/-! ## The structural invariant -/

structure QueueStructure (q : QueueTables) : Prop where
  /-- An intent is in the partition of its user and group. -/
  home : ∀ intent ∈ q.intents, ∃ partition, q.partitions.find? intent.partitionId = some partition ∧
    partition.userId = intent.userId ∧ partition.groupId = intent.groupId
  partitionPairs : ∀ left ∈ q.partitions, ∀ right ∈ q.partitions, left.userId = right.userId →
    left.groupId = right.groupId → left = right
  pairs : ∀ left ∈ q.intents, ∀ right ∈ q.intents, left.photoId = right.photoId →
    left.groupId = right.groupId → left = right
  ordinals : q.OrdinalsUnique
  counters : ∀ partition ∈ q.partitions, 1 ≤ partition.nextEnqueueOrdinal
  /-- The ordinals of a partition are exactly the numbers below its counter. -/
  range : ∀ partition ∈ q.partitions, ∀ n : Nat,
    (∃ intent ∈ q.intents, intent.partitionId = partition.partitionId ∧
      intent.enqueueOrdinal = n) ↔ 1 ≤ n ∧ n < partition.nextEnqueueOrdinal

namespace QueueStructure

variable {q q' : QueueTables}

theorem of_sameIdentities (h : QueueStructure q) (hsame : SameIdentities q q') :
    QueueStructure q' where
  home := by
    intro intent hmem
    obtain ⟨old, hold, hid⟩ := hsame.intent_back hmem
    obtain ⟨partition, hfind, huser, hgroup⟩ := h.home old hold
    obtain ⟨new, hnew, hnewid⟩ := hsame.partition_forward hfind
    have hpartition : old.partitionId = intent.partitionId :=
      congrArg IntentIdentity.partitionId hid
    refine ⟨new, hpartition ▸ hnew, ?_, ?_⟩
    · exact (congrArg PartitionIdentity.userId hnewid).trans
        (huser.trans (congrArg IntentIdentity.userId hid))
    · exact (congrArg PartitionIdentity.groupId hnewid).trans
        (hgroup.trans (congrArg IntentIdentity.groupId hid))
  partitionPairs := by
    intro left hleft right hright huser hgroup
    obtain ⟨oldLeft, holdLeft, hidLeft⟩ := hsame.partition_back hleft
    obtain ⟨oldRight, holdRight, hidRight⟩ := hsame.partition_back hright
    have heq : oldLeft = oldRight := by
      refine h.partitionPairs oldLeft holdLeft oldRight holdRight ?_ ?_
      · exact (congrArg PartitionIdentity.userId hidLeft).trans
          (huser.trans (congrArg PartitionIdentity.userId hidRight).symm)
      · exact (congrArg PartitionIdentity.groupId hidLeft).trans
          (hgroup.trans (congrArg PartitionIdentity.groupId hidRight).symm)
    refine Table.eq_of_key_eq hleft hright ?_
    exact (congrArg PartitionIdentity.partitionId hidLeft).symm.trans
      ((congrArg GroupPartition.partitionId heq).trans
        (congrArg PartitionIdentity.partitionId hidRight))
  pairs := by
    intro left hleft right hright hphoto hgroup
    obtain ⟨oldLeft, holdLeft, hidLeft⟩ := hsame.intent_back hleft
    obtain ⟨oldRight, holdRight, hidRight⟩ := hsame.intent_back hright
    have heq : oldLeft = oldRight := by
      refine h.pairs oldLeft holdLeft oldRight holdRight ?_ ?_
      · exact (congrArg IntentIdentity.photoId hidLeft).trans
          (hphoto.trans (congrArg IntentIdentity.photoId hidRight).symm)
      · exact (congrArg IntentIdentity.groupId hidLeft).trans
          (hgroup.trans (congrArg IntentIdentity.groupId hidRight).symm)
    refine Table.eq_of_key_eq hleft hright ?_
    exact (congrArg IntentIdentity.intentId hidLeft).symm.trans
      ((congrArg SubmissionIntent.intentId heq).trans (congrArg IntentIdentity.intentId hidRight))
  ordinals := by
    intro left hleft right hright hpartition hordinal
    obtain ⟨oldLeft, holdLeft, hidLeft⟩ := hsame.intent_back hleft
    obtain ⟨oldRight, holdRight, hidRight⟩ := hsame.intent_back hright
    have heq : oldLeft = oldRight := by
      refine h.ordinals oldLeft holdLeft oldRight holdRight ?_ ?_
      · exact (congrArg IntentIdentity.partitionId hidLeft).trans
          (hpartition.trans (congrArg IntentIdentity.partitionId hidRight).symm)
      · exact (congrArg IntentIdentity.enqueueOrdinal hidLeft).trans
          (hordinal.trans (congrArg IntentIdentity.enqueueOrdinal hidRight).symm)
    refine Table.eq_of_key_eq hleft hright ?_
    exact (congrArg IntentIdentity.intentId hidLeft).symm.trans
      ((congrArg SubmissionIntent.intentId heq).trans (congrArg IntentIdentity.intentId hidRight))
  counters := by
    intro partition hmem
    obtain ⟨old, hold, hid⟩ := hsame.partition_back hmem
    exact (h.counters old hold).trans_eq (congrArg PartitionIdentity.nextEnqueueOrdinal hid)
  range := by
    intro partition hmem n
    obtain ⟨old, hold, hid⟩ := hsame.partition_back hmem
    have hpartitionId : old.partitionId = partition.partitionId :=
      congrArg PartitionIdentity.partitionId hid
    have hnext : old.nextEnqueueOrdinal = partition.nextEnqueueOrdinal :=
      congrArg PartitionIdentity.nextEnqueueOrdinal hid
    rw [← hpartitionId, ← hnext]
    refine Iff.trans ?_ (h.range old hold n)
    constructor
    · rintro ⟨intent, hintent, hpartition, hordinal⟩
      obtain ⟨oldIntent, holdIntent, hidIntent⟩ := hsame.intent_back hintent
      exact ⟨oldIntent, holdIntent,
        (congrArg IntentIdentity.partitionId hidIntent).trans hpartition,
        (congrArg IntentIdentity.enqueueOrdinal hidIntent).trans hordinal⟩
    · rintro ⟨intent, hintent, hpartition, hordinal⟩
      obtain ⟨newIntent, hnewIntent, hidIntent⟩ := hsame.intent_forward hintent
      exact ⟨newIntent, hnewIntent,
        (congrArg IntentIdentity.partitionId hidIntent).trans hpartition,
        (congrArg IntentIdentity.enqueueOrdinal hidIntent).trans hordinal⟩

theorem addPartition (h : QueueStructure q) {partitionId userId groupId : Token}
    {partitions : Table GroupPartition.partitionId} (hnone : q.partitionOf userId groupId = none)
    (hinsert : q.partitions.insert? (newPartition partitionId userId groupId) =
      some partitions) : QueueStructure { q with partitions := partitions } where
  home := by
    intro intent hmem
    obtain ⟨partition, hfind, hpair⟩ := h.home intent hmem
    refine ⟨partition, ?_, hpair⟩
    rw [Table.find?_insert? hinsert, if_neg, hfind]
    intro heq
    have hfresh := (Table.insert?_eq_some hinsert).1
    rw [heq] at hfind
    cases hfresh.symm.trans hfind
  partitionPairs := by
    have hother : ∀ partition ∈ q.partitions, partition.userId = userId →
        partition.groupId ≠ groupId := by
      intro partition hmem huser hgroup
      have hno := List.find?_eq_none.mp hnone partition hmem
      exact hno (by simp [huser, hgroup])
    intro left hleft right hright huser hgroup
    rcases (Table.mem_insert? hinsert).mp hleft with hleft | rfl <;>
      rcases (Table.mem_insert? hinsert).mp hright with hright | rfl
    · exact h.partitionPairs left hleft right hright huser hgroup
    · exact absurd hgroup (hother left hleft huser)
    · exact absurd hgroup.symm (hother right hright huser.symm)
    · rfl
  pairs := h.pairs
  ordinals := h.ordinals
  counters := by
    intro partition hmem
    rcases (Table.mem_insert? hinsert).mp hmem with hold | rfl
    · exact h.counters partition hold
    · exact le_refl 1
  range := by
    intro partition hmem n
    rcases (Table.mem_insert? hinsert).mp hmem with hold | rfl
    · exact h.range partition hold n
    · -- no intent can be in a partition that was not there
      constructor
      · rintro ⟨intent, hintent, hpartition, _⟩
        obtain ⟨other, hfind, _⟩ := h.home intent hintent
        rw [hpartition] at hfind
        cases (Table.insert?_eq_some hinsert).1.symm.trans hfind
      · rintro ⟨hpos, hlt⟩
        exact absurd hlt (not_lt.mpr hpos)

/-- The partition rows after an allocation: only the counter of the one partition
moved among the identity columns. -/
theorem mem_enqueued {partitionId : Token} {createdAtUs : Us} {partition : GroupPartition}
    (hmem : partition ∈ (q.enqueued partitionId createdAtUs).partitions) :
    ∃ old ∈ q.partitions, partition.partitionId = old.partitionId ∧
      partition.userId = old.userId ∧ partition.groupId = old.groupId ∧
      partition.nextEnqueueOrdinal =
        if old.partitionId = partitionId then old.nextEnqueueOrdinal + 1
        else old.nextEnqueueOrdinal := by
  simp only [QueueTables.enqueued] at hmem
  obtain ⟨old, hold, rfl⟩ := Table.mem_modify.mp hmem
  refine ⟨old, hold, ?_⟩
  by_cases hsame : old.partitionId = partitionId
  · simp only [if_pos hsame, and_self]
  · simp only [if_neg hsame, and_self]

theorem find?_enqueued (q : QueueTables) (partitionId : Token) (createdAtUs : Us) {k : Token}
    {partition : GroupPartition} (hfind : q.partitions.find? k = some partition) :
    ∃ new, (q.enqueued partitionId createdAtUs).partitions.find? k = some new ∧
      new.userId = partition.userId ∧ new.groupId = partition.groupId := by
  simp only [QueueTables.enqueued, Table.find?_modify, hfind]
  by_cases hk : k = partitionId
  · rw [if_pos hk]
    exact ⟨_, rfl, rfl, rfl⟩
  · rw [if_neg hk]
    exact ⟨_, rfl, rfl, rfl⟩

theorem mem_of_partitionOf {userId groupId : Token} {partition : GroupPartition}
    (h : q.partitionOf userId groupId = some partition) :
    partition ∈ q.partitions ∧ partition.userId = userId ∧ partition.groupId = groupId := by
  have hpair := List.find?_some h
  simp only [decide_eq_true_eq] at hpair
  exact ⟨List.mem_of_find?_eq_some h, hpair⟩

theorem enqueue (h : QueueStructure q) {binding : PhotoBinding} {partition : GroupPartition}
    {requested : Requested} {requestId : Token} {createdAtUs : Us}
    {intents : Table SubmissionIntent.intentId}
    (hnone : q.pairIntent binding.photoId requested.group = none)
    (hpartition : q.partitionOf binding.userId requested.group = some partition)
    (hinsert : q.intents.insert? (newIntent binding partition requested requestId createdAtUs) =
      some intents) :
    QueueStructure (({ q with intents := intents }).enqueued partition.partitionId createdAtUs) := by
  obtain ⟨hmember, huser, hgroup⟩ := mem_of_partitionOf hpartition
  have hnew : ∀ intent ∈ intents, intent ∈ q.intents ∨
      intent = newIntent binding partition requested requestId createdAtUs :=
    fun intent hmem => (Table.mem_insert? hinsert).mp hmem
  -- the new ordinal is the counter, which no intent of the partition has yet
  have hfresh : ∀ intent ∈ q.intents, intent.partitionId = partition.partitionId →
      intent.enqueueOrdinal ≠ partition.nextEnqueueOrdinal := by
    intro intent hmem hhome hordinal
    have hrange := (h.range partition hmember intent.enqueueOrdinal).mp ⟨intent, hmem, hhome, rfl⟩
    omega
  refine ⟨?_, ?_, ?_, ?_, ?_, ?_⟩
  · intro intent hmem
    have hfound : ∃ old, q.partitions.find? intent.partitionId = some old ∧
        old.userId = intent.userId ∧ old.groupId = intent.groupId := by
      rcases hnew intent hmem with hold | rfl
      · exact h.home intent hold
      · exact ⟨partition, Table.find?_of_mem hmember, huser, hgroup⟩
    obtain ⟨old, hfind, hpair⟩ := hfound
    obtain ⟨new, hnewRow, hsame⟩ :=
      find?_enqueued { q with intents := intents } partition.partitionId createdAtUs hfind
    exact ⟨new, hnewRow, hsame.1.trans hpair.1, hsame.2.trans hpair.2⟩
  · intro left hleft right hright huser' hgroup'
    obtain ⟨oldLeft, holdLeft, hidLeft, huserLeft, hgroupLeft, _⟩ := mem_enqueued hleft
    obtain ⟨oldRight, holdRight, hidRight, huserRight, hgroupRight, _⟩ := mem_enqueued hright
    have heq : oldLeft = oldRight := h.partitionPairs oldLeft holdLeft oldRight holdRight
      (huserLeft.symm.trans (huser'.trans huserRight))
      (hgroupLeft.symm.trans (hgroup'.trans hgroupRight))
    exact Table.eq_of_key_eq hleft hright (hidLeft.trans (heq ▸ hidRight.symm))
  · have hother : ∀ intent ∈ q.intents, intent.photoId = binding.photoId →
        intent.groupId ≠ requested.group := by
      intro intent hmem hphoto hsame
      exact List.find?_eq_none.mp hnone intent hmem (by simp [hphoto, hsame])
    intro left hleft right hright hphoto hsame
    rcases hnew left hleft with hleft | rfl <;> rcases hnew right hright with hright | rfl
    · exact h.pairs left hleft right hright hphoto hsame
    · exact absurd hsame (hother left hleft hphoto)
    · exact absurd hsame.symm (hother right hright hphoto.symm)
    · rfl
  · intro left hleft right hright hhome hordinal
    rcases hnew left hleft with hleft | rfl <;> rcases hnew right hright with hright | rfl
    · exact h.ordinals left hleft right hright hhome hordinal
    · exact absurd hordinal (hfresh left hleft hhome)
    · exact absurd hordinal.symm (hfresh right hright hhome.symm)
    · rfl
  · intro row hrow
    obtain ⟨old, hold, _, _, _, hcounter⟩ := mem_enqueued hrow
    have hpos := h.counters old hold
    rw [hcounter]
    split <;> omega
  · intro row hrow n
    obtain ⟨old, hold, hid, _, _, hcounter⟩ := mem_enqueued hrow
    rw [hid, hcounter]
    have hrange := h.range old hold n
    by_cases hhere : old.partitionId = partition.partitionId
    · have hsame : old = partition := Table.eq_of_key_eq hold hmember hhere
      subst hsame
      rw [if_pos rfl]
      constructor
      · rintro ⟨intent, hmem, hhome, rfl⟩
        rcases hnew intent hmem with hold' | rfl
        · have := hrange.mp ⟨intent, hold', hhome, rfl⟩
          omega
        · exact ⟨h.counters old hold, Nat.lt_succ_self _⟩
      · rintro ⟨hpos, hlt⟩
        by_cases hlast : n = old.nextEnqueueOrdinal
        · exact ⟨_, (Table.mem_insert? hinsert).mpr (Or.inr rfl), rfl, hlast.symm⟩
        · obtain ⟨intent, hmem, hhome, hordinal⟩ := hrange.mpr ⟨hpos, by omega⟩
          exact ⟨intent, (Table.mem_insert? hinsert).mpr (Or.inl hmem), hhome, hordinal⟩
    · rw [if_neg hhere, ← hrange]
      constructor
      · rintro ⟨intent, hmem, hhome, hordinal⟩
        rcases hnew intent hmem with hold' | rfl
        · exact ⟨intent, hold', hhome, hordinal⟩
        · exact absurd hhome.symm hhere
      · rintro ⟨intent, hmem, hhome, hordinal⟩
        exact ⟨intent, (Table.mem_insert? hinsert).mpr (Or.inl hmem), hhome, hordinal⟩

/-- Every step keeps the structure. -/
theorem step (h : QueueStructure q) (hstep : QueueStep q q') : QueueStructure q' := by
  rcases hstep.sameIdentities_or_insert with
    hsame | ⟨_, _, _, _, hnone, hinsert, rfl⟩ | ⟨_, _, _, _, _, _, hnone, hpartition, hinsert, rfl⟩
  · exact h.of_sameIdentities hsame
  · exact h.addPartition hnone hinsert
  · exact h.enqueue hnone hpartition hinsert

end QueueStructure

end FlickrGroupAddr

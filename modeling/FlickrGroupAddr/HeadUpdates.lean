import FlickrGroupAddr.QueueStructure

/-!
# Updates of a head

A deferral, a begin, a dispatch marker and a resolution each rewrite one intent
row, the head of the leased partition.  What such an update does to the heads of
the partitions depends only on whether the new row is still an active member.
-/

namespace FlickrGroupAddr

set_option autoImplicit false

open KeyedTable

/-- `q'` has the intents of `q` but for the head of the partition, which became
`head'` without a change of identity. -/
structure HeadUpdate (q q' : QueueTables) (partitionId : Token)
    (head head' : SubmissionIntent) : Prop where
  wasHead : q.headIntent partitionId = some head
  updated : q'.intents.find? head.intentId = some head'
  others : ∀ k, k ≠ head.intentId → q'.intents.find? k = q.intents.find? k
  identity : head'.identity = head.identity

namespace HeadUpdate

variable {q q' : QueueTables} {partitionId : Token} {head head' : SubmissionIntent}

theorem of_modify {k : Token} {f : SubmissionIntent → SubmissionIntent}
    (hhead : q.headIntent partitionId = some head) (hk : head.intentId = k)
    (hi : ∀ k', q'.intents.find? k' =
      if k' = k then (q.intents.find? k').map f else q.intents.find? k')
    (hf : f head = head') (hid : head'.identity = head.identity) :
    HeadUpdate q q' partitionId head head' where
  wasHead := hhead
  updated := by
    have hmem := (QueueTables.isHead_of_headIntent hhead).mem
    rw [hi, if_pos hk, Table.find?_of_mem hmem, Option.map_some, hf]
  others := by
    intro k' hk'
    rw [hi, if_neg fun heq => hk' (heq.trans hk.symm)]
  identity := hid

variable (h : HeadUpdate q q' partitionId head head')
include h

theorem isHead : q.IsHead partitionId head := QueueTables.isHead_of_headIntent h.wasHead

theorem head_mem : head ∈ q.intents := h.isHead.mem

theorem head'_mem : head' ∈ q'.intents := Table.mem_of_find? h.updated

theorem intentId : head'.intentId = head.intentId := Table.key_of_find? h.updated

theorem partition : head'.partitionId = partitionId :=
  (congrArg IntentIdentity.partitionId h.identity).trans h.isHead.partition

/-- The rows of the new state: the updated head and the other old rows. -/
theorem mem_iff {intent : SubmissionIntent} :
    intent ∈ q'.intents ↔ intent = head' ∨ intent ∈ q.intents ∧ intent.intentId ≠ head.intentId := by
  constructor
  · intro hmem
    by_cases hid : intent.intentId = head.intentId
    · left
      have hfind := Table.find?_of_mem hmem
      rw [hid, h.updated] at hfind
      exact (Option.some.inj hfind).symm
    · right
      have hfind := Table.find?_of_mem hmem
      rw [h.others _ hid] at hfind
      exact ⟨Table.mem_of_find? hfind, hid⟩
  · rintro (rfl | ⟨hmem, hid⟩)
    · exact h.head'_mem
    · have hfind := Table.find?_of_mem hmem
      rw [← h.others _ hid] at hfind
      exact Table.mem_of_find? hfind

/-- The other partitions keep their heads. -/
theorem headIntent_of_ne (hunique : q'.OrdinalsUnique) {other : Token} (hne : other ≠ partitionId) :
    q'.headIntent other = q.headIntent other := by
  have hrows : ∀ intent : SubmissionIntent, intent.partitionId = other →
      (intent ∈ q'.intents ↔ intent ∈ q.intents) := by
    intro intent hhome
    rw [h.mem_iff]
    constructor
    · rintro (rfl | ⟨hmem, _⟩)
      · exact absurd (hhome.symm.trans h.partition) hne
      · exact hmem
    · intro hmem
      refine Or.inr ⟨hmem, fun hid => hne ?_⟩
      rw [← hhome, Table.eq_of_key_eq hmem h.head_mem hid]
      exact h.isHead.partition
  cases hhead : q.headIntent other with
  | none =>
      refine QueueTables.headIntent_eq_none.mpr fun intent hmem hhome => ?_
      exact QueueTables.headIntent_eq_none.mp hhead intent ((hrows intent hhome).mp hmem) hhome
  | some top =>
      have htop := QueueTables.isHead_of_headIntent hhead
      refine QueueTables.headIntent_of_isHead hunique
        ⟨(hrows top htop.partition).mpr htop.mem, htop.partition, htop.active, ?_⟩
      intro intent hmem hhome hactive
      exact htop.least intent ((hrows intent hhome).mp hmem) hhome hactive

/-- A head that stays active stays the head. -/
theorem headIntent_of_active (hunique : q'.OrdinalsUnique) (hactive : head'.state.active = true) :
    q'.headIntent partitionId = some head' := by
  refine QueueTables.headIntent_of_isHead hunique ⟨h.head'_mem, h.partition, hactive, ?_⟩
  have hordinal : head'.enqueueOrdinal = head.enqueueOrdinal :=
    congrArg IntentIdentity.enqueueOrdinal h.identity
  intro intent hmem hhome hmember
  rcases h.mem_iff.mp hmem with rfl | ⟨hold, _⟩
  · exact le_refl _
  · rw [hordinal]
    exact h.isHead.least intent hold hhome hmember

end HeadUpdate

/-! ## A new last member -/

/-- `q'` has one intent more, active and behind every member of its partition. -/
structure TailInsert (q q' : QueueTables) (new : SubmissionIntent) : Prop where
  mem_iff : ∀ intent, intent ∈ q'.intents ↔ intent ∈ q.intents ∨ intent = new
  active : new.state.active = true
  last : ∀ intent ∈ q.intents, intent.partitionId = new.partitionId →
    intent.enqueueOrdinal < new.enqueueOrdinal

namespace TailInsert

variable {q q' : QueueTables} {new : SubmissionIntent} (h : TailInsert q q' new)
include h

theorem headIntent_of_ne (hunique : q'.OrdinalsUnique) {other : Token}
    (hne : other ≠ new.partitionId) : q'.headIntent other = q.headIntent other := by
  have hrows : ∀ intent : SubmissionIntent, intent.partitionId = other →
      (intent ∈ q'.intents ↔ intent ∈ q.intents) := by
    intro intent hhome
    rw [h.mem_iff]
    refine or_iff_left ?_
    rintro rfl
    exact hne hhome.symm
  cases hhead : q.headIntent other with
  | none =>
      refine QueueTables.headIntent_eq_none.mpr fun intent hmem hhome => ?_
      exact QueueTables.headIntent_eq_none.mp hhead intent ((hrows intent hhome).mp hmem) hhome
  | some top =>
      have htop := QueueTables.isHead_of_headIntent hhead
      refine QueueTables.headIntent_of_isHead hunique
        ⟨(hrows top htop.partition).mpr htop.mem, htop.partition, htop.active, ?_⟩
      intro intent hmem hhome hactive
      exact htop.least intent ((hrows intent hhome).mp hmem) hhome hactive

/-- A partition that has a head keeps it. -/
theorem headIntent_of_some (hunique : q'.OrdinalsUnique) {head : SubmissionIntent}
    (hhead : q.headIntent new.partitionId = some head) :
    q'.headIntent new.partitionId = some head := by
  have htop := QueueTables.isHead_of_headIntent hhead
  refine QueueTables.headIntent_of_isHead hunique
    ⟨(h.mem_iff head).mpr (Or.inl htop.mem), htop.partition, htop.active, ?_⟩
  intro intent hmem hhome hactive
  rcases (h.mem_iff intent).mp hmem with hold | rfl
  · exact htop.least intent hold hhome hactive
  · exact (h.last head htop.mem htop.partition).le

/-- In an idle partition the new member is the head. -/
theorem headIntent_of_none (hunique : q'.OrdinalsUnique)
    (hhead : q.headIntent new.partitionId = none) :
    q'.headIntent new.partitionId = some new := by
  refine QueueTables.headIntent_of_isHead hunique
    ⟨(h.mem_iff new).mpr (Or.inr rfl), rfl, h.active, ?_⟩
  intro intent hmem hhome hactive
  rcases (h.mem_iff intent).mp hmem with hold | rfl
  · have hinactive := QueueTables.headIntent_eq_none.mp hhead intent hold hhome
    exact absurd (hinactive.symm.trans hactive) Bool.false_ne_true
  · exact le_refl _

end TailInsert

/-- The trigger finds the new member alone exactly in an idle partition. -/
theorem QueueTables.only_active_iff {q : QueueTables} {new : SubmissionIntent}
    {intents : Table SubmissionIntent.intentId} (hinsert : q.intents.insert? new = some intents)
    (hactive : new.state.active = true) :
    (QueueTables.activeIntents { q with intents := intents } new.partitionId).length = 1 ↔
      q.headIntent new.partitionId = none := by
  have hrows : QueueTables.activeIntents { q with intents := intents } new.partitionId =
      q.activeIntents new.partitionId ++ [new] := by
    simp only [activeIntents, (Table.insert?_eq_some hinsert).2, List.filter_append]
    simp [hactive]
  rw [hrows, List.length_append, List.length_singleton, headIntent, List.argmin_eq_none]
  constructor
  · intro hlength
    exact List.eq_nil_of_length_eq_zero (by omega)
  · intro hnil
    rw [hnil, List.length_nil]

/-- The partition row after its new member: woken when it was idle. -/
def enqueuedPartition (q : QueueTables) (new : SubmissionIntent) (partition : GroupPartition) :
    GroupPartition :=
  { partition with
    nextEnqueueOrdinal := partition.nextEnqueueOrdinal + 1
    nextWorkNotBeforeUs :=
      if q.headIntent new.partitionId = none then some new.createdAtUs
      else partition.nextWorkNotBeforeUs
    wakeRevision :=
      partition.wakeRevision + if q.headIntent new.partitionId = none then 1 else 0 }

/-- What the insert of an intent with its trigger did to every table. -/
structure EnqueueEffect (q : QueueTables) (new : SubmissionIntent) (q' : QueueTables) : Prop where
  tail : TailInsert q q' new
  fresh : q.intents.find? new.intentId = none
  home : ∃ partition, q.partitions.find? new.partitionId = some partition
  partitions : ∀ k, q'.partitions.find? k =
    if k = new.partitionId then (q.partitions.find? k).map (enqueuedPartition q new)
    else q.partitions.find? k
  attempts : q'.attempts = q.attempts
  memberships : q'.memberships = q.memberships
  preflights : q'.preflights = q.preflights
  dispatches : q'.dispatches = q.dispatches
  resolutions : q'.resolutions = q.resolutions
  blocks : q'.blocks = q.blocks

theorem QueueStructure.enqueue_effect {q : QueueTables} (hq : QueueStructure q)
    {binding : PhotoBinding} {partition : GroupPartition} {requested : Requested}
    {requestId : Token} {createdAtUs : Us} {intents : Table SubmissionIntent.intentId}
    (hpartition : q.partitionOf binding.userId requested.group = some partition)
    (hinsert : q.intents.insert? (newIntent binding partition requested requestId createdAtUs) =
      some intents) :
    EnqueueEffect q (newIntent binding partition requested requestId createdAtUs)
      (({ q with intents := intents }).enqueued partition.partitionId createdAtUs) where
  tail.mem_iff _ := Table.mem_insert? hinsert
  tail.active := rfl
  tail.last := by
    intro intent hmem hhome
    have hmember := (mem_of_partitionOf hpartition).1
    exact ((hq.range partition hmember intent.enqueueOrdinal).mp ⟨intent, hmem, hhome, rfl⟩).2
  fresh := (Table.insert?_eq_some hinsert).1
  home := ⟨partition, Table.find?_of_mem (mem_of_partitionOf hpartition).1⟩
  partitions := by
    intro k
    have hwoken : decide ((QueueTables.activeIntents { q with intents := intents }
        partition.partitionId).length = 1) = true ↔ q.headIntent partition.partitionId = none :=
      decide_eq_true_iff.trans (QueueTables.only_active_iff hinsert rfl)
    simp only [QueueTables.enqueued, Table.find?_modify, hwoken]
    rfl
  attempts := rfl
  memberships := rfl
  preflights := rfl
  dispatches := rfl
  resolutions := rfl
  blocks := rfl

theorem QueueTables.headIntent_congr {q q' : QueueTables} (h : q'.intents = q.intents)
    (partitionId : Token) : q'.headIntent partitionId = q.headIntent partitionId := by
  simp only [headIntent, activeIntents, h]

/-! ## The head a lease names -/

/-- The leased head, as a row. -/
theorem QueueTables.ownsHead.head {q : QueueTables} {lease : Lease} (h : q.ownsHead lease) :
    ∃ head, q.headIntent lease.partitionId = some head ∧ head.intentId = lease.headId ∧
      q.intents.find? lease.headId = some head := by
  obtain ⟨_, head, hhead, hid⟩ := h
  refine ⟨head, hhead, hid, ?_⟩
  rw [← hid]
  exact Table.find?_of_mem (QueueTables.isHead_of_headIntent hhead).mem

end FlickrGroupAddr

import FlickrGroupAddr.Coordination

/-!
# Blocks and terminal intents

A pair is blocked exactly while its intent is uncertain or under moderation, a
terminal time is stored exactly for the intents outside the FIFO, and a terminal
intent is never written again.
-/

namespace FlickrGroupAddr

set_option autoImplicit false

open KeyedTable Transition Relation

/-! ## Terminal rows -/

variable {q q' : QueueTables}

/-- No step writes a terminal row. -/
theorem QueueStep.terminal_kept (hq : QueueStructure q) (hstep : QueueStep q q')
    {intent : SubmissionIntent} (hmem : intent ∈ q.intents)
    (hterminal : intent.state.active = false) : intent ∈ q'.intents := by
  -- a rewritten row is a head, and a head is active
  have hupdate : ∀ {partitionId : Token} {head head' : SubmissionIntent},
      HeadUpdate q q' partitionId head head' → intent ∈ q'.intents := by
    intro partitionId head head' hu
    refine hu.mem_iff.mpr (Or.inr ⟨hmem, fun hid => ?_⟩)
    have hsame : intent = head := Table.eq_of_key_eq hmem hu.head_mem hid
    rw [hsame, hu.isHead.active] at hterminal
    cases hterminal
  cases hstep with
  | admission hinsert =>
      cases hinsert with
      | addPartition => exact hmem
      | enqueue _ hpartition _ hinsert =>
          exact ((hq.enqueue_effect hpartition hinsert).tail.mem_iff intent).mpr (Or.inl hmem)
  | claim => exact hmem
  | renew => exact hmem
  | release => exact hmem
  | defer _ hdeferrable =>
      obtain ⟨_, hu, _⟩ := deferTo_headUpdate hdeferrable _ _
      exact hupdate hu
  | begin howns _ _ _ _ hwrite =>
      obtain ⟨_, hu, _⟩ := beginAttempt_headUpdate howns hwrite
      exact hupdate hu
  | record howns _ _ hwrite =>
      obtain ⟨_, hintents | ⟨_, hu⟩⟩ := recordPhase_intents howns hwrite
      · rw [hintents]
        exact hmem
      · exact hupdate hu
  | resolve hguard hwrite =>
      obtain ⟨_, hu, _⟩ := (QueueTables.resolve_effect hwrite).headUpdate hguard.1
      exact hupdate hu

theorem QueueStep.terminal_kept_steps (hq : QueueInvariant q)
    (hsteps : ReflTransGen QueueStep q q') {intent : SubmissionIntent} (hmem : intent ∈ q.intents)
    (hterminal : intent.state.active = false) : intent ∈ q'.intents := by
  induction hsteps with
  | refl => exact hmem
  | tail hfront hlast ih =>
      exact QueueStep.terminal_kept (hq.steps hfront).layout hlast ih hterminal

/-! ## Agreement -/

/-- A block is the one the state of its intent calls for. -/
theorem BlockAgreement.of_mem (h : BlockAgreement q) {block : SubmissionBlock}
    (hblock : block ∈ q.blocks) {intent : SubmissionIntent} (hintent : intent ∈ q.intents)
    (hphoto : intent.photoId = block.photoId) (hgroup : intent.groupId = block.groupId) :
    blockAgrees intent (some block) := by
  have hfind : q.blocks.find? (intent.photoId, intent.groupId) = some block := by
    rw [hphoto, hgroup]
    exact Table.find?_of_mem hblock
  rw [← hfind]
  exact h.block intent hintent

/-- The pair is blocked exactly by its uncertain or moderated intent. -/
theorem BlockAgreement.exists_block_iff (h : BlockAgreement q)
    (photoId groupId : Token) :
    (∃ block ∈ q.blocks, block.photoId = photoId ∧ block.groupId = groupId) ↔
      ∃ intent ∈ q.intents, intent.photoId = photoId ∧ intent.groupId = groupId ∧
        (intent.state = .deliveryUncertain ∨ intent.state = .moderationSubmitted) := by
  constructor
  · rintro ⟨block, hblock, rfl, rfl⟩
    obtain ⟨intent, hintent, hphoto, hgroup⟩ := h.intentKnown block hblock
    refine ⟨intent, hintent, hphoto, hgroup, ?_⟩
    rcases h.of_mem hblock hintent hphoto hgroup with ⟨hstate, _⟩ | ⟨hstate, _⟩
    · exact Or.inl hstate
    · exact Or.inr hstate
  · rintro ⟨intent, hintent, rfl, rfl, hstate⟩
    have hagrees := h.block intent hintent
    cases hfind : q.blocks.find? (intent.photoId, intent.groupId) with
    | none =>
        rw [hfind] at hagrees
        rcases hstate with hstate | hstate
        · exact absurd hstate hagrees.1
        · exact absurd hstate hagrees.2
    | some block =>
        have hpair := Table.key_of_find? hfind
        exact ⟨block, Table.mem_of_find? hfind, congrArg Prod.fst hpair, congrArg Prod.snd hpair⟩

/-- In every reachable state blocks, reasons and terminal times agree with the
states, and no event changes a terminal intent. -/
theorem block_terminal_agreement (db : Db) (hdb : QueueReachable db) :
    (∀ photoId groupId,
      (∃ block ∈ db.queue.blocks, block.photoId = photoId ∧ block.groupId = groupId) ↔
        ∃ intent ∈ db.queue.intents, intent.photoId = photoId ∧ intent.groupId = groupId ∧
          (intent.state = .deliveryUncertain ∨ intent.state = .moderationSubmitted)) ∧
    (∀ block ∈ db.queue.blocks, ∀ intent ∈ db.queue.intents, intent.photoId = block.photoId →
      intent.groupId = block.groupId →
        (intent.state = .deliveryUncertain ∧ block.firstReason = "delivery_uncertain") ∨
        (intent.state = .moderationSubmitted ∧
          (block.firstReason = "flickr_code_6" ∨ block.firstReason = "flickr_code_7"))) ∧
    (∀ intent ∈ db.queue.intents,
      intent.terminalAtUs.isSome = true ↔ intent.state.active = false) ∧
    (∀ event db', QueueEventStep db event db' → ∀ intent ∈ db.queue.intents,
      intent.state.active = false → intent ∈ db'.queue.intents) := by
  have hinv := hdb.queueInvariant
  refine ⟨hinv.blocks.exists_block_iff, ?_, hinv.blocks.terminal, ?_⟩
  · intro block hblock intent hintent hphoto hgroup
    exact hinv.blocks.of_mem hblock hintent hphoto hgroup
  · intro event db' hstep intent hmem hterminal
    exact QueueStep.terminal_kept_steps hinv hstep.steps hmem hterminal

/-- A photo that Flickr put under moderation. -/
theorem block_terminal_agreement_moderated :
    ∃ db, execAll QueueCall.exec Sample.db (Sample.answered (.code 6)) = some db ∧
      (∃ block ∈ db.queue.blocks, block.photoId = Sample.photo ∧ block.groupId = Sample.group) ∧
      ∃ intent ∈ db.queue.intents, intent.photoId = Sample.photo ∧
        intent.groupId = Sample.group ∧
        (intent.state = .deliveryUncertain ∨ intent.state = .moderationSubmitted) := by
  have hrun : (execAll QueueCall.exec Sample.db (Sample.answered (.code 6))).isSome = true := by
    decide +kernel
  obtain ⟨db, hdb⟩ := Option.isSome_iff_exists.mp hrun
  have hblocked : ∀ db ∈ execAll QueueCall.exec Sample.db (Sample.answered (.code 6)),
      ∃ block ∈ db.queue.blocks, block.photoId = Sample.photo ∧ block.groupId = Sample.group := by
    decide +kernel
  have hagree := block_terminal_agreement db (Sample.reachable.execAll hdb)
  exact ⟨db, hdb, hblocked db hdb, (hagree.1 _ _).mp (hblocked db hdb)⟩

end FlickrGroupAddr

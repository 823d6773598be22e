import FlickrGroupAddr.AlbumPhotosets

/-!
# Attaching photos

What every reachable state holds of the attachment attempts of an obligation and of its
membership: where a marker stands, what an attempt inherits from the one before it, how
many attempts are marked between two verified memberships, and what a verified
membership rests on.
-/

namespace FlickrGroupAddr

set_option autoImplicit false

open KeyedTable Transition

/-! ## What the attempts keep -/

/-- The attempt keeps its claim, its start and its marker, and after its end everything. -/
structure AttachmentKept (a a' : AlbumAttachmentAttempt) : Prop where
  claim : a'.claim = a.claim
  started : a'.startedAtUs = a.startedAtUs
  marked : a.dispatch ≠ none → a'.dispatch = a.dispatch
  ended : a.state.isOpen = false → a' = a

instance : IsPreorder AlbumAttachmentAttempt AttachmentKept where
  refl _ := ⟨rfl, rfl, fun _ => rfl, fun _ => rfl⟩
  trans _ _ _ hfirst hlast := by
    refine ⟨hlast.claim.trans hfirst.claim, hlast.started.trans hfirst.started, ?_, ?_⟩
    · intro hmarked
      have hkept := hfirst.marked hmarked
      rw [← hkept] at hmarked
      exact (hlast.marked hmarked).trans hkept
    · intro hended
      have hsame := hfirst.ended hended
      rw [← hsame] at hended
      exact (hlast.ended hended).trans hsame

theorem AlbumDb.AttachmentUpdateAllowed.wasOpen {m : Moment} {db : AlbumDb}
    {old new : AlbumAttachmentAttempt} (h : AlbumDb.AttachmentUpdateAllowed m db old new) :
    old.state.isOpen = true := by
  have htransition := h.transition
  cases hstate : old.state with
  | claimed | dispatched | resultReceived => rfl
  | _ => simp [hstate, AlbumDb.attachmentTransition] at htransition

theorem AlbumDb.AttachmentUpdateAllowed.kept {m : Moment} {db : AlbumDb}
    {old new : AlbumAttachmentAttempt} (h : AlbumDb.AttachmentUpdateAllowed m db old new) :
    AttachmentKept old new := by
  refine ⟨h.identity.1, h.identity.2, h.marks.1, ?_⟩
  intro hended
  rw [h.wasOpen] at hended
  cases hended

/-- A row write leaves the attempts alone, claims one, or changes one. -/
theorem AlbumWrite.attachments {part : Option AlbumPart} {db db' : AlbumDb}
    (h : AlbumWrite part db db') :
    db'.attachments = db.attachments ∨ (part = some .attachments ∧
      ((∃ m a, AlbumDb.attachmentAdmissible m db a ∧
          db.attachments.insert? a = some db'.attachments) ∨
        ∃ m old new, db.attachments.find? new.attemptId = some old ∧
          AlbumDb.AttachmentUpdateAllowed m db old new ∧
          db'.attachments = db.attachments.set new)) := by
  cases h with
  | binding new hset =>
      obtain ⟨bindings, events, titles, rfl⟩ := AlbumDb.movedOnly_setBinding hset
      exact Or.inl rfl
  | obligation new hset =>
      rcases AlbumDb.setObligation_eq_some hset with ⟨_, rfl⟩ | ⟨_, _, _, _, _, rfl⟩
      · exact Or.inl rfl
      · exact Or.inl rfl
  | titleAttempt m new _ hset =>
      obtain ⟨titles, rfl⟩ := AlbumDb.titlesOnly_setTitleAttempt hset
      exact Or.inl rfl
  | attachmentClaimed hpart m a attempts hadmissible hrow =>
      exact Or.inr ⟨hpart, Or.inl ⟨m, a, hadmissible, hrow⟩⟩
  | attachmentChanged hpart m old new hold hallowed =>
      exact Or.inr ⟨hpart, Or.inr ⟨m, old, new, hold, hallowed, rfl⟩⟩
  | _ => exact Or.inl rfl

/-- Every row write keeps the attempts. -/
theorem AlbumWrite.attachmentsKept {part : Option AlbumPart} {db db' : AlbumDb}
    (h : AlbumWrite part db db') : Table.Kept AttachmentKept db.attachments db'.attachments := by
  rcases h.attachments with heq | ⟨_, ⟨m, a, _, hrow⟩ | ⟨m, old, new, hold, hallowed, hset⟩⟩
  · rw [heq]
    exact Table.Kept.same db.attachments
  · exact Table.kept_insert? hrow
  · rw [hset]
    exact Table.kept_set hold hallowed.kept

theorem AlbumWrites.attachmentsKept {part : Option AlbumPart} {db db' : AlbumDb}
    (h : AlbumWrites part db db') : Table.Kept AttachmentKept db.attachments db'.attachments := by
  induction h with
  | refl => exact Table.Kept.same _
  | tail _ hlast ih => exact ih.trans hlast.attachmentsKept

/-! ## The attempts of an obligation -/

/-- How many attempts of the obligation are marked whose epoch is after `lo` and not after
`hi`. -/
def marksBetween (attempts : Table AlbumAttachmentAttempt.attemptId) (obligationId : Token)
    (lo hi : Nat) : Nat :=
  attempts.rows.countP fun a =>
    a.obligationId = obligationId && a.dispatch.isSome && decide (lo < a.epoch ∧ a.epoch ≤ hi)

/-- No attempt strictly between the epochs verified the membership of the obligation. -/
def unverifiedBetween (attempts : Table AlbumAttachmentAttempt.attemptId) (obligationId : Token)
    (lo hi : Nat) : Prop :=
  ∀ a ∈ attempts, a.obligationId = obligationId → a.state = .membershipVerified →
    ¬ (lo < a.epoch ∧ a.epoch < hi)

/-- What holds of the attempts, whoever works on them. -/
structure AttachmentsSound (attempts : Table AlbumAttachmentAttempt.attemptId) : Prop where
  /-- A marker was set with time left, by a claim that may write, after a read that did not
  show the photoset. -/
  marked : ∀ a ∈ attempts, ∀ d ∈ a.dispatch, a.claim.reconciliationOnly = false ∧
    a.hasLeft d.startedAtUs 15000000 ∧ a.claim.photosetId ∉ d.preContextIds
  epochs : ∀ a ∈ attempts, ∀ a' ∈ attempts, a.obligationId = a'.obligationId →
    a.epoch = a'.epoch → a = a'
  /-- An attempt starts after the end of the one before it, and only reconciles what that one
  left unresolved. -/
  succeeds : ∀ a ∈ attempts, ∀ a' ∈ attempts, a.obligationId = a'.obligationId →
    a'.epoch = a.epoch + 1 → a.state.isOpen = false ∧
      (a'.claim.reconciliationOnly = true ↔ a.state = .membershipReconciliationPending)
  budget : ∀ obligationId lo hi, unverifiedBetween attempts obligationId lo hi →
    marksBetween attempts obligationId lo hi ≤ 8
  proven : ∀ a ∈ attempts, a.state = .membershipVerified → ∃ proof ∈ a.proof,
    contextsValid proof.contextIds ∧ a.claim.photosetId ∈ proof.contextIds ∧
      proof.ownerNsid = a.claim.ownerNsid ∧ proof.photoId = a.claim.photoId

namespace AttachmentsSound

variable {db : AlbumDb} {m : Moment} {attempts : Table AlbumAttachmentAttempt.attemptId}

theorem empty : AttachmentsSound Table.empty := by
  constructor
  · intro a ha
    exact absurd ha (Table.not_mem_empty a)
  · intro a ha
    exact absurd ha (Table.not_mem_empty a)
  · intro a ha
    exact absurd ha (Table.not_mem_empty a)
  · intro obligationId lo hi _
    exact Nat.zero_le 8
  · intro a ha
    exact absurd ha (Table.not_mem_empty a)

/-- A new attempt comes after every attempt of its obligation. -/
theorem epoch_lt_claimed {a other : AlbumAttachmentAttempt}
    (hadmissible : AlbumDb.attachmentAdmissible m db a) (hother : other ∈ db.attachments)
    (hsame : other.obligationId = a.obligationId) : other.epoch < a.epoch := by
  rw [hadmissible.2.1.1]
  exact Nat.lt_succ_of_le (Table.le_maxOf hother (decide_eq_true hsame))

/-- What the claim of a new attempt inherits from the attempt before it. -/
theorem claimed_after {a last : AlbumAttachmentAttempt} (h : AttachmentsSound db.attachments)
    (hadmissible : AlbumDb.attachmentAdmissible m db a) (hlast : last ∈ db.attachments)
    (hsame : last.obligationId = a.obligationId) (hepoch : a.epoch = last.epoch + 1) :
    last.state.isOpen = false ∧
      (a.claim.reconciliationOnly = true ↔ last.state = .membershipReconciliationPending) := by
  refine ⟨(hadmissible.2.2.2.2.1 last hlast hsame).1, ?_⟩
  have hlatest : ∀ other ∈ db.attachments, decide (other.obligationId = a.obligationId) = true →
      other.epoch ≤ last.epoch := by
    intro other hother hof
    have hlt := epoch_lt_claimed hadmissible hother (of_decide_eq_true hof)
    omega
  obtain ⟨found, hfound, hmeasure⟩ :=
    Table.latest?_of_mem hlast (decide_eq_true hsame) hlatest
  obtain ⟨hmem, hof, _⟩ := Table.latest?_eq_some hfound
  have hfound_last : found = last :=
    h.epochs found hmem last hlast ((of_decide_eq_true hof).trans hsame.symm) hmeasure
  rw [hadmissible.2.2.1]
  unfold AlbumDb.reconciliationDue AlbumDb.lastAttachment
  rw [hfound, hfound_last]
  exact decide_eq_true_iff

theorem claimed {a : AlbumAttachmentAttempt} (h : AttachmentsSound db.attachments)
    (hadmissible : AlbumDb.attachmentAdmissible m db a)
    (hrow : db.attachments.insert? a = some attempts) : AttachmentsSound attempts := by
  have hcases : ∀ {other}, other ∈ attempts → other ∈ db.attachments ∨ other = a :=
    fun hother => (Table.mem_insert? hrow).mp hother
  have hunmarked : a.dispatch = none := hadmissible.1.2.2.1
  constructor
  · intro other hother d hd
    rcases hcases hother with hother | rfl
    · exact h.marked other hother d hd
    · rw [hunmarked] at hd
      cases hd
  · intro first hfirst last hlast hsame hepoch
    rcases hcases hfirst with hfirst | rfl
    · rcases hcases hlast with hlast | rfl
      · exact h.epochs first hfirst last hlast hsame hepoch
      · exact absurd hepoch (epoch_lt_claimed hadmissible hfirst hsame).ne
    · rcases hcases hlast with hlast | rfl
      · exact absurd hepoch.symm (epoch_lt_claimed hadmissible hlast hsame.symm).ne
      · rfl
  · intro first hfirst last hlast hsame hepoch
    rcases hcases hfirst with hfirst | rfl
    · rcases hcases hlast with hlast | rfl
      · exact h.succeeds first hfirst last hlast hsame hepoch
      · exact h.claimed_after hadmissible hfirst hsame hepoch
    · rcases hcases hlast with hlast | rfl
      · have hlt := epoch_lt_claimed hadmissible hlast hsame.symm
        omega
      · omega
  · intro obligationId lo hi hbetween
    have hcount : marksBetween attempts obligationId lo hi =
        marksBetween db.attachments obligationId lo hi := by
      unfold marksBetween
      rw [Table.countP_insert? hrow]
      simp [hunmarked]
    rw [hcount]
    apply h.budget
    intro other hother
    exact hbetween other ((Table.mem_insert? hrow).mpr (Or.inl hother))
  · intro other hother hverified
    rcases hcases hother with hother | rfl
    · exact h.proven other hother hverified
    · rw [hadmissible.1.1] at hverified
      cases hverified

/-- A new marker is within the budget of its obligation. -/
theorem marks_le_of_marked {old : AlbumAttachmentAttempt} {lo hi : Nat}
    (h : AttachmentsSound db.attachments) (hold : old ∈ db.attachments)
    (hopen : old.state.isOpen = true)
    (hlatest : ∀ other ∈ db.attachments, other.obligationId = old.obligationId →
      other.epoch ≤ old.epoch)
    (hbudget : db.dispatchCount old.obligationId < 8) (hhi : old.epoch ≤ hi)
    (hbetween : unverifiedBetween db.attachments old.obligationId lo hi) :
    marksBetween db.attachments old.obligationId lo hi < 8 := by
  have hlast : db.lastVerifiedEpoch old.obligationId ≤ lo := by
    apply Table.maxOf_le
    intro a ha hverified
    rw [Bool.and_eq_true, decide_eq_true_eq, decide_eq_true_eq] at hverified
    have hle := hlatest a ha hverified.1
    have hne : a.epoch ≠ old.epoch := by
      intro hepoch
      have hsame := h.epochs a ha old hold hverified.1 hepoch
      rw [hsame] at hverified
      rw [hverified.2] at hopen
      cases hopen
    have hout := hbetween a ha hverified.1 hverified.2
    omega
  refine lt_of_le_of_lt ?_ hbudget
  unfold marksBetween AlbumDb.dispatchCount
  apply List.countP_mono_left
  intro a _ hmarked
  simp only [Bool.and_eq_true, decide_eq_true_eq] at hmarked
  unfold AlbumDb.markedSince
  simp only [Bool.and_eq_true, decide_eq_true_eq]
  exact ⟨hmarked.1, lt_of_le_of_lt hlast hmarked.2.1⟩

theorem changed {old new : AlbumAttachmentAttempt} (h : AttachmentsSound db.attachments)
    (hfind : db.attachments.find? new.attemptId = some old)
    (hallowed : AlbumDb.AttachmentUpdateAllowed m db old new) :
    AttachmentsSound (db.attachments.set new) := by
  have hold : old ∈ db.attachments := Table.mem_of_find? hfind
  have hclaim := hallowed.identity.1
  have hopen := hallowed.wasOpen
  have hobligation : new.obligationId = old.obligationId :=
    congrArg AlbumAttachmentClaim.obligationId hclaim
  have hepoch : new.epoch = old.epoch := congrArg AlbumAttachmentClaim.epoch hclaim
  have hcases : ∀ {a}, a ∈ db.attachments.set new →
      a = new ∨ (a ∈ db.attachments ∧ a.attemptId ≠ new.attemptId) :=
    fun ha => Table.mem_set_cases ha
  constructor
  · intro a ha d hd
    rcases hcases ha with rfl | ⟨ha, _⟩
    · by_cases hmarked : old.dispatch = none
      · have hstate : a.state = .dispatched := by
          by_contra hstate
          rw [hallowed.marks.2.1 hmarked hstate] at hd
          cases hd
        obtain ⟨hwrites, _, d', hd', hstarted, _, hcontexts⟩ := hallowed.marks.2.2 hstate
        cases hd.symm.trans hd'
        have hlive := (hallowed.live (by rw [hstate]; decide)).1
        rw [if_pos hstate, ← hstarted] at hlive
        refine ⟨hwrites, ?_, hcontexts⟩
        unfold AlbumAttachmentAttempt.hasLeft AlbumAttachmentAttempt.leaseExpiresAtUs
          AlbumAttachmentAttempt.invocationDeadlineAtUs at hlive ⊢
        rw [hallowed.identity.2]
        exact hlive
      · rw [hallowed.marks.1 hmarked] at hd
        have hkept := h.marked old hold d hd
        unfold AlbumAttachmentAttempt.hasLeft AlbumAttachmentAttempt.leaseExpiresAtUs
          AlbumAttachmentAttempt.invocationDeadlineAtUs at hkept ⊢
        rw [hallowed.identity.2, hclaim]
        exact hkept
    · exact h.marked a ha d hd
  · intro first hfirst last hlast hsame hepochs
    rcases hcases hfirst with rfl | ⟨hstored, hne⟩
    · rcases hcases hlast with rfl | ⟨hlast, hne'⟩
      · rfl
      · have heq := h.epochs old hold last hlast (hobligation.symm.trans hsame)
          (hepoch.symm.trans hepochs)
        rw [← heq] at hne'
        exact absurd (Table.key_of_find? hfind) hne'
    · rcases hcases hlast with rfl | ⟨hlast, _⟩
      · have heq := h.epochs first hstored old hold (hsame.trans hobligation)
          (hepochs.trans hepoch)
        rw [heq] at hne
        exact absurd (Table.key_of_find? hfind) hne
      · exact h.epochs first hstored last hlast hsame hepochs
  · intro first hfirst last hlast hsame hnext
    have hlast' : ∃ stored ∈ db.attachments, stored.claim = last.claim := by
      rcases hcases hlast with rfl | ⟨hlast, _⟩
      · exact ⟨old, hold, hclaim.symm⟩
      · exact ⟨last, hlast, rfl⟩
    obtain ⟨stored, hstored, hstoredClaim⟩ := hlast'
    have hstoredObligation : stored.obligationId = last.obligationId :=
      congrArg AlbumAttachmentClaim.obligationId hstoredClaim
    have hstoredEpoch : stored.epoch = last.epoch :=
      congrArg AlbumAttachmentClaim.epoch hstoredClaim
    rcases hcases hfirst with rfl | ⟨hfirst, _⟩
    · have hle := hallowed.latest stored hstored
        ((hstoredObligation.trans hsame.symm).trans hobligation)
      omega
    · rw [← hstoredClaim]
      exact h.succeeds first hfirst stored hstored (hsame.trans hstoredObligation.symm)
        (hstoredEpoch.trans hnext)
  · intro obligationId lo hi hbetween
    have hbefore : unverifiedBetween db.attachments obligationId lo hi := by
      intro a ha hof hverified
      apply hbetween a _ hof hverified
      apply Table.mem_set_of_ne ha
      intro hkey
      have hsame : a = old := by
        have hfound := Table.find?_of_mem ha
        rw [hkey, hfind] at hfound
        exact (Option.some.inj hfound).symm
      rw [hsame] at hverified
      rw [hverified] at hopen
      cases hopen
    have hcount := Table.countP_set hfind fun a =>
      decide (a.obligationId = obligationId) && a.dispatch.isSome &&
        decide (lo < a.epoch ∧ a.epoch ≤ hi)
    have hle := h.budget obligationId lo hi hbefore
    by_cases hmarks : old.dispatch = none ∧ new.dispatch ≠ none ∧
        old.obligationId = obligationId ∧ lo < old.epoch ∧ old.epoch ≤ hi
    · obtain ⟨hunmarked, hmarked, rfl, _, hhi⟩ := hmarks
      have hstate : new.state = .dispatched := by
        by_contra hstate
        exact hmarked (hallowed.marks.2.1 hunmarked hstate)
      have hlt := h.marks_le_of_marked hold hopen hallowed.latest (hallowed.marks.2.2 hstate).2.1
        hhi hbefore
      unfold marksBetween at hlt ⊢
      split_ifs at hcount
      all_goals omega
    · have hsame : (decide (new.obligationId = obligationId) && new.dispatch.isSome &&
            decide (lo < new.epoch ∧ new.epoch ≤ hi)) =
          (decide (old.obligationId = obligationId) && old.dispatch.isSome &&
            decide (lo < old.epoch ∧ old.epoch ≤ hi)) := by
        rw [hobligation, hepoch]
        by_cases hold' : old.dispatch = none
        · by_cases hnew : new.dispatch = none
          · rw [hold', hnew]
          · have hout : ¬ (old.obligationId = obligationId ∧ lo < old.epoch ∧ old.epoch ≤ hi) :=
              fun hin => hmarks ⟨hold', hnew, hin⟩
            rw [hold']
            by_cases hof : old.obligationId = obligationId
            · have hwindow : ¬ (lo < old.epoch ∧ old.epoch ≤ hi) := fun hin => hout ⟨hof, hin⟩
              simp [hwindow]
            · simp [hof]
        · rw [hallowed.marks.1 hold']
      unfold marksBetween at hle ⊢
      simp only [hsame] at hcount
      omega
  · intro a ha hverified
    rcases hcases ha with rfl | ⟨ha, _⟩
    · obtain ⟨proof, hproof, hvalid, hof, _, hshows⟩ := hallowed.evidence.2.1 (Or.inl hverified)
      refine ⟨proof, hproof, hvalid, hshows.mp hverified, ?_⟩
      rw [hclaim]
      exact hof
    · exact h.proven a ha hverified

/-- Every row write keeps the attempts sound. -/
theorem write {part : Option AlbumPart} {db db' : AlbumDb} (hwrite : AlbumWrite part db db')
    (h : AttachmentsSound db.attachments) : AttachmentsSound db'.attachments := by
  rcases hwrite.attachments with heq |
    ⟨_, ⟨m, a, hadmissible, hrow⟩ | ⟨m, old, new, hold, hallowed, hset⟩⟩
  · rw [heq]
    exact h
  · exact h.claimed hadmissible hrow
  · rw [hset]
    exact h.changed hold hallowed

end AttachmentsSound

/-! ## What a verified membership rests on -/

/-- An attempt of the obligation verified the membership. -/
def attemptVerified (db : AlbumDb) (obligationId : Token) : Prop :=
  ∃ a ∈ db.attachments, a.obligationId = obligationId ∧ a.state = .membershipVerified

/-- The attempt is of an obligation whose album has the photoset of the claim. -/
def attachedTo (db : AlbumDb) (a : AlbumAttachmentAttempt) : Prop :=
  ∃ o ∈ db.obligations.find? a.obligationId, ∃ b ∈ db.bindings.find? o.albumBindingId,
    b.flickrPhotosetId = some a.claim.photosetId ∧ o.identity.photoId = a.claim.photoId

/-- The first obligation of the binding is one of its obligations. -/
def firstAdmitted (db : AlbumDb) (b : AlbumBinding) : Prop :=
  ∃ o ∈ db.obligations.find? b.identity.firstObligationId, o.albumBindingId = b.bindingId

/-- A verified create rests on a complete context set that shows its photoset. -/
def createComplete (a : AlbumMaterializationAttempt) : Prop :=
  ∀ d r proof at_, a.phase = .verified d r proof at_ →
    contextsValid proof.contextIds ∧ proof.photosetId ∈ proof.contextIds ∧
      proof.photoId = a.claim.photoId

/-- A repair rests on a complete context set that shows its photoset. -/
def repairComplete (r : AlbumCreateRepairReceipt) : Prop :=
  contextsValid r.proofContextIds ∧ r.selectedPhotosetId ∈ r.proofContextIds

/-- What the membership of the obligation was verified by. -/
def membershipProven (db : AlbumDb) (o : AlbumObligation) : Prop :=
  attemptVerified db o.obligationId ∨ db.firstMembershipProven o

/-- Every verified membership was proven, and every proof is complete. -/
structure MembershipsProven (db : AlbumDb) : Prop where
  first : ∀ b ∈ db.bindings, firstAdmitted db b
  attached : ∀ a ∈ db.attachments, attachedTo db a
  created : ∀ a ∈ db.materializations, createComplete a
  repaired : ∀ r ∈ db.repairReceipts, repairComplete r
  events : ∀ e ∈ db.attachmentSemanticEvents, e.state = .membershipVerified →
    attemptVerified db e.obligationId
  memberships : ∀ o ∈ db.obligations, o.state = .membershipVerified → membershipProven db o

section Kept

variable {db db' : AlbumDb}

theorem attemptVerified.kept {obligationId : Token}
    (hkept : Table.Kept AttachmentKept db.attachments db'.attachments)
    (h : attemptVerified db obligationId) : attemptVerified db' obligationId := by
  obtain ⟨a, ha, hof, hverified⟩ := h
  obtain ⟨a', ha', hrow⟩ := hkept a.attemptId a (Table.find?_of_mem ha)
  have hsame : a' = a := hrow.ended (by rw [hverified]; rfl)
  exact ⟨a', Table.mem_of_find? ha', by rw [hsame]; exact hof, by rw [hsame]; exact hverified⟩

theorem firstAdmitted.kept {b b' : AlbumBinding} (hkept : PhotosetsKept db db')
    (hidentity : b'.identity = b.identity) (h : firstAdmitted db b) : firstAdmitted db' b' := by
  obtain ⟨o, ho, hbinding⟩ := h
  obtain ⟨o', ho', hrow⟩ := hkept.obligations _ o ho
  refine ⟨o', ?_, ?_⟩
  · rw [hidentity]
    exact ho'
  · have hof : o'.albumBindingId = o.albumBindingId :=
      congrArg ObligationIdentity.albumBindingId hrow.identity
    have hkey : b'.bindingId = b.bindingId := congrArg AlbumIdentity.bindingId hidentity
    rw [hof, hbinding, hkey]

theorem attachedTo.kept {a a' : AlbumAttachmentAttempt} (hkept : PhotosetsKept db db')
    (hclaim : a'.claim = a.claim) (h : attachedTo db a) : attachedTo db' a' := by
  obtain ⟨o, ho, b, hb, hphotoset, hphoto⟩ := h
  obtain ⟨o', ho', horow⟩ := hkept.obligations _ o ho
  obtain ⟨b', hb', hbrow⟩ := hkept.bindings _ b hb
  have hof : o'.albumBindingId = o.albumBindingId :=
    congrArg ObligationIdentity.albumBindingId horow.identity
  refine ⟨o', ?_, b', ?_, ?_, ?_⟩
  · have hkey : a'.obligationId = a.obligationId :=
      congrArg AlbumAttachmentClaim.obligationId hclaim
    rw [hkey]
    exact ho'
  · rw [hof]
    exact hb'
  · rw [hbrow.photoset (by rw [hphotoset]; exact Option.some_ne_none _), hphotoset, hclaim]
  · rw [horow.identity, hphoto, hclaim]

theorem firstMembershipProven_kept {o o' : AlbumObligation} (hkept : PhotosetsKept db db')
    (hidentity : o'.identity = o.identity) (h : db.firstMembershipProven o) :
    db'.firstMembershipProven o' := by
  obtain ⟨b, hb, hfirst, hproven⟩ := h
  obtain ⟨b', hb', hbrow⟩ := hkept.bindings b.bindingId b (Table.find?_of_mem hb)
  have hkey : b'.bindingId = b.bindingId := congrArg AlbumIdentity.bindingId hbrow.identity
  have hphotoset : ∀ photosetId, b.flickrPhotosetId = some photosetId →
      b'.flickrPhotosetId = some photosetId := by
    intro photosetId hsome
    rw [hbrow.photoset (by rw [hsome]; exact Option.some_ne_none _), hsome]
  have hphoto : o'.photoBindingId = o.photoBindingId :=
    congrArg ObligationIdentity.photoBindingId hidentity
  refine ⟨b', Table.mem_of_find? hb', ?_, ?_⟩
  · rw [hbrow.identity, hfirst]
    exact (congrArg ObligationIdentity.obligationId hidentity).symm
  · rw [hidentity, hphoto, hkey]
    rcases hproven with ⟨a, ha, hof, ⟨p, hp, hshown⟩, hsame⟩ | ⟨r, hr, hshown, hsame⟩
    · left
      obtain ⟨a', ha', harow⟩ := hkept.creates a.attemptId a (Table.find?_of_mem ha)
      have hphase : a'.phase = a.phase := by
        apply harow.ended
        cases hphase : a.phase with
        | verified => rfl
        | _ => simp [hphase, MaterializationPhase.verifiedPhotoset?] at hp
      refine ⟨a', Table.mem_of_find? ha', ?_, ⟨p, ?_, hphotoset p hshown⟩, ?_⟩
      · exact (congrArg AlbumMaterializationClaim.bindingId harow.claim).trans hof
      · rw [hphase]
        exact hp
      · rw [harow.claim]
        exact hsame
    · right
      obtain ⟨r', hr', rfl⟩ := hkept.receipts b.bindingId r hr
      exact ⟨r, hr', hphotoset _ hshown, hsame⟩

theorem membershipProven.kept {o o' : AlbumObligation} (hkept : PhotosetsKept db db')
    (hattempts : Table.Kept AttachmentKept db.attachments db'.attachments)
    (hidentity : o'.identity = o.identity) (h : membershipProven db o) :
    membershipProven db' o' := by
  have hkey : o'.obligationId = o.obligationId :=
    congrArg ObligationIdentity.obligationId hidentity
  rcases h with hattempt | hfirst
  · left
    rw [hkey]
    exact hattempt.kept hattempts
  · exact Or.inr (firstMembershipProven_kept hkept hidentity hfirst)

end Kept

namespace MembershipsProven

variable {part : Option AlbumPart} {db db' : AlbumDb}

theorem empty : MembershipsProven emptyAlbumDb := by
  constructor
  all_goals
    intro row hrow
    exact absurd hrow (Table.not_mem_empty row)

/-- What the rows of the tables that a write reaches owe the invariant. -/
structure NewRows (db db' : AlbumDb) : Prop where
  bindings : ∀ b ∈ db'.bindings,
    (∃ old ∈ db.bindings, b.identity = old.identity) ∨ firstAdmitted db' b
  attachments : ∀ a ∈ db'.attachments,
    (∃ old ∈ db.attachments, a.claim = old.claim) ∨ attachedTo db' a
  creates : ∀ a ∈ db'.materializations, a ∈ db.materializations ∨ createComplete a
  receipts : ∀ r ∈ db'.repairReceipts, r ∈ db.repairReceipts ∨ repairComplete r
  events : ∀ e ∈ db'.attachmentSemanticEvents, e ∈ db.attachmentSemanticEvents ∨
    (e.state = .membershipVerified → attemptVerified db' e.obligationId)
  obligations : ∀ o ∈ db'.obligations, (∃ old ∈ db.obligations, o.identity = old.identity ∧
      (o.state = .membershipVerified → old.state = .membershipVerified)) ∨
    (o.state = .membershipVerified → membershipProven db' o)

/-- A write that adds no row owes nothing. -/
theorem NewRows.same (db : AlbumDb) : NewRows db db where
  bindings b hb := Or.inl ⟨b, hb, rfl⟩
  attachments a ha := Or.inl ⟨a, ha, rfl⟩
  creates _ ha := Or.inl ha
  receipts _ hr := Or.inl hr
  events _ he := Or.inl he
  obligations o ho := Or.inl ⟨o, ho, rfl, id⟩

theorem of_newRows (h : MembershipsProven db) (hkept : PhotosetsKept db db')
    (hattempts : Table.Kept AttachmentKept db.attachments db'.attachments)
    (hnew : NewRows db db') : MembershipsProven db' := by
  constructor
  · intro b hb
    rcases hnew.bindings b hb with ⟨old, hold, hidentity⟩ | hfirst
    · exact (h.first old hold).kept hkept hidentity
    · exact hfirst
  · intro a ha
    rcases hnew.attachments a ha with ⟨old, hold, hclaim⟩ | hattached
    · exact (h.attached old hold).kept hkept hclaim
    · exact hattached
  · intro a ha
    exact (hnew.creates a ha).elim (h.created a) id
  · intro r hr
    exact (hnew.receipts r hr).elim (h.repaired r) id
  · intro e he hverified
    rcases hnew.events e he with hold | hevent
    · exact (h.events e hold hverified).kept hattempts
    · exact hevent hverified
  · intro o ho hverified
    rcases hnew.obligations o ho with ⟨old, hold, hidentity, hstate⟩ | hproven
    · exact (h.memberships old hold (hstate hverified)).kept hkept hattempts hidentity
    · exact hproven hverified

/-- A changed obligation is verified only on a proof. -/
theorem newRows_setObligation {new : AlbumObligation} (h : MembershipsProven db)
    (hset : db.setObligation new = some db') : NewRows db db' := by
  have hwrite : AlbumWrite none db db' := AlbumWrite.obligation new hset
  have hkept := PhotosetsKept.write hwrite
  have hattempts := hwrite.attachmentsKept
  have hsame := NewRows.same db
  rcases AlbumDb.setObligation_eq_some hset with ⟨_, rfl⟩ | ⟨old, events, hold, hallowed, _, rfl⟩
  · exact hsame
  · refine { hsame with
      bindings := fun b hb => Or.inl ⟨b, hb, rfl⟩
      attachments := fun a ha => Or.inl ⟨a, ha, rfl⟩
      events := fun e he => Or.inl he
      obligations := ?_ }
    intro o ho
    rcases Table.mem_set_cases ho with rfl | ⟨ho, _⟩
    · rcases hallowed.due with ⟨hstate, _⟩ | ⟨_, _, _, hfirst⟩ | ⟨_, e, he, hof, _, _, hstate⟩
      · left
        refine ⟨old, Table.mem_of_find? hold, hallowed.identity, ?_⟩
        intro hverified
        rw [← hstate]
        exact hverified
      · right
        intro _
        exact membershipProven.kept hkept hattempts hallowed.identity (Or.inr hfirst)
      · by_cases hverified : e.state = .membershipVerified
        · right
          intro _
          have hattempt := h.events e he hverified
          rw [hof] at hattempt
          exact membershipProven.kept hkept hattempts hallowed.identity (Or.inl hattempt)
        · left
          rw [if_neg hverified] at hstate
          refine ⟨old, Table.mem_of_find? hold, hallowed.identity, ?_⟩
          intro hnew
          rw [← hstate]
          exact hnew
    · exact Or.inl ⟨o, ho, rfl, id⟩

/-- Every row write keeps the memberships proven. -/
theorem write (hwrite : AlbumWrite part db db') (h : MembershipsProven db) :
    MembershipsProven db' := by
  have hkept := PhotosetsKept.write hwrite
  have hattempts := hwrite.attachmentsKept
  apply h.of_newRows hkept hattempts
  have hsame := NewRows.same db
  cases hwrite with
  | binding new hset =>
      have hrows : ∀ b ∈ db'.bindings, ∃ old ∈ db.bindings, b.identity = old.identity := by
        intro b hb
        rcases AlbumDb.setBinding_eq_some hset with ⟨_, rfl⟩ | ⟨old, hold, hallowed, hmove⟩
        · exact ⟨b, hb, rfl⟩
        · have hbindings : db'.bindings = db.bindings.set new := by
            rcases hmove with ⟨_, rfl⟩ | ⟨_, _, _, rfl⟩
            · rfl
            · rfl
          rw [hbindings] at hb
          rcases Table.mem_set_cases hb with rfl | ⟨hb, _⟩
          · exact ⟨old, Table.mem_of_find? hold, hallowed.kept.identity⟩
          · exact ⟨b, hb, rfl⟩
      obtain ⟨bindings, events, titles, rfl⟩ := AlbumDb.movedOnly_setBinding hset
      exact {
        bindings := fun b hb => Or.inl (hrows b hb)
        attachments := fun a ha => Or.inl ⟨a, ha, rfl⟩
        creates := fun a ha => Or.inl ha
        receipts := fun r hr => Or.inl hr
        events := fun e he => Or.inl he
        obligations := fun o ho => Or.inl ⟨o, ho, rfl, id⟩ }
  | bindingCreated _ m b bindings events obligations obligationEvents hadmissible hrow _ hfirst =>
      refine ⟨?_, fun a ha => Or.inl ⟨a, ha, rfl⟩, fun a ha => Or.inl ha, fun r hr => Or.inl hr,
        fun e he => Or.inl he, ?_⟩
      · intro other hother
        rcases (Table.mem_insert? hrow).mp hother with hold | rfl
        · exact Or.inl ⟨other, hold, rfl⟩
        · right
          refine ⟨firstObligationRow other, ?_, rfl⟩
          exact Table.find?_of_mem ((Table.mem_insert? hfirst).mpr (Or.inr rfl))
      · intro o ho
        rcases (Table.mem_insert? hfirst).mp ho with hold | rfl
        · exact Or.inl ⟨o, hold, rfl, id⟩
        · exact Or.inr nofun
  | obligation new hset => exact newRows_setObligation h hset
  | obligationAdmitted _ m o obligations obligationEvents hadmissible _ hrow =>
      refine ⟨fun b hb => Or.inl ⟨b, hb, rfl⟩, fun a ha => Or.inl ⟨a, ha, rfl⟩,
        fun a ha => Or.inl ha, fun r hr => Or.inl hr, fun e he => Or.inl he, ?_⟩
      intro other hother
      rcases (Table.mem_insert? hrow).mp hother with hold | rfl
      · exact Or.inl ⟨other, hold, rfl, id⟩
      · right
        obtain ⟨_, b, _, _, _, _, hstate, _⟩ := hadmissible
        intro hverified
        rw [hverified] at hstate
        split at hstate
        · cases hstate
        · cases hstate
  | titleAttempt m new _ hset =>
      obtain ⟨titles, rfl⟩ := AlbumDb.titlesOnly_setTitleAttempt hset
      exact ⟨hsame.bindings, hsame.attachments, hsame.creates, hsame.receipts, hsame.events,
        hsame.obligations⟩
  | createClaimed _ m a attempts hadmissible hrow =>
      refine ⟨hsame.bindings, hsame.attachments, ?_, hsame.receipts, hsame.events,
        fun o ho => Or.inl ⟨o, ho, rfl, id⟩⟩
      intro other hother
      rcases (Table.mem_insert? hrow).mp hother with hold | rfl
      · exact Or.inl hold
      · right
        intro d r proof at_ hphase
        rw [hadmissible.1.1] at hphase
        cases hphase
  | createChanged _ m old new hold hallowed =>
      refine ⟨hsame.bindings, hsame.attachments, ?_, hsame.receipts, hsame.events,
        fun o ho => Or.inl ⟨o, ho, rfl, id⟩⟩
      intro other hother
      rcases Table.mem_set_cases hother with rfl | ⟨hother, _⟩
      · right
        intro d r proof at_ hphase
        have htransition := hallowed.transition
        rw [hphase] at htransition
        rw [hallowed.identity.1]
        cases holdPhase : old.phase with
        | resultReceived d' r' =>
            rw [holdPhase] at htransition
            obtain ⟨_, _, ⟨_, hphoto⟩, _, hvalid, hshows⟩ := htransition
            exact ⟨hvalid, hshows, hphoto⟩
        | _ =>
            rw [holdPhase] at htransition
            exact absurd htransition id
      · exact Or.inl hother
  | repair _ m r receipts hadmissible hrow =>
      refine ⟨hsame.bindings, hsame.attachments, hsame.creates, ?_, hsame.events,
        fun o ho => Or.inl ⟨o, ho, rfl, id⟩⟩
      intro other hother
      rcases (Table.mem_insert? hrow).mp hother with hold | rfl
      · exact Or.inl hold
      · exact Or.inr ⟨hadmissible.2.2.2.2.1.1, hadmissible.2.2.2.2.1.2.1⟩
  | attachmentClaimed _ m a attempts hadmissible hrow =>
      refine ⟨hsame.bindings, ?_, hsame.creates, hsame.receipts, ?_, ?_⟩
      · intro other hother
        rcases (Table.mem_insert? hrow).mp hother with hold | rfl
        · exact Or.inl ⟨other, hold, rfl⟩
        · right
          obtain ⟨o, ho, b, hb, _, hphoto, _, hauthority⟩ := hadmissible.2.2.2.2.2.2
          refine ⟨o, ho, b, hb, ?_, hphoto.2⟩
          obtain ⟨photosetId, hphotoset, hrest⟩ := Option.bind_eq_some_iff.mp hauthority
          obtain ⟨photo, _, hrest⟩ := Option.bind_eq_some_iff.mp hrest
          obtain ⟨write, _, hrest⟩ := Option.bind_eq_some_iff.mp hrest
          split at hrest
          · rw [hphotoset]
            exact congrArg (fun authority => some authority.photosetId) (Option.some.inj hrest)
          · cases hrest
      · exact fun e he => Or.inl he
      · exact fun o ho => Or.inl ⟨o, ho, rfl, id⟩
  | attachmentChanged _ m old new hold hallowed =>
      refine ⟨hsame.bindings, ?_, hsame.creates, hsame.receipts, fun e he => Or.inl he,
        fun o ho => Or.inl ⟨o, ho, rfl, id⟩⟩
      intro other hother
      rcases Table.mem_set_cases hother with rfl | ⟨hother, _⟩
      · exact Or.inl ⟨old, Table.mem_of_find? hold, hallowed.identity.1⟩
      · exact Or.inl ⟨other, hother, rfl⟩
  | attachmentStepped _ b o a e events ho hb ha hof hshown hadmissible hrevision hrow =>
      refine ⟨hsame.bindings, hsame.attachments, hsame.creates, hsame.receipts, ?_,
        fun o ho => Or.inl ⟨o, ho, rfl, id⟩⟩
      intro other hother
      rcases (Table.mem_insert? hrow).mp hother with hold | rfl
      · exact Or.inl hold
      · right
        intro hverified
        rw [hverified] at hshown
        refine ⟨a, ha, hof, ?_⟩
        cases hstate : a.state with
        | membershipVerified => rfl
        | _ => simp [hstate, AlbumDb.shownEffective] at hshown
  | _ =>
      exact ⟨hsame.bindings, hsame.attachments, hsame.creates, hsame.receipts, hsame.events,
        hsame.obligations⟩

end MembershipsProven

/-- A complete context set of the photo of the obligation that shows the photoset, kept by an
attempt of the obligation, by the create of its album, or by the repair of that create. -/
def membershipShown (db : AlbumDb) (o : AlbumObligation) (photosetId : Token)
    (contextIds : List Token) : Prop :=
  (contextsValid contextIds ∧ photosetId ∈ contextIds) ∧
  ((∃ a ∈ db.attachments, a.obligationId = o.obligationId ∧ a.state = .membershipVerified ∧
      ∃ proof ∈ a.proof, proof.contextIds = contextIds ∧ proof.photoId = o.identity.photoId) ∨
    (∃ a ∈ db.materializations, a.bindingId = o.albumBindingId ∧
      ∃ d r proof at_, a.phase = .verified d r proof at_ ∧ proof.contextIds = contextIds ∧
        proof.photoId = o.identity.photoId) ∨
    ∃ r ∈ db.repairReceipts.find? o.albumBindingId, r.proofContextIds = contextIds ∧
      r.firstPhotoId = o.identity.photoId)

/-- A verified membership is of a photoset its album has, and was shown. -/
theorem MembershipsProven.shown {db : AlbumDb} (h : MembershipsProven db)
    (hsound : AttachmentsSound db.attachments) {o : AlbumObligation} (ho : o ∈ db.obligations)
    (hverified : o.state = .membershipVerified) :
    ∃ b ∈ db.bindings.find? o.albumBindingId, ∃ photosetId ∈ b.flickrPhotosetId,
      ∃ contextIds, membershipShown db o photosetId contextIds := by
  have hfind := Table.find?_of_mem ho
  rcases h.memberships o ho hverified with ⟨a, ha, hof, hstate⟩ | ⟨b, hb, hfirst, hproven⟩
  · obtain ⟨o', ho', b, hb, hphotoset, hphoto⟩ := h.attached a ha
    have hsame : o' = o := by
      rw [hof] at ho'
      exact Option.some.inj (ho'.symm.trans hfind)
    obtain ⟨proof, hproof, hvalid, hshows, _, hread⟩ := hsound.proven a ha hstate
    rw [hsame] at hb hphoto
    refine ⟨b, hb, _, hphotoset, proof.contextIds, ⟨hvalid, hshows⟩, Or.inl ?_⟩
    exact ⟨a, ha, hof, hstate, proof, hproof, rfl, hread.trans hphoto.symm⟩
  · obtain ⟨o', ho', hbinding⟩ := h.first b hb
    have hsame : o' = o := by
      rw [hfirst] at ho'
      exact Option.some.inj (ho'.symm.trans hfind)
    rw [hsame] at hbinding
    have hstored : db.bindings.find? o.albumBindingId = some b := by
      rw [hbinding]
      exact Table.find?_of_mem hb
    refine ⟨b, hstored, ?_⟩
    rcases hproven with ⟨a, ha, hof, ⟨p, hp, hshown⟩, hphoto, _⟩ | ⟨r, hr, hshown, hphoto, _⟩
    · cases hphase : a.phase with
      | verified d r proof at_ =>
          rw [hphase] at hp
          obtain rfl : proof.photosetId = p := Option.some.inj hp
          obtain ⟨hvalid, hshows, hread⟩ := h.created a ha d r proof at_ hphase
          refine ⟨proof.photosetId, hshown, proof.contextIds, ⟨hvalid, hshows⟩, Or.inr (Or.inl ?_)⟩
          exact ⟨a, ha, hof.trans hbinding.symm, d, r, proof, at_, hphase, rfl, hread.trans hphoto⟩
      | _ => simp [hphase, MaterializationPhase.verifiedPhotoset?] at hp
    · obtain ⟨hvalid, hshows⟩ := h.repaired r (Table.mem_of_find? hr)
      refine ⟨r.selectedPhotosetId, hshown, r.proofContextIds, ⟨hvalid, hshows⟩,
        Or.inr (Or.inr ⟨r, ?_, rfl, hphoto⟩)⟩
      rw [hbinding]
      exact hr

end FlickrGroupAddr

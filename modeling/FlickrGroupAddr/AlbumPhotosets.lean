import FlickrGroupAddr.AlbumLedgers

/-!
# The photoset of an album

What every later state keeps of the bindings, of their obligations and of their create
attempts: the photoset of a binding is written once, an attempt keeps its dispatch
marker and its end, and no two attempts of one binding are marked.
-/

namespace FlickrGroupAddr

set_option autoImplicit false

open KeyedTable Transition

/-! ## What the rows keep -/

/-- The binding keeps its identity and its photoset, and does not wait for its create again. -/
structure BindingKept (b b' : AlbumBinding) : Prop where
  identity : b'.identity = b.identity
  photoset : b.flickrPhotosetId ≠ none → b'.flickrPhotosetId = b.flickrPhotosetId
  started : b.materializationState ≠ .pending → b'.materializationState ≠ .pending
  materialized : b.materializationState = .materialized → b'.materializationState = .materialized

/-- The obligation keeps its identity, and what it waited for stays verified. -/
structure ObligationKept (o o' : AlbumObligation) : Prop where
  identity : o'.identity = o.identity
  verified : o.state = .membershipVerified → o'.state = .membershipVerified

/-- The attempt keeps its claim, its dispatch marker and its end. -/
structure CreateKept (a a' : AlbumMaterializationAttempt) : Prop where
  claim : a'.claim = a.claim
  marked : a.phase.dispatch? ≠ none → a'.phase.dispatch? = a.phase.dispatch?
  ended : a.phase.isOpen = false → a'.phase = a.phase

instance : IsPreorder AlbumBinding BindingKept where
  refl _ := ⟨rfl, fun _ => rfl, id, id⟩
  trans _ _ _ hfirst hlast := by
    refine ⟨hlast.identity.trans hfirst.identity, ?_, fun h => hlast.started (hfirst.started h),
      fun h => hlast.materialized (hfirst.materialized h)⟩
    intro hsome
    have hkept := hfirst.photoset hsome
    rw [← hkept] at hsome
    exact (hlast.photoset hsome).trans hkept

instance : IsPreorder AlbumObligation ObligationKept where
  refl _ := ⟨rfl, id⟩
  trans _ _ _ hfirst hlast :=
    ⟨hlast.identity.trans hfirst.identity, fun h => hlast.verified (hfirst.verified h)⟩

instance : IsPreorder AlbumMaterializationAttempt CreateKept where
  refl _ := ⟨rfl, fun _ => rfl, fun _ => rfl⟩
  trans _ _ _ hfirst hlast := by
    refine ⟨hlast.claim.trans hfirst.claim, ?_, ?_⟩
    · intro hmarked
      have hkept := hfirst.marked hmarked
      rw [← hkept] at hmarked
      exact (hlast.marked hmarked).trans hkept
    · intro hended
      have hkept := hfirst.ended hended
      rw [← hkept] at hended
      exact (hlast.ended hended).trans hkept

theorem AlbumDb.BindingUpdateAllowed.kept {db : AlbumDb} {old new : AlbumBinding}
    (h : db.BindingUpdateAllowed old new) : BindingKept old new := by
  refine ⟨h.identity.1, h.identity.2, ?_, ?_⟩
  · intro hstarted
    rcases h.materialization with ⟨hsame, _⟩ | ⟨a, _, _, hexplains⟩ | ⟨_, _, _, _, _, _, hnew, _⟩
    · rw [hsame]
      exact hstarted
    · unfold AlbumDb.createExplains at hexplains
      split at hexplains
      · exact absurd hexplains.1 hstarted
      all_goals simp_all
    · rw [hnew]
      simp
  · intro hmaterialized
    rcases h.materialization with ⟨hsame, _⟩ | ⟨a, _, _, hexplains⟩ | ⟨_, _, _, _, _, _, hnew, _⟩
    · exact hsame.trans hmaterialized
    · unfold AlbumDb.createExplains at hexplains
      rw [hmaterialized] at hexplains
      split at hexplains
      all_goals simp at hexplains
    · exact hnew

theorem AlbumDb.ObligationUpdateAllowed.kept {db : AlbumDb} {old new : AlbumObligation}
    (h : db.ObligationUpdateAllowed old new) : ObligationKept old new := by
  refine ⟨h.identity, ?_⟩
  intro hverified
  rcases h.due with ⟨hsame, _⟩ | ⟨_, hnew, _⟩ | ⟨_, e, _, _, _, _, hnew⟩
  · exact hsame.trans hverified
  · exact hnew
  · rw [hnew, hverified, ite_self]

/-- A phase change keeps the marker, and no phase follows the end of an attempt. -/
theorem AlbumDb.CreateUpdateAllowed.kept {m : Moment} {db : AlbumDb}
    {old new : AlbumMaterializationAttempt} (h : AlbumDb.CreateUpdateAllowed m db old new) :
    CreateKept old new := by
  have htransition := h.transition
  unfold AlbumDb.createTransition at htransition
  refine ⟨h.identity.1, ?_, ?_⟩
  · intro hmarked
    split at htransition
    all_goals simp_all [MaterializationPhase.dispatch?]
  · intro hended
    split at htransition
    all_goals simp_all [MaterializationPhase.isOpen]

/-! ## What every run keeps -/

/-- What every later state keeps of the tables of an album. -/
structure PhotosetsKept (db db' : AlbumDb) : Prop where
  bindings : Table.Kept BindingKept db.bindings db'.bindings
  obligations : Table.Kept ObligationKept db.obligations db'.obligations
  creates : Table.Kept CreateKept db.materializations db'.materializations
  receipts : Table.Kept Eq db.repairReceipts db'.repairReceipts

namespace PhotosetsKept

theorem of_eq {db db' : AlbumDb} (hbindings : db'.bindings = db.bindings)
    (hobligations : db'.obligations = db.obligations)
    (hcreates : db'.materializations = db.materializations)
    (hreceipts : db'.repairReceipts = db.repairReceipts) : PhotosetsKept db db' := by
  constructor
  · rw [hbindings]
    exact Table.Kept.same db.bindings
  · rw [hobligations]
    exact Table.Kept.same db.obligations
  · rw [hcreates]
    exact Table.Kept.same db.materializations
  · rw [hreceipts]
    exact Table.Kept.same db.repairReceipts

instance : IsPreorder AlbumDb PhotosetsKept where
  refl _ := of_eq rfl rfl rfl rfl
  trans _ _ _ hfirst hlast :=
    ⟨hfirst.bindings.trans hlast.bindings, hfirst.obligations.trans hlast.obligations,
      hfirst.creates.trans hlast.creates, hfirst.receipts.trans hlast.receipts⟩

theorem same (db : AlbumDb) : PhotosetsKept db db := refl_of PhotosetsKept db

/-- Every row write keeps the photosets. -/
theorem write {part : Option AlbumPart} {db db' : AlbumDb} (h : AlbumWrite part db db') :
    PhotosetsKept db db' := by
  have hsame := same db
  cases h with
  | binding new hset =>
      rcases AlbumDb.setBinding_eq_some hset with ⟨_, rfl⟩ | ⟨old, hold, hallowed, hmove⟩
      · exact hsame
      · have hkept := Table.kept_set hold hallowed.kept
        rcases hmove with ⟨_, rfl⟩ | ⟨_, _, _, rfl⟩
        · exact ⟨hkept, hsame.obligations, hsame.creates, hsame.receipts⟩
        · exact ⟨hkept, hsame.obligations, hsame.creates, hsame.receipts⟩
  | bindingCreated _ m b bindings events obligations obligationEvents _ hrow _ hfirst _ =>
      exact ⟨Table.kept_insert? hrow, Table.kept_insert? hfirst, hsame.creates, hsame.receipts⟩
  | obligation new hset =>
      rcases AlbumDb.setObligation_eq_some hset with
        ⟨_, rfl⟩ | ⟨old, events, hold, hallowed, _, rfl⟩
      · exact hsame
      · exact ⟨hsame.bindings, Table.kept_set hold hallowed.kept, hsame.creates, hsame.receipts⟩
  | obligationAdmitted _ m o obligations events _ _ hrow _ =>
      exact ⟨hsame.bindings, Table.kept_insert? hrow, hsame.creates, hsame.receipts⟩
  | titleAttempt m new _ hset =>
      obtain ⟨titles, rfl⟩ := AlbumDb.titlesOnly_setTitleAttempt hset
      exact of_eq rfl rfl rfl rfl
  | createClaimed _ m a attempts _ hrow =>
      exact ⟨hsame.bindings, hsame.obligations, Table.kept_insert? hrow, hsame.receipts⟩
  | createChanged _ m old new hold hallowed =>
      exact ⟨hsame.bindings, hsame.obligations, Table.kept_set hold hallowed.kept, hsame.receipts⟩
  | repair _ m r receipts _ hrow =>
      exact ⟨hsame.bindings, hsame.obligations, hsame.creates, Table.kept_insert? hrow⟩
  | _ => exact of_eq rfl rfl rfl rfl

theorem writes {part : Option AlbumPart} {db db' : AlbumDb} (h : AlbumWrites part db db') :
    PhotosetsKept db db' :=
  AlbumWrites.relates (fun _ _ _ => write) h

/-- Every run keeps the photosets. -/
theorem run {db db' : AlbumDb} {trace : List (Move AlbumDb AlbumMove)}
    (hrun : Run AlbumStep db trace db') : PhotosetsKept db db' :=
  album_relates hrun fun _ _ _ => write

end PhotosetsKept

/-! ## Where a photoset comes from -/

/-- A verified create of the binding, or the receipt of its repair, names the photoset. -/
def photosetSourced (db : AlbumDb) (bindingId photosetId : Token) : Prop :=
  (∃ a ∈ db.materializations, a.bindingId = bindingId ∧
    a.phase.verifiedPhotoset? = some photosetId) ∨
  ∃ r ∈ db.repairReceipts.find? bindingId, r.selectedPhotosetId = photosetId

/-- Every photoset has its source, a materialized binding has its photoset, and no two
attempts of one binding are marked. -/
structure PhotosetsSourced (db : AlbumDb) : Prop where
  sourced : ∀ b ∈ db.bindings, ∀ p ∈ b.flickrPhotosetId, photosetSourced db b.bindingId p
  shown : ∀ b ∈ db.bindings, b.materializationState = .materialized → b.flickrPhotosetId ≠ none
  once : ∀ a ∈ db.materializations, ∀ a' ∈ db.materializations, a.bindingId = a'.bindingId →
    a.phase.dispatch? ≠ none → a'.phase.dispatch? ≠ none → a = a'

namespace PhotosetsSourced

theorem photosetSourced_kept {db db' : AlbumDb} {bindingId photosetId : Token}
    (hkept : PhotosetsKept db db') (h : photosetSourced db bindingId photosetId) :
    photosetSourced db' bindingId photosetId := by
  rcases h with ⟨a, ha, hbinding, hverified⟩ | ⟨r, hr, hselected⟩
  · left
    obtain ⟨a', ha', hrow⟩ := hkept.creates a.attemptId a (Table.find?_of_mem ha)
    have hphase : a'.phase = a.phase := by
      apply hrow.ended
      cases hphase : a.phase with
      | verified => rfl
      | _ => simp [hphase, MaterializationPhase.verifiedPhotoset?] at hverified
    refine ⟨a', Table.mem_of_find? ha', ?_, ?_⟩
    · rw [← hbinding]
      exact congrArg AlbumMaterializationClaim.bindingId hrow.claim
    · rw [hphase]
      exact hverified
  · right
    obtain ⟨r', hr', rfl⟩ := hkept.receipts bindingId r hr
    exact ⟨r, hr', hselected⟩

theorem of_eq {db db' : AlbumDb} (h : PhotosetsSourced db) (hkept : PhotosetsKept db db')
    (hbindings : db'.bindings = db.bindings)
    (hcreates : db'.materializations = db.materializations) : PhotosetsSourced db' := by
  constructor
  · intro b hb p hp
    rw [hbindings] at hb
    exact photosetSourced_kept hkept (h.sourced b hb p hp)
  · intro b hb
    rw [hbindings] at hb
    exact h.shown b hb
  · rw [hcreates]
    exact h.once

theorem setBinding {db db' : AlbumDb} {new : AlbumBinding} (h : PhotosetsSourced db)
    (hset : db.setBinding new = some db') : PhotosetsSourced db' := by
  rcases AlbumDb.setBinding_eq_some hset with ⟨_, rfl⟩ | ⟨old, hold, hallowed, hmove⟩
  · exact h
  have hmem : old ∈ db.bindings := Table.mem_of_find? hold
  have hkey : old.bindingId = new.bindingId := Table.key_of_find? hold
  have hnew : (∀ p ∈ new.flickrPhotosetId, photosetSourced db new.bindingId p) ∧
      (new.materializationState = .materialized → new.flickrPhotosetId ≠ none) := by
    rw [← hkey]
    rcases hallowed.materialization with
      ⟨hstate, hphotoset, _⟩ | ⟨a, ha, hbinding, hexplains⟩ |
        ⟨r, hr, _, _, _, _, _, hphotoset, _⟩
    · rw [hstate, hphotoset]
      exact ⟨h.sourced old hmem, h.shown old hmem⟩
    · cases hphase : a.phase with
      | verified dispatch received proof at_ =>
          rw [hphase] at hexplains
          obtain ⟨_, _, hphotoset, _⟩ := hexplains
          rw [hphotoset]
          refine ⟨?_, fun _ => Option.some_ne_none _⟩
          intro p hp
          cases hp
          left
          refine ⟨a, ha, hbinding, ?_⟩
          rw [hphase]
          rfl
      | _ => simp_all [AlbumDb.createExplains]
    · rw [hphotoset]
      refine ⟨?_, fun _ => Option.some_ne_none _⟩
      intro p hp
      cases hp
      exact Or.inr ⟨r, hr, rfl⟩
  have hbindings : db'.bindings = db.bindings.set new ∧
      db'.materializations = db.materializations := by
    rcases hmove with ⟨_, rfl⟩ | ⟨_, _, _, rfl⟩
    · exact ⟨rfl, rfl⟩
    · exact ⟨rfl, rfl⟩
  have hwrite : AlbumWrite none db db' := AlbumWrite.binding new hset
  have hkept := PhotosetsKept.write hwrite
  constructor
  · intro b hb p hp
    rw [hbindings.1] at hb
    apply photosetSourced_kept hkept
    rcases Table.mem_set_cases hb with rfl | ⟨hb, _⟩
    · exact hnew.1 p hp
    · exact h.sourced b hb p hp
  · intro b hb
    rw [hbindings.1] at hb
    rcases Table.mem_set_cases hb with rfl | ⟨hb, _⟩
    · exact hnew.2
    · exact h.shown b hb
  · rw [hbindings.2]
    exact h.once

/-- Every row write keeps the sources. -/
theorem write {part : Option AlbumPart} {db db' : AlbumDb} (hwrite : AlbumWrite part db db')
    (h : PhotosetsSourced db) : PhotosetsSourced db' := by
  have hkept := PhotosetsKept.write hwrite
  cases hwrite with
  | binding new hset => exact h.setBinding hset
  | bindingCreated _ m b bindings events obligations obligationEvents hadmissible hrow =>
      have hpending : b.flickrPhotosetId = none ∧ b.materializationState = .pending :=
        ⟨hadmissible.1.2.2.1, hadmissible.2.1.1⟩
      constructor
      · intro other hother p hp
        rcases (Table.mem_insert? hrow).mp hother with hold | rfl
        · exact photosetSourced_kept hkept (h.sourced other hold p hp)
        · rw [hpending.1] at hp
          cases hp
      · intro other hother hmaterialized
        rcases (Table.mem_insert? hrow).mp hother with hold | rfl
        · exact h.shown other hold hmaterialized
        · rw [hpending.2] at hmaterialized
          cases hmaterialized
      · exact h.once
  | obligation new hset =>
      rcases AlbumDb.setObligation_eq_some hset with ⟨_, rfl⟩ | ⟨_, _, _, _, _, rfl⟩
      · exact h
      · exact h.of_eq hkept rfl rfl
  | titleAttempt m new _ hset =>
      obtain ⟨titles, rfl⟩ := AlbumDb.titlesOnly_setTitleAttempt hset
      exact h.of_eq hkept rfl rfl
  | createClaimed _ m a attempts hadmissible hrow =>
      refine ⟨fun b hb p hp => photosetSourced_kept hkept (h.sourced b hb p hp), h.shown, ?_⟩
      have hclaimed : a.phase.dispatch? = none := by
        rw [hadmissible.1.1]
        rfl
      intro first hfirst last hlast hsame hmarked hmarked'
      rcases (Table.mem_insert? hrow).mp hfirst with hfirst | rfl
      · rcases (Table.mem_insert? hrow).mp hlast with hlast | rfl
        · exact h.once first hfirst last hlast hsame hmarked hmarked'
        · exact absurd hclaimed hmarked'
      · exact absurd hclaimed hmarked
  | createChanged _ m old new hold hallowed =>
      refine ⟨fun b hb p hp => photosetSourced_kept hkept (h.sourced b hb p hp), h.shown, ?_⟩
      have hbinding : new.bindingId = old.bindingId :=
        congrArg AlbumMaterializationClaim.bindingId hallowed.identity.1
      have hattempt : new.attemptId = old.attemptId :=
        congrArg AlbumMaterializationClaim.attemptId hallowed.identity.1
      have honly : new.phase.dispatch? ≠ none → ∀ other ∈ db.materializations,
          other.attemptId ≠ new.attemptId → other.bindingId = new.bindingId →
            other.phase.dispatch? = none := by
        intro hmarked other hother hne hsame
        rw [hattempt] at hne
        exact hallowed.once (Option.isSome_iff_ne_none.mpr hmarked) other hother
          (hsame.trans hbinding) hne
      intro first hfirst last hlast hsame hmarked hmarked'
      rcases Table.mem_set_cases hfirst with rfl | ⟨hstored, hne⟩
      · rcases Table.mem_set_cases hlast with rfl | ⟨hlast, hne'⟩
        · rfl
        · exact absurd (honly hmarked last hlast hne' hsame.symm) hmarked'
      · rcases Table.mem_set_cases hlast with rfl | ⟨hlast, _⟩
        · exact absurd (honly hmarked' first hstored hne hsame) hmarked
        · exact h.once first hstored last hlast hsame hmarked hmarked'
  | _ => exact h.of_eq hkept rfl rfl

theorem empty : PhotosetsSourced emptyAlbumDb := by
  constructor
  · intro b hb
    exact absurd hb (Table.not_mem_empty b)
  · intro b hb
    exact absurd hb (Table.not_mem_empty b)
  · intro a ha
    exact absurd ha (Table.not_mem_empty a)

/-- In every reachable state. -/
theorem reachable {db : AlbumDb} (h : Reachable AlbumStep AlbumInitial db) :
    PhotosetsSourced db :=
  album_invariant empty (fun _ _ _ => write) h

end PhotosetsSourced

end FlickrGroupAddr

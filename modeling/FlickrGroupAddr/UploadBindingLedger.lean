import FlickrGroupAddr.ResumeWriteGate
import FlickrGroupAddr.UploadBindings

/-!
# What the upload bindings record

A committed request either verifies the photo once, together with the one event that says
so, or changes nothing.  So the verification revision of a photo counts its events.
-/

namespace FlickrGroupAddr

set_option autoImplicit false

open KeyedTable Program Workers Transition

/-! ## The verification of a photo -/

/-- The photo got its first binding, or the next revision of the one it has. -/
structure PhotoVerified (before after : Table PhotoBinding.bindingId) (photoId : Token)
    (b : PhotoBinding) : Prop where
  photo : b.photoId = photoId
  mem : ∀ row, row ∈ after ↔ (row ∈ before ∧ row.photoId ≠ photoId) ∨ row = b
  counted : ((∀ row ∈ before, row.photoId ≠ photoId ∧ row.bindingId ≠ b.bindingId) ∧
      b.verificationRevision = 1) ∨
    ∃ old ∈ before, old.photoId = photoId ∧ old.bindingId = b.bindingId ∧
      b.verificationRevision = old.verificationRevision + 1

/-- No photo has two bindings. -/
def PhotosOnce (bindings : Table PhotoBinding.bindingId) : Prop :=
  ∀ b ∈ bindings, ∀ b' ∈ bindings, b.photoId = b'.photoId → b = b'

section Verification

variable {f f' : FlickrTables} {snapshot : GrantSnapshot} {photoId bindingId : Token}
  {source : SourceKind} {again : PhotoBinding → Bool} {now : Us}

/-- Without a reason to verify again, a bound photo keeps its row. -/
theorem bindPhoto_kept (hbound : ∃ b ∈ f.bindings, b.photoId = photoId)
    (h : f.bindPhoto snapshot photoId bindingId source (fun _ => false) now = some f') : f' = f := by
  unfold FlickrTables.bindPhoto at h
  dsimp only at h
  rw [if_pos hbound] at h
  cases h
  have hbindings : ∀ table : Table PhotoBinding.bindingId, ∀ change : PhotoBinding → PhotoBinding,
      ∀ hchange : ∀ row, (change row).bindingId = row.bindingId,
        table.modifyWhere (fun b => decide (b.photoId = photoId ∧ b.bindingId ≠ bindingId ∧
          (fun _ : PhotoBinding => false) b = true)) change hchange = table := by
    intro table change hchange
    apply Table.ext
    simp [Table.modifyWhere]
  rw [hbindings]

theorem bindPhoto_verified (honce : PhotosOnce f.bindings)
    (hfresh : f.bindings.find? bindingId = none)
    (hagain : ∀ b ∈ f.bindings, b.photoId = photoId → again b = true)
    (h : f.bindPhoto snapshot photoId bindingId source again now = some f') :
    ∃ b, PhotoVerified f.bindings f'.bindings photoId b ∧ (b.bindingId = bindingId →
      b.sourceKind = source ∧ b.verificationRevision = 1) := by
  unfold FlickrTables.bindPhoto at h
  dsimp only at h
  have hnotDrawn : ∀ b ∈ f.bindings, b.bindingId ≠ bindingId := Table.find?_eq_none.mp hfresh
  split at h
  · next hbound =>
      obtain ⟨old, hold, hphoto⟩ := hbound
      cases h
      have hselected : ∀ b ∈ f.bindings, decide (b.photoId = photoId ∧ b.bindingId ≠ bindingId ∧
          again b = true) = decide (b.photoId = photoId) := by
        intro b hb
        by_cases hphoto : b.photoId = photoId
        · simp [hphoto, hnotDrawn b hb, hagain b hb hphoto]
        · simp [hphoto]
      refine ⟨{ old with
        linkRevision := snapshot.revision
        verificationRevision := old.verificationRevision + 1
        verifiedAtUs := now }, ⟨hphoto, ?_, Or.inr ⟨old, hold, hphoto, rfl, rfl⟩⟩, ?_⟩
      · intro row
        rw [Table.mem_modifyWhere]
        constructor
        · rintro ⟨b, hb, rfl⟩
          rw [hselected b hb]
          by_cases hsame : b.photoId = photoId
          · right
            rw [honce b hb old hold (hsame.trans hphoto.symm)]
            simp [hphoto]
          · left
            simp [hsame, hb]
        · rintro (⟨hrow, hother⟩ | rfl)
          · refine ⟨row, hrow, ?_⟩
            rw [hselected row hrow]
            simp [hother]
          · refine ⟨old, hold, ?_⟩
            rw [hselected old hold]
            simp [hphoto]
      · intro hdrawn
        exact absurd hdrawn (hnotDrawn old hold)
  · next hunbound =>
      push Not at hunbound
      obtain ⟨bindings, hinsert, rfl⟩ := Option.map_eq_some_iff.mp h
      refine ⟨⟨bindingId, snapshot.userId, photoId, snapshot.ownerNsid, snapshot.revision, 1, source,
        now⟩, ⟨rfl, ?_, Or.inl ⟨?_, rfl⟩⟩, fun _ => ⟨rfl, rfl⟩⟩
      · intro row
        rw [Table.mem_modifyWhere]
        constructor
        · rintro ⟨b, hb, rfl⟩
          rcases (Table.mem_insert? hinsert).mp hb with hold | rfl
          · left
            simp [hunbound b hold, hold]
          · right
            simp
        · rintro (⟨hrow, hother⟩ | rfl)
          · refine ⟨row, (Table.mem_insert? hinsert).mpr (Or.inl hrow), ?_⟩
            simp [hother]
          · refine ⟨_, (Table.mem_insert? hinsert).mpr (Or.inr rfl), ?_⟩
            simp
      · intro row hrow
        exact ⟨hunbound row hrow, hnotDrawn row hrow⟩

end Verification

namespace PhotoVerified

variable {before after : Table PhotoBinding.bindingId} {photoId : Token} {b : PhotoBinding}

theorem added (h : PhotoVerified before after photoId b) : b ∈ after := (h.mem b).mpr (Or.inr rfl)

theorem once (h : PhotoVerified before after photoId b) (honce : PhotosOnce before) :
    PhotosOnce after := by
  intro row hrow row' hrow' hsame
  rcases (h.mem row).mp hrow with ⟨hold, hother⟩ | rfl
  · rcases (h.mem row').mp hrow' with ⟨hold', _⟩ | rfl
    · exact honce row hold row' hold' hsame
    · exact absurd (hsame.trans h.photo) hother
  · rcases (h.mem row').mp hrow' with ⟨_, hother⟩ | rfl
    · exact absurd (hsame.symm.trans h.photo) hother
    · rfl

/-- Every binding keeps its row, or is the one of the photo. -/
theorem kept (h : PhotoVerified before after photoId b) (honce : PhotosOnce before)
    {row : PhotoBinding} (hrow : row ∈ before) :
    (row ∈ after ∧ row.bindingId ≠ b.bindingId) ∨
    (row.bindingId = b.bindingId ∧ row.photoId = b.photoId ∧
      b.verificationRevision = row.verificationRevision + 1) := by
  rcases h.counted with ⟨hnew, _⟩ | ⟨old, hold, hphoto, hid, hrevision⟩
  · obtain ⟨hother, hid⟩ := hnew row hrow
    exact Or.inl ⟨(h.mem row).mpr (Or.inl ⟨hrow, hother⟩), hid⟩
  · by_cases hsame : row.photoId = photoId
    · right
      obtain rfl := honce row hrow old hold (hsame.trans hphoto.symm)
      exact ⟨hid, hsame.trans h.photo.symm, hrevision⟩
    · left
      refine ⟨(h.mem row).mpr (Or.inl ⟨hrow, hsame⟩), ?_⟩
      intro heq
      apply hsame
      rw [Table.eq_of_key_eq hrow hold (heq.trans hid.symm), hphoto]

end PhotoVerified

/-! ## The invariant -/

namespace UploadStore

variable (s : UploadStore)

/-- How many events the tables have of a binding. -/
def recorded (bindingId : Token) : Nat :=
  (s.events.rows.countP fun e => e.bindingId = bindingId) +
    s.proofs.countP fun proof => proof.bindingId = bindingId

/-- The event of an authorization is for the photo the authorization is bound to. -/
def eventKnown (e : UploadBindingEvent) : Prop :=
  ∃ a ∈ s.authorizations, ∃ b ∈ s.bindings, a.authorizationId = e.authorizationId ∧
    b.bindingId = e.bindingId ∧ a.photoId = some b.photoId

end UploadStore

/-- Events are of bound authorizations and of bindings there are, and they are counted. -/
structure UploadSound (s : UploadStore) : Prop where
  once : PhotosOnce s.bindings
  events : ∀ e ∈ s.events, s.eventKnown e
  bound : ∀ a ∈ s.authorizations, a.photoId ≠ none →
    ∃ e ∈ s.events, e.authorizationId = a.authorizationId
  proofs : ∀ proof ∈ s.proofs, ∃ b ∈ s.bindings, b.bindingId = proof.bindingId
  revisions : ∀ b ∈ s.bindings, b.verificationRevision = s.recorded b.bindingId
  resolutions : ∀ r ∈ s.resolutions, ∃ e ∈ s.events, e.authorizationId = r.authorizationId

/-! ## What an operation changes -/

/-- The changes of the tables, with the operation that makes them. -/
inductive UploadChange (s s' : UploadStore) : Option BindingOp → Prop
  | quiet {served : Option BindingOp} (h : UploadExternal s s') : UploadChange s s' served
  | bound (c : UploadCommit) (b : PhotoBinding) (e : UploadBindingEvent)
      (hpending : s.events.find? c.authorizationId = none)
      (ha : ∃ a, s.authorizations.find? c.authorizationId = some a ∧
        (a.photoId = none ∨ a.photoId = some c.photoId))
      (hverified : PhotoVerified s.bindings s'.bindings c.photoId b)
      (hauthorizations : s'.authorizations = s.authorizations.modify c.authorizationId fun a =>
        { a with photoId := a.photoId.or (some c.photoId) })
      (he : e.authorizationId = c.authorizationId ∧ e.bindingId = b.bindingId)
      (hevents : s.events.insert? e = some s'.events)
      (hproofs : s'.proofs = s.proofs)
      (hresolutions : s'.resolutions = s.resolutions ∨
        ∃ r : AmbiguityResolution, r.authorizationId = c.authorizationId ∧ c.resolution = true ∧
          s.resolutions.insert? r = some s'.resolutions) :
      UploadChange s s' (some (.commit c))
  | proved (auth : AdmissionAuth) (grant : GrantSnapshot) (photoId : Token) (b : PhotoBinding)
      (hverified : PhotoVerified s.bindings s'.bindings photoId b)
      (hauthorizations : s'.authorizations = s.authorizations)
      (hevents : s'.events = s.events)
      (hproofs : s'.proofs = s.proofs ++ [⟨b.bindingId, b.verificationRevision⟩])
      (hresolutions : s'.resolutions = s.resolutions) :
      UploadChange s s' (some (.commitExisting auth grant photoId))

section Batches

variable {s s' : UploadStore} {c : UploadCommit} {bindingId : Token} {now : Us}
  {result : Option BindingRow × Bool}

theorem UploadExternal.refl (s : UploadStore) : UploadExternal s s :=
  ⟨rfl, rfl, rfl, rfl, Or.inl rfl⟩

theorem bindingOf_of_mem (honce : PhotosOnce s.bindings) {b : PhotoBinding} (hb : b ∈ s.bindings) :
    s.bindingOf b.photoId = some b := by
  have hsome : (s.bindingOf b.photoId).isSome = true := by
    unfold UploadStore.bindingOf
    rw [List.find?_isSome]
    exact ⟨b, hb, by simp⟩
  obtain ⟨found, hfound⟩ := Option.isSome_iff_exists.mp hsome
  have hphoto := List.find?_some hfound
  rw [decide_eq_true_eq] at hphoto
  rw [hfound, honce found (List.mem_of_find?_eq_some hfound) b hb hphoto]

/-- The event of a pending authorization, or nothing. -/
theorem recordEvent_eq_some {changes : Nat} (h : s.recordEvent c = some (s', changes)) :
    (s' = s ∧ changes = 0 ∧
      (s.pending c.authorizationId = true → s.bindingOf c.photoId = none)) ∨
    ∃ b e, s.pending c.authorizationId = true ∧ s.bindingOf c.photoId = some b ∧
      e.authorizationId = c.authorizationId ∧ e.bindingId = b.bindingId ∧
      s.events.insert? e = some s'.events ∧ s' = { s with events := s'.events } ∧ changes = 1 := by
  unfold UploadStore.recordEvent at h
  split at h
  · next hpending =>
      split at h
      · next hnone =>
          cases h
          exact Or.inl ⟨rfl, rfl, fun _ => hnone⟩
      · next b hb =>
          split at h
          · obtain ⟨events, hinsert, h⟩ := Option.map_eq_some_iff.mp h
            cases h
            exact Or.inr ⟨b, _, hpending, hb, rfl, rfl, hinsert, rfl, rfl⟩
          · cases h
  · next hpending =>
      cases h
      exact Or.inl ⟨rfl, rfl, fun htrue => absurd htrue hpending⟩

/-- The resolution of an authorization whose event was inserted just before, or nothing. -/
theorem recordResolution_eq_some {changes : Nat}
    (h : s.recordResolution c bindingId changes = some s') :
    s' = s ∨
    ∃ r : AmbiguityResolution, r.authorizationId = c.authorizationId ∧ c.resolution = true ∧
      changes = 1 ∧ s.resolutions.insert? r = some s'.resolutions ∧
      s' = { s with resolutions := s'.resolutions } := by
  unfold UploadStore.recordResolution at h
  split at h
  · cases h
    exact Or.inl rfl
  · split at h
    · next hnew =>
        split at h
        · obtain ⟨resolutions, hinsert, rfl⟩ := Option.map_eq_some_iff.mp h
          exact Or.inr ⟨_, rfl, hnew.1, hnew.2.2, hinsert, rfl⟩
        · cases h
    · cases h
      exact Or.inl rfl

/-- What a committed batch did, statement by statement. -/
theorem commit_eq_some (h : s.commit c bindingId now = some (s', result)) :
    s.uploadGuard c ∧ ∃ flickr recorded changes,
      s.db.flickr.bindPhoto c.snapshot c.photoId bindingId .upload
        (fun _ => s.pending c.authorizationId) now = some flickr ∧
      (s.bindTo c flickr).recordEvent c = some (recorded, changes) ∧
      recorded.recordResolution c bindingId changes = some s' := by
  unfold UploadStore.commit at h
  split at h
  · cases h
  · next hguard =>
      obtain ⟨flickr, hbind, h⟩ := Option.bind_eq_some_iff.mp h
      obtain ⟨⟨recorded, changes⟩, hrecord, h⟩ := Option.bind_eq_some_iff.mp h
      obtain ⟨resolved, hresolve, h⟩ := Option.bind_eq_some_iff.mp h
      cases h
      exact ⟨not_not.mp hguard, flickr, recorded, changes, hbind, hrecord, hresolve⟩

/-- A committed batch for an authorization that has its event changes nothing. -/
theorem commit_replayed (hsound : UploadSound s) {e : UploadBindingEvent}
    (he : s.events.find? c.authorizationId = some e)
    (h : s.commit c bindingId now = some (s', result)) : s' = s := by
  obtain ⟨hguard, flickr, recorded, changes, hbind, hrecord, hresolve⟩ := commit_eq_some h
  obtain ⟨_, _, ⟨a, ha, _, _, hphoto⟩, _, _⟩ := hguard
  have hpending : s.pending c.authorizationId = false := by simp [UploadStore.pending, he]
  obtain ⟨a', ha', b, hb, hid, _, hbound⟩ := hsound.events e (Table.mem_of_find? he)
  have hsame : a' = a := by
    apply Table.eq_of_key_eq ha' (Table.mem_of_find? ha)
    rw [hid, Table.key_of_find? he, Table.key_of_find? ha]
  subst hsame
  have hbphoto : b.photoId = c.photoId := by
    rcases hphoto with hnone | hsome
    · rw [hbound] at hnone
      cases hnone
    · rw [hbound] at hsome
      exact Option.some.inj hsome
  rw [hpending] at hbind
  have hsame : s.bindTo c flickr = s := by
    unfold UploadStore.bindTo
    rw [bindPhoto_kept ⟨b, hb, hbphoto⟩ hbind, Table.modify_eq_self]
    intro row hrow hkey
    obtain rfl := Table.eq_of_key_eq hrow ha' (hkey.trans (Table.key_of_find? ha).symm)
    have hor : row.photoId.or (some c.photoId) = row.photoId := by simp [hbound]
    rw [hor]
  rw [hsame] at hrecord
  rcases recordEvent_eq_some hrecord with ⟨rfl, rfl, _⟩ | ⟨_, _, hnew, _⟩
  · rcases recordResolution_eq_some hresolve with rfl | ⟨_, _, _, hone, _⟩
    · rfl
    · cases hone
  · rw [hpending] at hnew
    cases hnew

/-- A committed batch for a pending authorization verifies its photo and records that. -/
theorem commit_bound (hsound : UploadSound s) (hfresh : s.bindings.find? bindingId = none)
    (hnone : s.events.find? c.authorizationId = none)
    (h : s.commit c bindingId now = some (s', result)) :
    UploadChange s s' (some (.commit c)) := by
  obtain ⟨hguard, flickr, recorded, changes, hbind, hrecord, hresolve⟩ := commit_eq_some h
  obtain ⟨_, _, ⟨a, ha, _, _, hphoto⟩, _, _⟩ := hguard
  have hpending : s.pending c.authorizationId = true := by simp [UploadStore.pending, hnone]
  obtain ⟨b, hverified, _⟩ :=
    bindPhoto_verified hsound.once hfresh (fun _ _ _ => hpending) hbind
  have honce : PhotosOnce (s.bindTo c flickr).bindings := hverified.once hsound.once
  have hbindingOf : (s.bindTo c flickr).bindingOf c.photoId = some b := by
    rw [← hverified.photo]
    exact bindingOf_of_mem honce hverified.added
  rcases recordEvent_eq_some hrecord with ⟨_, _, hmissing⟩ |
    ⟨b', e, _, hb', heid, heb, hinsert, hrecorded, rfl⟩
  · rw [hmissing hpending] at hbindingOf
    cases hbindingOf
  · rw [hbindingOf] at hb'
    cases hb'
    rcases recordResolution_eq_some hresolve with rfl | ⟨r, hrid, hrequested, _, hrinsert, hresolved⟩
    · rw [hrecorded] at hinsert ⊢
      exact UploadChange.bound c b e hnone ⟨a, ha, hphoto⟩ hverified rfl ⟨heid, heb⟩ hinsert rfl
        (Or.inl rfl)
    · rw [hrecorded] at hrinsert hresolved
      rw [hresolved]
      exact UploadChange.bound c b e hnone ⟨a, ha, hphoto⟩ hverified rfl ⟨heid, heb⟩ hinsert rfl
        (Or.inr ⟨r, hrid, hrequested, hrinsert⟩)

theorem commitExisting_proved {auth : AdmissionAuth} {grant : GrantSnapshot} {photoId : Token}
    (hsound : UploadSound s) (hfresh : s.bindings.find? bindingId = none)
    (h : s.commitExisting auth grant photoId bindingId now = some (s', result)) :
    UploadChange s s' (some (.commitExisting auth grant photoId)) ∧
      s.existingGuard auth grant photoId := by
  obtain ⟨flickr, hcommit, h⟩ := Option.bind_eq_some_iff.mp h
  cases h
  unfold commitBinding at hcommit
  split at hcommit
  · next hguard =>
      have hagain : ∀ b ∈ s.db.flickr.bindings, b.photoId = photoId →
          decide (b.verificationRevision < 9007199254740991) = true := by
        intro b hb hphoto
        exact decide_eq_true ((hguard.2.2 b hb hphoto).2.2 rfl)
      obtain ⟨b, hverified, _⟩ := bindPhoto_verified hsound.once hfresh hagain hcommit
      have honce : PhotosOnce ({ s with db := { s.db with flickr := flickr } } : UploadStore).bindings :=
        hverified.once hsound.once
      have hbindingOf : UploadStore.bindingOf { s with db := { s.db with flickr := flickr } } photoId =
          some b := by
        rw [← hverified.photo]
        exact bindingOf_of_mem honce hverified.added
      refine ⟨UploadChange.proved auth grant photoId b hverified rfl rfl ?_ rfl, hguard⟩
      simp [hbindingOf]
  · cases hcommit

end Batches

/-! ## What an operation does -/

theorem batchCommits_cases {s s' : UploadStore}
    {batch : Option (UploadStore × Option BindingRow × Bool)}
    {answer : Except BindingFault (Option BindingRow × Bool)} (h : batchCommits s batch answer s') :
    s' = s ∨ ∃ result, batch = some (s', result) ∧ answer = .ok result := by
  unfold batchCommits at h
  split at h
  · exact Or.inl h.2
  · next after result =>
      obtain ⟨hanswer, rfl⟩ := h
      exact Or.inr ⟨result, rfl, hanswer⟩

theorem updateGate_bindings (f : FlickrTables) (key : GateKey) (enabled : Bool) (now : Us) :
    (f.updateGate key enabled now).bindings = f.bindings := by
  unfold FlickrTables.updateGate
  split
  · rfl
  · unfold FlickrTables.gateTransition
    split
    · rfl
    · rfl

/-- A rejected grant stops the link, and no photo changes. -/
theorem rejectCurrentGrant_bindings {db : Db} {auth : AdmissionAuth} {grant : GrantSnapshot}
    {operationId generation : Token} {now : Us} {flickr : FlickrTables}
    (h : rejectCurrentGrant db auth grant operationId generation now = some flickr) :
    flickr.bindings = db.flickr.bindings := by
  unfold rejectCurrentGrant at h
  split at h
  · obtain ⟨attached, _, _, hbindings, _, rfl⟩ := FlickrTables.startOperation_effect h
    rw [← hbindings]
    unfold FlickrTables.pauseGate
    split
    · rfl
    · split
      · exact updateGate_bindings attached _ false now
      · rfl
  · cases h

theorem serveBinding_changes {s s' : UploadStore} (hsound : UploadSound s) {o : BindingOp}
    {answer : o.Answer} (h : serveBinding s o answer s') : UploadChange s s' (some o) := by
  have hrefl : s' = s → UploadChange s s' (some o) := by
    rintro rfl
    exact UploadChange.quiet (UploadExternal.refl s')
  cases o with
  | credential auth => exact hrefl h.2
  | authorization auth userId authorizationId => exact hrefl h.2
  | linkedGrant auth => exact hrefl h.2
  | retained authorizationId revision => exact hrefl h.2
  | grantSecret => exact hrefl h
  | photoInfo photoId => exact hrefl h
  | rejectGrant auth grant =>
      rcases h with hsame | ⟨operationId, generation, now, flickr, hreject, rfl⟩
      · exact hrefl hsame
      · apply UploadChange.quiet
        exact ⟨rejectCurrentGrant_bindings hreject, rfl, rfl, rfl, Or.inl rfl⟩
  | commit c =>
      obtain ⟨bindingId, now, hfresh, h⟩ := h
      rcases batchCommits_cases h with hsame | ⟨result, hcommit, _⟩
      · exact hrefl hsame
      · cases hevent : s.events.find? c.authorizationId with
        | none => exact commit_bound hsound hfresh hevent hcommit
        | some e => exact hrefl (commit_replayed hsound hevent hcommit)
  | commitExisting auth grant photoId =>
      obtain ⟨bindingId, now, hfresh, h⟩ := h
      rcases batchCommits_cases h with hsame | ⟨result, hcommit, _⟩
      · exact hrefl hsame
      · exact (commitExisting_proved hsound hfresh hcommit).1

/-! ## What a change keeps -/

namespace UploadSound

variable {s s' : UploadStore}

theorem recorded_bound {b : PhotoBinding} {e : UploadBindingEvent}
    (hevents : s.events.insert? e = some s'.events) (he : e.bindingId = b.bindingId)
    (hproofs : s'.proofs = s.proofs) (id : Token) :
    s'.recorded id = s.recorded id + if b.bindingId = id then 1 else 0 := by
  unfold UploadStore.recorded
  rw [Table.countP_insert? hevents, hproofs, he]
  simp only [decide_eq_true_eq]
  omega

theorem recorded_proved {b : PhotoBinding} (hevents : s'.events = s.events)
    (hproofs : s'.proofs = s.proofs ++ [⟨b.bindingId, b.verificationRevision⟩]) (id : Token) :
    s'.recorded id = s.recorded id + if b.bindingId = id then 1 else 0 := by
  unfold UploadStore.recorded
  rw [hevents, hproofs, List.countP_append, List.countP_singleton]
  simp only [decide_eq_true_eq]
  omega

/-- Nothing is recorded of a binding there is not. -/
theorem recorded_unbound (h : UploadSound s) {id : Token} (hnone : ∀ b ∈ s.bindings, b.bindingId ≠ id) :
    s.recorded id = 0 := by
  unfold UploadStore.recorded
  rw [List.countP_eq_zero.mpr, List.countP_eq_zero.mpr]
  · intro proof hproof
    obtain ⟨b, hb, hid⟩ := h.proofs proof hproof
    simp only [decide_eq_true_eq]
    intro heq
    exact hnone b hb (hid.trans heq)
  · intro e he
    obtain ⟨_, _, b, hb, _, hid, _⟩ := h.events e he
    simp only [decide_eq_true_eq]
    intro heq
    exact hnone b hb (hid.trans heq)

/-- A verification raises the count and the revision together. -/
theorem revisions_verified (h : UploadSound s) {photoId : Token} {b : PhotoBinding}
    (hverified : PhotoVerified s.bindings s'.bindings photoId b)
    (hrecorded : ∀ id, s'.recorded id = s.recorded id + if b.bindingId = id then 1 else 0) :
    ∀ row ∈ s'.bindings, row.verificationRevision = s'.recorded row.bindingId := by
  intro row hrow
  rw [hrecorded]
  rcases (hverified.mem row).mp hrow with ⟨hold, hother⟩ | rfl
  · rcases hverified.kept h.once hold with ⟨_, hid⟩ | ⟨_, hphoto, _⟩
    · rw [if_neg (Ne.symm hid), h.revisions row hold, Nat.add_zero]
    · exact absurd (hphoto.trans hverified.photo) hother
  · rw [if_pos rfl]
    rcases hverified.counted with ⟨hnew, hone⟩ | ⟨old, hold, _, hid, hrevision⟩
    · rw [hone, h.recorded_unbound fun b hb => (hnew b hb).2]
    · rw [hrevision, h.revisions old hold, hid]

/-- The bindings that a verification keeps or replaces. -/
theorem binding_stays {photoId : Token} {b : PhotoBinding} (h : UploadSound s)
    (hverified : PhotoVerified s.bindings s'.bindings photoId b) {row : PhotoBinding}
    (hrow : row ∈ s.bindings) :
    ∃ row' ∈ s'.bindings, row'.bindingId = row.bindingId ∧ row'.photoId = row.photoId := by
  rcases hverified.kept h.once hrow with ⟨hkept, _⟩ | ⟨hid, hphoto, _⟩
  · exact ⟨row, hkept, rfl, rfl⟩
  · exact ⟨b, hverified.added, hid.symm, hphoto.symm⟩

end UploadSound

/-- An authorization keeps its photo. -/
def AuthorizationsKept (s s' : UploadStore) : Prop :=
  ∀ a ∈ s.authorizations, ∃ a' ∈ s'.authorizations, a'.authorizationId = a.authorizationId ∧
    ∀ photoId ∈ a.photoId, a'.photoId = some photoId

namespace UploadChange

variable {s s' : UploadStore} {served : Option BindingOp}

theorem authorizationsKept (h : UploadChange s s' served) : AuthorizationsKept s s' := by
  intro a ha
  have hsame : s'.authorizations = s.authorizations → ∃ a' ∈ s'.authorizations,
      a'.authorizationId = a.authorizationId ∧ ∀ photoId ∈ a.photoId, a'.photoId = some photoId := by
    intro heq
    rw [heq]
    exact ⟨a, ha, rfl, fun _ hphoto => hphoto⟩
  cases h with
  | quiet h =>
      rcases h.authorizations with heq | ⟨new, _, hinsert⟩
      · exact hsame heq
      · exact ⟨a, (Table.mem_insert? hinsert).mpr (Or.inl ha), rfl, fun _ hphoto => hphoto⟩
  | bound c b e _ _ _ hauthorizations =>
      rw [hauthorizations]
      refine ⟨_, Table.mem_modify.mpr ⟨a, ha, rfl⟩, ?_, ?_⟩
      · split
        · rfl
        · rfl
      · intro photoId hphoto
        rw [Option.mem_def] at hphoto
        split
        · simp [hphoto]
        · exact hphoto
  | proved _ _ photoId b _ hauthorizations => exact hsame hauthorizations

theorem eventKnown_kept (hkept : AuthorizationsKept s s')
    (hstays : ∀ row ∈ s.bindings, ∃ row' ∈ s'.bindings,
      row'.bindingId = row.bindingId ∧ row'.photoId = row.photoId)
    {e : UploadBindingEvent} (he : s.eventKnown e) : s'.eventKnown e := by
  obtain ⟨a, ha, b, hb, haid, hbid, hphoto⟩ := he
  obtain ⟨a', ha', haid', hphoto'⟩ := hkept a ha
  obtain ⟨b', hb', hbid', hsame⟩ := hstays b hb
  refine ⟨a', ha', b', hb', haid'.trans haid, hbid'.trans hbid, ?_⟩
  rw [hsame]
  exact hphoto' b.photoId hphoto

theorem sound (hsound : UploadSound s) (h : UploadChange s s' served) : UploadSound s' := by
  have hkept := h.authorizationsKept
  cases h with
  | quiet h =>
      have hstays : ∀ row ∈ s.bindings, ∃ row' ∈ s'.bindings,
          row'.bindingId = row.bindingId ∧ row'.photoId = row.photoId := by
        intro row hrow
        rw [h.bindings]
        exact ⟨row, hrow, rfl, rfl⟩
      have hrecorded : ∀ id, s'.recorded id = s.recorded id := by
        intro id
        unfold UploadStore.recorded
        rw [h.events, h.proofs]
      constructor
      · rw [h.bindings]
        exact hsound.once
      · rw [h.events]
        exact fun e he => eventKnown_kept hkept hstays (hsound.events e he)
      · rw [h.events]
        intro a ha hphoto
        rcases h.authorizations with hsame | ⟨new, hnone, hinsert⟩
        · rw [hsame] at ha
          exact hsound.bound a ha hphoto
        · rcases (Table.mem_insert? hinsert).mp ha with hold | rfl
          · exact hsound.bound a hold hphoto
          · exact absurd hnone hphoto
      · rw [h.proofs, h.bindings]
        exact hsound.proofs
      · rw [h.bindings]
        intro b hb
        rw [hrecorded]
        exact hsound.revisions b hb
      · rw [h.resolutions, h.events]
        exact hsound.resolutions
  | bound c b e hpending ha hverified hauthorizations he hevents hproofs hresolutions =>
      have hstays := fun row (hrow : row ∈ s.bindings) => hsound.binding_stays hverified hrow
      obtain ⟨a, hfind, hphoto⟩ := ha
      obtain ⟨heid, heb⟩ := he
      constructor
      · exact hverified.once hsound.once
      · intro e' he'
        rcases (Table.mem_insert? hevents).mp he' with hold | rfl
        · exact eventKnown_kept hkept hstays (hsound.events e' hold)
        · have hbound : a.photoId.or (some c.photoId) = some b.photoId := by
            rw [hverified.photo]
            rcases hphoto with hnone | hsome
            · simp [hnone]
            · simp [hsome]
          refine ⟨{ a with photoId := a.photoId.or (some c.photoId) }, ?_, b, hverified.added, ?_,
            heb.symm, hbound⟩
          · rw [hauthorizations]
            refine Table.mem_modify.mpr ⟨a, Table.mem_of_find? hfind, ?_⟩
            rw [if_pos (Table.key_of_find? hfind)]
          · exact (Table.key_of_find? hfind).trans heid.symm
      · intro a' ha' hphoto'
        rw [hauthorizations] at ha'
        obtain ⟨old, hold, rfl⟩ := Table.mem_modify.mp ha'
        by_cases hid : old.authorizationId = c.authorizationId
        · rw [if_pos hid]
          exact ⟨e, (Table.mem_insert? hevents).mpr (Or.inr rfl), heid.trans hid.symm⟩
        · rw [if_neg hid] at hphoto' ⊢
          obtain ⟨e', he', hid'⟩ := hsound.bound old hold hphoto'
          exact ⟨e', (Table.mem_insert? hevents).mpr (Or.inl he'), hid'⟩
      · rw [hproofs]
        intro proof hproof
        obtain ⟨row, hrow, hid⟩ := hsound.proofs proof hproof
        obtain ⟨row', hrow', hid', _⟩ := hstays row hrow
        exact ⟨row', hrow', hid'.trans hid⟩
      · exact hsound.revisions_verified hverified (UploadSound.recorded_bound hevents heb hproofs)
      · intro r hr
        have hold : r ∈ s.resolutions → ∃ e ∈ s'.events, e.authorizationId = r.authorizationId := by
          intro hr
          obtain ⟨e', he', hid⟩ := hsound.resolutions r hr
          exact ⟨e', (Table.mem_insert? hevents).mpr (Or.inl he'), hid⟩
        rcases hresolutions with hsame | ⟨new, hnew, _, hinsert⟩
        · rw [hsame] at hr
          exact hold hr
        · rcases (Table.mem_insert? hinsert).mp hr with hr | rfl
          · exact hold hr
          · exact ⟨e, (Table.mem_insert? hevents).mpr (Or.inr rfl), heid.trans hnew.symm⟩
  | proved _ _ photoId b hverified hauthorizations hevents hproofs hresolutions =>
      have hstays := fun row (hrow : row ∈ s.bindings) => hsound.binding_stays hverified hrow
      constructor
      · exact hverified.once hsound.once
      · rw [hevents]
        exact fun e he => eventKnown_kept hkept hstays (hsound.events e he)
      · rw [hauthorizations, hevents]
        exact hsound.bound
      · rw [hproofs]
        intro proof hproof
        rcases List.mem_append.mp hproof with hold | hnew
        · obtain ⟨row, hrow, hid⟩ := hsound.proofs proof hold
          obtain ⟨row', hrow', hid', _⟩ := hstays row hrow
          exact ⟨row', hrow', hid'.trans hid⟩
        · cases List.mem_singleton.mp hnew
          exact ⟨b, hverified.added, rfl⟩
      · exact hsound.revisions_verified hverified (UploadSound.recorded_proved hevents hproofs)
      · rw [hresolutions, hevents]
        exact hsound.resolutions

/-- A binding keeps its revision, or gets the next one together with one record. -/
theorem rises (hsound : UploadSound s) (h : UploadChange s s' served) {b : PhotoBinding}
    (hb : b ∈ s.bindings) :
    ∃ b' ∈ s'.bindings, b'.bindingId = b.bindingId ∧ b'.photoId = b.photoId ∧
      (b'.verificationRevision = b.verificationRevision ∧
          s'.recorded b.bindingId = s.recorded b.bindingId ∨
        b'.verificationRevision = b.verificationRevision + 1 ∧
          s'.recorded b.bindingId = s.recorded b.bindingId + 1) := by
  have hsound' := h.sound hsound
  have hstays : ∃ b' ∈ s'.bindings, b'.bindingId = b.bindingId ∧ b'.photoId = b.photoId ∧
      (b'.verificationRevision = b.verificationRevision ∨
        b'.verificationRevision = b.verificationRevision + 1) := by
    cases h with
    | quiet h =>
        rw [h.bindings]
        exact ⟨b, hb, rfl, rfl, Or.inl rfl⟩
    | bound c new _ _ _ hverified =>
        rcases hverified.kept hsound.once hb with ⟨hkept, _⟩ | ⟨hid, hphoto, hrevision⟩
        · exact ⟨b, hkept, rfl, rfl, Or.inl rfl⟩
        · exact ⟨new, hverified.added, hid.symm, hphoto.symm, Or.inr hrevision⟩
    | proved _ _ photoId new hverified =>
        rcases hverified.kept hsound.once hb with ⟨hkept, _⟩ | ⟨hid, hphoto, hrevision⟩
        · exact ⟨b, hkept, rfl, rfl, Or.inl rfl⟩
        · exact ⟨new, hverified.added, hid.symm, hphoto.symm, Or.inr hrevision⟩
  obtain ⟨b', hb', hid, hphoto, hrevision⟩ := hstays
  have hcount := hsound.revisions b hb
  have hcount' := hsound'.revisions b' hb'
  rw [hid] at hcount'
  refine ⟨b', hb', hid, hphoto, ?_⟩
  rcases hrevision with hsame | hnext
  · exact Or.inl ⟨hsame, by omega⟩
  · exact Or.inr ⟨hnext, by omega⟩

/-- A new resolution comes with the new event of its authorization. -/
theorem resolved (h : UploadChange s s' served) {r : AmbiguityResolution} (hr : r ∈ s'.resolutions)
    (hnew : r ∉ s.resolutions) :
    ∃ c : UploadCommit, served = some (.commit c) ∧ c.resolution = true ∧
      c.authorizationId = r.authorizationId ∧
      (∃ e ∈ s'.events, e.authorizationId = r.authorizationId) ∧
      ∀ e ∈ s.events, e.authorizationId ≠ r.authorizationId := by
  cases h with
  | quiet h =>
      rw [h.resolutions] at hr
      exact absurd hr hnew
  | bound c b e hpending ha hverified hauthorizations he hevents hproofs hresolutions =>
      rcases hresolutions with hsame | ⟨added, hid, hrequested, hinsert⟩
      · rw [hsame] at hr
        exact absurd hr hnew
      · rcases (Table.mem_insert? hinsert).mp hr with hold | rfl
        · exact absurd hold hnew
        · refine ⟨c, rfl, hrequested, hid.symm, ?_⟩
          rw [hid]
          exact ⟨⟨e, (Table.mem_insert? hevents).mpr (Or.inr rfl), he.1⟩,
            Table.find?_eq_none.mp hpending⟩
  | proved _ _ _ _ _ _ _ _ hresolutions =>
      rw [hresolutions] at hr
      exact absurd hr hnew

/-- An event is never changed or taken away. -/
theorem eventsKept (h : UploadChange s s' served) {e : UploadBindingEvent} (he : e ∈ s.events) :
    e ∈ s'.events := by
  cases h with
  | quiet h =>
      rw [h.events]
      exact he
  | bound _ _ _ _ _ _ _ _ hevents => exact (Table.mem_insert? hevents).mpr (Or.inl he)
  | proved _ _ _ _ _ _ hevents =>
      rw [hevents]
      exact he

end UploadChange

theorem AuthorizationsKept.refl (s : UploadStore) : AuthorizationsKept s s :=
  fun a ha => ⟨a, ha, rfl, fun _ hphoto => hphoto⟩

theorem AuthorizationsKept.trans {s s' s'' : UploadStore} (h : AuthorizationsKept s s')
    (h' : AuthorizationsKept s' s'') : AuthorizationsKept s s'' := by
  intro a ha
  obtain ⟨a', ha', hid, hphoto⟩ := h a ha
  obtain ⟨a'', ha'', hid', hphoto'⟩ := h' a' ha'
  exact ⟨a'', ha'', hid'.trans hid, fun photoId hmem => hphoto' photoId (hphoto photoId hmem)⟩

/-! ## Runs -/

section Runs

variable {ι : Type}

abbrev BindingPool (ι : Type) := Pool UploadStore ι BindingOp.Answer

abbrev BindingMove (ι : Type) := Move (BindingPool ι) (Act ι BindingOp.Answer)

/-- A request that replays or that fails its guard leaves the store as it is. -/
theorem serveBinding_kept {s s' : UploadStore} (hsound : UploadSound s) {o : BindingOp}
    {answer : o.Answer} (h : serveBinding s o answer s') :
    (∀ c, o = .commit c → (¬ s.uploadGuard c ∨ s.events.find? c.authorizationId ≠ none) → s' = s) ∧
    ∀ auth grant photoId, o = .commitExisting auth grant photoId →
      ¬ s.existingGuard auth grant photoId → s' = s := by
  constructor
  · rintro c rfl hkept
    obtain ⟨bindingId, now, _, h⟩ := h
    rcases batchCommits_cases h with hsame | ⟨result, hcommit, _⟩
    · exact hsame
    · rcases hkept with hguard | hevent
      · exact absurd (commit_eq_some hcommit).1 hguard
      · obtain ⟨e, he⟩ := Option.ne_none_iff_exists'.mp hevent
        exact commit_replayed hsound he hcommit
  · rintro auth grant photoId rfl hguard
    obtain ⟨bindingId, now, hfresh, h⟩ := h
    rcases batchCommits_cases h with hsame | ⟨result, hcommit, _⟩
    · exact hsame
    · exact absurd (commitExisting_proved hsound hfresh hcommit).2 hguard

/-- What holds of every move of a run. -/
structure UploadMove (move : BindingMove ι) : Prop where
  sound : UploadSound move.src.store
  change : UploadChange move.src.store move.dst.store move.label.served
  kept : ∀ c, move.label.served = some (.commit c) →
    (¬ move.src.store.uploadGuard c ∨ move.src.store.events.find? c.authorizationId ≠ none) →
      move.dst.store = move.src.store
  keptExisting : ∀ auth grant photoId,
    move.label.served = some (.commitExisting auth grant photoId) →
      ¬ move.src.store.existingGuard auth grant photoId → move.dst.store = move.src.store

theorem uploadMove [DecidableEq ι] {p p' : BindingPool ι} {act : Act ι BindingOp.Answer}
    (hsound : UploadSound p.store) (hstep : PoolStep bindingMachine p act p') :
    UploadMove ⟨p, act, p'⟩ := by
  have hserved : ∀ (o : BindingOp) (answer : o.Answer) (store : UploadStore),
      act.served = some o → serveBinding p.store o answer store → p'.store = store →
        UploadMove ⟨p, act, p'⟩ := by
    rintro o answer store hact hserve rfl
    obtain ⟨hkept, hexisting⟩ := serveBinding_kept hsound hserve
    have hchange := serveBinding_changes hsound hserve
    rw [← hact] at hchange
    refine ⟨hsound, hchange, ?_, ?_⟩
    · intro c hc
      exact hkept c (Option.some.inj (hact.symm.trans hc))
    · intro auth grant photoId hc
      exact hexisting auth grant photoId (Option.some.inj (hact.symm.trans hc))
  have hquiet : UploadExternal p.store p'.store → act.served = none → UploadMove ⟨p, act, p'⟩ := by
    intro hexternal hact
    refine ⟨hsound, UploadChange.quiet hexternal, ?_, ?_⟩
    · intro c hc
      rw [hact] at hc
      cases hc
    · intro auth grant photoId hc
      rw [hact] at hc
      cases hc
  cases hstep with
  | external h => exact hquiet h rfl
  | start => exact hquiet (UploadExternal.refl _) rfl
  | perform hasks hserve => exact hserved _ _ _ rfl hserve rfl
  | lose => exact hquiet (UploadExternal.refl _) rfl
  | late hlate hserve => exact hserved _ _ _ rfl hserve rfl
  | crash => exact hquiet (UploadExternal.refl _) rfl

/-- What the tables record, over a run that ends in `p`. -/
structure UploadBindingLedger (trace : List (BindingMove ι)) (p : BindingPool ι) : Prop where
  events : ∀ e ∈ p.store.events, p.store.eventKnown e
  bound : ∀ a ∈ p.store.authorizations,
    a.photoId ≠ none ↔ ∃ e ∈ p.store.events, e.authorizationId = a.authorizationId
  once : ∀ e ∈ p.store.events, ∀ e' ∈ p.store.events, e.authorizationId = e'.authorizationId → e = e'
  photos : PhotosOnce p.store.bindings
  stays : ∀ move ∈ trace, AuthorizationsKept move.src.store p.store ∧
    ∀ e ∈ move.src.store.events, e ∈ p.store.events
  revisions : ∀ b ∈ p.store.bindings, b.verificationRevision = p.store.recorded b.bindingId
  rises : ∀ move ∈ trace, ∀ b ∈ move.src.store.bindings,
    ∃ b' ∈ move.dst.store.bindings, b'.bindingId = b.bindingId ∧ b'.photoId = b.photoId ∧
      (b'.verificationRevision = b.verificationRevision ∧
          move.dst.store.recorded b.bindingId = move.src.store.recorded b.bindingId ∨
        b'.verificationRevision = b.verificationRevision + 1 ∧
          move.dst.store.recorded b.bindingId = move.src.store.recorded b.bindingId + 1)
  resolutions : ∀ move ∈ trace, ∀ r ∈ move.dst.store.resolutions, r ∉ move.src.store.resolutions →
    ∃ c, move.label.served = some (.commit c) ∧ c.resolution = true ∧
      c.authorizationId = r.authorizationId ∧
      (∃ e ∈ move.dst.store.events, e.authorizationId = r.authorizationId) ∧
      ∀ e ∈ move.src.store.events, e.authorizationId ≠ r.authorizationId
  resolved : ∀ r ∈ p.store.resolutions, ∃ e ∈ p.store.events, e.authorizationId = r.authorizationId
  replayed : ∀ move ∈ trace, ∀ c, move.label.served = some (.commit c) →
    move.src.store.events.find? c.authorizationId ≠ none → move.dst.store = move.src.store
  refused : ∀ move ∈ trace,
    (∀ c, move.label.served = some (.commit c) → ¬ move.src.store.uploadGuard c →
      move.dst.store = move.src.store) ∧
    ∀ auth grant photoId, move.label.served = some (.commitExisting auth grant photoId) →
      ¬ move.src.store.existingGuard auth grant photoId → move.dst.store = move.src.store

/-- The tables before the first binding; there may be authorizations without a photo. -/
structure UnboundUploads (s : UploadStore) : Prop where
  bindings : s.bindings = .empty
  events : s.events = .empty
  resolutions : s.resolutions = .empty
  proofs : s.proofs = []
  authorizations : ∀ a ∈ s.authorizations, a.photoId = none

theorem UnboundUploads.sound {s : UploadStore} (h : UnboundUploads s) : UploadSound s := by
  constructor
  · intro b hb
    rw [h.bindings] at hb
    exact absurd hb (Table.not_mem_empty b)
  · intro e he
    rw [h.events] at he
    exact absurd he (Table.not_mem_empty e)
  · intro a ha hphoto
    exact absurd (h.authorizations a ha) hphoto
  · intro proof hproof
    rw [h.proofs] at hproof
    cases hproof
  · intro b hb
    rw [h.bindings] at hb
    exact absurd hb (Table.not_mem_empty b)
  · intro r hr
    rw [h.resolutions] at hr
    exact absurd hr (Table.not_mem_empty r)

/-- The invariant at the end of a run, and every move of it. -/
theorem uploadRun [DecidableEq ι] {start p : BindingPool ι} {trace : List (BindingMove ι)}
    (hstart : PoolInitial UnboundUploads start) (hrun : Run (PoolStep bindingMachine) start trace p) :
    UploadSound p.store ∧ ∀ move ∈ trace, UploadMove move ∧ AuthorizationsKept move.src.store p.store ∧
      ∀ e ∈ move.src.store.events, e ∈ p.store.events := by
  induction hrun with
  | nil =>
      refine ⟨hstart.store.sound, ?_⟩
      intro move hmove
      cases hmove
  | @snoc before after front act hrun hstep ih =>
      obtain ⟨hsound, hmoves⟩ := ih
      have hlast := uploadMove hsound hstep
      refine ⟨hlast.change.sound hsound, ?_⟩
      intro move hmove
      rcases List.mem_append.mp hmove with hearly | hnew
      · obtain ⟨hmove, hkept, hevents⟩ := hmoves move hearly
        exact ⟨hmove, hkept.trans hlast.change.authorizationsKept,
          fun e he => hlast.change.eventsKept (hevents e he)⟩
      · cases List.mem_singleton.mp hnew
        exact ⟨hlast, hlast.change.authorizationsKept, fun e he => hlast.change.eventsKept he⟩

theorem upload_binding_ledger [DecidableEq ι] {start p : BindingPool ι} {trace : List (BindingMove ι)}
    (hstart : PoolInitial UnboundUploads start)
    (hrun : Run (PoolStep bindingMachine) start trace p) : UploadBindingLedger trace p := by
  obtain ⟨hsound, hmoves⟩ := uploadRun hstart hrun
  constructor
  · exact hsound.events
  · intro a ha
    constructor
    · exact hsound.bound a ha
    · rintro ⟨e, he, hid⟩
      obtain ⟨a', ha', b, _, hid', _, hphoto⟩ := hsound.events e he
      rw [Table.eq_of_key_eq ha ha' (hid.symm.trans hid'.symm), hphoto]
      simp
  · intro e he e' he' hid
    exact Table.eq_of_key_eq he he' hid
  · exact hsound.once
  · intro move hmove
    exact (hmoves move hmove).2
  · exact hsound.revisions
  · intro move hmove b hb
    have h := (hmoves move hmove).1
    exact h.change.rises h.sound hb
  · intro move hmove r hr hnew
    exact (hmoves move hmove).1.change.resolved hr hnew
  · exact hsound.resolutions
  · intro move hmove c hc hevent
    exact (hmoves move hmove).1.kept c hc (Or.inr hevent)
  · intro move hmove
    have h := (hmoves move hmove).1
    constructor
    · intro c hc hguard
      exact h.kept c hc (Or.inl hguard)
    · exact h.keptExisting

end Runs

/-! ## A run -/

namespace UploadSample

def user : Token := ⟨"user-1", Eq.refl true⟩
def installation : Token := ⟨"installation-1", Eq.refl true⟩
def version : Token := ⟨"version-1", Eq.refl true⟩
def generation : Token := ⟨"generation-1", Eq.refl true⟩
def owner : String := "1@N01"
def auth : AdmissionAuth := ⟨installation, "digest-1"⟩
def photo : Token := ⟨"photo-1", Eq.refl true⟩
def first : Token := ⟨"authorization-1", Eq.refl true⟩
def second : Token := ⟨"authorization-2", Eq.refl true⟩
def drawn : Token := ⟨"binding-1", Eq.refl true⟩
def spare : Token := ⟨"binding-2", Eq.refl true⟩

/-- A linked user with one plugin and two authorizations. -/
def start : UploadStore where
  db :=
    { emptyDb with
      flickr :=
        { emptyDb.flickr with
          links := ⟨[⟨user, owner, 1, .linked⟩], by decide⟩
          credentials := ⟨[⟨user, generation, 1, owner, .write, none⟩], by decide⟩ }
      installations := ⟨[⟨installation, user, true, true, some version⟩], by decide⟩
      versions := ⟨[⟨version, installation, .current, "digest-1"⟩], by decide⟩ }
  installationRevision _ := 1
  authorizations :=
    ⟨[⟨first, installation, user, 0, none, none, none⟩,
      ⟨second, installation, user, 0, none, none, none⟩], by decide⟩
  events := .empty
  resolutions := .empty
  proofs := []
  audit := []

/-- The photo as Flickr shows it: public, and of the linked account. -/
def info : JsonValue :=
  .object
    [("stat", .text "ok"),
      ("photo", .object
        [("id", .text "photo-1"), ("owner", .object [("nsid", .text owner)]),
          ("visibility", .object [("ispublic", .number 1)])])]

def body : JsonValue := .object [("schemaVersion", .number 1), ("flickrPhotoId", .text "photo-1")]

def existingBody : JsonValue :=
  .object
    [("schemaVersion", .number 1), ("flickrPhotoId", .text "photo-1"),
      ("expectedLinkedFlickrRevision", .number 1)]

/-- The answer of a batch, and the store it leaves. -/
def settle (s : UploadStore) (batch : Option (UploadStore × Option BindingRow × Bool)) :
    Except BindingFault (Option BindingRow × Bool) × UploadStore :=
  match batch with
  | none => (.error .upstreamUnavailable, s)
  | some (after, result) => (.ok result, after)

theorem settle_commits {s s' : UploadStore}
    {batch : Option (UploadStore × Option BindingRow × Bool)}
    {answer : Except BindingFault (Option BindingRow × Bool)} (h : settle s batch = (answer, s')) :
    batchCommits s batch answer s' := by
  unfold settle at h
  unfold batchCommits
  split at h
  · cases h
    exact ⟨rfl, rfl⟩
  · cases h
    exact ⟨rfl, rfl⟩

/-- An id that no binding has. -/
def freshId (s : UploadStore) : Token := if s.bindings.find? drawn = none then drawn else spare

def oracle (s : UploadStore) : (o : BindingOp) → Option (o.Answer × UploadStore)
  | .credential auth => some (.ok (s.credential auth), s)
  | .authorization auth userId authorizationId =>
      some (.ok (s.authorization auth userId authorizationId), s)
  | .linkedGrant auth => some (.ok (FlickrGroupAddr.linkedGrant s.db auth), s)
  | .retained authorizationId revision => some (.ok (s.retained authorizationId revision), s)
  | .grantSecret => some (.ok generation, s)
  | .photoInfo _ => some (.ok info, s)
  | .rejectGrant .. => some ((), s)
  | .commit c =>
      if s.bindings.find? (freshId s) = none then some (settle s (s.commit c (freshId s) 7)) else none
  | .commitExisting auth grant photoId =>
      if s.bindings.find? (freshId s) = none then
        some (settle s (s.commitExisting auth grant photoId (freshId s) 7))
      else none

theorem oracle_serve (s : UploadStore) (o : BindingOp) (answer : o.Answer) (s' : UploadStore)
    (h : oracle s o = some (answer, s')) : bindingMachine.serve s o answer s' := by
  cases o with
  | credential auth =>
      cases h
      exact ⟨rfl, rfl⟩
  | authorization auth userId authorizationId =>
      cases h
      exact ⟨rfl, rfl⟩
  | linkedGrant auth =>
      cases h
      exact ⟨rfl, rfl⟩
  | retained authorizationId revision =>
      cases h
      exact ⟨rfl, rfl⟩
  | grantSecret =>
      cases h
      exact rfl
  | photoInfo photoId =>
      cases h
      exact rfl
  | rejectGrant auth grant =>
      cases h
      exact Or.inl rfl
  | commit c =>
      obtain ⟨hfresh, h⟩ := Option.ite_none_right_eq_some.mp h
      exact ⟨_, _, hfresh, settle_commits (Option.some.inj h)⟩
  | commitExisting auth grant photoId =>
      obtain ⟨hfresh, h⟩ := Option.ite_none_right_eq_some.mp h
      exact ⟨_, _, hfresh, settle_commits (Option.some.inj h)⟩

/-- An upload, its replay, the resolution of another authorization to the same photo, and a
proof of the photo. -/
def calls : List BindingCall :=
  [.upload auth first body false, .upload auth first body false, .upload auth second body true,
    .existing auth existingBody]

def pool : BindingPool Unit :=
  (Pool.idle start).playAll oracle () 20 (calls.map BindingCall.program)

end UploadSample

theorem upload_binding_ledger_sample :
    ∃ trace, Run (PoolStep bindingMachine) (Pool.idle UploadSample.start) trace UploadSample.pool ∧
      UploadBindingLedger trace UploadSample.pool ∧
      UploadSample.pool.store.bindings.rows.map PhotoBinding.verificationRevision = [3] ∧
      UploadSample.pool.store.events.rows.length = 2 ∧
      UploadSample.pool.store.resolutions.rows = [⟨UploadSample.second, false⟩] := by
  have hprograms : ∀ program ∈ UploadSample.calls.map BindingCall.program,
      bindingMachine.program program := by
    intro program hprogram
    obtain ⟨call, _, rfl⟩ := List.mem_map.mp hprogram
    exact ⟨call, rfl⟩
  obtain ⟨trace, hrun⟩ :=
    Pool.run_playAll UploadSample.oracle_serve () 20 hprograms (Pool.idle UploadSample.start)
  have hstart : UnboundUploads UploadSample.start := ⟨rfl, rfl, rfl, rfl, by decide⟩
  have hledger := upload_binding_ledger ⟨hstart, fun _ => rfl, rfl, rfl⟩ hrun
  have hfacts : UploadSample.pool.store.bindings.rows.map PhotoBinding.verificationRevision = [3] ∧
      UploadSample.pool.store.events.rows.length = 2 ∧
      UploadSample.pool.store.resolutions.rows = [⟨UploadSample.second, false⟩] := by decide +kernel
  exact ⟨trace, hrun, hledger, hfacts⟩

end FlickrGroupAddr

import FlickrGroupAddr.AlbumWrites
import FlickrGroupAddr.Lib.Ledger

/-!
# The album ledgers have no gap

`album_binding_events` and `album_obligation_events` are complete in every reachable
state: one event for each revision of a binding or an obligation, the last of them
showing the row as it is.
-/

namespace FlickrGroupAddr

set_option autoImplicit false

open KeyedTable Transition Ledger

namespace AlbumDb

/-! ## What an update of a row does -/

/-- What an update of a binding did. -/
theorem setBinding_eq_some {db db' : AlbumDb} {new : AlbumBinding}
    (h : db.setBinding new = some db') :
    (db.bindings.find? new.bindingId = none ∧ db' = db) ∨
    ∃ old, db.bindings.find? new.bindingId = some old ∧ db.BindingUpdateAllowed old new ∧
      ((new.bindingRevision = old.bindingRevision ∧
          db' = { db with bindings := db.bindings.set new }) ∨
        (new.bindingRevision ≠ old.bindingRevision ∧
          ∃ events, db.bindingEvents.insert?
              ⟨new.bindingId, new.bindingRevision, .bindingChanged, new.snapshot⟩ = some events ∧
            db' = { db with bindings := db.bindings.set new, bindingEvents := events })) := by
  unfold setBinding at h
  split at h
  · next hnone =>
      left
      cases h
      exact ⟨hnone, rfl⟩
  · next old hold =>
      right
      split at h
      · next hallowed =>
          refine ⟨old, hold, hallowed, ?_⟩
          split at h
          · next hsame =>
              left
              cases h
              exact ⟨hsame, rfl⟩
          · next hmoved =>
              right
              obtain ⟨events, hinsert, rfl⟩ := Option.map_eq_some_iff.mp h
              exact ⟨hmoved, events, hinsert, rfl⟩
      · cases h

/-- The row of the binding is the one that was set, and no other changed. -/
theorem find?_setBinding {db db' : AlbumDb} {old new : AlbumBinding}
    (hold : db.bindings.find? new.bindingId = some old) (h : db.setBinding new = some db')
    (bindingId : Token) :
    db'.bindings.find? bindingId =
      if bindingId = new.bindingId then some new else db.bindings.find? bindingId := by
  rcases setBinding_eq_some h with ⟨hnone, _⟩ | ⟨_, _, _, hmove⟩
  · cases hold.symm.trans hnone
  have hbindings : db'.bindings = db.bindings.set new := by
    rcases hmove with ⟨_, rfl⟩ | ⟨_, _, _, rfl⟩
    · rfl
    · rfl
  rw [hbindings, Table.find?_set]
  split
  · next hkey =>
      rw [hkey, hold]
      rfl
  · rfl

theorem find?_updateBindingRow {m : Moment} {db db' : AlbumDb} {old new : AlbumBinding}
    {bindingId : Token} (hold : db.bindings.find? bindingId = some old)
    (hkey : new.bindingId = bindingId) (h : updateBindingRow m db new = some db') :
    db'.bindings.find? bindingId = some new := by
  obtain ⟨middle, hset, hclose⟩ := Option.bind_eq_some_iff.mp h
  obtain ⟨titles, rfl⟩ := titlesOnly_closeTitleAttempts hclose
  subst hkey
  exact (find?_setBinding hold hset new.bindingId).trans (if_pos rfl)

/-- What an update of an obligation did. -/
theorem setObligation_eq_some {db db' : AlbumDb} {new : AlbumObligation}
    (h : db.setObligation new = some db') :
    (db.obligations.find? new.obligationId = none ∧ db' = db) ∨
    ∃ old events, db.obligations.find? new.obligationId = some old ∧
      db.ObligationUpdateAllowed old new ∧
      db.obligationEvents.insert? (obligationEvent new (obligationEventKind old new)) =
        some events ∧
      db' = { db with obligations := db.obligations.set new, obligationEvents := events } := by
  unfold setObligation at h
  split at h
  · next hnone =>
      left
      cases h
      exact ⟨hnone, rfl⟩
  · next old hold =>
      right
      split at h
      · next hallowed =>
          obtain ⟨events, hinsert, rfl⟩ := insertObligationEvent_eq_some h
          exact ⟨old, events, hold, hallowed, hinsert, rfl⟩
      · cases h

/-- An update that keeps the binding revision keeps what the events show. -/
theorem BindingUpdateAllowed.snapshot_eq {db : AlbumDb} {old new : AlbumBinding}
    (h : db.BindingUpdateAllowed old new) (hsame : new.bindingRevision = old.bindingRevision) :
    new.snapshot = old.snapshot := by
  obtain ⟨hrevision, _, _, htitle, _⟩ := h.revision
  have hdue : ¬ db.bindingRevisionDue old new := by
    intro hdue
    rw [if_pos hdue] at hrevision
    omega
  have htitleRevision : new.titleRevision = old.titleRevision := by
    by_contra hne
    exact hdue (Or.inl hne)
  have hphotoset : new.flickrPhotosetId = old.flickrPhotosetId := by
    by_contra hne
    exact hdue (Or.inr (Or.inl hne))
  have hstate : new.state = old.state := by
    by_contra hne
    exact hdue (Or.inr (Or.inr (Or.inl hne)))
  have hdesired : new.desiredTitle = old.desiredTitle := by
    by_contra hne
    exact htitle hne htitleRevision
  simp only [AlbumBinding.snapshot, htitleRevision, hphotoset, hstate, hdesired]

/-- An update that changes the binding revision raises it by one. -/
theorem BindingUpdateAllowed.revision_succ {db : AlbumDb} {old new : AlbumBinding}
    (h : db.BindingUpdateAllowed old new) (hmoved : new.bindingRevision ≠ old.bindingRevision) :
    new.bindingRevision = old.bindingRevision + 1 := by
  have hrevision := h.revision.1
  split at hrevision
  · exact hrevision
  · exact absurd hrevision hmoved

/-! ## The ledgers -/

/-- The events of a binding are complete, and the last one shows the row. -/
def bindingRecorded (db : AlbumDb) (b : AlbumBinding) : Prop :=
  Recorded AlbumBindingEvent.bindingId AlbumBindingEvent.bindingRevision AlbumBindingEvent.snapshot
    db.bindingEvents.rows b.bindingId b.bindingRevision b.snapshot

/-- The events of an obligation are complete, and the last one shows the row. -/
def obligationRecorded (db : AlbumDb) (o : AlbumObligation) : Prop :=
  Recorded AlbumObligationEvent.obligationId AlbumObligationEvent.obligationRevision
    AlbumObligationEvent.snapshot db.obligationEvents.rows o.obligationId o.obligationRevision
    o.snapshot

/-- Every binding is recorded, and no event is of another one. -/
structure BindingsRecorded (db : AlbumDb) : Prop where
  recorded : ∀ b ∈ db.bindings, db.bindingRecorded b
  known : ∀ e ∈ db.bindingEvents, ∃ b ∈ db.bindings, b.bindingId = e.bindingId

/-- Every obligation is recorded, and no event is of another one. -/
structure ObligationsRecorded (db : AlbumDb) : Prop where
  recorded : ∀ o ∈ db.obligations, db.obligationRecorded o
  known : ∀ e ∈ db.obligationEvents, ∃ o ∈ db.obligations, o.obligationId = e.obligationId

/-! ### Bindings -/

theorem bindingsRecorded_of_eq {db db' : AlbumDb} (h : db.BindingsRecorded)
    (hbindings : db'.bindings = db.bindings) (hevents : db'.bindingEvents = db.bindingEvents) :
    db'.BindingsRecorded := by
  constructor
  · intro b hb
    rw [hbindings] at hb
    unfold bindingRecorded
    rw [hevents]
    exact h.recorded b hb
  · intro e he
    rw [hevents] at he
    rw [hbindings]
    exact h.known e he

theorem bindingsRecorded_setBinding {db db' : AlbumDb} {new : AlbumBinding}
    (h : db.BindingsRecorded) (hset : db.setBinding new = some db') : db'.BindingsRecorded := by
  rcases setBinding_eq_some hset with ⟨_, rfl⟩ | ⟨old, hold, hallowed, hmove⟩
  · exact h
  have hmem : old ∈ db.bindings := Table.mem_of_find? hold
  have hkey : old.bindingId = new.bindingId := Table.key_of_find? hold
  have hknown : ∀ bindingId, (∃ b ∈ db.bindings, b.bindingId = bindingId) →
      ∃ b ∈ db.bindings.set new, b.bindingId = bindingId := by
    rintro bindingId ⟨b, hb, rfl⟩
    by_cases hsame : b.bindingId = new.bindingId
    · exact ⟨new, Table.mem_set_self hb hsame, hsame.symm⟩
    · exact ⟨b, Table.mem_set_of_ne hb hsame, rfl⟩
  rcases hmove with ⟨hsame, rfl⟩ | ⟨hmoved, events, hinsert, rfl⟩
  · constructor
    · intro b hb
      rcases Table.mem_set_cases hb with rfl | ⟨hb, _⟩
      · have hrecorded := h.recorded old hmem
        unfold bindingRecorded at hrecorded ⊢
        rw [hsame, hallowed.snapshot_eq hsame, ← hkey]
        exact hrecorded
      · exact h.recorded b hb
    · intro e he
      exact hknown _ (h.known e he)
  · have hrows := (Table.insert?_eq_some hinsert).2
    constructor
    · intro b hb
      unfold bindingRecorded
      rw [hrows]
      rcases Table.mem_set_cases hb with rfl | ⟨hb, hne⟩
      · have hrecorded := h.recorded old hmem
        unfold bindingRecorded at hrecorded
        rw [hkey] at hrecorded
        exact hrecorded.append rfl rfl (hallowed.revision_succ hmoved) rfl
      · exact (h.recorded b hb).other (Ne.symm hne)
    · intro e he
      rcases (Table.mem_insert? hinsert).mp he with hold' | rfl
      · exact hknown _ (h.known e hold')
      · exact ⟨new, Table.mem_set_self hmem hkey, rfl⟩

/-- The creation event starts the ledger of a new binding. -/
theorem bindingsRecorded_created {db : AlbumDb} {m : Moment} {b : AlbumBinding}
    {bindings : Table AlbumBinding.bindingId} {events : Table AlbumBindingEvent.key}
    (h : db.BindingsRecorded) (hadmissible : bindingAdmissible m db b)
    (hrow : db.bindings.insert? b = some bindings)
    (hevent : db.bindingEvents.insert? (creationEvent b) = some events) :
    ({ db with bindings := bindings, bindingEvents := events } : AlbumDb).BindingsRecorded := by
  have hfresh := Table.find?_eq_none.mp (Table.insert?_eq_some hrow).1
  have hrows := (Table.insert?_eq_some hevent).2
  have hrevision : b.bindingRevision = 1 := hadmissible.1.1
  constructor
  · intro other hother
    unfold bindingRecorded
    simp only [hrows]
    rcases (Table.mem_insert? hrow).mp hother with hold | rfl
    · exact (h.recorded other hold).other (Ne.symm (hfresh other hold))
    · refine Recorded.start ?_ rfl rfl hrevision rfl
      intro e he heq
      obtain ⟨known, hmem, hkey⟩ := h.known e he
      exact hfresh known hmem (hkey.trans heq)
  · intro e he
    rcases (Table.mem_insert? hevent).mp he with hold | rfl
    · obtain ⟨known, hmem, hkey⟩ := h.known e hold
      exact ⟨known, (Table.mem_insert? hrow).mpr (Or.inl hmem), hkey⟩
    · exact ⟨b, (Table.mem_insert? hrow).mpr (Or.inr rfl), rfl⟩

/-! ### Obligations -/

theorem obligationsRecorded_of_eq {db db' : AlbumDb} (h : db.ObligationsRecorded)
    (hobligations : db'.obligations = db.obligations)
    (hevents : db'.obligationEvents = db.obligationEvents) : db'.ObligationsRecorded := by
  constructor
  · intro o ho
    rw [hobligations] at ho
    unfold obligationRecorded
    rw [hevents]
    exact h.recorded o ho
  · intro e he
    rw [hevents] at he
    rw [hobligations]
    exact h.known e he

theorem obligationsRecorded_setObligation {db db' : AlbumDb} {new : AlbumObligation}
    (h : db.ObligationsRecorded) (hset : db.setObligation new = some db') :
    db'.ObligationsRecorded := by
  rcases setObligation_eq_some hset with ⟨_, rfl⟩ | ⟨old, events, hold, hallowed, hinsert, rfl⟩
  · exact h
  have hmem : old ∈ db.obligations := Table.mem_of_find? hold
  have hkey : old.obligationId = new.obligationId := Table.key_of_find? hold
  have hrows := (Table.insert?_eq_some hinsert).2
  have hrevision := hallowed.revision.1
  constructor
  · intro o ho
    unfold obligationRecorded
    rw [hrows]
    rcases Table.mem_set_cases ho with rfl | ⟨ho, hne⟩
    · have hrecorded := h.recorded old hmem
      unfold obligationRecorded at hrecorded
      rw [hkey] at hrecorded
      exact hrecorded.append rfl rfl hrevision rfl
    · exact (h.recorded o ho).other (Ne.symm hne)
  · intro e he
    rcases (Table.mem_insert? hinsert).mp he with hold' | rfl
    · obtain ⟨known, hknown, hsame⟩ := h.known e hold'
      by_cases heq : known.obligationId = new.obligationId
      · exact ⟨new, Table.mem_set_self hknown heq, heq.symm.trans hsame⟩
      · exact ⟨known, Table.mem_set_of_ne hknown heq, hsame⟩
    · exact ⟨new, Table.mem_set_self hmem hkey, rfl⟩

/-- The admission event starts the ledger of a new obligation. -/
theorem obligationsRecorded_admitted {db : AlbumDb} {o : AlbumObligation}
    {obligations : Table AlbumObligation.obligationId} {events : Table AlbumObligationEvent.key}
    (h : db.ObligationsRecorded) (hrevision : o.obligationRevision = 1)
    (hrow : db.obligations.insert? o = some obligations)
    (hevent : db.obligationEvents.insert? (admissionEvent o) = some events) :
    ({ db with obligations := obligations, obligationEvents := events } :
      AlbumDb).ObligationsRecorded := by
  have hfresh := Table.find?_eq_none.mp (Table.insert?_eq_some hrow).1
  have hrows := (Table.insert?_eq_some hevent).2
  constructor
  · intro other hother
    unfold obligationRecorded
    simp only [hrows]
    rcases (Table.mem_insert? hrow).mp hother with hold | rfl
    · exact (h.recorded other hold).other (Ne.symm (hfresh other hold))
    · refine Recorded.start ?_ rfl rfl hrevision rfl
      intro e he heq
      obtain ⟨known, hmem, hkey⟩ := h.known e he
      exact hfresh known hmem (hkey.trans heq)
  · intro e he
    rcases (Table.mem_insert? hevent).mp he with hold | rfl
    · obtain ⟨known, hmem, hkey⟩ := h.known e hold
      exact ⟨known, (Table.mem_insert? hrow).mpr (Or.inl hmem), hkey⟩
    · exact ⟨o, (Table.mem_insert? hrow).mpr (Or.inr rfl), rfl⟩

/-! ### Every write -/

theorem bindingsRecorded_write {part : Option AlbumPart} {db db' : AlbumDb} (hwrite : AlbumWrite part db db')
    (h : db.BindingsRecorded) : db'.BindingsRecorded := by
  cases hwrite with
  | binding new hset => exact bindingsRecorded_setBinding h hset
  | bindingCreated _ m b bindings events obligations obligationEvents hadmissible hrow hevent =>
      exact bindingsRecorded_of_eq (bindingsRecorded_created h hadmissible hrow hevent) rfl rfl
  | obligation new hset =>
      rcases setObligation_eq_some hset with ⟨_, rfl⟩ | ⟨_, _, _, _, _, rfl⟩
      · exact h
      · exact bindingsRecorded_of_eq h rfl rfl
  | titleAttempt m new _ hset =>
      obtain ⟨titles, rfl⟩ := titlesOnly_setTitleAttempt hset
      exact bindingsRecorded_of_eq h rfl rfl
  | _ => exact bindingsRecorded_of_eq h rfl rfl

theorem obligationsRecorded_write {part : Option AlbumPart} {db db' : AlbumDb} (hwrite : AlbumWrite part db db')
    (h : db.ObligationsRecorded) : db'.ObligationsRecorded := by
  cases hwrite with
  | binding new hset =>
      obtain ⟨bindings, events, titles, rfl⟩ := movedOnly_setBinding hset
      exact obligationsRecorded_of_eq h rfl rfl
  | bindingCreated _ m b bindings events obligations obligationEvents _ _ _ hrow hevent =>
      exact obligationsRecorded_of_eq (obligationsRecorded_admitted h rfl hrow hevent) rfl rfl
  | obligation new hset => exact obligationsRecorded_setObligation h hset
  | obligationAdmitted _ m o obligations events hadmissible _ hrow hevent =>
      exact obligationsRecorded_admitted h hadmissible.1.1 hrow hevent
  | titleAttempt m new _ hset =>
      obtain ⟨titles, rfl⟩ := titlesOnly_setTitleAttempt hset
      exact obligationsRecorded_of_eq h rfl rfl
  | _ => exact obligationsRecorded_of_eq h rfl rfl

theorem bindingsRecorded_empty : emptyAlbumDb.BindingsRecorded := by
  constructor
  · intro b hb
    exact absurd hb (Table.not_mem_empty b)
  · intro e he
    exact absurd he (Table.not_mem_empty e)

theorem obligationsRecorded_empty : emptyAlbumDb.ObligationsRecorded := by
  constructor
  · intro o ho
    exact absurd ho (Table.not_mem_empty o)
  · intro e he
    exact absurd he (Table.not_mem_empty e)

end AlbumDb

/-- The ledgers of every binding and of every obligation have no gap: one event for each
revision up to the current one, and the last event shows the row. -/
theorem album_ledgers_gap_free {db : AlbumDb} (h : Reachable AlbumStep AlbumInitial db) :
    (∀ b ∈ db.bindings, db.bindingRecorded b) ∧ ∀ o ∈ db.obligations, db.obligationRecorded o := by
  constructor
  · have hinv := album_invariant AlbumDb.bindingsRecorded_empty
      (fun _ _ _ => AlbumDb.bindingsRecorded_write) h
    exact hinv.recorded
  · have hinv := album_invariant AlbumDb.obligationsRecorded_empty
      (fun _ _ _ => AlbumDb.obligationsRecorded_write) h
    exact hinv.recorded

/-! ## A sample album -/

namespace AlbumSample

def user : Token := ⟨"user-1", Eq.refl true⟩
def service : Token := ⟨"service-1", Eq.refl true⟩
def collection : Token := ⟨"collection-1", Eq.refl true⟩
def installationId : Token := ⟨"installation-1", Eq.refl true⟩
def versionId : Token := ⟨"version-1", Eq.refl true⟩
def generation : Token := ⟨"generation-1", Eq.refl true⟩
def firstBinding : Token := ⟨"photo-binding-1", Eq.refl true⟩
def firstPhoto : Token := ⟨"photo-1", Eq.refl true⟩
def otherBinding : Token := ⟨"photo-binding-2", Eq.refl true⟩
def otherPhoto : Token := ⟨"photo-2", Eq.refl true⟩
def album : Token := ⟨"album-1", Eq.refl true⟩
def firstObligation : Token := ⟨"obligation-1", Eq.refl true⟩
def otherObligation : Token := ⟨"obligation-2", Eq.refl true⟩
def createAttempt : Token := ⟨"create-1", Eq.refl true⟩
def createLease : Token := ⟨"create-lease-1", Eq.refl true⟩
def owner : String := "owner-1"
def summer : Title := ⟨"Summer", by decide⟩
def autumn : Title := ⟨"Autumn", by decide⟩

/-- The owner is linked, both gates are open, and two photos are ready. -/
def world : AlbumWorld where
  flickr :=
    { links := ⟨[⟨user, owner, 1, .linked⟩], by decide⟩
      connections := ⟨[⟨user, .linked, .available, some (.write, 0), false, none⟩], by decide⟩
      credentials := ⟨[⟨user, generation, 1, owner, .write, none⟩], by decide⟩
      operations := .empty
      bindings :=
        ⟨[⟨firstBinding, user, firstPhoto, owner, 1, 1, .existingPublic, 0⟩,
          ⟨otherBinding, user, otherPhoto, owner, 1, 1, .existingPublic, 0⟩], by decide⟩
      gates := ⟨[⟨.deployment, true, 1⟩, ⟨.user user, true, 1⟩], by decide⟩
      gateEvents := []
      conformance := .empty }
  services := ⟨[⟨service, user, owner, 1⟩], by decide⟩
  existingPublicEvents := [(firstBinding, 1), (otherBinding, 1)]
  uploadEvents := []
  installations :=
    ⟨[⟨installationId, user, "Lightroom", true, 1, some versionId, none, 0, none, 0⟩], by decide⟩
  versions := ⟨[⟨versionId, installationId, "digest-1", .current, 1, none, 0⟩], by decide⟩
  sessions := .empty
  principals := .empty

def auth : AdmissionAuth := ⟨installationId, "digest-1"⟩

/-- A batch at one moment. -/
def at_ (now : Us) : BatchClock := ⟨now, now, now, now⟩

def ensure : AlbumMove :=
  ⟨world, .ensure (at_ 1) auth ⟨service, collection, summer, firstBinding, 1⟩ album firstObligation⟩

def associate : AlbumMove :=
  ⟨world, .associate (at_ 2) auth ⟨album, otherBinding, 1, 1⟩ otherObligation⟩

def retitle : AlbumMove := ⟨world, .titleIntent (at_ 3) auth ⟨album, 2, 2, 1, autumn⟩⟩

/-- The owner makes an album, adds a photo and renames it. -/
def calls : List AlbumMove := [ensure, associate, retitle]

/-- The claim of the first create attempt of the renamed album. -/
def createClaim : AlbumMaterializationClaim where
  attemptId := createAttempt
  bindingId := album
  leaseId := createLease
  epoch := 1
  userId := user
  ownerNsid := owner
  photoBindingId := firstBinding
  photoId := firstPhoto
  linkRevision := 1
  grantGeneration := generation
  desiredTitle := autumn
  titleRevision := 2
  deploymentGateRevision := 1
  userGateRevision := 1

/-- A worker then claims the create of the album and marks it. -/
def created : List AlbumMove :=
  [⟨world, .claimCreate ⟨5, 5, 5⟩ album createAttempt createLease⟩,
    ⟨world, .markCreate 6 createClaim []⟩]

end AlbumSample

/-- The album of the sample is at its third revision, with as many events. -/
theorem album_ledgers_gap_free_sample : ∃ db, Reachable AlbumStep AlbumInitial db ∧
    (∃ b ∈ db.bindings, b.bindingRevision = 3 ∧ db.bindingRecorded b) ∧
    ∀ o ∈ db.obligations, db.obligationRecorded o := by
  have hsome : (execAll AlbumMove.exec emptyAlbumDb AlbumSample.calls).isSome = true := by
    decide +kernel
  obtain ⟨db, hdb⟩ := Option.isSome_iff_exists.mp hsome
  have hfacts : ∀ db ∈ execAll AlbumMove.exec emptyAlbumDb AlbumSample.calls,
      ∃ b ∈ db.bindings, b.bindingRevision = 3 := by
    decide +kernel
  have hreachable := reachable_of_execAll hdb
  obtain ⟨hbindings, hobligations⟩ := album_ledgers_gap_free hreachable
  obtain ⟨b, hb, hrevision⟩ := hfacts db hdb
  exact ⟨db, hreachable, ⟨b, hb, hrevision, hbindings b hb⟩, hobligations⟩

end FlickrGroupAddr

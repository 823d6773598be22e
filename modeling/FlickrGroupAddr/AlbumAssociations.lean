import FlickrGroupAddr.AlbumRemovals

/-!
# Albums of collections and photos of albums

The first ensure call of a collection makes its album, with its first obligation; every
later one finds it.  An association makes the obligation of a photo and moves the album by
one revision; every later one for the same photo finds it.
-/

namespace FlickrGroupAddr

set_option autoImplicit false

open KeyedTable Transition Relation

/-- The service and the local collection of an album. -/
def AlbumIdentity.collection (identity : AlbumIdentity) : Token × Token :=
  (identity.serviceId, identity.localCollectionId)

def AlbumEnsureRequest.collection (request : AlbumEnsureRequest) : Token × Token :=
  (request.serviceId, request.localId)

/-- The album and the photo of an obligation. -/
def ObligationIdentity.pair (identity : ObligationIdentity) : Token × Token :=
  (identity.albumBindingId, identity.photoBindingId)

def AlbumAssociateRequest.pair (request : AlbumAssociateRequest) : Token × Token :=
  (request.bindingId, request.photoBindingId)

/-- The rest of the database keeps the user of every service and the photo of every photo
binding. -/
structure AlbumWorld.Retains (userOf photoOf : Token → Token) (w : AlbumWorld) : Prop where
  services : ∀ s ∈ w.services, s.userId = userOf s.serviceId
  photos : ∀ p ∈ w.flickr.bindings, p.photoId = photoOf p.bindingId

/-! ## Calls that make no album and no obligation -/

/-- Every album of the later state was there, under the same identity. -/
def AlbumsFrom (db db' : AlbumDb) : Prop :=
  ∀ b' ∈ db'.bindings, ∃ b ∈ db.bindings, b.identity = b'.identity

/-- Every obligation of the later state was there, under the same identity. -/
def ObligationsFrom (db db' : AlbumDb) : Prop :=
  ∀ o' ∈ db'.obligations, ∃ o ∈ db.obligations, o.identity = o'.identity

instance : IsPreorder AlbumDb AlbumsFrom where
  refl _ b' hb' := ⟨b', hb', rfl⟩
  trans _ _ _ hfirst hlast b' hb' := by
    obtain ⟨middle, hmiddle, hlater⟩ := hlast b' hb'
    obtain ⟨b, hb, hsame⟩ := hfirst middle hmiddle
    exact ⟨b, hb, hsame.trans hlater⟩

instance : IsPreorder AlbumDb ObligationsFrom where
  refl _ o' ho' := ⟨o', ho', rfl⟩
  trans _ _ _ hfirst hlast o' ho' := by
    obtain ⟨middle, hmiddle, hlater⟩ := hlast o' ho'
    obtain ⟨o, ho, hsame⟩ := hfirst middle hmiddle
    exact ⟨o, ho, hsame.trans hlater⟩

theorem albumsFrom_setBinding {db db' : AlbumDb} {new : AlbumBinding}
    (h : db.setBinding new = some db') : AlbumsFrom db db' := by
  rcases AlbumDb.setBinding_eq_some h with ⟨_, rfl⟩ | ⟨old, hold, hallowed, hmove⟩
  · exact refl_of AlbumsFrom db'
  have hbindings : db'.bindings = db.bindings.set new := by
    rcases hmove with ⟨_, rfl⟩ | ⟨_, _, _, rfl⟩
    · rfl
    · rfl
  intro b' hb'
  rw [hbindings] at hb'
  rcases Table.mem_set_cases hb' with rfl | ⟨hmem, _⟩
  · exact ⟨old, Table.mem_of_find? hold, hallowed.identity.1.symm⟩
  · exact ⟨b', hmem, rfl⟩

theorem obligationsFrom_setObligation {db db' : AlbumDb} {new : AlbumObligation}
    (h : db.setObligation new = some db') : ObligationsFrom db db' := by
  rcases AlbumDb.setObligation_eq_some h with ⟨_, rfl⟩ | ⟨old, _, hold, hallowed, _, rfl⟩
  · exact refl_of ObligationsFrom db'
  intro o' ho'
  rcases Table.mem_set_cases ho' with rfl | ⟨hmem, _⟩
  · exact ⟨old, Table.mem_of_find? hold, hallowed.identity.symm⟩
  · exact ⟨o', hmem, rfl⟩

theorem AlbumWrite.albumsFrom {part : Option AlbumPart} {db db' : AlbumDb}
    (h : AlbumWrite part db db') (hother : part ≠ some .ensures) : AlbumsFrom db db' := by
  cases h with
  | binding new hset => exact albumsFrom_setBinding hset
  | bindingCreated hpart => exact absurd hpart hother
  | obligation new hset =>
      rcases AlbumDb.setObligation_eq_some hset with ⟨_, rfl⟩ | ⟨_, _, _, _, _, rfl⟩
      · exact refl_of AlbumsFrom db'
      · exact refl_of AlbumsFrom db
  | titleAttempt m new _ hset =>
      obtain ⟨titles, rfl⟩ := AlbumDb.titlesOnly_setTitleAttempt hset
      exact refl_of AlbumsFrom db
  | _ => exact refl_of AlbumsFrom db

theorem AlbumWrite.obligationsFrom {part : Option AlbumPart} {db db' : AlbumDb}
    (h : AlbumWrite part db db') (hensure : part ≠ some .ensures)
    (hassociate : part ≠ some .associations) : ObligationsFrom db db' := by
  cases h with
  | binding new hset =>
      obtain ⟨bindings, events, titles, rfl⟩ := AlbumDb.movedOnly_setBinding hset
      exact refl_of ObligationsFrom db
  | bindingCreated hpart => exact absurd hpart hensure
  | obligation new hset => exact obligationsFrom_setObligation hset
  | obligationAdmitted hpart => exact absurd hpart hassociate
  | titleAttempt m new _ hset =>
      obtain ⟨titles, rfl⟩ := AlbumDb.titlesOnly_setTitleAttempt hset
      exact refl_of ObligationsFrom db
  | _ => exact refl_of ObligationsFrom db

theorem AlbumWrites.albumsFrom {part : Option AlbumPart} {db db' : AlbumDb}
    (h : AlbumWrites part db db') (hother : part ≠ some .ensures) : AlbumsFrom db db' := by
  induction h with
  | refl => exact refl_of AlbumsFrom db
  | tail _ hlast ih => exact trans_of AlbumsFrom ih (hlast.albumsFrom hother)

theorem AlbumWrites.obligationsFrom {part : Option AlbumPart} {db db' : AlbumDb}
    (h : AlbumWrites part db db') (hensure : part ≠ some .ensures)
    (hassociate : part ≠ some .associations) : ObligationsFrom db db' := by
  induction h with
  | refl => exact refl_of ObligationsFrom db
  | tail _ hlast ih =>
      exact trans_of ObligationsFrom ih (hlast.obligationsFrom hensure hassociate)

/-! ## Revisions only rise -/

/-- Every album stays, at no lower revision. -/
abbrev AlbumsRise (db db' : AlbumDb) : Prop :=
  Table.Kept (fun b b' : AlbumBinding => b.bindingRevision ≤ b'.bindingRevision)
    db.bindings db'.bindings

instance : IsPreorder AlbumBinding fun b b' => b.bindingRevision ≤ b'.bindingRevision where
  refl b := Nat.le_refl b.bindingRevision
  trans _ _ _ := Nat.le_trans

instance : IsPreorder AlbumDb AlbumsRise where
  refl db := Table.Kept.same db.bindings
  trans _ _ _ := Table.Kept.trans

theorem AlbumWrite.albumsRise {part : Option AlbumPart} {db db' : AlbumDb}
    (h : AlbumWrite part db db') : AlbumsRise db db' := by
  cases h with
  | binding new hset =>
      rcases AlbumDb.setBinding_eq_some hset with ⟨_, rfl⟩ | ⟨old, hold, hallowed, hmove⟩
      · exact Table.Kept.same _
      have hrise : old.bindingRevision ≤ new.bindingRevision := by
        by_cases hsame : new.bindingRevision = old.bindingRevision
        · exact hsame.ge
        · have hnext := hallowed.revision_succ hsame
          omega
      rcases hmove with ⟨_, rfl⟩ | ⟨_, _, _, rfl⟩
      · exact Table.kept_set hold hrise
      · exact Table.kept_set hold hrise
  | bindingCreated _ m b bindings events obligations obligationEvents _ hrow =>
      exact Table.kept_insert? hrow
  | obligation new hset =>
      rcases AlbumDb.setObligation_eq_some hset with ⟨_, rfl⟩ | ⟨_, _, _, _, _, rfl⟩
      · exact Table.Kept.same _
      · exact Table.Kept.same _
  | titleAttempt m new _ hset =>
      obtain ⟨titles, rfl⟩ := AlbumDb.titlesOnly_setTitleAttempt hset
      exact Table.Kept.same _
  | _ => exact Table.Kept.same _

theorem AlbumStep.albumsRise {db db' : AlbumDb} {move : AlbumMove} (h : AlbumStep db move db') :
    AlbumsRise db db' :=
  AlbumWrites.relates (fun _ _ _ => AlbumWrite.albumsRise) h.writes

/-! ## What a guarded insert does -/

section Batches

variable {ρ α : Type} {db : AlbumDb} {insert : AlbumDb → ρ → Option AlbumDb} {row : Option ρ}
  {read : AlbumDb → Except AlbumError α}

theorem batchAnswer_changes :
    (batchAnswer db (insertSelected db insert row) read).1 = db ∨
    ∃ r, row = some r ∧
      insert db r = some (batchAnswer db (insertSelected db insert row) read).1 ∧
      (batchAnswer db (insertSelected db insert row) read).2 =
        read (batchAnswer db (insertSelected db insert row) read).1 := by
  cases row with
  | none =>
      left
      rfl
  | some r =>
      cases hinsert : insert db r with
      | none =>
          left
          simp only [insertSelected, hinsert, batchAnswer]
      | some db' =>
          right
          refine ⟨r, rfl, ?_⟩
          simp only [insertSelected, hinsert, batchAnswer, and_self]

theorem read_of_batchAnswer {answer : α}
    (h : (batchAnswer db (insertSelected db insert row) read).2 = .ok answer) :
    read (batchAnswer db (insertSelected db insert row) read).1 = .ok answer := by
  cases hwritten : insertSelected db insert row with
  | none =>
      rw [hwritten] at h
      cases h
  | some db' =>
      rw [hwritten] at h
      exact h

theorem batchAnswer_none :
    batchAnswer db (insertSelected db insert none) read = (db, read db) := rfl

end Batches

/-! ## Ensuring an album -/

/-- An ensure call made the album of its collection. -/
structure AlbumMade (w : AlbumWorld) (db db' : AlbumDb) (auth : AdmissionAuth)
    (request : AlbumEnsureRequest) (b : AlbumBinding) : Prop where
  user : w.installationUser auth = some b.identity.userId
  collection : b.identity.collection = request.collection
  candidate : b.identity.firstPhotoBindingId = request.photoBindingId
  service : ∃ s ∈ w.services.find? b.identity.serviceId, s.userId = b.identity.userId
  photo : ∃ p ∈ w.flickr.bindings.find? b.identity.firstPhotoBindingId,
    p.photoId = b.identity.firstPhotoId
  unbound : ∀ other ∈ db.bindings, ¬ (other.identity.userId = b.identity.userId ∧
    other.identity.serviceId = b.identity.serviceId ∧
    other.identity.localCollectionId = b.identity.localCollectionId)
  revision : b.bindingRevision = 1 ∧ ¬ b.archived
  bindings : db.bindings.insert? b = some db'.bindings
  obligations : db.obligations.insert? (firstObligationRow b) = some db'.obligations
  removals : db'.albumRemovals = db.albumRemovals

/-- The authority an ensure call needs: its installation, the service and the candidate photo
of one user, the grant of the service and a verified photo. -/
def ensureAuthorized (m : Moment) (auth : AdmissionAuth) (request : AlbumEnsureRequest) : Prop :=
  ∃ userId ∈ m.world.installationUser auth,
    ∃ s ∈ m.world.services.find? request.serviceId, s.userId = userId ∧
      (revisionInRange s.linkRevision ∧
        (m.world.grant userId s.ownerNsid s.linkRevision).isSome = true) ∧
      ∃ p ∈ m.world.flickr.bindings.find? request.photoBindingId, p.userId = userId ∧
        m.world.photoReady m.now p s.ownerNsid s.linkRevision

section Ensures

variable {w : AlbumWorld} {m : Moment} {clock : BatchClock} {db : AlbumDb} {auth : AdmissionAuth}
  {request : AlbumEnsureRequest} {bindingId obligationId : Token}

/-- What the context of an ensure call selects. -/
structure EnsureContext.Selected (m : Moment) (db : AlbumDb) (auth : AdmissionAuth)
    (request : AlbumEnsureRequest) (context : EnsureContext) : Prop where
  user : m.world.installationUser auth = some context.userId
  service : ∀ s, context.service = some s ↔
    m.world.services.find? request.serviceId = some s ∧ s.userId = context.userId
  linkReady : context.linkReady = true ↔ ∃ s, context.service = some s ∧
    revisionInRange s.linkRevision ∧
    (m.world.grant context.userId s.ownerNsid s.linkRevision).isSome = true
  photo : ∀ p, context.photo = some p ↔
    m.world.flickr.bindings.find? request.photoBindingId = some p ∧ p.userId = context.userId
  photoReady : context.photoReady = true ↔ ∃ s, context.service = some s ∧
    ∃ p, context.photo = some p ∧ m.world.photoReady m.now p s.ownerNsid s.linkRevision
  binding : context.binding = context.service.bind fun s =>
    db.bindingOf context.userId s.serviceId request.localId
  obligation : context.obligation = context.binding.bind db.firstObligation

theorem selected_of_ensureContext {context : EnsureContext}
    (h : ensureContext m db auth request = some context) :
    context.Selected m db auth request := by
  obtain ⟨userId, huser, rfl⟩ := Option.map_eq_some_iff.mp h
  constructor
  · exact huser
  · intro s
    simp [Option.filter_eq_some_iff]
  · simp only [decide_eq_true_eq, Option.mem_def]
  · intro p
    simp [Option.filter_eq_some_iff]
  · simp only [decide_eq_true_eq, Option.mem_def]
  · rfl
  · rfl

/-- A call that passes the checks has its authority, and any album of its collection was
found. -/
theorem ensure_of_noError {context : EnsureContext} (h : context.Selected m db auth request)
    (herror : ensureError request context = none) :
    ensureAuthorized m auth request ∧
    (∃ s, m.world.services.find? request.serviceId = some s ∧ s.userId = context.userId) ∧
    context.binding = db.bindingOf context.userId request.serviceId request.localId := by
  unfold ensureError at herror
  split at herror
  · cases herror
  split at herror
  · cases herror
  next hlink =>
  split at herror
  · cases herror
  next hphoto =>
  obtain ⟨s, hs, hready⟩ := h.linkReady.mp (by simpa using hlink)
  obtain ⟨s', hs', p, hp, hverified⟩ := h.photoReady.mp (by simpa using hphoto)
  cases hs.symm.trans hs'
  obtain ⟨hservice, howner⟩ := (h.service s).mp hs
  obtain ⟨hfound, hmine⟩ := (h.photo p).mp hp
  have hid : s.serviceId = request.serviceId := Table.key_of_find? hservice
  refine ⟨⟨context.userId, h.user, s, hservice, howner, hready, p, hfound, hmine, hverified⟩,
    ⟨s, hservice, howner⟩, ?_⟩
  rw [h.binding, hs, Option.bind_some, hid]

theorem ensureRow_eq_some {context : EnsureContext} {b : AlbumBinding}
    (hselected : context.Selected m db auth request)
    (h : ensureRow request bindingId obligationId context = some b) :
    ensureError request context = none ∧ context.binding = none ∧
    b.bindingId = bindingId ∧ b.identity.firstObligationId = obligationId ∧
    b.identity.userId = context.userId ∧ b.identity.collection = request.collection ∧
    ∃ p, m.world.flickr.bindings.find? request.photoBindingId = some p ∧
      p.verificationRevision = request.expectedVerificationRevision ∧
      b.identity.firstPhotoBindingId = p.bindingId ∧ b.identity.firstPhotoId = p.photoId := by
  unfold ensureRow at h
  split at h
  swap
  · cases h
  next s p hs hp =>
  split at h
  swap
  · cases h
  next hguard =>
  obtain ⟨hunbound, hpassed⟩ := hguard
  cases h
  obtain ⟨hservice, _⟩ := (hselected.service s).mp hs
  obtain ⟨hfound, _⟩ := (hselected.photo p).mp hp
  have hid : s.serviceId = request.serviceId := Table.key_of_find? hservice
  refine ⟨hpassed, hunbound, rfl, rfl, rfl, ?_, p, hfound, ?_, rfl, rfl⟩
  · simp only [AlbumIdentity.collection, AlbumEnsureRequest.collection, hid]
  · by_contra hne
    unfold ensureError at hpassed
    simp only [hs, hp, hunbound, hne, reduceCtorEq, Option.mem_def, Option.some.injEq, ne_eq,
      false_or, false_and, exists_false, exists_eq_left', not_false_eq_true, and_self, if_false,
      if_true] at hpassed
    split_ifs at hpassed

/-- An ensure call makes the album of its collection, or it changes nothing. -/
theorem ensureAlbumBinding_changes :
    (ensureAlbumBinding w clock db auth request bindingId obligationId).1 = db ∨
    ∃ b, AlbumMade w db (ensureAlbumBinding w clock db auth request bindingId obligationId).1
        auth request b ∧ b.bindingId = bindingId ∧
      ensureAuthorized ⟨w, clock.insert⟩ auth request ∧
      (∃ p, w.flickr.bindings.find? request.photoBindingId = some p ∧
        p.verificationRevision = request.expectedVerificationRevision) ∧
      (ensureAlbumBinding w clock db auth request bindingId obligationId).2 =
        ensureRead ⟨w, clock.decision⟩ auth request bindingId
          (ensureAlbumBinding w clock db auth request bindingId obligationId).1 := by
  unfold ensureAlbumBinding
  split
  swap
  · exact Or.inl rfl
  rcases @batchAnswer_changes _ _ db (AlbumDb.insertBinding ⟨w, clock.insert⟩)
      ((ensureContext ⟨w, clock.insert⟩ db auth request).bind
        (ensureRow request bindingId obligationId))
      (ensureRead ⟨w, clock.decision⟩ auth request bindingId) with
    hsame | ⟨b, hrow, hinsert, hread⟩
  · exact Or.inl hsame
  right
  obtain ⟨context, hcontext, hrow⟩ := Option.bind_eq_some_iff.mp hrow
  have hselected := selected_of_ensureContext hcontext
  obtain ⟨hpassed, hunbound, hid, _, huser, hcollection, p, hp, hverified, hphoto, hphotoId⟩ :=
    ensureRow_eq_some hselected hrow
  obtain ⟨hauthorized, _⟩ := ensure_of_noError hselected hpassed
  obtain ⟨bindings, events, obligations, obligationEvents, hadmissible, hinserted, _, hfirst, _,
    hafter⟩ := AlbumDb.insertBinding_eq_some hinsert
  obtain ⟨hnew, _, ⟨s, hs, hsowner, _⟩, _, hfree⟩ := hadmissible
  refine ⟨b, ?_, hid, hauthorized, ⟨p, hp, hverified⟩, hread⟩
  rw [hafter]
  have hfound : w.flickr.bindings.find? b.identity.firstPhotoBindingId = some p := by
    rw [hphoto, ← Table.key_of_find? hp] at *
    exact hp
  exact
    { user := huser ▸ hselected.user
      collection := hcollection
      candidate := hphoto.trans (Table.key_of_find? hp)
      service := ⟨s, hs, hsowner⟩
      photo := ⟨p, hfound, hphotoId.symm⟩
      unbound := fun other hother => (hfree other hother).2
      revision := ⟨hnew.1, hnew.2.2.2⟩
      bindings := hinserted
      obligations := hfirst
      removals := rfl }

/-- The read of an ensure call that has its authority, once its collection has an album with
that first photo. -/
theorem ensureRead_of_bound {b : AlbumBinding} {o : AlbumObligation} {userId : Token}
    (hauthorized : ensureAuthorized m auth request)
    (huser : m.world.installationUser auth = some userId)
    (hb : db.bindingOf userId request.serviceId request.localId = some b)
    (hphoto : b.identity.firstPhotoBindingId = request.photoBindingId)
    (ho : db.firstObligation b = some o) :
    ensureRead m auth request bindingId db = .ok ⟨decide (b.bindingId = bindingId), b, o⟩ := by
  obtain ⟨_, hsame, s, hs, howner, hlink, p, hp, hmine, hready⟩ := hauthorized
  cases hsame.symm.trans huser
  unfold ensureRead
  cases hcontext : ensureContext m db auth request with
  | none =>
      unfold ensureContext at hcontext
      rw [huser] at hcontext
      cases hcontext
  | some context =>
      have h := selected_of_ensureContext hcontext
      have hcontextUser : context.userId = userId := Option.some.inj (h.user.symm.trans huser)
      have hservice : context.service = some s := (h.service s).mpr ⟨hs, howner.trans hcontextUser.symm⟩
      have hfound : context.photo = some p := (h.photo p).mpr ⟨hp, hmine.trans hcontextUser.symm⟩
      have hlinked : context.linkReady = true :=
        h.linkReady.mpr ⟨s, hservice, hlink.1, hcontextUser ▸ hlink.2⟩
      have hverified : context.photoReady = true := h.photoReady.mpr ⟨s, hservice, p, hfound, hready⟩
      have hid : s.serviceId = request.serviceId := Table.key_of_find? hs
      have hbinding : context.binding = some b := by
        rw [h.binding, hservice, Option.bind_some, hid, hcontextUser, hb]
      have hobligation : context.obligation = some o := by
        rw [h.obligation, hbinding, Option.bind_some, ho]
      have hpassed : ensureError request context = none := by
        unfold ensureError
        simp [hservice, hfound, hlinked, hverified, hbinding, hobligation, hphoto]
      simp only [hpassed, hbinding, hobligation, orError]

/-- What an ensure call is answered with is the album of its collection. -/
theorem ensureAlbumBinding_answer {answer : ObligationAnswer}
    (h : (ensureAlbumBinding w clock db auth request bindingId obligationId).2 = .ok answer) :
    ensureAuthorized ⟨w, clock.decision⟩ auth request ∧
    ∃ userId s, w.installationUser auth = some userId ∧
      w.services.find? request.serviceId = some s ∧ s.userId = userId ∧
      (ensureAlbumBinding w clock db auth request bindingId obligationId).1.bindingOf userId
        request.serviceId request.localId = some answer.binding ∧
      (ensureAlbumBinding w clock db auth request bindingId obligationId).1.firstObligation
        answer.binding = some answer.obligation ∧
      answer.created = decide (answer.binding.bindingId = bindingId) := by
  unfold ensureAlbumBinding at h ⊢
  split at h
  swap
  · cases h
  next hvalid =>
  rw [if_pos hvalid]
  have hread := read_of_batchAnswer h
  generalize (batchAnswer db _ _ : Answer ObligationAnswer).1 = db' at hread
  unfold ensureRead at hread
  split at hread
  · cases hread
  next context hcontext =>
  have hselected := selected_of_ensureContext hcontext
  cases hpassed : ensureError request context with
  | some error =>
      rw [hpassed] at hread
      cases hread
  | none =>
      rw [hpassed] at hread
      obtain ⟨hauthorized, ⟨s, hs, howner⟩, hfound⟩ := ensure_of_noError hselected hpassed
      simp only [orError] at hread
      split at hread
      · next b o hb ho =>
          cases hread
          refine ⟨hauthorized, context.userId, s, hselected.user, hs, howner, ?_, ?_, rfl⟩
          · rw [← hfound, hb]
          · rw [hselected.obligation, hb] at ho
            exact ho
      · cases hread

/-- The call that made the album reports it, unless its clock ran back. -/
theorem ensureRead_of_made {db' : AlbumDb} {b : AlbumBinding} {before after : Us}
    (hmade : AlbumMade w db db' auth request b)
    (hauthorized : ensureAuthorized ⟨w, before⟩ auth request) (hclock : before ≤ after) :
    ensureRead ⟨w, after⟩ auth request b.bindingId db' = .ok ⟨true, b, firstObligationRow b⟩ := by
  have hlater : ensureAuthorized ⟨w, after⟩ auth request := by
    obtain ⟨userId, huser, s, hs, howner, hlink, p, hp, hmine, hready⟩ := hauthorized
    obtain ⟨howned, hnonzero, hrange, ⟨hpositive, hverified⟩, hevent⟩ := hready
    exact ⟨userId, huser, s, hs, howner, hlink, p, hp, hmine, howned, hnonzero, hrange,
      ⟨hpositive, hverified.trans hclock⟩, hevent⟩
  have hcollection := hmade.collection
  have hb : db'.bindingOf b.identity.userId request.serviceId request.localId = some b := by
    obtain ⟨hservice, hlocal⟩ := Prod.mk.inj hcollection
    have hnone : db.bindings.rows.find? (fun other => decide
        (other.identity.userId = b.identity.userId ∧
          other.identity.serviceId = request.serviceId ∧
          other.identity.localCollectionId = request.localId)) = none := by
      rw [List.find?_eq_none]
      intro other hother
      rw [← hservice, ← hlocal]
      simpa using hmade.unbound other hother
    unfold AlbumDb.bindingOf
    rw [(Table.insert?_eq_some hmade.bindings).2, List.find?_append, hnone]
    simp [← hservice, ← hlocal]
  have ho : db'.firstObligation b = some (firstObligationRow b) := by
    have hfirst : db'.obligations.find? b.identity.firstObligationId =
        some (firstObligationRow b) :=
      (Table.find?_insert? hmade.obligations _).trans (if_pos rfl)
    unfold AlbumDb.firstObligation
    rw [hfirst]
    exact Option.filter_eq_some_iff.mpr ⟨rfl, decide_eq_true ⟨rfl, rfl, rfl⟩⟩
  rw [ensureRead_of_bound hlater hmade.user hb hmade.candidate ho]
  simp

end Ensures

/-! ## Associating a photo -/

/-- An association made the obligation of its photo, and moved the album by one revision. -/
structure ObligationMade (w : AlbumWorld) (db db' : AlbumDb) (request : AlbumAssociateRequest)
    (o : AlbumObligation) : Prop where
  pair : o.identity.pair = request.pair
  photo : ∃ p ∈ w.flickr.bindings.find? o.photoBindingId, p.photoId = o.identity.photoId
  unbound : ∀ other ∈ db.obligations, other.albumBindingId = o.albumBindingId →
    other.photoBindingId ≠ o.photoBindingId
  active : o.localRelationship = .active
  obligations : db.obligations.insert? o = some db'.obligations
  binding : ∃ b, db.bindings.find? o.albumBindingId = some b ∧ ¬ b.archived ∧
    b.bindingRevision = request.expectedBindingRevision ∧
    o.identity.admissionBindingRevision = b.bindingRevision + 1 ∧
    ∀ key, db'.bindings.find? key =
      if key = o.albumBindingId then some { b with bindingRevision := b.bindingRevision + 1 }
      else db.bindings.find? key
  removals : db'.albumRemovals = db.albumRemovals

/-- The authority an association needs: its installation and the album of one user, the grant
of the album and a verified photo. -/
def associateAuthorized (m : Moment) (db : AlbumDb) (auth : AdmissionAuth)
    (request : AlbumAssociateRequest) : Prop :=
  ∃ userId ∈ m.world.installationUser auth,
    ∃ b ∈ db.bindings.find? request.bindingId, b.identity.userId = userId ∧
      m.world.serviceOwned b.identity ∧
      (revisionInRange b.identity.linkRevision ∧
        (m.world.titleLinkAuthority b.identity).isSome = true) ∧
      ∃ p ∈ m.world.flickr.bindings.find? request.photoBindingId, p.userId = userId ∧
        m.world.photoReady m.now p b.identity.ownerNsid b.identity.linkRevision

/-- Moving one binding leaves the others. -/
theorem AlbumDb.find?_moveBindingUpTo {m : Moment} {db db' : AlbumDb} {b : AlbumBinding}
    {bindingId : Token} {revision : Nat} (hb : db.bindings.find? bindingId = some b)
    (hlow : b.bindingRevision < revision)
    (h : AlbumDb.moveBindingUpTo m db bindingId revision = some db') (key : Token) :
    db'.bindings.find? key =
      if key = bindingId then some { b with bindingRevision := revision }
      else db.bindings.find? key := by
  unfold AlbumDb.moveBindingUpTo AlbumDb.moveBindingTo at h
  simp only [hb, hlow, if_true] at h
  obtain ⟨middle, hset, hclose⟩ := Option.bind_eq_some_iff.mp h
  obtain ⟨titles, rfl⟩ := AlbumDb.titlesOnly_closeTitleAttempts hclose
  have hkey : b.bindingId = bindingId := Table.key_of_find? hb
  have hfind := AlbumDb.find?_setBinding (by exact hkey ▸ hb) hset key
  rw [← hkey]
  exact hfind

section Associations

variable {w : AlbumWorld} {m : Moment} {clock : BatchClock} {db : AlbumDb} {auth : AdmissionAuth}
  {request : AlbumAssociateRequest} {obligationId : Token}

/-- What the context of an association selects. -/
structure AssociateContext.Selected (m : Moment) (db : AlbumDb) (userId : Token)
    (request : AlbumAssociateRequest) (context : AssociateContext) : Prop where
  binding : ∀ b, context.binding = some b ↔
    db.bindings.find? request.bindingId = some b ∧ b.identity.userId = userId
  serviceOwned : context.serviceOwned = true ↔ ∃ b, context.binding = some b ∧
    m.world.serviceOwned b.identity
  linkReady : context.linkReady = true ↔ ∃ b, context.binding = some b ∧
    revisionInRange b.identity.linkRevision ∧
    (m.world.titleLinkAuthority b.identity).isSome = true
  photo : ∀ p, context.photo = some p ↔
    m.world.flickr.bindings.find? request.photoBindingId = some p ∧ p.userId = userId
  photoReady : context.photoReady = true ↔ ∃ b, context.binding = some b ∧
    ∃ p, context.photo = some p ∧
      m.world.photoReady m.now p b.identity.ownerNsid b.identity.linkRevision
  obligation : context.obligation = context.binding.bind fun b => context.photo.bind fun p =>
    db.obligationOf b.bindingId p.bindingId
  audited : context.audited = true ↔ ∃ o, context.obligation = some o ∧ db.obligationAudited o

theorem selected_of_associateContext {context : AssociateContext}
    (h : associateContext m db auth request = some context) :
    ∃ userId, m.world.installationUser auth = some userId ∧
      context.Selected m db userId request := by
  obtain ⟨userId, huser, rfl⟩ := Option.map_eq_some_iff.mp h
  refine ⟨userId, huser, ?_⟩
  constructor
  · intro b
    simp [Option.filter_eq_some_iff]
  · simp only [decide_eq_true_eq, Option.mem_def]
  · simp only [decide_eq_true_eq, Option.mem_def]
  · intro p
    simp [Option.filter_eq_some_iff]
  · simp only [decide_eq_true_eq, Option.mem_def]
  · rfl
  · simp only [decide_eq_true_eq, Option.mem_def]

/-- An association that passes the checks has its authority. -/
theorem associate_of_noError {context : AssociateContext} {userId : Token}
    (huser : m.world.installationUser auth = some userId)
    (h : context.Selected m db userId request)
    (hpassed : associateError request context = none) :
    associateAuthorized m db auth request ∧
    ∃ b p, db.bindings.find? request.bindingId = some b ∧
      m.world.flickr.bindings.find? request.photoBindingId = some p ∧
      context.binding = some b ∧ context.photo = some p ∧
      context.obligation = db.obligationOf request.bindingId request.photoBindingId ∧
      (context.obligation = none → ¬ b.archived ∧
        b.bindingRevision = request.expectedBindingRevision ∧
        p.verificationRevision = request.expectedVerificationRevision) := by
  unfold associateError at hpassed
  split at hpassed
  swap
  · cases hpassed
  next b p hb hp =>
  split at hpassed
  · cases hpassed
  next howned =>
  split at hpassed
  · cases hpassed
  next hlink =>
  split at hpassed
  · cases hpassed
  next hphoto =>
  obtain ⟨b', hb', hservice⟩ := h.serviceOwned.mp (by simpa using howned)
  cases hb.symm.trans hb'
  obtain ⟨b', hb', hlinked⟩ := h.linkReady.mp (by simpa using hlink)
  cases hb.symm.trans hb'
  obtain ⟨b', hb', p', hp', hready⟩ := h.photoReady.mp (by simpa using hphoto)
  cases hb.symm.trans hb'
  cases hp.symm.trans hp'
  obtain ⟨hfound, hmine⟩ := (h.binding b).mp hb
  obtain ⟨hshown, howner⟩ := (h.photo p).mp hp
  have hkey : b.bindingId = request.bindingId := Table.key_of_find? hfound
  have hphotoKey : p.bindingId = request.photoBindingId := Table.key_of_find? hshown
  refine ⟨⟨userId, huser, b, hfound, hmine, hservice, hlinked, p, hshown, howner, hready⟩, b, p,
    hfound, hshown, hb, hp, ?_, ?_⟩
  · rw [h.obligation, hb, hp, Option.bind_some, Option.bind_some, hkey, hphotoKey]
  · intro hnone
    rw [hnone] at hpassed
    simp only at hpassed
    split_ifs at hpassed with hopen hrevision hverified
    exact ⟨hopen, not_not.mp hrevision, not_not.mp hverified⟩

theorem associateRow_guard {context : AssociateContext} {o : AlbumObligation}
    (h : associateRow request obligationId context = some o) :
    context.obligation = none ∧ associateError request context = none := by
  unfold associateRow at h
  split at h
  swap
  · cases h
  split at h
  · next hguard => exact hguard
  · cases h

theorem associateRow_eq_some {context : AssociateContext} {b : AlbumBinding} {p : PhotoBinding}
    {o : AlbumObligation} (hb : context.binding = some b) (hp : context.photo = some p)
    (h : associateRow request obligationId context = some o) :
    o.obligationId = obligationId ∧ o.albumBindingId = b.bindingId ∧
    o.photoBindingId = p.bindingId ∧ o.identity.photoId = p.photoId ∧
    o.identity.admissionBindingRevision = b.bindingRevision + 1 ∧
    o.localRelationship = .active := by
  unfold associateRow at h
  rw [hb, hp] at h
  simp only at h
  split at h
  · cases h
    exact ⟨rfl, rfl, rfl, rfl, rfl, rfl⟩
  · cases h

/-- An association makes the obligation of its photo, or it changes nothing. -/
theorem associateAlbumPhoto_changes :
    (associateAlbumPhoto w clock db auth request obligationId).1 = db ∨
    ∃ o, ObligationMade w db (associateAlbumPhoto w clock db auth request obligationId).1
        request o ∧ associateAuthorized ⟨w, clock.insert⟩ db auth request ∧
      (∃ p, w.flickr.bindings.find? request.photoBindingId = some p ∧
        p.verificationRevision = request.expectedVerificationRevision) := by
  unfold associateAlbumPhoto
  split
  swap
  · exact Or.inl rfl
  rcases @batchAnswer_changes _ _ db (AlbumDb.insertObligation ⟨w, clock.insert⟩)
      ((associateContext ⟨w, clock.insert⟩ db auth request).bind
        (associateRow request obligationId))
      (associateRead ⟨w, clock.decision⟩ auth request obligationId) with
    hsame | ⟨o, hrow, hinsert, _⟩
  · exact Or.inl hsame
  right
  obtain ⟨context, hcontext, hrow⟩ := Option.bind_eq_some_iff.mp hrow
  obtain ⟨userId, huser, hselected⟩ := selected_of_associateContext hcontext
  obtain ⟨hnone, hpassed⟩ := associateRow_guard hrow
  obtain ⟨hauthorized, b, p, hb, hp, hcontextBinding, hcontextPhoto, _, hopen⟩ :=
    associate_of_noError huser hselected hpassed
  obtain ⟨_, halbum, hphoto, hphotoId, hadmission, hactive⟩ :=
    associateRow_eq_some hcontextBinding hcontextPhoto hrow
  obtain ⟨hunarchived, hrevision, hverified⟩ := hopen hnone
  obtain ⟨obligations, events, _, hfree, hinserted, _, hmoved⟩ :=
    AlbumDb.insertObligation_eq_some hinsert
  have hkey : b.bindingId = request.bindingId := Table.key_of_find? hb
  have hphotoKey : p.bindingId = request.photoBindingId := Table.key_of_find? hp
  have hfound : db.bindings.find? o.albumBindingId = some b := by
    rw [halbum, hkey, hb]
  refine ⟨o, ?_, hauthorized, p, hp, hverified⟩
  have hbindings := AlbumDb.find?_moveBindingUpTo (by exact hfound) (by omega) hmoved
  obtain ⟨bindings, bindingEvents, titles, hafter⟩ := AlbumDb.movedOnly_moveBindingUpTo hmoved
  constructor
  · exact congrArg₂ Prod.mk (halbum.trans hkey) (hphoto.trans hphotoKey)
  · refine ⟨p, ?_, hphotoId.symm⟩
    rw [hphoto, hphotoKey]
    exact hp
  · intro other hother hsame
    exact (hfree other hother hsame).1
  · exact hactive
  · rw [hafter]
    exact hinserted
  · refine ⟨b, hfound, hunarchived, hrevision, hadmission, ?_⟩
    rw [← hadmission]
    exact hbindings
  · rw [hafter]

/-- What an association is answered with is the obligation of its photo. -/
theorem associateAlbumPhoto_answer {answer : ObligationAnswer}
    (h : (associateAlbumPhoto w clock db auth request obligationId).2 = .ok answer) :
    associateAuthorized ⟨w, clock.decision⟩
      (associateAlbumPhoto w clock db auth request obligationId).1 auth request ∧
    (associateAlbumPhoto w clock db auth request obligationId).1.bindings.find?
      request.bindingId = some answer.binding ∧
    (associateAlbumPhoto w clock db auth request obligationId).1.obligationOf
      request.bindingId request.photoBindingId = some answer.obligation := by
  unfold associateAlbumPhoto at h ⊢
  split at h
  swap
  · cases h
  next hvalid =>
  rw [if_pos hvalid]
  have hread := read_of_batchAnswer h
  generalize (batchAnswer db _ _ : Answer ObligationAnswer).1 = db' at hread
  unfold associateRead at hread
  split at hread
  · cases hread
  next context hcontext =>
  obtain ⟨userId, huser, hselected⟩ := selected_of_associateContext hcontext
  cases hpassed : associateError request context with
  | some error =>
      rw [hpassed] at hread
      cases hread
  | none =>
      rw [hpassed] at hread
      obtain ⟨hauthorized, b, p, hb, _, hbinding, _, hobligation, _⟩ :=
        associate_of_noError huser hselected hpassed
      simp only [orError] at hread
      split at hread
      · next b' o hb' ho =>
          cases hread
          cases hbinding.symm.trans hb'
          exact ⟨hauthorized, hb, hobligation.symm.trans ho⟩
      · cases hread

/-- The read of an association that has its authority, once the photo has its obligation. -/
theorem associateRead_of_bound {b : AlbumBinding} {o : AlbumObligation}
    (hauthorized : associateAuthorized m db auth request)
    (hb : db.bindings.find? request.bindingId = some b)
    (ho : db.obligationOf request.bindingId request.photoBindingId = some o)
    (hfits : ∀ p, m.world.flickr.bindings.find? request.photoBindingId = some p →
      ¬ associateBroken b p o true)
    (haudited : db.obligationAudited o) :
    associateRead m auth request obligationId db =
      .ok ⟨decide (o.obligationId = obligationId), b, o⟩ := by
  obtain ⟨userId, huser, b', hb', hmine, howned, hlink, p, hp, howner, hready⟩ := hauthorized
  cases hb.symm.trans hb'
  unfold associateRead
  cases hcontext : associateContext m db auth request with
  | none =>
      unfold associateContext at hcontext
      rw [huser] at hcontext
      cases hcontext
  | some context =>
      obtain ⟨userId', huser', h⟩ := selected_of_associateContext hcontext
      cases huser.symm.trans huser'
      have hbinding : context.binding = some b := (h.binding b).mpr ⟨hb, hmine⟩
      have hphoto : context.photo = some p := (h.photo p).mpr ⟨hp, howner⟩
      have hservice : context.serviceOwned = true := h.serviceOwned.mpr ⟨b, hbinding, howned⟩
      have hlinked : context.linkReady = true := h.linkReady.mpr ⟨b, hbinding, hlink⟩
      have hverified : context.photoReady = true :=
        h.photoReady.mpr ⟨b, hbinding, p, hphoto, hready⟩
      have hkey : b.bindingId = request.bindingId := Table.key_of_find? hb
      have hphotoKey : p.bindingId = request.photoBindingId := Table.key_of_find? hp
      have hobligation : context.obligation = some o := by
        rw [h.obligation, hbinding, hphoto, Option.bind_some, Option.bind_some, hkey, hphotoKey, ho]
      have hshown : context.audited = true := h.audited.mpr ⟨o, hobligation, haudited⟩
      have hpassed : associateError request context = none := by
        unfold associateError
        simp [hbinding, hphoto, hservice, hlinked, hverified, hobligation, hshown, hfits p hp]
      simp only [hpassed, hbinding, hobligation, orError]

end Associations

end FlickrGroupAddr

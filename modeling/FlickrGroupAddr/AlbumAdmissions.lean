import FlickrGroupAddr.AlbumAssociations

/-!
# Albums and obligations over a run

In every run each collection has at most one album and each photo at most one obligation in
it.  What an archived album keeps is archived with it, so a repeated association still finds
its obligation.
-/

namespace FlickrGroupAddr

set_option autoImplicit false

open KeyedTable Transition Relation

/-! ## Archived albums -/

/-- An archived album has its removal. -/
def ArchivedAlbumsReceipted (db : AlbumDb) : Prop :=
  ∀ b ∈ db.bindings, b.archived → (db.albumRemovals.find? b.bindingId).isSome = true

theorem archivedAlbumsReceipted_write {part : Option AlbumPart} {db db' : AlbumDb}
    (hwrite : AlbumWrite part db db') (h : ArchivedAlbumsReceipted db) :
    ArchivedAlbumsReceipted db' := by
  cases hwrite with
  | binding new hset =>
      rcases AlbumDb.setBinding_eq_some hset with ⟨_, rfl⟩ | ⟨old, hold, hallowed, hmove⟩
      · exact h
      have hframe : db'.bindings = db.bindings.set new ∧ db'.albumRemovals = db.albumRemovals := by
        rcases hmove with ⟨_, rfl⟩ | ⟨_, _, _, rfl⟩
        · exact ⟨rfl, rfl⟩
        · exact ⟨rfl, rfl⟩
      intro b' hb' harchived
      rw [hframe.1] at hb'
      rw [hframe.2]
      rcases Table.mem_set_cases hb' with rfl | ⟨hmem, _⟩
      · have hkey : old.bindingId = b'.bindingId := Table.key_of_find? hold
        rcases hallowed.archive with hsame | ⟨r, hr, _⟩
        · rw [← hkey]
          exact h old (Table.mem_of_find? hold) (hsame.symm.trans harchived)
        · rw [← hkey, hr]
          rfl
      · exact h b' hmem harchived
  | bindingCreated _ m b bindings events obligations obligationEvents hadmissible hrow =>
      intro b' hb' harchived
      rcases (Table.mem_insert? hrow).mp hb' with hmem | rfl
      · exact h b' hmem harchived
      · exact absurd harchived hadmissible.1.2.2.2
  | obligation new hset =>
      rcases AlbumDb.setObligation_eq_some hset with ⟨_, rfl⟩ | ⟨_, _, _, _, _, rfl⟩
      · exact h
      · exact h
  | titleAttempt m new _ hset =>
      obtain ⟨titles, rfl⟩ := AlbumDb.titlesOnly_setTitleAttempt hset
      exact h
  | albumRemoval _ m r receipts _ hrow =>
      intro b' hb' harchived
      simp only [Table.find?_insert? hrow]
      split
      · rfl
      · exact h b' hb' harchived
  | _ => exact h

theorem AlbumWrite.albumRemovals_eq {part : Option AlbumPart} {db db' : AlbumDb}
    (h : AlbumWrite part db db') (hother : part ≠ some .removals) :
    db'.albumRemovals = db.albumRemovals := by
  cases h with
  | binding new hset =>
      obtain ⟨bindings, events, titles, rfl⟩ := AlbumDb.movedOnly_setBinding hset
      rfl
  | obligation new hset =>
      rcases AlbumDb.setObligation_eq_some hset with ⟨_, rfl⟩ | ⟨_, _, _, _, _, rfl⟩
      · rfl
      · rfl
  | titleAttempt m new _ hset =>
      obtain ⟨titles, rfl⟩ := AlbumDb.titlesOnly_setTitleAttempt hset
      rfl
  | albumRemoval hpart => exact absurd hpart hother
  | _ => rfl

theorem AlbumWrites.albumRemovals_eq {part : Option AlbumPart} {db db' : AlbumDb}
    (h : AlbumWrites part db db') (hother : part ≠ some .removals) :
    db'.albumRemovals = db.albumRemovals := by
  induction h with
  | refl => rfl
  | tail _ hlast ih => exact (hlast.albumRemovals_eq hother).trans ih

/-- The removal of an album inserts one receipt and touches no other album. -/
theorem AlbumDb.insertAlbumRemoval_elsewhere {m : Moment} {db db' : AlbumDb}
    {removal : AlbumRemovalReceipt} (h : AlbumDb.insertAlbumRemoval m db removal = some db') :
    db.albumRemovals.insert? removal = some db'.albumRemovals ∧
    ∀ key, key ≠ removal.bindingId → db'.bindings.find? key = db.bindings.find? key := by
  obtain ⟨receipts, hrow, h⟩ := Option.bind_eq_some_iff.mp h
  obtain ⟨⟨_, _, ⟨b, hb, _⟩, _⟩, hrow⟩ := Table.insertIf?_eq_some.mp hrow
  have hb : db.bindings.find? removal.bindingId = some b := hb
  unfold AlbumDb.archiveBinding at h
  simp only [hb] at h
  obtain ⟨moved, hmoved, harchive⟩ := Option.bind_eq_some_iff.mp h
  obtain ⟨middle, hset, hclose⟩ := Option.bind_eq_some_iff.mp hmoved
  obtain ⟨titles, rfl⟩ := AlbumDb.titlesOnly_closeTitleAttempts hclose
  have hkey : b.bindingId = removal.bindingId := Table.key_of_find? hb
  have hfind := AlbumDb.find?_setBinding (by exact hkey ▸ hb) hset
  obtain ⟨bindings, events, titles', rfl⟩ := AlbumDb.movedOnly_setBinding hset
  have hremoval : receipts.find? removal.bindingId = some removal := by
    rw [Table.find?_insert? hrow]
    exact if_pos rfl
  unfold AlbumDb.archiveObligations at harchive
  simp only [hremoval] at harchive
  have hactive : ∀ o ∈ db.activeObligations removal.bindingId,
      db.obligations.find? o.obligationId = some o := by
    intro o ho
    exact Table.find?_of_mem (AlbumDb.mem_activeObligations.mp ho).1
  have hnodup : ((db.activeObligations removal.bindingId).map
      AlbumObligation.obligationId).Nodup :=
    (List.filter_sublist.map _).nodup db.obligations.nodup
  obtain ⟨hbindings, halbum, _⟩ :=
    AlbumDb.archiveAll_effect hnodup (by exact hactive) harchive
  refine ⟨halbum ▸ hrow, ?_⟩
  intro key hne
  rw [hbindings]
  refine (hfind key).trans (if_neg ?_)
  intro heq
  exact hne (heq.trans hkey)

theorem putAlbumLocalRemoval_changes {w : AlbumWorld} {clock : BatchClock} {db : AlbumDb}
    {auth : AdmissionAuth} {request : AlbumRemovalRequest} :
    (putAlbumLocalRemoval w clock db auth request).1 = db ∨
    ∃ removal, AlbumDb.insertAlbumRemoval ⟨w, clock.insert⟩ db removal =
      some (putAlbumLocalRemoval w clock db auth request).1 := by
  unfold putAlbumLocalRemoval
  split
  · rcases batchAnswer_changes with hsame | ⟨removal, _, hinsert, _⟩
    · exact Or.inl hsame
    · exact Or.inr ⟨removal, hinsert⟩
  · exact Or.inl rfl

/-- The obligations of an archived album are archived, and a removed album is archived. -/
structure ArchivedWhole (db : AlbumDb) : Prop where
  obligations : ∀ bindingId b, db.bindings.find? bindingId = some b → b.archived →
    ∀ o ∈ db.obligations, o.albumBindingId = bindingId → o.localRelationship = .archived
  albums : ∀ bindingId r, db.albumRemovals.find? bindingId = some r →
    ∃ b, db.bindings.find? bindingId = some b ∧ b.archived

namespace ArchivedWhole

theorem empty : ArchivedWhole emptyAlbumDb := by
  constructor
  · intro bindingId b hb
    cases (Table.find?_empty bindingId).symm.trans hb
  · intro bindingId r hr
    cases (Table.find?_empty bindingId).symm.trans hr

/-- A call that inserts no album removal archives no album. -/
theorem kept {db db' : AlbumDb} (h : ArchivedWhole db) (hkept : RemovalsKept db db')
    (hremovals : db'.albumRemovals = db.albumRemovals) (hreceipted : ArchivedAlbumsReceipted db') :
    ArchivedWhole db' := by
  constructor
  · intro bindingId b' hb' harchived o' ho' halbum
    have hreceipt := hreceipted b' (Table.mem_of_find? hb') harchived
    rw [Table.key_of_find? hb', hremovals] at hreceipt
    obtain ⟨r, hr⟩ := Option.isSome_iff_exists.mp hreceipt
    obtain ⟨b, hb, hbefore⟩ := h.albums bindingId r hr
    obtain ⟨o, ho, hidentity⟩ := hkept.closed bindingId b hb hbefore o' ho' halbum
    have hold : o.localRelationship = .archived := by
      apply h.obligations bindingId b hb hbefore o ho
      rw [← halbum, AlbumObligation.albumBindingId, hidentity]
      rfl
    obtain ⟨o'', ho'', hsame, hstays⟩ := hkept.obligations o.obligationId o (Table.find?_of_mem ho)
    have hkey : o.obligationId = o'.obligationId := by
      rw [AlbumObligation.obligationId, hidentity]
      rfl
    rw [hkey, Table.find?_of_mem ho'] at ho''
    cases ho''
    exact hstays hold
  · intro bindingId r hr
    rw [hremovals] at hr
    obtain ⟨b, hb, hbefore⟩ := h.albums bindingId r hr
    obtain ⟨b', hb', _, hstays⟩ := hkept.bindings bindingId b hb
    exact ⟨b', hb', (hstays hbefore).1⟩

/-- The removal of an album archives what it keeps. -/
theorem removal {m : Moment} {db db' : AlbumDb} {removal : AlbumRemovalReceipt}
    (h : ArchivedWhole db) (hinsert : AlbumDb.insertAlbumRemoval m db removal = some db') :
    ArchivedWhole db' := by
  have harchived := AlbumDb.insertAlbumRemoval_effect hinsert
  obtain ⟨hreceipts, helsewhere⟩ := AlbumDb.insertAlbumRemoval_elsewhere hinsert
  constructor
  · intro bindingId b' hb' hclosed o' ho' halbum
    have hfound := Table.find?_of_mem ho'
    rw [harchived.obligations] at hfound
    obtain ⟨o, ho, rfl⟩ := Option.map_eq_some_iff.mp hfound
    unfold afterAlbumRemoval albumReceipt at halbum ⊢
    by_cases hmine : o.albumBindingId = removal.bindingId ∧ o.localRelationship = .active
    · rw [if_pos hmine]
      rfl
    · rw [if_neg hmine] at halbum ⊢
      have halbum : o.albumBindingId = bindingId := halbum
      by_cases hkey : bindingId = removal.bindingId
      · cases hstate : o.localRelationship with
        | archived => rfl
        | active => exact absurd ⟨halbum.trans hkey, hstate⟩ hmine
      · rw [helsewhere bindingId hkey] at hb'
        exact h.obligations bindingId b' hb' hclosed o (Table.mem_of_find? ho) halbum
  · intro bindingId r hr
    by_cases hkey : bindingId = removal.bindingId
    · obtain ⟨b', hb', hclosed, _⟩ := harchived.after
      exact ⟨b', hkey ▸ hb', hclosed⟩
    · rw [Table.find?_insert? hreceipts, if_neg hkey] at hr
      obtain ⟨b, hb, hclosed⟩ := h.albums bindingId r hr
      exact ⟨b, (helsewhere bindingId hkey).trans hb, hclosed⟩

theorem step {db db' : AlbumDb} {move : AlbumMove} (h : ArchivedWhole db)
    (hreceipted : ArchivedAlbumsReceipted db) (hstep : AlbumStep db move db') :
    ArchivedWhole db' := by
  have hwrites := hstep.writes
  have hkept := RemovalsKept.writes hwrites
  have hafter := hstep.keeps (fun _ _ _ => archivedAlbumsReceipted_write) hreceipted
  have hrun : move.call.run move.world db = db' := hstep
  cases hcall : move.call with
  | removeAlbum clock auth request =>
      rw [hcall] at hrun
      have hrun : (putAlbumLocalRemoval move.world clock db auth request).1 = db' := hrun
      rcases @putAlbumLocalRemoval_changes move.world clock db auth request with
        hsame | ⟨removal, hinsert⟩
      · rw [← hrun, hsame]
        exact h
      · rw [hrun] at hinsert
        exact h.removal hinsert
  | removePhoto clock auth request =>
      rw [hcall] at hrun
      have hrun : (putAlbumPhotoLocalRemoval move.world clock db auth request).1 = db' := hrun
      apply h.kept hkept _ hafter
      rcases @putAlbumPhotoLocalRemoval_outcome move.world clock db auth request with
        ⟨r, _, harchived, _⟩ | ⟨hsame, _⟩
      · exact hrun ▸ harchived.albums
      · exact hrun ▸ congrArg AlbumDb.albumRemovals hsame
  | _ =>
      rw [hcall] at hwrites
      exact h.kept hkept (hwrites.albumRemovals_eq (by simp [AlbumCall.part])) hafter

end ArchivedWhole

theorem archivedWhole_reachable {db : AlbumDb} (h : Reachable AlbumStep AlbumInitial db) :
    ArchivedWhole db := by
  have hboth : ArchivedAlbumsReceipted db ∧ ArchivedWhole db := by
    apply h.invariant
    · rintro start rfl
      refine ⟨?_, ArchivedWhole.empty⟩
      intro b hb
      exact absurd hb (Table.not_mem_empty b)
    · rintro before move after ⟨hreceipted, hwhole⟩ hstep
      exact ⟨hstep.keeps (fun _ _ _ => archivedAlbumsReceipted_write) hreceipted,
        hwhole.step hreceipted hstep⟩
  exact hboth.2

/-! ## One album for a collection -/

/-- Each collection has one album, of the user of its service, under an id that was drawn for
it. -/
structure AlbumsUnique (userOf : Token → Token) (drawn : List Token) (db : AlbumDb) : Prop where
  users : ∀ b ∈ db.bindings, b.identity.userId = userOf b.identity.serviceId
  collections : ∀ b ∈ db.bindings, ∀ b' ∈ db.bindings,
    b.identity.collection = b'.identity.collection → b = b'
  drawn : ∀ b ∈ db.bindings, b.bindingId ∈ drawn

namespace AlbumsUnique

variable {userOf photoOf : Token → Token} {drawn drawn' : List Token} {db db' : AlbumDb}

theorem kept (h : AlbumsUnique userOf drawn db) (hfrom : AlbumsFrom db db')
    (hdrawn : ∀ id ∈ drawn, id ∈ drawn') : AlbumsUnique userOf drawn' db' := by
  constructor
  · intro b' hb'
    obtain ⟨b, hb, hsame⟩ := hfrom b' hb'
    rw [← hsame]
    exact h.users b hb
  · intro b' hb' c' hc' hcollection
    obtain ⟨b, hb, hsame⟩ := hfrom b' hb'
    obtain ⟨c, hc, hsame'⟩ := hfrom c' hc'
    rw [← hsame, ← hsame'] at hcollection
    have heq := h.collections b hb c hc hcollection
    apply Table.eq_of_key_eq hb' hc'
    rw [heq] at hsame
    exact congrArg AlbumIdentity.bindingId (hsame.symm.trans hsame')
  · intro b' hb'
    obtain ⟨b, hb, hsame⟩ := hfrom b' hb'
    have hid : b.bindingId = b'.bindingId := congrArg AlbumIdentity.bindingId hsame
    rw [← hid]
    exact hdrawn _ (h.drawn b hb)

theorem made {w : AlbumWorld} {auth : AdmissionAuth} {request : AlbumEnsureRequest}
    {b : AlbumBinding} (h : AlbumsUnique userOf drawn db) (hworld : w.Retains userOf photoOf)
    (hmade : AlbumMade w db db' auth request b) (hdrawn : ∀ id ∈ drawn, id ∈ drawn')
    (hid : b.bindingId ∈ drawn') : AlbumsUnique userOf drawn' db' := by
  have huser : b.identity.userId = userOf b.identity.serviceId := by
    obtain ⟨s, hs, howner⟩ := hmade.service
    rw [← howner, hworld.services s (Table.mem_of_find? hs), Table.key_of_find? hs]
  have hnew : ∀ other ∈ db.bindings, other.identity.collection ≠ b.identity.collection := by
    intro other hother hcollection
    obtain ⟨hservice, hlocal⟩ := Prod.mk.inj hcollection
    apply hmade.unbound other hother
    rw [h.users other hother, huser, hservice]
    exact ⟨rfl, rfl, hlocal⟩
  have hmem : ∀ other, other ∈ db'.bindings ↔ other ∈ db.bindings ∨ other = b :=
    fun _ => Table.mem_insert? hmade.bindings
  constructor
  · intro other hother
    rcases (hmem other).mp hother with hold | rfl
    · exact h.users other hold
    · exact huser
  · intro other hother other' hother' hcollection
    rcases (hmem other).mp hother with hold | rfl
    · rcases (hmem other').mp hother' with hold' | rfl
      · exact h.collections other hold other' hold' hcollection
      · exact absurd hcollection (hnew other hold)
    · rcases (hmem other').mp hother' with hold' | rfl
      · exact absurd hcollection.symm (hnew other' hold')
      · rfl
  · intro other hother
    rcases (hmem other).mp hother with hold | rfl
    · exact hdrawn _ (h.drawn other hold)
    · exact hid

end AlbumsUnique

/-! ## One obligation for a photo -/

/-- Each photo has one obligation in an album, admitted at a revision the album has reached. -/
structure ObligationsUnique (photoOf : Token → Token) (db : AlbumDb) : Prop where
  placed : ∀ o ∈ db.obligations, ∃ b, db.bindings.find? o.albumBindingId = some b ∧
    o.identity.admissionBindingRevision ≤ b.bindingRevision
  photos : ∀ o ∈ db.obligations, o.identity.photoId = photoOf o.photoBindingId
  pairs : ∀ o ∈ db.obligations, ∀ o' ∈ db.obligations, o.identity.pair = o'.identity.pair → o = o'

namespace ObligationsUnique

variable {userOf photoOf : Token → Token} {db db' : AlbumDb}

theorem kept (h : ObligationsUnique photoOf db) (hfrom : ObligationsFrom db db')
    (hrise : AlbumsRise db db') : ObligationsUnique photoOf db' := by
  constructor
  · intro o' ho'
    obtain ⟨o, ho, hsame⟩ := hfrom o' ho'
    obtain ⟨b, hb, hreached⟩ := h.placed o ho
    obtain ⟨b', hb', hle⟩ := hrise _ b hb
    unfold AlbumObligation.albumBindingId at hb' ⊢
    rw [← hsame]
    exact ⟨b', hb', hreached.trans hle⟩
  · intro o' ho'
    obtain ⟨o, ho, hsame⟩ := hfrom o' ho'
    have hphoto := h.photos o ho
    unfold AlbumObligation.photoBindingId at hphoto ⊢
    rw [← hsame]
    exact hphoto
  · intro o' ho' c' hc' hpair
    obtain ⟨o, ho, hsame⟩ := hfrom o' ho'
    obtain ⟨c, hc, hsame'⟩ := hfrom c' hc'
    rw [← hsame, ← hsame'] at hpair
    have heq := h.pairs o ho c hc hpair
    apply Table.eq_of_key_eq ho' hc'
    rw [heq] at hsame
    exact congrArg ObligationIdentity.obligationId (hsame.symm.trans hsame')

/-- A new obligation, of an album and a photo that had none. -/
theorem inserted {o : AlbumObligation} (h : ObligationsUnique photoOf db)
    (hrow : db.obligations.insert? o = some db'.obligations) (hrise : AlbumsRise db db')
    (hplaced : ∃ b, db'.bindings.find? o.albumBindingId = some b ∧
      o.identity.admissionBindingRevision ≤ b.bindingRevision)
    (hphoto : o.identity.photoId = photoOf o.photoBindingId)
    (hfree : ∀ other ∈ db.obligations, other.identity.pair ≠ o.identity.pair) :
    ObligationsUnique photoOf db' := by
  have hmem : ∀ other, other ∈ db'.obligations ↔ other ∈ db.obligations ∨ other = o :=
    fun _ => Table.mem_insert? hrow
  constructor
  · intro other hother
    rcases (hmem other).mp hother with hold | rfl
    · obtain ⟨b, hb, hreached⟩ := h.placed other hold
      obtain ⟨b', hb', hle⟩ := hrise _ b hb
      exact ⟨b', hb', hreached.trans hle⟩
    · exact hplaced
  · intro other hother
    rcases (hmem other).mp hother with hold | rfl
    · exact h.photos other hold
    · exact hphoto
  · intro other hother other' hother' hpair
    rcases (hmem other).mp hother with hold | rfl
    · rcases (hmem other').mp hother' with hold' | rfl
      · exact h.pairs other hold other' hold' hpair
      · exact absurd hpair (hfree other hold)
    · rcases (hmem other').mp hother' with hold' | rfl
      · exact absurd hpair.symm (hfree other' hold')
      · rfl

theorem albumMade {w : AlbumWorld} {auth : AdmissionAuth} {request : AlbumEnsureRequest}
    {b : AlbumBinding} (h : ObligationsUnique photoOf db) (hworld : w.Retains userOf photoOf)
    (hmade : AlbumMade w db db' auth request b) (hrise : AlbumsRise db db') :
    ObligationsUnique photoOf db' := by
  refine h.inserted hmade.obligations hrise ⟨b, ?_, hmade.revision.1.ge⟩ ?_ ?_
  · exact (Table.find?_insert? hmade.bindings b.bindingId).trans (if_pos rfl)
  · obtain ⟨p, hp, hphoto⟩ := hmade.photo
    have hretained := hworld.photos p (Table.mem_of_find? hp)
    rw [Table.key_of_find? hp] at hretained
    exact hphoto.symm.trans hretained
  · intro other hother hpair
    obtain ⟨b', hb', _⟩ := h.placed other hother
    have halbum : other.albumBindingId = b.bindingId := congrArg Prod.fst hpair
    rw [halbum, (Table.insert?_eq_some hmade.bindings).1] at hb'
    cases hb'

theorem made {w : AlbumWorld} {request : AlbumAssociateRequest} {o : AlbumObligation}
    (h : ObligationsUnique photoOf db) (hworld : w.Retains userOf photoOf)
    (hmade : ObligationMade w db db' request o) (hrise : AlbumsRise db db') :
    ObligationsUnique photoOf db' := by
  refine h.inserted hmade.obligations hrise ?_ ?_ ?_
  · obtain ⟨b, _, _, _, hadmission, hbindings⟩ := hmade.binding
    exact ⟨_, (hbindings o.albumBindingId).trans (if_pos rfl), hadmission.le⟩
  · obtain ⟨p, hp, hphoto⟩ := hmade.photo
    have hretained := hworld.photos p (Table.mem_of_find? hp)
    rw [Table.key_of_find? hp] at hretained
    exact hphoto.symm.trans hretained
  · intro other hother hpair
    obtain ⟨halbum, hphoto⟩ := Prod.mk.inj hpair
    exact hmade.unbound other hother halbum hphoto

end ObligationsUnique

/-! ## Runs -/

/-- The id an ensure call draws for a new album. -/
def drawnBinding (move : Move AlbumDb AlbumMove) : Option Token :=
  match move.label.call with
  | .ensure _ _ _ bindingId _ => some bindingId
  | _ => none

/-- The collection an ensure call makes the album of. -/
def ensureMade (move : Move AlbumDb AlbumMove) : Option (Token × Token) :=
  match move.label.call with
  | .ensure _ _ request _ _ => if move.dst = move.src then none else some request.collection
  | _ => none

/-- The collection whose album an ensure call reports it created. -/
def ensureReported (move : Move AlbumDb AlbumMove) : Option (Token × Token) :=
  match move.label.call with
  | .ensure clock auth request bindingId obligationId =>
      match (ensureAlbumBinding move.label.world clock move.src auth request bindingId
        obligationId).2 with
      | .ok answer => if answer.created then some request.collection else none
      | .error _ => none
  | _ => none

/-- The clock of an ensure call does not run back between its two statements. -/
def ensureForward (move : Move AlbumDb AlbumMove) : Prop :=
  match move.label.call with
  | .ensure clock _ _ _ _ => clock.insert ≤ clock.decision
  | _ => True

section Steps

variable {userOf photoOf : Token → Token} {drawn : List Token} {db db' : AlbumDb}
  {move : AlbumMove}

theorem AlbumStep.admitted (hstep : AlbumStep db move db')
    (hworld : move.world.Retains userOf photoOf) (halbums : AlbumsUnique userOf drawn db)
    (hobligations : ObligationsUnique photoOf db) :
    AlbumsUnique userOf (drawn ++ (drawnBinding ⟨db, move, db'⟩).toList) db' ∧
      ObligationsUnique photoOf db' := by
  have hwrites := hstep.writes
  have hrise := hstep.albumsRise
  have hdrawn : ∀ id ∈ drawn, id ∈ drawn ++ (drawnBinding ⟨db, move, db'⟩).toList := by
    intro id hid
    exact List.mem_append_left _ hid
  have hrun : move.call.run move.world db = db' := hstep
  cases hcall : move.call with
  | ensure clock auth request bindingId obligationId =>
      rw [hcall] at hrun
      have hrun : (ensureAlbumBinding move.world clock db auth request bindingId
        obligationId).1 = db' := hrun
      rcases @ensureAlbumBinding_changes move.world clock db auth request bindingId obligationId
        with hsame | ⟨b, hmade, hid, _⟩
      · rw [hrun] at hsame
        subst hsame
        exact ⟨halbums.kept (refl_of AlbumsFrom db') hdrawn, hobligations⟩
      · rw [hrun] at hmade
        refine ⟨halbums.made hworld hmade hdrawn ?_, hobligations.albumMade hworld hmade hrise⟩
        simp [drawnBinding, hcall, hid]
  | associate clock auth request obligationId =>
      rw [hcall] at hrun hwrites
      have hrun : (associateAlbumPhoto move.world clock db auth request obligationId).1 = db' :=
        hrun
      refine ⟨halbums.kept (hwrites.albumsFrom (by simp [AlbumCall.part])) hdrawn, ?_⟩
      rcases @associateAlbumPhoto_changes move.world clock db auth request obligationId with
        hsame | ⟨o, hmade, _⟩
      · rw [hrun] at hsame
        exact hsame ▸ hobligations
      · rw [hrun] at hmade
        exact hobligations.made hworld hmade hrise
  | _ =>
      rw [hcall] at hwrites
      have hfrom := hwrites.albumsFrom (by simp [AlbumCall.part])
      have hobligationsFrom := hwrites.obligationsFrom (by simp [AlbumCall.part])
        (by simp [AlbumCall.part])
      exact ⟨halbums.kept hfrom hdrawn, hobligations.kept hobligationsFrom hrise⟩

/-- The call that makes an album is the one that changes the tables. -/
theorem AlbumStep.ensureMade_counts (hstep : AlbumStep db move db')
    (halbums : AlbumsUnique userOf drawn db') (key : Token × Token) :
    (if ∃ b ∈ db'.bindings, b.identity.collection = key then 1 else 0) =
      (if ∃ b ∈ db.bindings, b.identity.collection = key then 1 else 0) +
        if ensureMade ⟨db, move, db'⟩ = some key then 1 else 0 := by
  have hwrites := hstep.writes
  have hstay : (∃ b ∈ db.bindings, b.identity.collection = key) →
      ∃ b ∈ db'.bindings, b.identity.collection = key := by
    rintro ⟨b, hb, hkey⟩
    obtain ⟨b', hb', hsame, _⟩ :=
      (RemovalsKept.writes hwrites).bindings b.bindingId b (Table.find?_of_mem hb)
    exact ⟨b', Table.mem_of_find? hb', hsame ▸ hkey⟩
  have hrun : move.call.run move.world db = db' := hstep
  cases hcall : move.call with
  | ensure clock auth request bindingId obligationId =>
      rw [hcall] at hrun
      have hrun : (ensureAlbumBinding move.world clock db auth request bindingId
        obligationId).1 = db' := hrun
      rcases @ensureAlbumBinding_changes move.world clock db auth request bindingId obligationId
        with hsame | ⟨b, hmade, _⟩
      · rw [hrun] at hsame
        subst hsame
        simp [ensureMade, hcall]
      · rw [hrun] at hmade
        have hmem : ∀ other, other ∈ db'.bindings ↔ other ∈ db.bindings ∨ other = b :=
          fun _ => Table.mem_insert? hmade.bindings
        have hb : b ∈ db'.bindings := (hmem b).mpr (Or.inr rfl)
        have hnew : b ∉ db.bindings := by
          intro hold
          have hfresh := (Table.insert?_eq_some hmade.bindings).1
          rw [Table.find?_of_mem hold] at hfresh
          cases hfresh
        have hchanged : ¬ db' = db := by
          rintro rfl
          exact hnew hb
        by_cases hkey : request.collection = key
        · have hnone : ¬ ∃ other ∈ db.bindings, other.identity.collection = key := by
            rintro ⟨other, hother, hcollection⟩
            have heq := halbums.collections other ((hmem other).mpr (Or.inl hother)) b hb
              (hcollection.trans (hkey.symm.trans hmade.collection.symm))
            exact hnew (heq ▸ hother)
          have hsome : ∃ other ∈ db'.bindings, other.identity.collection = key :=
            ⟨b, hb, hmade.collection.trans hkey⟩
          rw [if_pos hsome, if_neg hnone]
          simp [ensureMade, hcall, hchanged, hkey]
        · have hsame : (∃ other ∈ db'.bindings, other.identity.collection = key) ↔
              ∃ other ∈ db.bindings, other.identity.collection = key := by
            refine ⟨?_, hstay⟩
            rintro ⟨other, hother, hcollection⟩
            rcases (hmem other).mp hother with hold | rfl
            · exact ⟨other, hold, hcollection⟩
            · exact absurd (hmade.collection.symm.trans hcollection) hkey
          simp only [hsame]
          simp [ensureMade, hcall, hchanged, hkey]
  | _ =>
      rw [hcall] at hwrites
      have hfrom := hwrites.albumsFrom (by simp [AlbumCall.part])
      have hsame : (∃ b ∈ db'.bindings, b.identity.collection = key) ↔
          ∃ b ∈ db.bindings, b.identity.collection = key := by
        refine ⟨?_, hstay⟩
        rintro ⟨b', hb', hkey⟩
        obtain ⟨b, hb, hidentity⟩ := hfrom b' hb'
        exact ⟨b, hb, hidentity ▸ hkey⟩
      simp only [hsame]
      simp [ensureMade, hcall]

/-- Only the call that made an album reports it. -/
theorem AlbumStep.ensureMade_of_reported {key : Token × Token} (hstep : AlbumStep db move db')
    (halbums : AlbumsUnique userOf drawn db)
    (hfresh : ∀ id, drawnBinding ⟨db, move, db'⟩ = some id → id ∉ drawn)
    (hreported : ensureReported ⟨db, move, db'⟩ = some key) :
    ensureMade ⟨db, move, db'⟩ = some key := by
  have hrun : move.call.run move.world db = db' := hstep
  unfold ensureReported at hreported
  unfold ensureMade
  unfold drawnBinding at hfresh
  simp only at hreported hfresh ⊢
  split at hreported
  swap
  · cases hreported
  next clock auth request bindingId obligationId hcall =>
  simp only [hcall] at hfresh ⊢
  rw [hcall] at hrun
  have hrun : (ensureAlbumBinding move.world clock db auth request bindingId
    obligationId).1 = db' := hrun
  split at hreported
  swap
  · cases hreported
  next answer hanswer =>
  split at hreported
  swap
  · cases hreported
  next hcreated =>
  cases hreported
  obtain ⟨_, userId, s, _, _, _, hbound, _, hflag⟩ := ensureAlbumBinding_answer hanswer
  rw [hrun] at hbound
  rw [hflag, decide_eq_true_eq] at hcreated
  rw [if_neg]
  rintro rfl
  have hmem : answer.binding ∈ db'.bindings := List.mem_of_find?_eq_some hbound
  exact hfresh bindingId rfl (hcreated ▸ halbums.drawn _ hmem)

/-- The call that made an album reports it, unless its clock ran back. -/
theorem AlbumStep.reported_of_ensureMade {key : Token × Token} (hstep : AlbumStep db move db')
    (hforward : ensureForward ⟨db, move, db'⟩) (hmade : ensureMade ⟨db, move, db'⟩ = some key) :
    ensureReported ⟨db, move, db'⟩ = some key := by
  have hrun : move.call.run move.world db = db' := hstep
  unfold ensureMade at hmade
  unfold ensureReported
  unfold ensureForward at hforward
  simp only at hmade hforward ⊢
  split at hmade
  swap
  · cases hmade
  next clock auth request bindingId obligationId hcall =>
  simp only [hcall] at hforward ⊢
  rw [hcall] at hrun
  have hrun : (ensureAlbumBinding move.world clock db auth request bindingId
    obligationId).1 = db' := hrun
  split at hmade
  · cases hmade
  next hchanged =>
  cases hmade
  rcases @ensureAlbumBinding_changes move.world clock db auth request bindingId obligationId
    with hsame | ⟨b, hmade, hid, hauthorized, _, hread⟩
  · exact absurd (hrun.symm.trans hsame) hchanged
  · subst hid
    rw [hread, ensureRead_of_made hmade hauthorized hforward]
    rfl

end Steps

section Runs

variable {userOf photoOf : Token → Token} {db : AlbumDb} {trace : List (Move AlbumDb AlbumMove)}

theorem albums_admitted (hrun : Run AlbumStep emptyAlbumDb trace db)
    (hworlds : ∀ move ∈ trace, move.label.world.Retains userOf photoOf) :
    AlbumsUnique userOf (trace.filterMap drawnBinding) db ∧ ObligationsUnique photoOf db := by
  generalize hstart : emptyAlbumDb = start at hrun
  induction hrun with
  | nil =>
      subst hstart
      constructor
      · constructor
        · intro b hb
          exact absurd hb (Table.not_mem_empty b)
        · intro b hb
          exact absurd hb (Table.not_mem_empty b)
        · intro b hb
          exact absurd hb (Table.not_mem_empty b)
      · constructor
        · intro o ho
          exact absurd ho (Table.not_mem_empty o)
        · intro o ho
          exact absurd ho (Table.not_mem_empty o)
        · intro o ho
          exact absurd ho (Table.not_mem_empty o)
  | @snoc before after front label hrun hstep ih =>
      obtain ⟨halbums, hobligations⟩ :=
        ih (fun move hmove => hworlds move (List.mem_append_left _ hmove))
      have hadmitted := hstep.admitted
        (hworlds ⟨before, label, after⟩ (by simp)) halbums hobligations
      rw [List.filterMap_append]
      cases hdrawn : drawnBinding ⟨before, label, after⟩ with
      | none => simpa [hdrawn] using hadmitted
      | some id => simpa [hdrawn] using hadmitted

/-- Every album was made by one call. -/
theorem albums_made_once (hrun : Run AlbumStep emptyAlbumDb trace db)
    (hworlds : ∀ move ∈ trace, move.label.world.Retains userOf photoOf) (key : Token × Token) :
    (trace.countP fun move => ensureMade move = some key) =
      if ∃ b ∈ db.bindings, b.identity.collection = key then 1 else 0 := by
  generalize hstart : emptyAlbumDb = start at hrun
  induction hrun with
  | nil =>
      subst hstart
      rw [if_neg]
      · rfl
      · rintro ⟨b, hb, _⟩
        exact absurd hb (Table.not_mem_empty b)
  | @snoc before after front label hrun hstep ih =>
      have hcount := ih (fun move hmove => hworlds move (List.mem_append_left _ hmove))
      subst hstart
      have halbums := (albums_admitted (hrun.snoc hstep) hworlds).1
      rw [hstep.ensureMade_counts halbums key, List.countP_append, List.countP_singleton, hcount]
      simp only [decide_eq_true_eq]

/-- A call that reports a new album made it, when no id is drawn twice. -/
theorem albums_reported (hrun : Run AlbumStep emptyAlbumDb trace db)
    (hworlds : ∀ move ∈ trace, move.label.world.Retains userOf photoOf)
    (hdrawn : (trace.filterMap drawnBinding).Nodup) :
    ∀ move ∈ trace, ∀ key, ensureReported move = some key → ensureMade move = some key := by
  intro move hmove key hreported
  obtain ⟨front, back, rfl⟩ := List.append_of_mem hmove
  obtain ⟨hfront, hstep, _⟩ := Run.around hrun
  have halbums := (albums_admitted hfront
    (fun earlier hearlier => hworlds earlier (List.mem_append_left _ hearlier))).1
  apply hstep.ensureMade_of_reported halbums _ hreported
  intro id hid hmem
  rw [List.filterMap_append, List.filterMap_cons_some hid] at hdrawn
  exact (List.nodup_append.mp hdrawn).2.2 id hmem id List.mem_cons_self rfl

/-- The albums of a run: one for a collection, made by one call, which alone can report that
it created it. -/
structure AlbumsOnce (trace : List (Move AlbumDb AlbumMove)) (db : AlbumDb) : Prop where
  unique : ∀ b ∈ db.bindings, ∀ b' ∈ db.bindings,
    b.identity.collection = b'.identity.collection → b = b'
  made : ∀ key, (trace.countP fun move => ensureMade move = some key) =
    if ∃ b ∈ db.bindings, b.identity.collection = key then 1 else 0
  reported : ∀ move ∈ trace, ∀ key, ensureReported move = some key → ensureMade move = some key
  confirmed : ∀ move ∈ trace, ∀ key, ensureMade move = some key → ensureForward move →
    ensureReported move = some key

/-- An ensure call for a collection that has an album writes nothing, and if it succeeds it
names that album and its first obligation. -/
def EnsureRepeats (w : AlbumWorld) (db : AlbumDb) (identity : AlbumIdentity) : Prop :=
  ∀ clock auth request bindingId obligationId, request.collection = identity.collection →
    (ensureAlbumBinding w clock db auth request bindingId obligationId).1 = db ∧
    ∀ answer,
      (ensureAlbumBinding w clock db auth request bindingId obligationId).2 = .ok answer →
      answer.binding.identity = identity ∧ answer.binding ∈ db.bindings ∧
      answer.obligation.obligationId = identity.firstObligationId ∧
      answer.obligation ∈ db.obligations ∧
      (bindingId ≠ identity.bindingId → answer.created = false)

/-- An association for a photo that has its obligation writes nothing; if it succeeds it names
that obligation, and it succeeds when it has its authority. -/
def AssociateRepeats (w : AlbumWorld) (db : AlbumDb) (identity : ObligationIdentity) : Prop :=
  ∀ clock auth request obligationId, request.pair = identity.pair →
    (associateAlbumPhoto w clock db auth request obligationId).1 = db ∧
    (∀ answer, (associateAlbumPhoto w clock db auth request obligationId).2 = .ok answer →
      answer.obligation.identity = identity ∧ answer.obligation ∈ db.obligations) ∧
    (revisionInRange request.expectedBindingRevision ∧
        revisionInRange request.expectedVerificationRevision →
      associateAuthorized ⟨w, clock.decision⟩ db auth request →
      ∃ answer, (associateAlbumPhoto w clock db auth request obligationId).2 = .ok answer)

/-- An ensure call without its authority, or with a stale proof for a collection without an
album, is refused and changes nothing. -/
def EnsureRefuses (w : AlbumWorld) (db : AlbumDb) : Prop :=
  ∀ clock auth request bindingId obligationId,
    (¬ ensureAuthorized ⟨w, clock.insert⟩ auth request ∧
        ¬ ensureAuthorized ⟨w, clock.decision⟩ auth request) ∨
      ((∀ b ∈ db.bindings, b.identity.collection ≠ request.collection) ∧
        ∀ p ∈ w.flickr.bindings.find? request.photoBindingId,
          p.verificationRevision ≠ request.expectedVerificationRevision) →
    ∃ error, ensureAlbumBinding w clock db auth request bindingId obligationId =
      (db, .error error)

/-- An association without its authority, or for a new photo with an archived album or a stale
revision, is refused and changes nothing. -/
def AssociateRefuses (w : AlbumWorld) (db : AlbumDb) : Prop :=
  ∀ clock auth request obligationId,
    (¬ associateAuthorized ⟨w, clock.insert⟩ db auth request ∧
        ¬ associateAuthorized ⟨w, clock.decision⟩ db auth request) ∨
      ((∀ o ∈ db.obligations, o.identity.pair ≠ request.pair) ∧
        ((∀ b ∈ db.bindings.find? request.bindingId,
            b.archived ∨ b.bindingRevision ≠ request.expectedBindingRevision) ∨
          ∀ p ∈ w.flickr.bindings.find? request.photoBindingId,
            p.verificationRevision ≠ request.expectedVerificationRevision)) →
    ∃ error, associateAlbumPhoto w clock db auth request obligationId = (db, .error error)

/-- An error is an answer that is no success. -/
theorem error_of_refused {α : Type} {result : Answer α} (hsame : result.1 = db)
    (hrefused : ∀ answer, result.2 ≠ .ok answer) : ∃ error, result = (db, .error error) := by
  obtain ⟨after, answer⟩ := result
  cases answer with
  | ok answer => exact absurd rfl (hrefused answer)
  | error error => exact ⟨error, Prod.ext hsame rfl⟩

variable {w : AlbumWorld}

theorem ensureRepeats {drawn : List Token} {b : AlbumBinding} (hworld : w.Retains userOf photoOf)
    (halbums : AlbumsUnique userOf drawn db) (hb : b ∈ db.bindings) :
    EnsureRepeats w db b.identity := by
  intro clock auth request bindingId obligationId hcollection
  have hsame : (ensureAlbumBinding w clock db auth request bindingId obligationId).1 = db := by
    rcases @ensureAlbumBinding_changes w clock db auth request bindingId obligationId with
      hsame | ⟨made, hmade, _⟩
    · exact hsame
    · have hafter : AlbumsUnique userOf (made.bindingId :: drawn)
          (ensureAlbumBinding w clock db auth request bindingId obligationId).1 :=
        halbums.made hworld hmade (by simp +contextual) (by simp)
      have heq := hafter.collections b ((Table.mem_insert? hmade.bindings).mpr (Or.inl hb)) made
        ((Table.mem_insert? hmade.bindings).mpr (Or.inr rfl))
        (hcollection.symm.trans hmade.collection.symm)
      have hfresh := (Table.insert?_eq_some hmade.bindings).1
      rw [← heq, Table.find?_of_mem hb] at hfresh
      cases hfresh
  refine ⟨hsame, ?_⟩
  intro answer hanswer
  obtain ⟨_, userId, s, _, _, _, hbound, hfirst, hcreated⟩ := ensureAlbumBinding_answer hanswer
  rw [hsame] at hbound hfirst
  have hmem : answer.binding ∈ db.bindings := List.mem_of_find?_eq_some hbound
  have hnamed := List.find?_some hbound
  simp only [decide_eq_true_eq] at hnamed
  obtain ⟨_, hservice, hlocal⟩ := hnamed
  have heq : answer.binding = b := by
    apply halbums.collections _ hmem b hb
    rw [← hcollection]
    exact congrArg₂ Prod.mk hservice hlocal
  obtain ⟨hobligation, _⟩ := Option.filter_eq_some_iff.mp hfirst
  refine ⟨by rw [heq], hmem, ?_, Table.mem_of_find? hobligation, ?_⟩
  · rw [Table.key_of_find? hobligation, heq]
  · intro hdrawn
    rw [hcreated, heq, decide_eq_false_iff_not]
    exact Ne.symm hdrawn

theorem associateRepeats {o : AlbumObligation} (hreachable : Reachable AlbumStep AlbumInitial db)
    (hworld : w.Retains userOf photoOf) (hobligations : ObligationsUnique photoOf db)
    (hwhole : ArchivedWhole db) (ho : o ∈ db.obligations) : AssociateRepeats w db o.identity := by
  intro clock auth request obligationId hpair
  obtain ⟨halbum, hphoto⟩ := Prod.mk.inj hpair
  have hsame : (associateAlbumPhoto w clock db auth request obligationId).1 = db := by
    rcases @associateAlbumPhoto_changes w clock db auth request obligationId with
      hsame | ⟨made, hmade, _⟩
    · exact hsame
    · obtain ⟨halbum', hphoto'⟩ := Prod.mk.inj (hpair.symm.trans hmade.pair.symm)
      exact absurd hphoto' (hmade.unbound o ho halbum')
  have hbound : ∀ o', db.obligationOf request.bindingId request.photoBindingId = some o' →
      o' = o := by
    intro o' ho'
    have hnamed := List.find?_some ho'
    simp only [decide_eq_true_eq] at hnamed
    apply hobligations.pairs o' (List.mem_of_find?_eq_some ho') o ho
    exact (congrArg₂ Prod.mk hnamed.1 hnamed.2).trans hpair
  refine ⟨hsame, ?_, ?_⟩
  · intro answer hanswer
    obtain ⟨_, _, hfound⟩ := associateAlbumPhoto_answer hanswer
    rw [hsame] at hfound
    rw [hbound _ hfound]
    exact ⟨rfl, ho⟩
  · intro hvalid hauthorized
    have hfound : db.obligationOf request.bindingId request.photoBindingId = some o := by
      cases hfind : db.obligationOf request.bindingId request.photoBindingId with
      | some o' => rw [hbound o' hfind]
      | none =>
          have hnone := List.find?_eq_none.mp hfind o ho
          simp only [decide_eq_true_eq] at hnone
          exact absurd ⟨halbum.symm, hphoto.symm⟩ hnone
    obtain ⟨b, hb, hreached⟩ := hobligations.placed o ho
    have halbumId : o.albumBindingId = request.bindingId := halbum.symm
    rw [halbumId] at hb
    have haudited : db.obligationAudited o := by
      obtain ⟨e, he, hid, hrevision, hshown⟩ := ((album_ledgers_gap_free hreachable).2 o ho).last
      have hkey : e.key = (o.obligationId, o.obligationRevision) := congrArg₂ Prod.mk hid hrevision
      exact ⟨e, hkey ▸ Table.find?_of_mem he, hshown⟩
    have hfits : ∀ p, w.flickr.bindings.find? request.photoBindingId = some p →
        ¬ associateBroken b p o true := by
      intro p hp hbroken
      rcases hbroken with hother | hunaudited | hlow | ⟨hclosed, hactive⟩
      · apply hother
        have hphotoId : o.photoBindingId = request.photoBindingId := hphoto.symm
        rw [hobligations.photos o ho, hworld.photos p (Table.mem_of_find? hp),
          Table.key_of_find? hp, hphotoId]
      · cases hunaudited
      · omega
      · exact hactive (hwhole.obligations _ b hb hclosed o ho halbumId)
    refine ⟨⟨decide (o.obligationId = obligationId), b, o⟩, ?_⟩
    have hread : associateRead ⟨w, clock.decision⟩ auth request obligationId db =
        .ok ⟨decide (o.obligationId = obligationId), b, o⟩ :=
      associateRead_of_bound hauthorized hb hfound hfits haudited
    have hrow : ((associateContext ⟨w, clock.insert⟩ db auth request).bind
        (associateRow request obligationId)) = none := by
      rw [Option.bind_eq_none_iff]
      intro context hcontext
      obtain ⟨userId, huser, hselected⟩ := selected_of_associateContext hcontext
      by_contra hsome
      obtain ⟨made, hmade⟩ := Option.ne_none_iff_exists'.mp hsome
      obtain ⟨hnone, hpassed⟩ := associateRow_guard hmade
      obtain ⟨_, _, _, _, _, _, _, hobligation, _⟩ := associate_of_noError huser hselected hpassed
      rw [hnone, hfound] at hobligation
      cases hobligation
    unfold associateAlbumPhoto
    rw [if_pos hvalid, hrow, batchAnswer_none]
    exact hread

theorem ensureRefuses : EnsureRefuses w db := by
  intro clock auth request bindingId obligationId h
  have hsame : (ensureAlbumBinding w clock db auth request bindingId obligationId).1 = db := by
    rcases @ensureAlbumBinding_changes w clock db auth request bindingId obligationId with
      hsame | ⟨made, hmade, _, hauthorized, ⟨p, hp, hverified⟩, _⟩
    · exact hsame
    · rcases h with ⟨hinsert, _⟩ | ⟨_, hstale⟩
      · exact absurd hauthorized hinsert
      · exact absurd hverified (hstale p hp)
  apply error_of_refused hsame
  intro answer hanswer
  obtain ⟨hauthorized, userId, s, _, _, _, hbound, _⟩ := ensureAlbumBinding_answer hanswer
  rcases h with ⟨_, hdecision⟩ | ⟨hunbound, _⟩
  · exact hdecision hauthorized
  · rw [hsame] at hbound
    have hnamed := List.find?_some hbound
    simp only [decide_eq_true_eq] at hnamed
    exact hunbound _ (List.mem_of_find?_eq_some hbound)
      (congrArg₂ Prod.mk hnamed.2.1 hnamed.2.2)

theorem associateRefuses : AssociateRefuses w db := by
  intro clock auth request obligationId h
  have hsame : (associateAlbumPhoto w clock db auth request obligationId).1 = db := by
    rcases @associateAlbumPhoto_changes w clock db auth request obligationId with
      hsame | ⟨made, hmade, hauthorized, p, hp, hverified⟩
    · exact hsame
    · rcases h with ⟨hinsert, _⟩ | ⟨_, hclosed | hstale⟩
      · exact absurd hauthorized hinsert
      · obtain ⟨b, hb, hopen, hrevision, _⟩ := hmade.binding
        have halbum : made.albumBindingId = request.bindingId := congrArg Prod.fst hmade.pair
        rw [halbum] at hb
        rcases hclosed b hb with harchived | hne
        · exact absurd harchived hopen
        · exact absurd hrevision hne
      · exact absurd hverified (hstale p hp)
  apply error_of_refused hsame
  intro answer hanswer
  obtain ⟨hauthorized, _, hbound⟩ := associateAlbumPhoto_answer hanswer
  rw [hsame] at hauthorized hbound
  rcases h with ⟨_, hdecision⟩ | ⟨hunbound, _⟩
  · exact hdecision hauthorized
  · have hnamed := List.find?_some hbound
    simp only [decide_eq_true_eq] at hnamed
    exact hunbound _ (List.mem_of_find?_eq_some hbound) (congrArg₂ Prod.mk hnamed.1 hnamed.2)

end Runs

/-- In every run of the album calls, while the rest of the database keeps the users of services
and the photos of photo bindings and no ensure call draws an id again: each collection has at
most one album, made by exactly one ensure call, which alone can report it; every other
successful ensure names it and its first obligation and writes nothing; each photo has at most
one obligation in an album; an association moves its album by one revision with the obligation
it makes, or changes nothing; a repeated one finds the obligation; and what is stale or has no
authority is refused. -/
theorem albums_and_obligations {userOf photoOf : Token → Token} {db : AlbumDb}
    {trace : List (Move AlbumDb AlbumMove)} (hrun : Run AlbumStep emptyAlbumDb trace db)
    (hworlds : ∀ move ∈ trace, move.label.world.Retains userOf photoOf)
    (hdrawn : (trace.filterMap drawnBinding).Nodup) :
    AlbumsOnce trace db ∧
    (∀ o ∈ db.obligations, ∀ o' ∈ db.obligations,
      o.identity.pair = o'.identity.pair → o = o') ∧
    (∀ w clock auth request obligationId,
      (associateAlbumPhoto w clock db auth request obligationId).1 = db ∨
      ∃ o, ObligationMade w db (associateAlbumPhoto w clock db auth request obligationId).1
        request o) ∧
    (∀ later db', Run AlbumStep db later db' →
      (∀ move ∈ later, move.label.world.Retains userOf photoOf) →
      ∀ w : AlbumWorld, w.Retains userOf photoOf →
        (∀ b ∈ db.bindings, EnsureRepeats w db' b.identity) ∧
        ∀ o ∈ db.obligations, AssociateRepeats w db' o.identity) ∧
    ∀ w, EnsureRefuses w db ∧ AssociateRefuses w db := by
  obtain ⟨halbums, hobligations⟩ := albums_admitted hrun hworlds
  refine ⟨?_, hobligations.pairs, ?_, ?_, ?_⟩
  · constructor
    · exact halbums.collections
    · exact albums_made_once hrun hworlds
    · exact albums_reported hrun hworlds hdrawn
    · intro move hmove key hmade hforward
      obtain ⟨front, back, rfl⟩ := List.append_of_mem hmove
      exact (Run.around hrun).2.1.reported_of_ensureMade hforward hmade
  · intro w clock auth request obligationId
    rcases @associateAlbumPhoto_changes w clock db auth request obligationId with
      hsame | ⟨o, hmade, _⟩
    · exact Or.inl hsame
    · exact Or.inr ⟨o, hmade⟩
  · intro later db' hlater hlaterWorlds w hworld
    have hall := hrun.append hlater
    obtain ⟨halbums', hobligations'⟩ := albums_admitted hall (by
      intro move hmove
      rcases List.mem_append.mp hmove with hearly | hlate
      · exact hworlds move hearly
      · exact hlaterWorlds move hlate)
    have hreachable : Reachable AlbumStep AlbumInitial db' := ⟨emptyAlbumDb, _, rfl, hall⟩
    have hkept := RemovalsKept.run hlater
    constructor
    · intro b hb
      obtain ⟨b', hb', hsame, _⟩ := hkept.bindings b.bindingId b (Table.find?_of_mem hb)
      rw [← hsame]
      exact ensureRepeats hworld halbums' (Table.mem_of_find? hb')
    · intro o ho
      obtain ⟨o', ho', hsame, _⟩ := hkept.obligations o.obligationId o (Table.find?_of_mem ho)
      rw [← hsame]
      exact associateRepeats hreachable hworld hobligations' (archivedWhole_reachable hreachable)
        (Table.mem_of_find? ho')
  · intro w
    exact ⟨ensureRefuses, associateRefuses⟩

namespace AlbumSample

def userOf (_ : Token) : Token := user

def photoOf (photoBindingId : Token) : Token :=
  if photoBindingId = firstBinding then firstPhoto else otherPhoto

/-- The association of the sample, made again with a stale revision. -/
def associateAgain (db : AlbumDb) : Answer ObligationAnswer :=
  associateAlbumPhoto world (at_ 9) db auth ⟨album, otherBinding, 1, 1⟩ createAttempt

end AlbumSample

/-- The sample album was made once, and once it is removed the association made again still
names its obligation. -/
theorem albums_and_obligations_sample : ∃ db trace,
    Run AlbumStep emptyAlbumDb trace db ∧ AlbumsOnce trace db ∧
    db.bindings.rows.length = 1 ∧ db.obligations.rows.length = 2 ∧
    (AlbumSample.associateAgain db).1 = db ∧
    ∃ answer, (AlbumSample.associateAgain db).2 = .ok answer ∧
      answer.obligation.obligationId = AlbumSample.otherObligation := by
  have hsome : (execAll AlbumMove.exec emptyAlbumDb AlbumSample.removed).isSome = true := by
    decide +kernel
  obtain ⟨db, hdb⟩ := Option.isSome_iff_exists.mp hsome
  have hfacts : ∀ db ∈ execAll AlbumMove.exec emptyAlbumDb AlbumSample.removed,
      db.bindings.rows.length = 1 ∧ db.obligations.rows.length = 2 ∧
      (∃ o ∈ db.obligations, o.identity.pair = (AlbumSample.album, AlbumSample.otherBinding) ∧
        o.obligationId = AlbumSample.otherObligation) ∧
      ∃ answer ∈ (AlbumSample.associateAgain db).2.toOption, answer.created = false := by
    decide +kernel
  have hlabels : ∀ move ∈ albumTrace emptyAlbumDb AlbumSample.removed,
      move.label.world = AlbumSample.world := by
    decide +kernel
  have hnodup : ((albumTrace emptyAlbumDb AlbumSample.removed).filterMap drawnBinding).Nodup := by
    decide +kernel
  have hworld : AlbumSample.world.Retains AlbumSample.userOf AlbumSample.photoOf := by
    constructor
    · decide +kernel
    · decide +kernel
  obtain ⟨halbums, hobligations, ⟨o, ho, hpair, hid⟩, answer, hanswer, _⟩ := hfacts db hdb
  have hrun := run_albumTrace hdb
  obtain ⟨honce, _, _, hrepeats, _⟩ := albums_and_obligations hrun
    (fun move hmove => hlabels move hmove ▸ hworld) hnodup
  have hanswer := Fallible.eq_ok_of_toOption hanswer
  obtain ⟨_, hassociates⟩ := hrepeats [] db (Run.nil db) (by simp) AlbumSample.world hworld
  obtain ⟨hsame, hnames, _⟩ := hassociates o ho (AlbumSample.at_ 9) AlbumSample.auth
    ⟨AlbumSample.album, AlbumSample.otherBinding, 1, 1⟩ AlbumSample.createAttempt hpair.symm
  refine ⟨db, _, hrun, honce, halbums, hobligations, hsame, answer, hanswer, ?_⟩
  rw [AlbumObligation.obligationId, (hnames answer hanswer).1]
  exact hid

end FlickrGroupAddr

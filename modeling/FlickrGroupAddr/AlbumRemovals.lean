import FlickrGroupAddr.AlbumLedgers
import FlickrGroupAddr.Lib.Fallible

/-!
# Local removal

A removal archives what it names and keeps one receipt of it; nothing that was archived
comes back, and a repeated request answers with the receipt that is kept.
-/

namespace FlickrGroupAddr

set_option autoImplicit false

open KeyedTable Transition

/-! ## What stays archived -/

/-- What every later state keeps of the archived rows and of the receipts. -/
structure RemovalsKept (db db' : AlbumDb) : Prop where
  bindings : ∀ bindingId b, db.bindings.find? bindingId = some b →
    ∃ b', db'.bindings.find? bindingId = some b' ∧ b'.identity = b.identity ∧
      (b.archived → b'.archived ∧ b'.desiredTitle = b.desiredTitle ∧
        b'.titleRevision = b.titleRevision)
  obligations : ∀ obligationId o, db.obligations.find? obligationId = some o →
    ∃ o', db'.obligations.find? obligationId = some o' ∧ o'.identity = o.identity ∧
      (o.localRelationship = .archived → o'.localRelationship = .archived)
  located : ∀ bindingId photoBindingId o, db.obligationOf bindingId photoBindingId = some o →
    ∃ o', db'.obligationOf bindingId photoBindingId = some o' ∧ o'.identity = o.identity
  closed : ∀ bindingId b, db.bindings.find? bindingId = some b → b.archived →
    ∀ o' ∈ db'.obligations, o'.albumBindingId = bindingId →
      ∃ o ∈ db.obligations, o.identity = o'.identity
  untitled : ∀ bindingId b, db.bindings.find? bindingId = some b → b.archived →
    ∀ r ∈ db'.titleReceipts, r.bindingId = bindingId → r ∈ db.titleReceipts
  albumReceipts : ∀ bindingId r, db.albumRemovals.find? bindingId = some r →
    db'.albumRemovals.find? bindingId = some r
  photoReceipts : ∀ obligationId r, db.photoRemovals.find? obligationId = some r →
    db'.photoRemovals.find? obligationId = some r

namespace RemovalsKept

theorem of_eq {db db' : AlbumDb} (hbindings : db'.bindings = db.bindings)
    (hobligations : db'.obligations = db.obligations)
    (htitles : db'.titleReceipts = db.titleReceipts)
    (halbum : db'.albumRemovals = db.albumRemovals)
    (hphoto : db'.photoRemovals = db.photoRemovals) : RemovalsKept db db' := by
  constructor
  · intro bindingId b hb
    rw [hbindings]
    exact ⟨b, hb, rfl, fun harchived => ⟨harchived, rfl, rfl⟩⟩
  · intro obligationId o ho
    rw [hobligations]
    exact ⟨o, ho, rfl, id⟩
  · intro bindingId photoBindingId o ho
    unfold AlbumDb.obligationOf
    rw [hobligations]
    exact ⟨o, ho, rfl⟩
  · intro bindingId b _ _ o' ho' _
    rw [hobligations] at ho'
    exact ⟨o', ho', rfl⟩
  · intro bindingId b _ _ r hr _
    rwa [htitles] at hr
  · intro bindingId r hr
    rwa [halbum]
  · intro obligationId r hr
    rwa [hphoto]

theorem same (db : AlbumDb) : RemovalsKept db db := of_eq rfl rfl rfl rfl rfl

theorem trans {db middle db' : AlbumDb} (hfirst : RemovalsKept db middle)
    (hlast : RemovalsKept middle db') : RemovalsKept db db' := by
  constructor
  · intro bindingId b hb
    obtain ⟨b₁, hb₁, hid₁, hkept₁⟩ := hfirst.bindings bindingId b hb
    obtain ⟨b₂, hb₂, hid₂, hkept₂⟩ := hlast.bindings bindingId b₁ hb₁
    refine ⟨b₂, hb₂, hid₂.trans hid₁, ?_⟩
    intro harchived
    obtain ⟨harchived₁, htitle₁, hrevision₁⟩ := hkept₁ harchived
    obtain ⟨harchived₂, htitle₂, hrevision₂⟩ := hkept₂ harchived₁
    exact ⟨harchived₂, htitle₂.trans htitle₁, hrevision₂.trans hrevision₁⟩
  · intro obligationId o ho
    obtain ⟨o₁, ho₁, hid₁, hkept₁⟩ := hfirst.obligations obligationId o ho
    obtain ⟨o₂, ho₂, hid₂, hkept₂⟩ := hlast.obligations obligationId o₁ ho₁
    exact ⟨o₂, ho₂, hid₂.trans hid₁, fun harchived => hkept₂ (hkept₁ harchived)⟩
  · intro bindingId photoBindingId o ho
    obtain ⟨o₁, ho₁, hid₁⟩ := hfirst.located bindingId photoBindingId o ho
    obtain ⟨o₂, ho₂, hid₂⟩ := hlast.located bindingId photoBindingId o₁ ho₁
    exact ⟨o₂, ho₂, hid₂.trans hid₁⟩
  · intro bindingId b hb harchived o' ho' halbum
    obtain ⟨b₁, hb₁, _, hkept₁⟩ := hfirst.bindings bindingId b hb
    obtain ⟨o₁, ho₁, hid₁⟩ := hlast.closed bindingId b₁ hb₁ (hkept₁ harchived).1 o' ho' halbum
    have halbum₁ : o₁.albumBindingId = bindingId := by
      rw [← halbum]
      exact congrArg ObligationIdentity.albumBindingId hid₁
    obtain ⟨o, ho, hid⟩ := hfirst.closed bindingId b hb harchived o₁ ho₁ halbum₁
    exact ⟨o, ho, hid.trans hid₁⟩
  · intro bindingId b hb harchived r hr hid
    obtain ⟨b₁, hb₁, _, hkept₁⟩ := hfirst.bindings bindingId b hb
    have hr₁ := hlast.untitled bindingId b₁ hb₁ (hkept₁ harchived).1 r hr hid
    exact hfirst.untitled bindingId b hb harchived r hr₁ hid
  · intro bindingId r hr
    exact hlast.albumReceipts bindingId r (hfirst.albumReceipts bindingId r hr)
  · intro obligationId r hr
    exact hlast.photoReceipts obligationId r (hfirst.photoReceipts obligationId r hr)

instance : IsPreorder AlbumDb RemovalsKept where
  refl := same
  trans _ _ _ := trans

theorem setBinding {db db' : AlbumDb} {new : AlbumBinding} (h : db.setBinding new = some db') :
    RemovalsKept db db' := by
  rcases AlbumDb.setBinding_eq_some h with ⟨_, rfl⟩ | ⟨old, hold, hallowed, hmove⟩
  · exact same db'
  have hset : RemovalsKept db { db with bindings := db.bindings.set new } := by
    have hbindings : ∀ bindingId b, db.bindings.find? bindingId = some b →
        ∃ b', (db.bindings.set new).find? bindingId = some b' ∧ b'.identity = b.identity ∧
          (b.archived → b'.archived ∧ b'.desiredTitle = b.desiredTitle ∧
            b'.titleRevision = b.titleRevision) := by
      intro bindingId b hb
      rw [Table.find?_set]
      split
      · next hkey =>
          rw [hkey, hold] at hb
          cases hb
          rw [hkey, hold]
          refine ⟨new, rfl, hallowed.identity.1, ?_⟩
          intro harchived
          obtain ⟨hstate, htitle, hrevision⟩ := hallowed.revision.2.2.2.2 harchived
          exact ⟨hstate.trans harchived, htitle, hrevision⟩
      · exact ⟨b, hb, rfl, fun harchived => ⟨harchived, rfl, rfl⟩⟩
    have hsame := same db
    exact ⟨hbindings, hsame.obligations, hsame.located, hsame.closed, hsame.untitled, hsame.albumReceipts,
      hsame.photoReceipts⟩
  rcases hmove with ⟨_, rfl⟩ | ⟨_, events, _, rfl⟩
  · exact hset
  · exact hset.trans (of_eq rfl rfl rfl rfl rfl)

/-- A new obligation comes last, so those that were there are still found first. -/
theorem located_insert {db : AlbumDb} {o : AlbumObligation}
    {obligations : Table AlbumObligation.obligationId}
    (hrow : db.obligations.insert? o = some obligations) (bindingId photoBindingId : Token)
    (other : AlbumObligation) (hother : db.obligationOf bindingId photoBindingId = some other) :
    ∃ o', ({ db with obligations := obligations } : AlbumDb).obligationOf bindingId
      photoBindingId = some o' ∧ o'.identity = other.identity := by
  refine ⟨other, ?_, rfl⟩
  unfold AlbumDb.obligationOf at hother ⊢
  simp only [(Table.insert?_eq_some hrow).2, List.find?_append, hother, Option.some_or]

theorem bindingCreated {db : AlbumDb} {b : AlbumBinding}
    {bindings : Table AlbumBinding.bindingId} {obligations : Table AlbumObligation.obligationId}
    (hrow : db.bindings.insert? b = some bindings)
    (hfirst : db.obligations.insert? (firstObligationRow b) = some obligations) :
    RemovalsKept db { db with bindings := bindings, obligations := obligations } := by
  have hfresh := (Table.insert?_eq_some hrow).1
  have hfreshObligation := (Table.insert?_eq_some hfirst).1
  constructor
  · intro bindingId other hother
    refine ⟨other, ?_, rfl, fun harchived => ⟨harchived, rfl, rfl⟩⟩
    have hne : bindingId ≠ b.bindingId := by
      rintro rfl
      rw [hfresh] at hother
      cases hother
    simp only [Table.find?_insert? hrow, if_neg hne, hother]
  · intro obligationId o ho
    refine ⟨o, ?_, rfl, id⟩
    have hne : obligationId ≠ (firstObligationRow b).obligationId := by
      rintro rfl
      rw [hfreshObligation] at ho
      cases ho
    simp only [Table.find?_insert? hfirst, if_neg hne, ho]
  · exact located_insert hfirst
  · intro bindingId other hother _ o' ho' halbum
    rcases (Table.mem_insert? hfirst).mp ho' with hold | rfl
    · exact ⟨o', hold, rfl⟩
    · have hsame : b.bindingId = bindingId := halbum
      rw [← hsame, hfresh] at hother
      cases hother
  · intro bindingId other _ _ r hr _
    exact hr
  · intro bindingId r hr
    exact hr
  · intro obligationId r hr
    exact hr

theorem setObligation {db db' : AlbumDb} {new : AlbumObligation}
    (h : db.setObligation new = some db') : RemovalsKept db db' := by
  rcases AlbumDb.setObligation_eq_some h with
    ⟨_, rfl⟩ | ⟨old, events, hold, hallowed, _, rfl⟩
  · exact same db'
  have hsame := same db
  refine ⟨hsame.bindings, ?_, ?_, ?_, hsame.untitled, hsame.albumReceipts, hsame.photoReceipts⟩
  · intro obligationId o ho
    simp only [Table.find?_set]
    split
    · next hkey =>
        rw [hkey, hold] at ho
        cases ho
        rw [hkey, hold]
        refine ⟨new, rfl, hallowed.identity, ?_⟩
        intro harchived
        rcases hallowed.due with ⟨_, hactive, hnew, _⟩ | ⟨hkept, _⟩ | ⟨hkept, _⟩
        · exact hnew
        · exact hkept.trans harchived
        · exact hkept.trans harchived
    · exact ⟨o, ho, rfl, id⟩
  · intro bindingId photoBindingId o ho
    have hsets : ∀ other ∈ db.obligations, other.obligationId = new.obligationId → other = old := by
      intro other hother hkey
      exact Table.eq_of_key_eq hother (Table.mem_of_find? hold)
        (hkey.trans (Table.key_of_find? hold).symm)
    unfold AlbumDb.obligationOf at ho ⊢
    rw [Table.find?_rows_set, ho, Option.map_some]
    · refine ⟨_, rfl, ?_⟩
      split
      · next hkey =>
          rw [hsets o (List.mem_of_find?_eq_some ho) hkey]
          exact hallowed.identity
      · rfl
    · intro other hother hkey
      rw [hsets other hother hkey]
      simp only [AlbumObligation.albumBindingId, AlbumObligation.photoBindingId, hallowed.identity]
      rfl
  · intro bindingId b _ _ o' ho' _
    rcases Table.mem_set_cases ho' with rfl | ⟨hold', _⟩
    · exact ⟨old, Table.mem_of_find? hold, hallowed.identity.symm⟩
    · exact ⟨o', hold', rfl⟩

theorem obligationAdmitted {db : AlbumDb} {m : Moment} {o : AlbumObligation}
    {obligations : Table AlbumObligation.obligationId}
    (hadmissible : AlbumDb.obligationAdmissible m db o)
    (hrow : db.obligations.insert? o = some obligations) :
    RemovalsKept db { db with obligations := obligations } := by
  have hfresh := (Table.insert?_eq_some hrow).1
  have hsame := same db
  refine ⟨hsame.bindings, ?_, located_insert hrow, ?_, hsame.untitled, hsame.albumReceipts,
    hsame.photoReceipts⟩
  · intro obligationId other hother
    refine ⟨other, ?_, rfl, id⟩
    have hne : obligationId ≠ o.obligationId := by
      rintro rfl
      rw [hfresh] at hother
      cases hother
    simp only [Table.find?_insert? hrow, if_neg hne, hother]
  · intro bindingId b hb harchived o' ho' halbum
    rcases (Table.mem_insert? hrow).mp ho' with hold | rfl
    · exact ⟨o', hold, rfl⟩
    · obtain ⟨_, other, hother, hopen, _⟩ := hadmissible
      rw [halbum, hb] at hother
      cases hother
      exact absurd harchived hopen

theorem titleReceipt {db : AlbumDb} {m : Moment} {r : AlbumTitleReceipt}
    {receipts : Table AlbumTitleReceipt.key} (hadmissible : AlbumDb.titleReceiptAdmissible m db r)
    (hrow : db.titleReceipts.insert? r = some receipts) :
    RemovalsKept db { db with titleReceipts := receipts } := by
  have hsame := same db
  refine ⟨hsame.bindings, hsame.obligations, hsame.located, hsame.closed, ?_,
    hsame.albumReceipts, hsame.photoReceipts⟩
  intro bindingId b hb harchived other hother hid
  rcases (Table.mem_insert? hrow).mp hother with hold | rfl
  · exact hold
  · obtain ⟨_, _, stored, hstored, ⟨_, _, hopen⟩, _⟩ := hadmissible
    rw [hid, hb] at hstored
    cases hstored
    exact absurd harchived hopen

/-- Every row write keeps what was archived. -/
theorem write {part : Option AlbumPart} {db db' : AlbumDb} (h : AlbumWrite part db db') : RemovalsKept db db' := by
  cases h with
  | binding new hset => exact setBinding hset
  | bindingCreated _ m b bindings events obligations obligationEvents _ hrow _ hfirst _ =>
      exact (@bindingCreated db b bindings obligations hrow hfirst).trans
        (of_eq rfl rfl rfl rfl rfl)
  | obligation new hset => exact setObligation hset
  | obligationAdmitted _ m o obligations events hadmissible _ hrow _ =>
      exact (obligationAdmitted hadmissible hrow).trans (of_eq rfl rfl rfl rfl rfl)
  | titleAttempt m new _ hset =>
      obtain ⟨titles, rfl⟩ := AlbumDb.titlesOnly_setTitleAttempt hset
      exact of_eq rfl rfl rfl rfl rfl
  | titleReceipt _ m r receipts hadmissible hrow => exact titleReceipt hadmissible hrow
  | photoRemoval _ m r receipts _ hrow =>
      have hfresh := (Table.insert?_eq_some hrow).1
      have hsame := same db
      refine ⟨hsame.bindings, hsame.obligations, hsame.located, hsame.closed, hsame.untitled,
        hsame.albumReceipts, ?_⟩
      intro obligationId other hother
      have hne : obligationId ≠ r.obligationId := by
        rintro rfl
        rw [hfresh] at hother
        cases hother
      simp only [Table.find?_insert? hrow, if_neg hne, hother]
  | albumRemoval _ m r receipts _ hrow =>
      have hfresh := (Table.insert?_eq_some hrow).1
      have hsame := same db
      refine ⟨hsame.bindings, hsame.obligations, hsame.located, hsame.closed, hsame.untitled, ?_,
        hsame.photoReceipts⟩
      intro bindingId other hother
      have hne : bindingId ≠ r.bindingId := by
        rintro rfl
        rw [hfresh] at hother
        cases hother
      simp only [Table.find?_insert? hrow, if_neg hne, hother]
  | _ => exact of_eq rfl rfl rfl rfl rfl

theorem writes {part : Option AlbumPart} {db db' : AlbumDb} (h : AlbumWrites part db db') :
    RemovalsKept db db' :=
  AlbumWrites.relates (fun _ _ _ => write) h

/-- Every run keeps what was archived. -/
theorem run {db db' : AlbumDb} {trace : List (Move AlbumDb AlbumMove)}
    (hrun : Run AlbumStep db trace db') : RemovalsKept db db' :=
  album_relates hrun fun _ _ _ => write

end RemovalsKept

/-! ## The commit of a removal -/

/-- The receipt that the removal of its album gives an obligation: of the active ones only. -/
def albumReceipt (removal : AlbumRemovalReceipt) (o : AlbumObligation) : Option PhotoRemovalReceipt :=
  if o.albumBindingId = removal.bindingId ∧ o.localRelationship = .active then
    some (AlbumDb.albumSourceReceipt removal o)
  else none

/-- The row of an obligation after the removal of an album. -/
def afterAlbumRemoval (removal : AlbumRemovalReceipt) (o : AlbumObligation) : AlbumObligation :=
  match albumReceipt removal o with
  | some r => AlbumDb.archivedRow r o
  | none => o

/-- The album is archived, with exactly its active obligations and one receipt for each. -/
structure AlbumArchived (db db' : AlbumDb) (removal : AlbumRemovalReceipt) : Prop where
  before : ∃ b, db.bindings.find? removal.bindingId = some b ∧ ¬ b.archived ∧
    b.bindingRevision = removal.expectedBindingRevision
  after : ∃ b, db'.bindings.find? removal.bindingId = some b ∧ b.archived ∧
    b.bindingRevision = removal.acceptedBindingRevision
  receipt : db.albumRemovals.find? removal.bindingId = none ∧
    db'.albumRemovals.find? removal.bindingId = some removal
  obligations : ∀ obligationId, db'.obligations.find? obligationId =
    (db.obligations.find? obligationId).map (afterAlbumRemoval removal)
  receipts : ∀ obligationId, db'.photoRemovals.find? obligationId =
    ((db.obligations.find? obligationId).bind (albumReceipt removal)).or
      (db.photoRemovals.find? obligationId)

namespace AlbumDb

/-- What the insertion of a receipt of an album removal did. -/
theorem insertPhotoRemoval_album {m : Moment} {db db' : AlbumDb} {r : PhotoRemovalReceipt}
    {o : AlbumObligation} (hsource : r.source = .album)
    (ho : db.obligations.find? r.obligationId = some o)
    (h : insertPhotoRemoval m db r = some db') :
    ∃ receipts events, db.photoRemovals.insert? r = some receipts ∧
      db' = { db with
        photoRemovals := receipts
        obligations := db.obligations.set (archivedRow r o)
        obligationEvents := events } := by
  obtain ⟨receipts, hrow, h⟩ := Option.bind_eq_some_iff.mp h
  obtain ⟨moved, hmoved, harchive⟩ := Option.bind_eq_some_iff.mp h
  obtain ⟨_, hrow⟩ := Table.insertIf?_eq_some.mp hrow
  have hstay : moved = { db with photoRemovals := receipts } := by
    unfold applyPhotoSource at hmoved
    split at hmoved
    · cases hmoved
      rfl
    · rw [if_neg (by rintro ⟨hphoto, _⟩; rw [hsource] at hphoto; cases hphoto)] at hmoved
      cases hmoved
      rfl
  subst hstay
  unfold archiveObligation at harchive
  simp only [ho] at harchive
  have hkey : (archivedRow r o).obligationId = r.obligationId := by
    exact (Table.find?_eq_some.mp ho).2
  rcases setObligation_eq_some harchive with ⟨hnone, _⟩ | ⟨old, events, _, _, _, rfl⟩
  · rw [hkey] at hnone
    cases ho.symm.trans hnone
  · exact ⟨receipts, events, hrow, rfl⟩

/-- Archiving a list of obligations of one album: each gets its receipt, and no other row
changes. -/
theorem archiveAll_effect {m : Moment} {removal : AlbumRemovalReceipt} {db' : AlbumDb}
    {rows : List AlbumObligation} (hnodup : (rows.map AlbumObligation.obligationId).Nodup)
    {db : AlbumDb} (hrows : ∀ o ∈ rows, db.obligations.find? o.obligationId = some o)
    (h : rows.foldlM (fun db o => insertPhotoRemoval m db (albumSourceReceipt removal o)) db =
      some db') :
    db'.bindings = db.bindings ∧ db'.albumRemovals = db.albumRemovals ∧
    (∀ o ∈ rows, db'.obligations.find? o.obligationId =
        some (archivedRow (albumSourceReceipt removal o) o) ∧
      db'.photoRemovals.find? o.obligationId = some (albumSourceReceipt removal o)) ∧
    ∀ obligationId, obligationId ∉ rows.map AlbumObligation.obligationId →
      db'.obligations.find? obligationId = db.obligations.find? obligationId ∧
      db'.photoRemovals.find? obligationId = db.photoRemovals.find? obligationId := by
  induction rows generalizing db with
  | nil =>
      cases h
      refine ⟨rfl, rfl, ?_, fun _ _ => ⟨rfl, rfl⟩⟩
      intro o ho
      exact absurd ho List.not_mem_nil
  | cons first rest ih =>
      rw [List.foldlM_cons] at h
      obtain ⟨middle, hfirst, hrest⟩ := Option.bind_eq_some_iff.mp h
      obtain ⟨receipts, events, hrow, rfl⟩ :=
        insertPhotoRemoval_album rfl (hrows first List.mem_cons_self) hfirst
      have hkey : (archivedRow (albumSourceReceipt removal first) first).obligationId =
          first.obligationId := rfl
      rw [List.map_cons, List.nodup_cons] at hnodup
      have hothers : ∀ obligationId, obligationId ≠ first.obligationId →
          (db.obligations.set (archivedRow (albumSourceReceipt removal first) first)).find?
              obligationId = db.obligations.find? obligationId ∧
            receipts.find? obligationId = db.photoRemovals.find? obligationId := by
        intro obligationId hne
        constructor
        · rw [Table.find?_set, hkey, if_neg hne]
        · rw [Table.find?_insert? hrow]
          exact if_neg hne
      have hdistinct : ∀ o ∈ rest, o.obligationId ≠ first.obligationId := by
        intro o ho heq
        exact hnodup.1 (heq ▸ List.mem_map_of_mem ho)
      obtain ⟨hbindings, halbum, hdone, hkept⟩ := ih hnodup.2 (by
        intro o ho
        rw [(hothers o.obligationId (hdistinct o ho)).1]
        exact hrows o (List.mem_cons_of_mem _ ho)) hrest
      refine ⟨hbindings, halbum, ?_, ?_⟩
      · intro o ho
        rcases List.mem_cons.mp ho with rfl | ho
        · obtain ⟨hobligation, hreceipt⟩ := hkept o.obligationId hnodup.1
          rw [hobligation, hreceipt]
          constructor
          · simp only [Table.find?_set, hkey, if_true, hrows o List.mem_cons_self, Option.map_some]
          · simp only [Table.find?_insert? hrow]
            exact if_pos rfl
        · exact hdone o ho
      · intro obligationId hnot
        rw [List.map_cons, List.mem_cons, not_or] at hnot
        obtain ⟨hobligation, hreceipt⟩ := hkept obligationId hnot.2
        rw [hobligation, hreceipt]
        exact hothers obligationId hnot.1

theorem mem_activeObligations {db : AlbumDb} {bindingId : Token} {o : AlbumObligation} :
    o ∈ db.activeObligations bindingId ↔
      o ∈ db.obligations ∧ o.albumBindingId = bindingId ∧ o.localRelationship = .active := by
  unfold activeObligations
  rw [List.mem_filter]
  simp [Table.mem_def]

/-- The insertion of an album removal archives exactly the active obligations of the album. -/
theorem insertAlbumRemoval_effect {m : Moment} {db db' : AlbumDb} {removal : AlbumRemovalReceipt}
    (h : insertAlbumRemoval m db removal = some db') : AlbumArchived db db' removal := by
  obtain ⟨receipts, hrow, h⟩ := Option.bind_eq_some_iff.mp h
  obtain ⟨⟨_, _, ⟨b, hb, hopen, hrevision, _⟩, _⟩, hrow⟩ := Table.insertIf?_eq_some.mp hrow
  have hb : db.bindings.find? removal.bindingId = some b := hb
  unfold archiveBinding at h
  simp only [hb] at h
  obtain ⟨moved, hmoved, harchive⟩ := Option.bind_eq_some_iff.mp h
  obtain ⟨bindings, events, titles, hframe⟩ := movedOnly_updateBindingRow hmoved
  have hkey : b.bindingId = removal.bindingId := Table.key_of_find? hb
  have harchived : ∃ b', moved.bindings.find? removal.bindingId = some b' ∧ b'.archived ∧
      b'.bindingRevision = removal.acceptedBindingRevision := by
    have hfind := find?_updateBindingRow (by exact hb) (by exact hkey) hmoved
    exact ⟨_, hfind, rfl, rfl⟩
  subst hframe
  unfold archiveObligations at harchive
  have hremoval : receipts.find? removal.bindingId = some removal := by
    rw [Table.find?_insert? hrow]
    exact if_pos rfl
  simp only [hremoval] at harchive
  have hactive : ∀ o ∈ db.activeObligations removal.bindingId,
      db.obligations.find? o.obligationId = some o := by
    intro o ho
    exact Table.find?_of_mem (mem_activeObligations.mp ho).1
  have hnodup : ((db.activeObligations removal.bindingId).map
      AlbumObligation.obligationId).Nodup :=
    (List.filter_sublist.map _).nodup db.obligations.nodup
  obtain ⟨hbindings, halbum, hdone, hkept⟩ := archiveAll_effect hnodup (by exact hactive) harchive
  have hcases : ∀ obligationId o, db.obligations.find? obligationId = some o →
      (albumReceipt removal o = some (albumSourceReceipt removal o) ∧
        o ∈ db.activeObligations removal.bindingId) ∨
      (albumReceipt removal o = none ∧
        obligationId ∉ (db.activeObligations removal.bindingId).map
          AlbumObligation.obligationId) := by
    intro obligationId o ho
    by_cases hmine : o.albumBindingId = removal.bindingId ∧ o.localRelationship = .active
    · left
      exact ⟨if_pos hmine, mem_activeObligations.mpr ⟨Table.mem_of_find? ho, hmine⟩⟩
    · right
      refine ⟨if_neg hmine, ?_⟩
      intro hmem
      obtain ⟨other, hother, hkey⟩ := List.mem_map.mp hmem
      have hfind := hactive other hother
      rw [hkey, ho] at hfind
      cases hfind
      exact hmine (mem_activeObligations.mp hother).2
  constructor
  · exact ⟨b, hb, hopen, hrevision⟩
  · rw [hbindings]
    exact harchived
  · rw [halbum]
    exact ⟨(Table.insert?_eq_some hrow).1, hremoval⟩
  · intro obligationId
    cases ho : db.obligations.find? obligationId with
    | none =>
        have hnot : obligationId ∉ (db.activeObligations removal.bindingId).map
            AlbumObligation.obligationId := by
          intro hmem
          obtain ⟨other, hother, hkey⟩ := List.mem_map.mp hmem
          have hfind := hactive other hother
          rw [hkey, ho] at hfind
          cases hfind
        rw [(hkept obligationId hnot).1]
        exact ho
    | some o =>
        have hkey : o.obligationId = obligationId := Table.key_of_find? ho
        rcases hcases obligationId o ho with ⟨hreceipt, hmem⟩ | ⟨hreceipt, hnot⟩
        · have hrow' := (hdone o hmem).1
          rw [hkey] at hrow'
          simp only [hrow', Option.map_some, afterAlbumRemoval, hreceipt]
        · rw [(hkept obligationId hnot).1]
          simp only [ho, Option.map_some, afterAlbumRemoval, hreceipt]
  · intro obligationId
    cases ho : db.obligations.find? obligationId with
    | none =>
        have hnot : obligationId ∉ (db.activeObligations removal.bindingId).map
            AlbumObligation.obligationId := by
          intro hmem
          obtain ⟨other, hother, hkey⟩ := List.mem_map.mp hmem
          have hfind := hactive other hother
          rw [hkey, ho] at hfind
          cases hfind
        rw [(hkept obligationId hnot).2]
        rfl
    | some o =>
        have hkey : o.obligationId = obligationId := Table.key_of_find? ho
        rcases hcases obligationId o ho with ⟨hreceipt, hmem⟩ | ⟨hreceipt, hnot⟩
        · have hrow' := (hdone o hmem).2
          rw [hkey] at hrow'
          simp only [hrow', Option.bind_some, hreceipt, Option.some_or]
        · rw [(hkept obligationId hnot).2]
          simp only [Option.bind_some, hreceipt, Option.none_or]

end AlbumDb

/-- One obligation is archived, with its receipt, and no other row of either kind changes. -/
structure PhotoArchived (db db' : AlbumDb) (r : PhotoRemovalReceipt) : Prop where
  before : ∃ o, db.obligations.find? r.obligationId = some o ∧ o.localRelationship = .active ∧
    o.obligationRevision = r.expectedObligationRevision ∧ o.albumBindingId = r.bindingId ∧
    o.photoBindingId = r.photoBindingId
  obligations : ∀ obligationId, db'.obligations.find? obligationId =
    if obligationId = r.obligationId then
      (db.obligations.find? obligationId).map (AlbumDb.archivedRow r)
    else db.obligations.find? obligationId
  receipt : db.photoRemovals.find? r.obligationId = none
  receipts : ∀ obligationId, db'.photoRemovals.find? obligationId =
    if obligationId = r.obligationId then some r else db.photoRemovals.find? obligationId
  albums : db'.albumRemovals = db.albumRemovals

namespace AlbumDb

/-- The insertion of a photo removal archives its obligation and no other. -/
theorem insertPhotoRemoval_effect {m : Moment} {db db' : AlbumDb} {r : PhotoRemovalReceipt}
    (h : insertPhotoRemoval m db r = some db') : PhotoArchived db db' r := by
  obtain ⟨receipts, hrow, h⟩ := Option.bind_eq_some_iff.mp h
  obtain ⟨moved, hmoved, harchive⟩ := Option.bind_eq_some_iff.mp h
  obtain ⟨⟨_, _, _, _, o, ho, hnames, hactive, _⟩, hrow⟩ := Table.insertIf?_eq_some.mp hrow
  have ho : db.obligations.find? r.obligationId = some o := ho
  have hframe : MovedOnly { db with photoRemovals := receipts } moved := by
    unfold applyPhotoSource at hmoved
    split at hmoved
    · cases hmoved
      exact MovedOnly.same _
    · split at hmoved
      · exact movedOnly_moveBindingTo hmoved
      · cases hmoved
        exact MovedOnly.same _
  obtain ⟨bindings, events, titles, rfl⟩ := hframe
  unfold archiveObligation at harchive
  simp only [ho] at harchive
  have hkey : (archivedRow r o).obligationId = r.obligationId := (Table.find?_eq_some.mp ho).2
  rcases setObligation_eq_some harchive with ⟨hnone, _⟩ | ⟨_, obligationEvents, _, _, _, rfl⟩
  · rw [hkey] at hnone
    cases ho.symm.trans hnone
  constructor
  · exact ⟨o, ho, hactive.1, hactive.2, hnames⟩
  · intro obligationId
    simp only [Table.find?_set, hkey]
    split
    · next heq =>
        rw [heq, ho]
        rfl
    · rfl
  · exact (Table.insert?_eq_some hrow).1
  · intro obligationId
    exact Table.find?_insert? hrow obligationId
  · rfl

end AlbumDb

/-! ## The answers -/

/-- The installation is the owner's, and so is the service of the album. -/
def ownerAuthorized (w : AlbumWorld) (auth : AdmissionAuth) (b : AlbumBinding) : Prop :=
  w.installationUser auth = some b.identity.userId ∧ w.serviceOwned b.identity

instance (w : AlbumWorld) (auth : AdmissionAuth) (b : AlbumBinding) :
    Decidable (ownerAuthorized w auth b) :=
  inferInstanceAs (Decidable (_ ∧ _))

theorem lifecycleContext_of_owner {m : Moment} {db : AlbumDb} {auth : AdmissionAuth}
    {bindingId : Token} {b : AlbumBinding} (hb : db.bindings.find? bindingId = some b)
    (howner : ownerAuthorized m.world auth b) :
    lifecycleContext m db auth bindingId =
      some ⟨some b, (m.world.titleLinkAuthority b.identity).isSome⟩ := by
  unfold lifecycleContext
  rw [howner.1, Option.bind_some, hb]
  simp [howner.2]

theorem owner_of_lifecycleContext {m : Moment} {db : AlbumDb} {auth : AdmissionAuth}
    {bindingId : Token} {b : AlbumBinding} {linkReady : Bool}
    (h : lifecycleContext m db auth bindingId = some ⟨some b, linkReady⟩) :
    db.bindings.find? bindingId = some b ∧ ownerAuthorized m.world auth b := by
  obtain ⟨userId, huser, h⟩ := Option.bind_eq_some_iff.mp h
  split at h
  · cases h
  · next stored hstored =>
      split at h
      · cases h
      · next hsame =>
          split at h
          · next howned =>
              cases h
              rw [not_not] at hsame
              exact ⟨hstored, by rw [huser, hsame], howned⟩
          · cases h

theorem contextBinding_of_owner {m : Moment} {db : AlbumDb} {auth : AdmissionAuth}
    {bindingId : Token} {b : AlbumBinding} (hb : db.bindings.find? bindingId = some b)
    (howner : ownerAuthorized m.world auth b) : contextBinding m db auth bindingId = .ok b := by
  unfold contextBinding
  rw [lifecycleContext_of_owner hb howner]

theorem owner_of_contextBinding {m : Moment} {db : AlbumDb} {auth : AdmissionAuth}
    {bindingId : Token} {b : AlbumBinding} (h : contextBinding m db auth bindingId = .ok b) :
    db.bindings.find? bindingId = some b ∧ ownerAuthorized m.world auth b := by
  unfold contextBinding at h
  split at h
  · cases h
  · cases h
  · next hcontext =>
      cases h
      exact owner_of_lifecycleContext hcontext

/-- The read of a receipt that is there answers with it and with the album as it is now. -/
theorem receiptRead_of_owner {ρ : Type} {snapshot receipt : Moment} {auth : AdmissionAuth}
    {bindingId : Token} {created : Bool} {retained : AlbumDb → AlbumBinding → Option ρ}
    {db : AlbumDb} {b : AlbumBinding} {r : ρ} (hb : db.bindings.find? bindingId = some b)
    (hsnapshot : ownerAuthorized snapshot.world auth b)
    (hreceipt : ownerAuthorized receipt.world auth b) (hr : retained db b = some r) :
    receiptRead snapshot receipt auth bindingId created retained db =
      .ok ⟨created, r, db.lifecycle b⟩ := by
  unfold receiptRead readAlbumLifecycle
  rw [contextBinding_of_owner hb hreceipt, contextBinding_of_owner hb hsnapshot]
  simp only [Except.bind, hr]
  rfl

theorem receiptRead_eq_ok {ρ : Type} {snapshot receipt : Moment} {auth : AdmissionAuth}
    {bindingId : Token} {created : Bool} {retained : AlbumDb → AlbumBinding → Option ρ}
    {db : AlbumDb} {answer : ReceiptAnswer ρ}
    (h : receiptRead snapshot receipt auth bindingId created retained db = .ok answer) :
    ∃ b, db.bindings.find? bindingId = some b ∧ retained db b = some answer.receipt ∧
      answer.created = created := by
  obtain ⟨b, hb, h⟩ := Fallible.bind_eq_ok.mp h
  split at h
  · cases h
  · next r hr =>
      cases hlifecycle : readAlbumLifecycle snapshot db auth bindingId with
      | error code =>
          rw [hlifecycle] at h
          cases h
      | ok current =>
          rw [hlifecycle] at h
          cases h
          exact ⟨b, (owner_of_contextBinding hb).1, hr, rfl⟩

theorem orError_eq_ok {α : Type} {error : Option AlbumError} {value : Except AlbumError α} {a : α}
    (h : orError error value = .ok a) : value = .ok a := by
  cases error with
  | none => exact h
  | some code => cases h

/-- What a request to remove an album does: it archives the album and answers with the new
receipt, or it changes nothing and any receipt it answers with was there. -/
def AlbumRemovalOutcome (db : AlbumDb) (bindingId : Token)
    (result : Answer (ReceiptAnswer AlbumRemovalReceipt)) : Prop :=
  (∃ removal current, AlbumArchived db result.1 removal ∧ removal.bindingId = bindingId ∧
    result.2 = .ok ⟨true, removal, current⟩) ∨
  (result.1 = db ∧ ∀ answer, result.2 = .ok answer →
    answer.created = false ∧ db.albumRemovals.find? bindingId = some answer.receipt)

/-- What a request to remove a photo does. -/
def PhotoRemovalOutcome (db : AlbumDb) (bindingId photoBindingId : Token)
    (result : Answer (ReceiptAnswer PhotoRemovalReceipt)) : Prop :=
  (∃ r current, PhotoArchived db result.1 r ∧ r.bindingId = bindingId ∧
    r.photoBindingId = photoBindingId ∧ r.source = .photo ∧
    result.2 = .ok ⟨true, r, current⟩) ∨
  (result.1 = db ∧ ∀ answer, result.2 = .ok answer → answer.created = false ∧
    ∃ o, db.obligationOf bindingId photoBindingId = some o ∧
      db.photoRemovals.find? o.obligationId = some answer.receipt)

/-- The receipt that a removal of an album inserts. -/
theorem albumRemovalRow_eq_some {m : Moment} {db : AlbumDb} {auth : AdmissionAuth}
    {request : AlbumRemovalRequest} {removal : AlbumRemovalReceipt}
    (h : albumRemovalRow m db auth request = some removal) :
    ∃ b, db.bindings.find? request.bindingId = some b ∧ ownerAuthorized m.world auth b ∧
      removal.bindingId = request.bindingId ∧
      removal.acknowledgedCreateAttemptId = request.acknowledgedCreateAttemptId := by
  unfold albumRemovalRow at h
  split at h
  · next b linkReady hcontext =>
      split at h
      · cases h
        obtain ⟨hb, howner⟩ := owner_of_lifecycleContext hcontext
        exact ⟨b, hb, howner, (Table.find?_eq_some.mp hb).2, rfl⟩
      · cases h
  · cases h

/-- The receipt that a removal of a photo inserts. -/
theorem photoRemovalRow_eq_some {m : Moment} {db : AlbumDb} {auth : AdmissionAuth}
    {request : PhotoRemovalRequest} {r : PhotoRemovalReceipt}
    (h : photoRemovalRow m db auth request = some r) :
    ∃ b o, db.bindings.find? request.bindingId = some b ∧ ownerAuthorized m.world auth b ∧
      db.obligationOf request.bindingId request.photoBindingId = some o ∧
      r.obligationId = o.obligationId ∧ r.bindingId = request.bindingId ∧
      r.photoBindingId = request.photoBindingId ∧ r.source = .photo := by
  unfold photoRemovalRow at h
  split at h
  · next b linkReady hcontext =>
      obtain ⟨o, ho, h⟩ := Option.bind_eq_some_iff.mp h
      obtain ⟨hb, howner⟩ := owner_of_lifecycleContext hcontext
      have hkey : b.bindingId = request.bindingId := Table.key_of_find? hb
      rw [hkey] at ho
      split at h
      · cases h
        exact ⟨b, o, hb, howner, ho, rfl, hkey, rfl, rfl⟩
      · cases h
  · cases h

section Answers

variable {w : AlbumWorld} {clock : BatchClock} {db : AlbumDb} {auth : AdmissionAuth}

/-- The owner of a binding is still its owner after the writes of a batch. -/
theorem owner_after_writes {db' : AlbumDb} {bindingId : Token} {b : AlbumBinding}
    (hkept : RemovalsKept db db') (hb : db.bindings.find? bindingId = some b)
    (howner : ownerAuthorized w auth b) :
    ∃ b', db'.bindings.find? bindingId = some b' ∧ ownerAuthorized w auth b' ∧
      b'.bindingId = bindingId := by
  obtain ⟨b', hb', hidentity, _⟩ := hkept.bindings bindingId b hb
  refine ⟨b', hb', ?_, Table.key_of_find? hb'⟩
  unfold ownerAuthorized
  rw [hidentity]
  exact howner

theorem putAlbumLocalRemoval_outcome {request : AlbumRemovalRequest} :
    AlbumRemovalOutcome db request.bindingId (putAlbumLocalRemoval w clock db auth request) := by
  unfold putAlbumLocalRemoval
  split
  swap
  · right
    refine ⟨rfl, ?_⟩
    intro answer h
    cases h
  cases hrow : albumRemovalRow ⟨w, clock.insert⟩ db auth request with
  | none =>
      right
      refine ⟨rfl, ?_⟩
      intro answer h
      obtain ⟨b, hb, hr, hcreated⟩ := receiptRead_eq_ok (orError_eq_ok h)
      have hkey : b.bindingId = request.bindingId := Table.key_of_find? hb
      rw [hkey] at hr
      exact ⟨hcreated, hr⟩
  | some removal =>
      cases hinsert : AlbumDb.insertAlbumRemoval ⟨w, clock.insert⟩ db removal with
      | none =>
          right
          simp only [insertSelected, hinsert, batchAnswer, true_and]
          intro answer h
          cases h
      | some db' =>
          left
          obtain ⟨b, hb, howner, hbinding, hacknowledged⟩ := albumRemovalRow_eq_some hrow
          have harchived := AlbumDb.insertAlbumRemoval_effect hinsert
          have hwrites : AlbumWrites (some .removals) db db' :=
            AlbumDb.writes_insertAlbumRemoval rfl hinsert
          have hkept := RemovalsKept.writes hwrites
          have howner : ownerAuthorized w auth b := howner
          obtain ⟨b', hb', howner', hkey⟩ := owner_after_writes hkept hb howner
          have hreceipt := harchived.receipt.2
          rw [hbinding] at hreceipt
          have hdecision : albumRemovalDecision ⟨w, clock.decision⟩ db' auth request = none := by
            unfold albumRemovalDecision
            rw [lifecycleContext_of_owner hb' howner']
            simp only [hkey, hreceipt]
            exact if_pos hacknowledged
          simp only [insertSelected, hinsert, batchAnswer, hdecision, orError]
          refine ⟨removal, db'.lifecycle b', harchived, hbinding, ?_⟩
          apply receiptRead_of_owner hb' howner' howner'
          rw [hkey, hreceipt]

theorem putAlbumPhotoLocalRemoval_outcome {request : PhotoRemovalRequest} :
    PhotoRemovalOutcome db request.bindingId request.photoBindingId
      (putAlbumPhotoLocalRemoval w clock db auth request) := by
  unfold putAlbumPhotoLocalRemoval
  split
  swap
  · right
    refine ⟨rfl, ?_⟩
    intro answer h
    cases h
  cases hrow : photoRemovalRow ⟨w, clock.insert⟩ db auth request with
  | none =>
      right
      refine ⟨rfl, ?_⟩
      intro answer h
      obtain ⟨b, hb, hr, hcreated⟩ := receiptRead_eq_ok (orError_eq_ok h)
      have hkey : b.bindingId = request.bindingId := Table.key_of_find? hb
      obtain ⟨o, ho, hr⟩ := Option.bind_eq_some_iff.mp hr
      rw [hkey] at ho
      exact ⟨hcreated, o, ho, hr⟩
  | some r =>
      cases hinsert : AlbumDb.insertPhotoRemoval ⟨w, clock.insert⟩ db r with
      | none =>
          right
          simp only [insertSelected, hinsert, batchAnswer, true_and]
          intro answer h
          cases h
      | some db' =>
          left
          obtain ⟨b, o, hb, howner, ho, hobligation, hbinding, hphoto, hsource⟩ :=
            photoRemovalRow_eq_some hrow
          have harchived := AlbumDb.insertPhotoRemoval_effect hinsert
          have hwrites : AlbumWrites (some .removals) db db' :=
            AlbumDb.writes_insertPhotoRemoval rfl hinsert
          have hkept := RemovalsKept.writes hwrites
          have howner : ownerAuthorized w auth b := howner
          obtain ⟨b', hb', howner', hkey⟩ := owner_after_writes hkept hb howner
          obtain ⟨o', ho', hidentity⟩ := hkept.located _ _ o ho
          have hsame : o'.obligationId = r.obligationId := by
            rw [hobligation]
            exact congrArg ObligationIdentity.obligationId hidentity
          have hreceipt : db'.photoRemovals.find? o'.obligationId = some r := by
            rw [harchived.receipts, hsame]
            exact if_pos rfl
          have hdecision : photoRemovalDecision ⟨w, clock.decision⟩ db' auth request = none := by
            unfold photoRemovalDecision
            rw [lifecycleContext_of_owner hb' howner']
            simp only [hkey, ho', hreceipt]
            exact if_pos (by simp)
          simp only [insertSelected, hinsert, batchAnswer, hdecision, orError]
          refine ⟨r, db'.lifecycle b', harchived, hbinding, hphoto, hsource, ?_⟩
          apply receiptRead_of_owner hb' howner' howner'
          rw [hkey, ho']
          exact hreceipt

/-- A repeated removal of an album changes nothing and answers with the retained receipt. -/
theorem putAlbumLocalRemoval_replay {request : AlbumRemovalRequest} {b : AlbumBinding}
    {removal : AlbumRemovalReceipt} (hvalid : revisionInRange request.expectedBindingRevision)
    (hb : db.bindings.find? request.bindingId = some b) (howner : ownerAuthorized w auth b)
    (hremoval : db.albumRemovals.find? request.bindingId = some removal)
    (hacknowledged : request.acknowledgedCreateAttemptId = removal.acknowledgedCreateAttemptId) :
    putAlbumLocalRemoval w clock db auth request =
      (db, .ok ⟨false, removal, db.lifecycle b⟩) := by
  have hkey : b.bindingId = request.bindingId := Table.key_of_find? hb
  have hrow : albumRemovalRow ⟨w, clock.insert⟩ db auth request = none := by
    unfold albumRemovalRow
    rw [lifecycleContext_of_owner hb howner]
    simp only [hkey, hremoval]
    apply if_neg
    rintro ⟨_, _, _, hnone⟩
    cases hnone
  have hdecision : albumRemovalDecision ⟨w, clock.decision⟩ db auth request = none := by
    unfold albumRemovalDecision
    rw [lifecycleContext_of_owner hb howner]
    simp only [hkey, hremoval]
    exact if_pos hacknowledged.symm
  unfold putAlbumLocalRemoval
  rw [if_pos hvalid]
  simp only [hrow, insertSelected, batchAnswer, hdecision, orError]
  rw [receiptRead_of_owner hb howner howner]
  · rfl
  · rw [hkey]
    exact hremoval

/-- A repeated removal of a photo changes nothing and answers with the retained receipt. -/
theorem putAlbumPhotoLocalRemoval_replay {request : PhotoRemovalRequest} {b : AlbumBinding}
    {o : AlbumObligation} {r : PhotoRemovalReceipt}
    (hvalid : revisionInRange request.expectedBindingRevision ∧
      revisionInRange request.expectedObligationRevision)
    (hb : db.bindings.find? request.bindingId = some b) (howner : ownerAuthorized w auth b)
    (ho : db.obligationOf request.bindingId request.photoBindingId = some o)
    (hr : db.photoRemovals.find? o.obligationId = some r) :
    putAlbumPhotoLocalRemoval w clock db auth request =
      (db, .ok ⟨false, r, db.lifecycle b⟩) := by
  have hkey : b.bindingId = request.bindingId := Table.key_of_find? hb
  have hrow : photoRemovalRow ⟨w, clock.insert⟩ db auth request = none := by
    unfold photoRemovalRow
    rw [lifecycleContext_of_owner hb howner]
    simp only [hkey, ho, Option.bind_some, hr]
    apply if_neg
    rintro ⟨⟨hnone, _⟩, _⟩
    cases hnone
  have hdecision : photoRemovalDecision ⟨w, clock.decision⟩ db auth request = none := by
    unfold photoRemovalDecision
    rw [lifecycleContext_of_owner hb howner]
    simp only [hkey, ho, hr]
    exact if_pos (by simp)
  unfold putAlbumPhotoLocalRemoval
  rw [if_pos hvalid]
  simp only [hrow, insertSelected, batchAnswer, hdecision, orError]
  rw [receiptRead_of_owner hb howner howner]
  · rfl
  · simp only [hkey, ho, Option.bind_some, hr]

end Answers

/-! ## Whose removal a receipt names -/

/-- A photo receipt of an album removal shows the receipt of that removal. -/
def RemovalSourced (db : AlbumDb) : Prop :=
  ∀ r ∈ db.photoRemovals, r.source = .album →
    ∃ removal, db.albumRemovals.find? r.bindingId = some removal ∧
      removal.expectedBindingRevision = r.expectedBindingRevision ∧
      removal.installationId = r.installationId ∧
      removal.credentialDigest = r.credentialDigest ∧ removal.archivedAtUs = r.archivedAtUs

theorem removalSourced_of_eq {db db' : AlbumDb} (h : RemovalSourced db)
    (halbum : db'.albumRemovals = db.albumRemovals) (hphoto : db'.photoRemovals = db.photoRemovals) :
    RemovalSourced db' := by
  unfold RemovalSourced
  rw [halbum, hphoto]
  exact h

theorem removalSourced_write {part : Option AlbumPart} {db db' : AlbumDb} (hwrite : AlbumWrite part db db')
    (h : RemovalSourced db) : RemovalSourced db' := by
  have hkept := RemovalsKept.write hwrite
  cases hwrite with
  | binding new hset =>
      obtain ⟨bindings, events, titles, rfl⟩ := AlbumDb.movedOnly_setBinding hset
      exact removalSourced_of_eq h rfl rfl
  | obligation new hset =>
      rcases AlbumDb.setObligation_eq_some hset with ⟨_, rfl⟩ | ⟨_, _, _, _, _, rfl⟩
      · exact h
      · exact removalSourced_of_eq h rfl rfl
  | titleAttempt m new _ hset =>
      obtain ⟨titles, rfl⟩ := AlbumDb.titlesOnly_setTitleAttempt hset
      exact removalSourced_of_eq h rfl rfl
  | photoRemoval _ m r receipts hadmissible hrow =>
      intro other hother hsource
      rcases (Table.mem_insert? hrow).mp hother with hold | rfl
      · exact h other hold hsource
      · obtain ⟨_, _, _, _, o, ho, hnames, _, b, hb, hplaced⟩ := hadmissible
        rcases hplaced with ⟨hphoto, _⟩ | ⟨_, _, _, removal, hremoval, hfacts⟩
        · rw [hsource] at hphoto
          cases hphoto
        · have hkey : b.bindingId = other.bindingId :=
            (Table.find?_eq_some.mp hb).2.trans hnames.1
          rw [hkey] at hremoval
          exact ⟨removal, hremoval, hfacts⟩
  | albumRemoval _ m r receipts _ hrow =>
      intro other hother hsource
      obtain ⟨removal, hremoval, hfacts⟩ := h other hother hsource
      exact ⟨removal, hkept.albumReceipts _ _ hremoval, hfacts⟩
  | _ => exact removalSourced_of_eq h rfl rfl

/-- An archived obligation has its receipt. -/
def ArchivedReceipted (db : AlbumDb) : Prop :=
  ∀ o ∈ db.obligations, o.localRelationship = .archived →
    ∃ r, db.photoRemovals.find? o.obligationId = some r ∧ r.bindingId = o.albumBindingId ∧
      r.photoBindingId = o.photoBindingId

theorem archivedReceipted_write {part : Option AlbumPart} {db db' : AlbumDb} (hwrite : AlbumWrite part db db')
    (h : ArchivedReceipted db) : ArchivedReceipted db' := by
  have hkept := (RemovalsKept.write hwrite).photoReceipts
  intro o' ho' harchived
  have hold : ∀ o ∈ db.obligations, o.identity = o'.identity → o.localRelationship = .archived →
      ∃ r, db'.photoRemovals.find? o'.obligationId = some r ∧ r.bindingId = o'.albumBindingId ∧
        r.photoBindingId = o'.photoBindingId := by
    intro o ho hidentity hold
    obtain ⟨r, hr, hnames⟩ := h o ho hold
    simp only [AlbumObligation.obligationId, AlbumObligation.albumBindingId,
      AlbumObligation.photoBindingId, hidentity] at hr hnames
    exact ⟨r, hkept _ r hr, hnames⟩
  cases hwrite with
  | binding new hset =>
      obtain ⟨bindings, events, titles, rfl⟩ := AlbumDb.movedOnly_setBinding hset
      exact hold o' ho' rfl harchived
  | bindingCreated _ m b bindings events obligations obligationEvents _ _ _ hrow _ =>
      rcases (Table.mem_insert? hrow).mp ho' with hmem | rfl
      · exact hold o' hmem rfl harchived
      · cases harchived
  | obligation new hset =>
      rcases AlbumDb.setObligation_eq_some hset with ⟨_, rfl⟩ | ⟨old, _, hfind, hallowed, _, rfl⟩
      · exact hold o' ho' rfl harchived
      · rcases Table.mem_set_cases ho' with rfl | ⟨hmem, _⟩
        · by_cases hbefore : old.localRelationship = .archived
          · exact hold old (Table.mem_of_find? hfind) hallowed.identity.symm hbefore
          · rcases hallowed.due with ⟨_, _, _, r, hr, hnames, _⟩ | ⟨hsame, _⟩ | ⟨hsame, _⟩
            · simp only [AlbumObligation.obligationId, AlbumObligation.albumBindingId,
                AlbumObligation.photoBindingId, ← hallowed.identity] at hr hnames
              exact ⟨r, hkept _ r hr, hnames⟩
            · exact absurd (hsame ▸ harchived) hbefore
            · exact absurd (hsame ▸ harchived) hbefore
        · exact hold o' hmem rfl harchived
  | obligationAdmitted _ m o obligations events hadmissible _ hrow _ =>
      rcases (Table.mem_insert? hrow).mp ho' with hmem | rfl
      · exact hold o' hmem rfl harchived
      · rw [hadmissible.1.2.1] at harchived
        cases harchived
  | titleAttempt m new _ hset =>
      obtain ⟨titles, rfl⟩ := AlbumDb.titlesOnly_setTitleAttempt hset
      exact hold o' ho' rfl harchived
  | _ => exact hold o' ho' rfl harchived

/-- A removal archives exactly what it names, with one receipt each, or changes nothing; in
every later state what is archived is still archived, under the same title and with no
further obligation, and a repeated removal answers with the same receipt. -/
theorem local_removal_receipts {db db' : AlbumDb} {trace : List (Move AlbumDb AlbumMove)}
    (h : Reachable AlbumStep AlbumInitial db) (hrun : Run AlbumStep db trace db') :
    (∀ w clock auth (request : AlbumRemovalRequest),
      AlbumRemovalOutcome db request.bindingId (putAlbumLocalRemoval w clock db auth request)) ∧
    (∀ w clock auth (request : PhotoRemovalRequest),
      PhotoRemovalOutcome db request.bindingId request.photoBindingId
        (putAlbumPhotoLocalRemoval w clock db auth request)) ∧
    (RemovalSourced db ∧ ArchivedReceipted db) ∧
    RemovalsKept db db' ∧
    (∀ w clock auth (request : AlbumRemovalRequest) removal b,
      db.albumRemovals.find? request.bindingId = some removal →
      request.acknowledgedCreateAttemptId = removal.acknowledgedCreateAttemptId →
      revisionInRange request.expectedBindingRevision →
      db'.bindings.find? request.bindingId = some b → ownerAuthorized w auth b →
      putAlbumLocalRemoval w clock db' auth request =
        (db', .ok ⟨false, removal, db'.lifecycle b⟩)) ∧
    ∀ w clock auth (request : PhotoRemovalRequest) o r b,
      db.obligationOf request.bindingId request.photoBindingId = some o →
      db.photoRemovals.find? o.obligationId = some r →
      revisionInRange request.expectedBindingRevision ∧
        revisionInRange request.expectedObligationRevision →
      db'.bindings.find? request.bindingId = some b → ownerAuthorized w auth b →
      putAlbumPhotoLocalRemoval w clock db' auth request = (db', .ok ⟨false, r, db'.lifecycle b⟩) := by
  have hkept := RemovalsKept.run hrun
  refine ⟨?_, ?_, ⟨?_, ?_⟩, hkept, ?_, ?_⟩
  · intro w clock auth request
    exact putAlbumLocalRemoval_outcome
  · intro w clock auth request
    exact putAlbumPhotoLocalRemoval_outcome
  · apply album_invariant _ (fun _ _ _ => removalSourced_write) h
    intro r hr
    exact absurd hr (Table.not_mem_empty r)
  · apply album_invariant _ (fun _ _ _ => archivedReceipted_write) h
    intro o ho
    exact absurd ho (Table.not_mem_empty o)
  · intro w clock auth request removal b hremoval hacknowledged hvalid hb howner
    exact putAlbumLocalRemoval_replay hvalid hb howner
      (hkept.albumReceipts _ removal hremoval) hacknowledged
  · intro w clock auth request o r b ho hr hvalid hb howner
    obtain ⟨o', ho', hidentity⟩ := hkept.located _ _ o ho
    have hsame : o'.obligationId = o.obligationId :=
      congrArg ObligationIdentity.obligationId hidentity
    apply putAlbumPhotoLocalRemoval_replay hvalid hb howner ho'
    rw [hsame]
    exact hkept.photoReceipts _ r hr

namespace AlbumSample

def removal : AlbumRemovalRequest := ⟨album, 3, none⟩

/-- The owner makes the album of the sample and removes it. -/
def removed : List AlbumMove := calls ++ [⟨world, .removeAlbum (at_ 4) auth removal⟩]

/-- What the removal of the sample, made again, answers. -/
def answer (db : AlbumDb) : Except AlbumError (ReceiptAnswer AlbumRemovalReceipt) :=
  (putAlbumLocalRemoval world (at_ 7) db auth removal).2

end AlbumSample

/-- The removal of the sample archived both obligations, and made again it answers with its
receipt. -/
theorem local_removal_receipts_sample : ∃ db db' removal current,
    Reachable AlbumStep AlbumInitial db ∧ RemovalsKept db db' ∧
    (∀ o ∈ db.obligations, o.localRelationship = .archived) ∧ db.obligations.rows.length = 2 ∧
    AlbumSample.answer db' = .ok ⟨false, removal, current⟩ ∧
    db.albumRemovals.find? AlbumSample.album = some removal := by
  have hsome : (execAll AlbumMove.exec emptyAlbumDb AlbumSample.removed).isSome = true := by
    decide +kernel
  obtain ⟨db, hdb⟩ := Option.isSome_iff_exists.mp hsome
  have hfacts : ∀ db ∈ execAll AlbumMove.exec emptyAlbumDb AlbumSample.removed,
      ((∀ o ∈ db.obligations, o.localRelationship = .archived) ∧
        db.obligations.rows.length = 2) ∧
      (∃ r ∈ db.albumRemovals.find? AlbumSample.album, r.acknowledgedCreateAttemptId = none) ∧
      ∃ db' ∈ execAll AlbumMove.exec db AlbumSample.created,
        ∃ b ∈ db'.bindings.find? AlbumSample.album,
          ownerAuthorized AlbumSample.world AlbumSample.auth b := by
    decide +kernel
  obtain ⟨hobligations, ⟨r, hr, hacknowledged⟩, db', hdb', b, hb, howner⟩ := hfacts db hdb
  have hreachable := reachable_of_execAll hdb
  obtain ⟨_, _, _, hkept, hreplay, _⟩ :=
    local_removal_receipts hreachable (run_albumTrace (by exact hdb'))
  have hanswer := hreplay AlbumSample.world (AlbumSample.at_ 7) AlbumSample.auth
    AlbumSample.removal r b hr hacknowledged.symm (by decide) hb howner
  refine ⟨db, db', r, db'.lifecycle b, hreachable, hkept, hobligations.1, hobligations.2, ?_, hr⟩
  exact congrArg Prod.snd hanswer

/-- The create of an archived album is claimed and marked, and the removal made again shows
the album as it is now. -/
theorem archived_album_materialized : ∃ db db',
    Reachable AlbumStep AlbumInitial db ∧
    Run AlbumStep db (albumTrace db AlbumSample.created) db' ∧
    (∃ b ∈ db.bindings.find? AlbumSample.album, b.archived ∧ b.materializationState = .pending) ∧
    db.materializations.find? AlbumSample.createAttempt = none ∧
    (∃ b ∈ db'.bindings.find? AlbumSample.album, b.archived ∧
      b.materializationState = .creating) ∧
    (∃ a ∈ db'.materializations.find? AlbumSample.createAttempt,
      a.bindingId = AlbumSample.album ∧ a.phase.dispatch? ≠ none) ∧
    ∃ before after, AlbumSample.answer db = .ok before ∧ AlbumSample.answer db' = .ok after ∧
      before.receipt = after.receipt ∧ before.current ≠ after.current := by
  have hfacts : ∃ db ∈ execAll AlbumMove.exec emptyAlbumDb AlbumSample.removed,
      ∃ db' ∈ execAll AlbumMove.exec db AlbumSample.created,
        (∃ b ∈ db.bindings.find? AlbumSample.album, b.archived ∧
          b.materializationState = .pending) ∧
        db.materializations.find? AlbumSample.createAttempt = none ∧
        (∃ b ∈ db'.bindings.find? AlbumSample.album, b.archived ∧
          b.materializationState = .creating) ∧
        (∃ a ∈ db'.materializations.find? AlbumSample.createAttempt,
          a.bindingId = AlbumSample.album ∧ a.phase.dispatch? ≠ none) ∧
        ∃ before ∈ (AlbumSample.answer db).toOption, ∃ after ∈ (AlbumSample.answer db').toOption,
          before.receipt = after.receipt ∧ before.current ≠ after.current := by
    decide +kernel
  obtain ⟨db, hdb, db', hdb', hbefore, hfresh, hafter, hcreate, first, hfirst, last, hlast,
    hreceipt, hcurrent⟩ := hfacts
  exact ⟨db, db', reachable_of_execAll hdb, run_albumTrace hdb', hbefore, hfresh, hafter, hcreate,
    first, last, Fallible.eq_ok_of_toOption hfirst, Fallible.eq_ok_of_toOption hlast, hreceipt,
    hcurrent⟩

end FlickrGroupAddr

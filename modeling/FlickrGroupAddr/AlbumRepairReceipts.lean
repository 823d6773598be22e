import FlickrGroupAddr.AlbumPhotosets
import FlickrGroupAddr.Lib.Fallible

/-!
# Repair receipts

A repair writes its receipt, the photoset of the binding and the membership of the first
obligation together, under the authority its request named, and nothing else writes a
receipt.  Every later request for the binding is answered from the receipt.
-/

namespace FlickrGroupAddr

set_option autoImplicit false

open KeyedTable Transition

/-! ## Which calls write a receipt -/

/-- A write outside a repair leaves the receipts alone. -/
theorem AlbumWrite.receipts_eq {part : Option AlbumPart} {db db' : AlbumDb} (h : AlbumWrite part db db')
    (hquiet : part ≠ some .repairs) : db'.repairReceipts = db.repairReceipts := by
  cases h with
  | binding new hset =>
      obtain ⟨bindings, events, titles, rfl⟩ := AlbumDb.movedOnly_setBinding hset
      rfl
  | obligation new hset =>
      rcases AlbumDb.setObligation_eq_some hset with ⟨_, rfl⟩ | ⟨_, _, _, _, _, rfl⟩
      · rfl
      · rfl
  | titleAttempt m new _ hset =>
      obtain ⟨titles, rfl⟩ := AlbumDb.titlesOnly_setTitleAttempt hset
      rfl
  | repair hpart => exact absurd hpart hquiet
  | _ => rfl

theorem AlbumWrites.receipts_eq {part : Option AlbumPart} {db db' : AlbumDb} (h : AlbumWrites part db db')
    (hquiet : part ≠ some .repairs) : db'.repairReceipts = db.repairReceipts := by
  induction h with
  | refl => rfl
  | tail _ hlast ih => exact (hlast.receipts_eq hquiet).trans ih

/-! ## The context of a request -/

/-- What the context of a request was read from. -/
structure RepairRead (m : Moment) (db : AlbumDb) (auth : RepairAuth) (bindingId : Token)
    (row : RepairRow) : Prop where
  authority : repairAuthority m auth = some row.authority
  binding : db.bindings.find? bindingId = some row.binding
  owned : row.binding.identity.userId = row.authority.userId
  attempt : row.attempt = db.lastCreate bindingId
  receipt : row.receipt = db.repairReceipts.find? bindingId
  write : row.write = m.materializationAuthority row.binding.identity

theorem repairRow_eq_ok {m : Moment} {db : AlbumDb} {auth : RepairAuth} {bindingId : Token}
    {row : RepairRow} (h : repairRow m db auth bindingId = .ok row) :
    RepairRead m db auth bindingId row := by
  unfold repairRow at h
  split at h
  · cases h
  · next authority hauthority =>
      split at h
      · cases h
      · next b hb =>
          cases h
          obtain ⟨hb, howned⟩ := Option.filter_eq_some_iff.mp hb
          exact ⟨hauthority, hb, (of_decide_eq_true howned).1, rfl, rfl, rfl⟩

/-! ## The commit of a repair -/

namespace AlbumDb

/-- The row of the binding is the one that was set, and no other changed. -/
theorem find?_bindings_updateBindingRow {m : Moment} {db db' : AlbumDb} {old new : AlbumBinding}
    (hold : db.bindings.find? new.bindingId = some old)
    (h : updateBindingRow m db new = some db') (bindingId : Token) :
    db'.bindings.find? bindingId =
      if bindingId = new.bindingId then some new else db.bindings.find? bindingId := by
  obtain ⟨middle, hset, hclose⟩ := Option.bind_eq_some_iff.mp h
  obtain ⟨titles, rfl⟩ := titlesOnly_closeTitleAttempts hclose
  exact find?_setBinding hold hset bindingId

/-- The row of the obligation is the one that was set, and no other changed. -/
theorem find?_setObligation {db db' : AlbumDb} {old new : AlbumObligation}
    (hold : db.obligations.find? new.obligationId = some old)
    (h : db.setObligation new = some db') (obligationId : Token) :
    db'.obligations.find? obligationId =
      if obligationId = new.obligationId then some new
      else db.obligations.find? obligationId := by
  rcases setObligation_eq_some h with ⟨hnone, _⟩ | ⟨_, _, _, _, _, rfl⟩
  · cases hold.symm.trans hnone
  simp only [Table.find?_set]
  split
  · next hkey =>
      rw [hkey, hold]
      rfl
  · rfl

/-- Setting an obligation leaves the bindings and the repair receipts alone. -/
theorem setObligation_frame {db db' : AlbumDb} {new : AlbumObligation}
    (h : db.setObligation new = some db') :
    db'.bindings = db.bindings ∧ db'.repairReceipts = db.repairReceipts := by
  rcases setObligation_eq_some h with ⟨_, rfl⟩ | ⟨_, _, _, _, _, rfl⟩
  · exact ⟨rfl, rfl⟩
  · exact ⟨rfl, rfl⟩

end AlbumDb

/-- What the commit of a repair found and what it left: the binding waited for its repair
under the authority of the receipt, and receipt, photoset and first obligation came together. -/
structure AlbumRepaired (m : Moment) (db db' : AlbumDb) (r : AlbumCreateRepairReceipt)
    (b : AlbumBinding) (o : AlbumObligation) : Prop where
  fresh : db.repairReceipts.find? r.bindingId = none
  binding : db.bindings.find? r.bindingId = some b
  obligation : db.obligations.find? b.identity.firstObligationId = some o
  authorized : AlbumDb.repairAuthorized m b r
  pending : AlbumDb.repairPending m db b r
  receipts : ∀ bindingId, db'.repairReceipts.find? bindingId =
    if bindingId = r.bindingId then some r else db.repairReceipts.find? bindingId
  bindings : ∀ bindingId, db'.bindings.find? bindingId =
    if bindingId = r.bindingId then some (AlbumDb.repairedRow r b)
    else db.bindings.find? bindingId
  obligations : ∀ obligationId, db'.obligations.find? obligationId =
    if obligationId = o.obligationId then some (AlbumDb.verifiedRow o)
    else db.obligations.find? obligationId

/-- What `INSERT INTO album_create_repair_receipts` did. -/
theorem AlbumDb.insertRepair_effect {m : Moment} {db db' : AlbumDb} {r : AlbumCreateRepairReceipt}
    (h : AlbumDb.insertRepair m db r = some db') : ∃ b o, AlbumRepaired m db db' r b o := by
  obtain ⟨receipts, hrow, h⟩ := Option.bind_eq_some_iff.mp h
  obtain ⟨repaired, hrepair, hverify⟩ := Option.bind_eq_some_iff.mp h
  obtain ⟨hadmissible, hrow⟩ := Table.insertIf?_eq_some.mp hrow
  obtain ⟨_, _, ⟨b, hfind, hauthorized, hpending⟩, _⟩ := hadmissible
  have hb : db.bindings.find? r.bindingId = some b := hfind
  have hkey : b.bindingId = r.bindingId := (Table.find?_eq_some.mp hb).2
  obtain ⟨o, hfindObligation, _⟩ := hpending.2.2.2.1
  have ho : db.obligations.find? b.identity.firstObligationId = some o := hfindObligation
  have hkeyObligation : o.obligationId = b.identity.firstObligationId :=
    (Table.find?_eq_some.mp ho).2
  unfold repairBinding at hrepair
  simp only [hb] at hrepair
  have hstored : db.bindings.find? (repairedRow r b).bindingId = some b := by
    rw [← hkey] at hb
    exact hb
  have hbindings : ∀ bindingId, repaired.bindings.find? bindingId =
      if bindingId = r.bindingId then some (repairedRow r b) else db.bindings.find? bindingId := by
    intro bindingId
    rw [← hkey]
    exact find?_bindings_updateBindingRow (by exact hstored) hrepair bindingId
  obtain ⟨bindings, events, titles, rfl⟩ := movedOnly_updateBindingRow hrepair
  have hrepaired : bindings.find? r.bindingId = some (repairedRow r b) :=
    (hbindings r.bindingId).trans (if_pos rfl)
  have hverify : setObligation { db with
      bindings := bindings
      bindingEvents := events
      titleAttempts := titles
      repairReceipts := receipts } (verifiedRow o) = some db' := by
    have hfound : ((some (repairedRow r b)).bind fun b =>
        db.obligations.find? b.identity.firstObligationId) = some o := ho
    unfold verifyFirstObligation at hverify
    simp only [hrepaired, hfound] at hverify
    exact hverify
  have hwaiting : db.obligations.find? (verifiedRow o).obligationId = some o := by
    rw [← hkeyObligation] at ho
    exact ho
  have hframe := setObligation_frame hverify
  refine ⟨b, o, (Table.insert?_eq_some hrow).1, hb, ho, hauthorized, hpending, ?_, ?_, ?_⟩
  · intro bindingId
    rw [hframe.2]
    exact Table.find?_insert? hrow bindingId
  · intro bindingId
    rw [hframe.1]
    exact hbindings bindingId
  · exact find?_setObligation (by exact hwaiting) hverify

/-- The receipt is for the request, under the authority of the context it was read in. -/
structure RepairNamed (auth : RepairAuth) (c : RepairContext) (request : ResolveRequest)
    (r : AlbumCreateRepairReceipt) : Prop where
  binding : r.bindingId = c.bindingId
  attempt : r.attemptId = request.createAttemptId
  photoset : r.selectedPhotosetId = request.selectedPhotosetId
  revision : r.expectedBindingRevision = request.expectedBindingRevision
  link : r.linkRevision = c.linkRevision ∧ r.ownerNsid = c.ownerNsid
  write : (⟨r.grantGeneration, r.deploymentGateRevision, r.userGateRevision⟩ : WriteAuthority) =
    c.write
  authority : r.authorityKind = auth.kind ∧ r.authorityId = c.authorityId ∧
    r.authorityRevision = c.authorityRevision ∧ r.principalRevision = c.principalRevision

/-- A receipt that was selected is for its request, and the binding had none. -/
theorem repairReceiptRow_eq_some {m : Moment} {db : AlbumDb} {auth : RepairAuth}
    {c : RepairContext} {request : ResolveRequest} {proof : AlbumResolutionProof}
    {r : AlbumCreateRepairReceipt} (hmatches : proofMatches c request proof)
    (h : repairReceiptRow m db auth c request proof = some r) :
    RepairNamed auth c request r ∧ db.repairReceipts.find? c.bindingId = none := by
  unfold repairReceiptRow at h
  split at h
  · cases h
  · next row hrow =>
      obtain ⟨a, ha, h⟩ := Option.bind_eq_some_iff.mp h
      obtain ⟨write, hwrite, h⟩ := Option.bind_eq_some_iff.mp h
      split at h
      · next hguard =>
          cases h
          obtain ⟨⟨⟨hbinding, hrevision, _, _, howner, _, _, hlink⟩, hattempt, hsame, hid,
            hauthority, hprincipal⟩, hopen⟩ := hguard
          obtain ⟨⟨hfresh, _⟩, _, ⟨hexpected, hnamed⟩, _⟩ := hopen
          refine ⟨⟨hbinding, hattempt.trans hnamed, hmatches.1, hrevision.trans hexpected,
            ⟨hlink, howner⟩, hsame, rfl, hid, hauthority, hprincipal⟩, ?_⟩
          rw [← hfresh]
          exact (repairRow_eq_ok hrow).receipt.symm
      · cases h

/-- A request that is not refused has a proof of its photoset. -/
theorem resolutionRefused_eq_none {c : RepairContext} {request : ResolveRequest}
    {proof : AlbumResolutionProof} (h : resolutionRefused c request proof = none) :
    request.valid ∧ proofMatches c request proof := by
  unfold resolutionRefused at h
  split at h
  · cases h
  · next hvalid =>
      split at h
      · cases h
      · split at h
        · cases h
        · next hmatches => exact ⟨not_not.mp hvalid, not_not.mp hmatches⟩

/-- A repair commits everything its request named, or nothing. -/
theorem commitAlbumResolution_effect (w : AlbumWorld) (clock : BatchClock) (db : AlbumDb)
    (auth : RepairAuth) (c : RepairContext) (request : ResolveRequest)
    (proof : AlbumResolutionProof) :
    (commitAlbumResolution w clock db auth c request proof).1 = db ∨
    ∃ r b o, RepairNamed auth c request r ∧ AlbumRepaired ⟨w, clock.insert⟩ db
      (commitAlbumResolution w clock db auth c request proof).1 r b o := by
  unfold commitAlbumResolution
  cases hrefused : resolutionRefused c request proof with
  | some code =>
      left
      rfl
  | none =>
      have hmatches := (resolutionRefused_eq_none hrefused).2
      cases hrow : repairReceiptRow ⟨w, clock.insert⟩ db auth c request proof with
      | none =>
          left
          rfl
      | some r =>
          cases hinsert : AlbumDb.insertRepair ⟨w, clock.insert⟩ db r with
          | none =>
              left
              simp only [insertSelected, hinsert, batchAnswer]
          | some db' =>
              right
              obtain ⟨b, o, hrepaired⟩ := AlbumDb.insertRepair_effect hinsert
              refine ⟨r, b, o, (repairReceiptRow_eq_some hmatches hrow).1, ?_⟩
              simp only [insertSelected, hinsert, batchAnswer]
              exact hrepaired

/-- What a step does to the receipts: nothing, or the commit of a repair. -/
def RepairStepped (db : AlbumDb) (move : AlbumMove) (db' : AlbumDb) : Prop :=
  db'.repairReceipts = db.repairReceipts ∨
  ∃ clock auth c request proof r b o, move.call = .repair clock auth c request proof ∧
    RepairNamed auth c request r ∧ AlbumRepaired ⟨move.world, clock.insert⟩ db db' r b o

theorem AlbumStep.repairStepped {db db' : AlbumDb} {move : AlbumMove}
    (h : AlbumStep db move db') : RepairStepped db move db' := by
  have hwrites := h.writes
  rcases move with ⟨w, call⟩
  cases call with
  | repair clock auth c request proof =>
      have hdb : (commitAlbumResolution w clock db auth c request proof).1 = db' := h
      rcases commitAlbumResolution_effect w clock db auth c request proof with hsame | heffect
      · left
        rw [← hdb, hsame]
      · right
        obtain ⟨r, b, o, hnamed, hrepaired⟩ := heffect
        rw [hdb] at hrepaired
        exact ⟨clock, auth, c, request, proof, r, b, o, rfl, hnamed, hrepaired⟩
  | _ => exact Or.inl (hwrites.receipts_eq (by simp [AlbumCall.part]))

/-! ## What a receipt shows -/

/-- The binding of the receipt has its photoset, its first obligation is verified, and its
create ended unresolved. -/
def RepairShown (db : AlbumDb) (r : AlbumCreateRepairReceipt) : Prop :=
  ∃ b ∈ db.bindings.find? r.bindingId,
    (b.flickrPhotosetId = some r.selectedPhotosetId ∧ b.materializationState = .materialized) ∧
    (∃ o ∈ db.obligations.find? b.identity.firstObligationId, o.state = .membershipVerified) ∧
    ∃ a ∈ db.materializations.find? r.attemptId, a.bindingId = r.bindingId ∧
      a.phase.isUnknown = true

theorem CreateKept.phase_eq_of_unknown {a a' : AlbumMaterializationAttempt} (h : CreateKept a a')
    (hunknown : a.phase.isUnknown = true) : a'.phase = a.phase := by
  apply h.ended
  cases hphase : a.phase with
  | createOutcomeUnknown => rfl
  | _ => simp [hphase, MaterializationPhase.isUnknown] at hunknown

theorem RepairShown.kept {db db' : AlbumDb} {r : AlbumCreateRepairReceipt}
    (hkept : PhotosetsKept db db') (h : RepairShown db r) : RepairShown db' r := by
  obtain ⟨b, hb, ⟨hphotoset, hmaterialized⟩, ⟨o, ho, hverified⟩, a, ha, hbinding, hunknown⟩ := h
  obtain ⟨b', hb', hbKept⟩ := hkept.bindings r.bindingId b hb
  obtain ⟨o', ho', hoKept⟩ := hkept.obligations b.identity.firstObligationId o ho
  obtain ⟨a', ha', haKept⟩ := hkept.creates r.attemptId a ha
  have hphase := haKept.phase_eq_of_unknown hunknown
  refine ⟨b', hb', ⟨?_, hbKept.materialized hmaterialized⟩, ⟨o', ?_, hoKept.verified hverified⟩,
    a', ha', ?_, ?_⟩
  · rw [← hphotoset]
    apply hbKept.photoset
    rw [hphotoset]
    exact Option.some_ne_none _
  · rw [hbKept.identity]
    exact ho'
  · rw [← hbinding]
    exact congrArg AlbumMaterializationClaim.bindingId haKept.claim
  · rw [hphase]
    exact hunknown

/-- The commit of a repair shows its receipt. -/
theorem AlbumRepaired.shown {m : Moment} {db db' : AlbumDb} {r : AlbumCreateRepairReceipt}
    {b : AlbumBinding} {o : AlbumObligation} (h : AlbumRepaired m db db' r b o)
    (hkept : PhotosetsKept db db') : RepairShown db' r := by
  obtain ⟨_, _, _, _, a, ha, hunknown, ⟨hbinding, _⟩, _⟩ := h.pending
  obtain ⟨a', ha', haKept⟩ := hkept.creates r.attemptId a ha
  have hphase := haKept.phase_eq_of_unknown hunknown
  have hkey : b.bindingId = r.bindingId := (Table.find?_eq_some.mp h.binding).2
  have hkeyObligation : o.obligationId = b.identity.firstObligationId :=
    (Table.find?_eq_some.mp h.obligation).2
  refine ⟨AlbumDb.repairedRow r b, ?_, ⟨rfl, rfl⟩, ⟨AlbumDb.verifiedRow o, ?_, rfl⟩, a', ha', ?_, ?_⟩
  · exact (h.bindings r.bindingId).trans (if_pos rfl)
  · exact (h.obligations b.identity.firstObligationId).trans (if_pos hkeyObligation.symm)
  · rw [← hkey, ← hbinding]
    exact congrArg AlbumMaterializationClaim.bindingId haKept.claim
  · rw [hphase]
    exact hunknown

/-- Every receipt is shown. -/
def RepairsShown (db : AlbumDb) : Prop := ∀ r ∈ db.repairReceipts, RepairShown db r

/-- In every reachable state. -/
theorem repairsShown_reachable {db : AlbumDb} (h : Reachable AlbumStep AlbumInitial db) :
    RepairsShown db := by
  apply h.invariant
  · intro start hstart r hr
    rw [hstart] at hr
    exact absurd hr (Table.not_mem_empty r)
  · intro before move after hbefore hstep
    have hkept := PhotosetsKept.writes hstep.writes
    rcases hstep.repairStepped with hsame | ⟨clock, auth, c, request, proof, r, b, o, _, _, hrepaired⟩
    · intro r hr
      rw [hsame] at hr
      exact (hbefore r hr).kept hkept
    · intro other hother
      have hfind := Table.find?_of_mem hother
      rw [hrepaired.receipts] at hfind
      split at hfind
      · cases hfind
        exact hrepaired.shown hkept
      · exact (hbefore other (Table.mem_of_find? hfind)).kept hkept

/-! ## Repeated requests -/

/-- The request selects what the receipt says, for the attempt it says. -/
def RepairRepeats (r : AlbumCreateRepairReceipt) (request : ResolveRequest) : Prop :=
  r.selectedPhotosetId = request.selectedPhotosetId ∧ r.attemptId = request.createAttemptId

instance (r : AlbumCreateRepairReceipt) (request : ResolveRequest) :
    Decidable (RepairRepeats r request) :=
  inferInstanceAs (Decidable (_ ∧ _))

/-- The authority of the request may still read the receipt of the binding. -/
def RepairReadable (auth : RepairAuth) (row : RepairRow) : Prop :=
  ¬ repairClosed auth row.binding ∧ row.ready

instance (auth : RepairAuth) (row : RepairRow) : Decidable (RepairReadable auth row) :=
  inferInstanceAs (Decidable (_ ∧ _))

/-- The photoset that the answer of a replay shows. -/
def Prepared.photoset? : Prepared → Option Token
  | .replay status => status.resolvedPhotosetId
  | .fresh _ => none

/-- The answer to a request for a repaired binding: the status with the photoset of the
receipt, or a conflict. -/
def RepairAnswered (r : AlbumCreateRepairReceipt) (request : ResolveRequest)
    (answer : Except AlbumError RepairStatus) : Prop :=
  if RepairRepeats r request then
    ∃ status, answer = .ok status ∧ status.resolvedPhotosetId = some r.selectedPhotosetId
  else answer = .error .resolutionConflict

/-- The status of a repaired binding is never refused. -/
theorem repairStatus_of_shown {m : Moment} {db : AlbumDb} {auth : RepairAuth} {row : RepairRow}
    {r : AlbumCreateRepairReceipt} (hrow : repairRow m db auth r.bindingId = .ok row)
    (hr : db.repairReceipts.find? r.bindingId = some r) (hshown : RepairShown db r) :
    ∃ status, repairStatus db row = .ok status ∧
      status.resolvedPhotosetId = some r.selectedPhotosetId := by
  have hread := repairRow_eq_ok hrow
  obtain ⟨b, hb, ⟨hphotoset, hmaterialized⟩, _⟩ := hshown
  have hb : db.bindings.find? r.bindingId = some b := hb
  have hbinding : row.binding = b := Option.some.inj (hread.binding.symm.trans hb)
  have hreceipt : row.receipt = some r := hread.receipt.trans hr
  have hstate : repairState (db.remoteStatus b) ∉
      [RepairState.materializationPending, .createRejected, .createOutcomeUnknown] := by
    unfold AlbumDb.remoteStatus
    split
    · decide
    · split
      · decide
      · rw [hmaterialized]
        decide
  have hwhole : ¬ statusBroken row (repairState (db.remoteStatus b)) := by
    unfold statusBroken
    rw [hreceipt, hbinding, hphotoset]
    simp only [List.mem_cons, not_or] at hstate
    obtain ⟨hpending, hrejected, hunknown, _⟩ := hstate
    simp [hpending, hrejected, hunknown]
  unfold repairStatus
  simp only [hbinding]
  rw [if_neg hwhole]
  exact ⟨_, rfl, by rw [hreceipt]; rfl⟩

/-- How the receipt answers a request whose authority may read it. -/
theorem repairReplay_of_shown {m : Moment} {db : AlbumDb} {auth : RepairAuth} {row : RepairRow}
    {r : AlbumCreateRepairReceipt} {request : ResolveRequest}
    (hrow : repairRow m db auth r.bindingId = .ok row)
    (hr : db.repairReceipts.find? r.bindingId = some r) (hshown : RepairShown db r)
    (hreadable : RepairReadable auth row) :
    ∃ answer, RepairAnswered r request answer ∧
      repairReplay db auth request row = answer.map some := by
  have hreceipt : row.receipt = some r := (repairRow_eq_ok hrow).receipt.trans hr
  unfold repairReplay RepairAnswered
  rw [if_neg hreadable.1, if_neg (not_not.mpr hreadable.2)]
  simp only [hreceipt]
  by_cases hsame : RepairRepeats r request
  · obtain ⟨status, hstatus, hresolved⟩ := repairStatus_of_shown hrow hr hshown
    refine ⟨.ok status, ?_, ?_⟩
    · rw [if_pos hsame]
      exact ⟨status, rfl, hresolved⟩
    · refine (if_pos (by exact hsame)).trans ?_
      rw [hstatus]
  · refine ⟨.error .resolutionConflict, ?_, ?_⟩
    · rw [if_neg hsame]
    · exact if_neg (by exact hsame)

/-- The request of an answer that is a status repeats the receipt. -/
theorem repairReplay_ok {m : Moment} {db : AlbumDb} {auth : RepairAuth} {row : RepairRow}
    {r : AlbumCreateRepairReceipt} {request : ResolveRequest} {replayed : Option RepairStatus}
    (hrow : repairRow m db auth r.bindingId = .ok row)
    (hr : db.repairReceipts.find? r.bindingId = some r)
    (h : repairReplay db auth request row = .ok replayed) :
    RepairReadable auth row ∧ RepairRepeats r request ∧
      ∃ status, replayed = some status := by
  have hreceipt : row.receipt = some r := (repairRow_eq_ok hrow).receipt.trans hr
  unfold repairReplay at h
  simp only [hreceipt] at h
  split at h
  · cases h
  · next hopen =>
      split at h
      · cases h
      · next hready =>
          split at h
          · next hsame =>
              obtain ⟨status, _, rfl⟩ := Fallible.map_eq_ok.mp h
              exact ⟨⟨hopen, not_not.mp hready⟩, hsame, status, rfl⟩
          · cases h

/-- A request for a repaired binding is answered before anything is read from Flickr. -/
theorem prepareAlbumResolution_of_shown {m : Moment} {db : AlbumDb} {auth : RepairAuth}
    {row : RepairRow} {r : AlbumCreateRepairReceipt} {request : ResolveRequest}
    (hvalid : request.valid) (hrow : repairRow m db auth r.bindingId = .ok row)
    (hr : db.repairReceipts.find? r.bindingId = some r) (hshown : RepairShown db r)
    (hreadable : RepairReadable auth row) :
    ∃ answer, RepairAnswered r request answer ∧
      prepareAlbumResolution m db auth r.bindingId request = answer.map .replay := by
  obtain ⟨answer, hanswer, hreplay⟩ := repairReplay_of_shown hrow hr hshown hreadable
  refine ⟨answer, hanswer, ?_⟩
  unfold prepareAlbumResolution
  rw [if_pos hvalid, hrow]
  simp only [Except.bind, hreplay]
  cases answer with
  | error code => rfl
  | ok status => rfl

theorem prepareAlbumResolution_ok {m : Moment} {db : AlbumDb} {auth : RepairAuth}
    {r : AlbumCreateRepairReceipt} {request : ResolveRequest} {prepared : Prepared}
    (hr : db.repairReceipts.find? r.bindingId = some r)
    (h : prepareAlbumResolution m db auth r.bindingId request = .ok prepared) :
    RepairRepeats r request ∧ ∃ status, prepared = .replay status := by
  unfold prepareAlbumResolution at h
  split at h
  · obtain ⟨row, hrow, h⟩ := Fallible.bind_eq_ok.mp h
    obtain ⟨replayed, hreplayed, h⟩ := Fallible.bind_eq_ok.mp h
    obtain ⟨_, hrepeats, status, rfl⟩ := repairReplay_ok hrow hr hreplayed
    cases h
    exact ⟨hrepeats, status, rfl⟩
  · cases h

/-- A repair of a repaired binding changes nothing. -/
theorem commitAlbumResolution_of_receipt {w : AlbumWorld} {clock : BatchClock} {db : AlbumDb}
    {auth : RepairAuth} {c : RepairContext} {request : ResolveRequest}
    {proof : AlbumResolutionProof} {r : AlbumCreateRepairReceipt}
    (hr : db.repairReceipts.find? c.bindingId = some r) :
    commitAlbumResolution w clock db auth c request proof =
      (db, match resolutionRefused c request proof with
        | some code => .error code
        | none => resolutionRead ⟨w, clock.decision⟩ auth c request db) := by
  unfold commitAlbumResolution
  cases hrefused : resolutionRefused c request proof with
  | some code => rfl
  | none =>
      have hmatches := (resolutionRefused_eq_none hrefused).2
      cases hrow : repairReceiptRow ⟨w, clock.insert⟩ db auth c request proof with
      | none => rfl
      | some other =>
          have hfresh := (repairReceiptRow_eq_some hmatches hrow).2
          rw [hr] at hfresh
          cases hfresh

theorem resolutionRead_of_shown {m : Moment} {db : AlbumDb} {auth : RepairAuth}
    {c : RepairContext} {row : RepairRow} {r : AlbumCreateRepairReceipt} {request : ResolveRequest}
    (hbinding : c.bindingId = r.bindingId) (hrow : repairRow m db auth r.bindingId = .ok row)
    (hr : db.repairReceipts.find? r.bindingId = some r) (hshown : RepairShown db r)
    (hreadable : RepairReadable auth row) :
    RepairAnswered r request (resolutionRead m auth c request db) := by
  have hreplayed : ∃ answer, RepairAnswered r request answer ∧
      repairReplay db auth request row = answer.map some :=
    repairReplay_of_shown hrow hr hshown hreadable
  obtain ⟨answer, hanswer, hreplay⟩ := hreplayed
  have hread : resolutionRead m auth c request db = answer := by
    unfold resolutionRead
    rw [hbinding, hrow]
    simp only [Except.bind, hreplay]
    cases answer with
    | error code => rfl
    | ok status => rfl
  rw [hread]
  exact hanswer

theorem resolutionRead_ok {m : Moment} {db : AlbumDb} {auth : RepairAuth} {c : RepairContext}
    {r : AlbumCreateRepairReceipt} {request : ResolveRequest} {status : RepairStatus}
    (hbinding : c.bindingId = r.bindingId)
    (hr : db.repairReceipts.find? r.bindingId = some r)
    (h : resolutionRead m auth c request db = .ok status) : RepairRepeats r request := by
  unfold resolutionRead at h
  rw [hbinding] at h
  obtain ⟨row, hrow, h⟩ := Fallible.bind_eq_ok.mp h
  obtain ⟨replayed, hreplayed, _⟩ := Fallible.bind_eq_ok.mp h
  exact (repairReplay_ok hrow hr hreplayed).2.1

/-- The photoset of a binding whose create ended unresolved is its receipt's. -/
theorem photoset_of_unknown {db : AlbumDb} (h : PhotosetsSourced db)
    {a : AlbumMaterializationAttempt} {b : AlbumBinding} {photosetId : Token}
    (ha : a ∈ db.materializations) (hunknown : a.phase.isUnknown = true) (hb : b ∈ db.bindings)
    (hsame : b.bindingId = a.bindingId) (hphotoset : b.flickrPhotosetId = some photosetId) :
    ∃ r ∈ db.repairReceipts.find? a.bindingId, r.selectedPhotosetId = photosetId := by
  rcases h.sourced b hb photosetId hphotoset with ⟨other, hother, hbinding, hverified⟩ | hreceipt
  · exfalso
    have hboth : other = a := by
      apply h.once other hother a ha (hbinding.trans hsame)
      · intro hnone
        cases hphase : other.phase with
        | verified => simp [hphase, MaterializationPhase.dispatch?] at hnone
        | _ => simp [hphase, MaterializationPhase.verifiedPhotoset?] at hverified
      · intro hnone
        cases hphase : a.phase with
        | createOutcomeUnknown => simp [hphase, MaterializationPhase.dispatch?] at hnone
        | _ => simp [hphase, MaterializationPhase.isUnknown] at hunknown
    subst hboth
    cases hphase : other.phase with
    | verified => simp [hphase, MaterializationPhase.isUnknown] at hunknown
    | _ => simp [hphase, MaterializationPhase.verifiedPhotoset?] at hverified
  · rw [← hsame]
    exact hreceipt

namespace AlbumSample

def selected : Token := ⟨"photoset-1", Eq.refl true⟩
def url : NavigationUrl := ⟨"https://www.flickr.com/photos/owner-1/sets/photoset-1"⟩
def plugin : RepairAuth := .installation installationId "digest-1"

/-- The create of the sample album is claimed and marked, and its outcome is never learned. -/
def unresolved : List AlbumMove :=
  calls ++ created ++ [⟨world, .unknownCreate 7 createClaim⟩]

/-- The owner selects a photoset for the album. -/
def resolution : ResolveRequest := ⟨5, createAttempt, selected⟩

/-- What a request for the album reads before it looks at Flickr. -/
def context : RepairContext where
  bindingId := album
  bindingRevision := 5
  userId := user
  attemptId := createAttempt
  ownerNsid := owner
  firstPhotoId := firstPhoto
  firstPhotoBindingId := firstBinding
  linkRevision := 1
  write := ⟨generation, 1, 1⟩
  lifecycle := .materializationPending
  preContextIds := []
  authorityRevision := 1
  principalRevision := 0
  authorityId := installationId
  observedAtUs := 8

def proof : AlbumResolutionProof := ⟨selected, url, owner, firstPhoto, [selected], 9⟩

def repair : AlbumMove := ⟨world, .repair (at_ 10) plugin context resolution proof⟩

/-- The same selection, with the revision that the binding has after the repair. -/
def restated : ResolveRequest := { resolution with expectedBindingRevision := 6 }

def repaired : List AlbumMove := unresolved ++ [repair]

/-- The world of the sample while the deployment is paused. -/
def paused : AlbumWorld :=
  { world with
    flickr :=
      { world.flickr with
        gates := ⟨[⟨.deployment, false, 2⟩, ⟨.user user, true, 1⟩], by decide⟩ } }

end AlbumSample

end FlickrGroupAddr

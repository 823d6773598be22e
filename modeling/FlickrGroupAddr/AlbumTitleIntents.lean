import FlickrGroupAddr.AlbumRemovals

/-!
# Title intents

A title intent is a compare-and-set on the title revision of its binding.  The receipts
of a binding are the revisions from the second to the current one, each made by one
request; a receipt answers every later request that names its revision.
-/

namespace FlickrGroupAddr

set_option autoImplicit false

open KeyedTable Transition Relation

/-! ## Which calls write a receipt -/

theorem AlbumWrite.titleReceipts_eq {part : Option AlbumPart} {db db' : AlbumDb}
    (h : AlbumWrite part db db') (hother : part ≠ some .titleIntents) :
    db'.titleReceipts = db.titleReceipts := by
  cases h with
  | binding new hset =>
      obtain ⟨bindings, events, titles, rfl⟩ := AlbumDb.movedOnly_setBinding hset
      rfl
  | obligation new hset =>
      rcases AlbumDb.setObligation_eq_some hset with ⟨_, rfl⟩ | ⟨_, _, _, _, _, rfl⟩
      · rfl
      · rfl
  | titleAttempt m new _ hset =>
      obtain ⟨titles, rfl⟩ := AlbumDb.titlesOnly_setTitleAttempt hset
      rfl
  | titleReceipt hpart => exact absurd hpart hother
  | _ => rfl

theorem AlbumWrites.titleReceipts_eq {part : Option AlbumPart} {db db' : AlbumDb}
    (h : AlbumWrites part db db') (hother : part ≠ some .titleIntents) :
    db'.titleReceipts = db.titleReceipts := by
  induction h with
  | refl => rfl
  | tail _ hlast ih => exact (hlast.titleReceipts_eq hother).trans ih

/-! ## The accepted titles of a binding -/

/-- The receipts of a binding reach from the second revision to its own, the last of them
with its title. -/
structure TitlesAccepted (db : AlbumDb) : Prop where
  positive : ∀ r ∈ db.titleReceipts, 1 ≤ r.expectedTitleRevision
  accepted : ∀ b ∈ db.bindings, ∀ n, 2 ≤ n → n ≤ b.titleRevision →
    (db.titleReceipts.find? (b.bindingId, n)).isSome = true
  current : ∀ b ∈ db.bindings, ∀ r ∈ db.titleReceipts.find? (b.bindingId, b.titleRevision),
    r.desiredTitle = b.desiredTitle

namespace TitlesAccepted

theorem empty : TitlesAccepted emptyAlbumDb := by
  constructor
  · intro r hr
    exact absurd hr (Table.not_mem_empty r)
  · intro b hb
    exact absurd hb (Table.not_mem_empty b)
  · intro b hb
    exact absurd hb (Table.not_mem_empty b)

theorem of_eq {db db' : AlbumDb} (h : TitlesAccepted db) (hbindings : db'.bindings = db.bindings)
    (hreceipts : db'.titleReceipts = db.titleReceipts) : TitlesAccepted db' := by
  constructor
  · rw [hreceipts]
    exact h.positive
  · rw [hbindings, hreceipts]
    exact h.accepted
  · rw [hbindings, hreceipts]
    exact h.current

/-- A binding takes a new title only from the receipt of its next revision. -/
theorem setBinding {db db' : AlbumDb} {new : AlbumBinding} (h : TitlesAccepted db)
    (hset : db.setBinding new = some db') : TitlesAccepted db' := by
  have hreceipts : db'.titleReceipts = db.titleReceipts := by
    obtain ⟨bindings, events, titles, rfl⟩ := AlbumDb.movedOnly_setBinding hset
    rfl
  rcases AlbumDb.setBinding_eq_some hset with ⟨_, rfl⟩ | ⟨old, hold, hallowed, hmove⟩
  · exact h
  have hbindings : db'.bindings = db.bindings.set new := by
    rcases hmove with ⟨_, rfl⟩ | ⟨_, _, _, rfl⟩
    · rfl
    · rfl
  have hmem : old ∈ db.bindings := Table.mem_of_find? hold
  have hkey : old.bindingId = new.bindingId := Table.key_of_find? hold
  obtain ⟨_, _, htitle, hdesired, _⟩ := hallowed.revision
  constructor
  · rw [hreceipts]
    exact h.positive
  · intro b hb n hlow hhigh
    rw [hbindings] at hb
    rw [hreceipts]
    rcases Table.mem_set_cases hb with rfl | ⟨hb, _⟩
    · by_cases hsame : b.titleRevision = old.titleRevision
      · rw [← hkey]
        exact h.accepted old hmem n hlow (hsame ▸ hhigh)
      · obtain ⟨hnext, r, hr, _⟩ := htitle hsame
        by_cases hlast : n = b.titleRevision
        · rw [hlast, ← hkey, hr]
          rfl
        · rw [← hkey]
          exact h.accepted old hmem n hlow (by omega)
    · exact h.accepted b hb n hlow hhigh
  · intro b hb r hr
    rw [hbindings] at hb
    rw [hreceipts] at hr
    rcases Table.mem_set_cases hb with rfl | ⟨hb, _⟩
    · rw [← hkey] at hr
      by_cases hsame : b.titleRevision = old.titleRevision
      · have hkept : b.desiredTitle = old.desiredTitle := by
          by_contra hne
          exact hdesired hne hsame
        rw [hkept]
        exact h.current old hmem r (hsame ▸ hr)
      · obtain ⟨_, r', hr', _, _, _, htaken⟩ := htitle hsame
        cases hr.symm.trans hr'
        exact htaken
    · exact h.current b hb r hr

/-- The receipt of a new title is past the title of its binding. -/
theorem titleReceipt {db : AlbumDb} {m : Moment} {r : AlbumTitleReceipt}
    {receipts : Table AlbumTitleReceipt.key} (h : TitlesAccepted db)
    (hadmissible : AlbumDb.titleReceiptAdmissible m db r)
    (hrow : db.titleReceipts.insert? r = some receipts) :
    TitlesAccepted { db with titleReceipts := receipts } := by
  obtain ⟨_, ⟨hpositive, _⟩, stored, hstored, ⟨_, htitle, _⟩, _⟩ := hadmissible
  constructor
  · intro other hother
    rcases (Table.mem_insert? hrow).mp hother with hold | rfl
    · exact h.positive other hold
    · exact hpositive
  · intro b hb n hlow hhigh
    have hfound := h.accepted b hb n hlow hhigh
    simp only [Table.find?_insert? hrow]
    split
    · rfl
    · exact hfound
  · intro b hb other hother
    have hne : (b.bindingId, b.titleRevision) ≠ r.key := by
      intro heq
      obtain ⟨hid, hrevision⟩ := Prod.mk.inj heq
      have hsame : db.bindings.find? r.bindingId = some b := by
        rw [← hid]
        exact Table.find?_of_mem hb
      cases hstored.symm.trans hsame
      rw [htitle] at hrevision
      exact absurd hrevision (Nat.ne_of_lt (Nat.lt_succ_self _))
    simp only [Table.find?_insert? hrow, if_neg hne] at hother
    exact h.current b hb other hother

theorem write {part : Option AlbumPart} {db db' : AlbumDb} (hwrite : AlbumWrite part db db')
    (h : TitlesAccepted db) : TitlesAccepted db' := by
  cases hwrite with
  | binding new hset => exact h.setBinding hset
  | bindingCreated _ m b bindings events obligations obligationEvents hadmissible hrow =>
      obtain ⟨⟨_, htitle, _⟩, _⟩ := hadmissible
      refine ⟨h.positive, ?_, ?_⟩
      · intro other hother n hlow hhigh
        rcases (Table.mem_insert? hrow).mp hother with hold | rfl
        · exact h.accepted other hold n hlow hhigh
        · omega
      · intro other hother r hr
        rcases (Table.mem_insert? hrow).mp hother with hold | rfl
        · exact h.current other hold r hr
        · -- no receipt is of the first revision
          have hpositive := h.positive r (Table.mem_of_find? hr)
          have hrevision : r.titleRevision = other.titleRevision :=
            congrArg Prod.snd (Table.key_of_find? hr)
          rw [AlbumTitleReceipt.titleRevision, htitle] at hrevision
          omega
  | obligation new hset =>
      rcases AlbumDb.setObligation_eq_some hset with ⟨_, rfl⟩ | ⟨_, _, _, _, _, rfl⟩
      · exact h
      · exact h.of_eq rfl rfl
  | titleAttempt m new _ hset =>
      obtain ⟨titles, rfl⟩ := AlbumDb.titlesOnly_setTitleAttempt hset
      exact h.of_eq rfl rfl
  | titleReceipt _ m r receipts hadmissible hrow => exact h.titleReceipt hadmissible hrow
  | _ => exact h.of_eq rfl rfl

theorem reachable {db : AlbumDb} (h : Reachable AlbumStep AlbumInitial db) : TitlesAccepted db :=
  album_invariant empty (fun _ _ _ => write) h

end TitlesAccepted

/-! ## Title revisions only rise -/

/-- Every binding stays, at no lower title revision. -/
abbrev TitlesRise (db db' : AlbumDb) : Prop :=
  Table.Kept (fun b b' : AlbumBinding => b.titleRevision ≤ b'.titleRevision) db.bindings db'.bindings

instance : IsPreorder AlbumBinding fun b b' => b.titleRevision ≤ b'.titleRevision where
  refl b := Nat.le_refl b.titleRevision
  trans _ _ _ := Nat.le_trans

instance : IsPreorder AlbumDb TitlesRise where
  refl db := Table.Kept.same db.bindings
  trans _ _ _ := Table.Kept.trans

theorem AlbumWrite.titlesRise {part : Option AlbumPart} {db db' : AlbumDb}
    (h : AlbumWrite part db db') : TitlesRise db db' := by
  cases h with
  | binding new hset =>
      rcases AlbumDb.setBinding_eq_some hset with ⟨_, rfl⟩ | ⟨old, hold, hallowed, hmove⟩
      · exact Table.Kept.same _
      have hrise : old.titleRevision ≤ new.titleRevision := by
        by_cases hsame : new.titleRevision = old.titleRevision
        · exact hsame.ge
        · have hnext := (hallowed.revision.2.2.1 hsame).1
          omega
      rcases hmove with ⟨_, rfl⟩ | ⟨_, _, _, rfl⟩
      · exact Table.kept_set hold hrise
      · exact Table.kept_set hold hrise
  | bindingCreated _ m b bindings events obligations obligationEvents _ hrow =>
      exact Table.kept_insert? hrow
  | obligation new hset =>
      rcases AlbumDb.setObligation_eq_some hset with ⟨_, rfl⟩ | ⟨_, _, _, _, _, rfl⟩
      · exact Table.Kept.same _
      · exact Table.Kept.same _
  | titleAttempt m new _ hset =>
      obtain ⟨titles, rfl⟩ := AlbumDb.titlesOnly_setTitleAttempt hset
      exact Table.Kept.same _
  | _ => exact Table.Kept.same _

/-- No receipt is past the title revision of its binding. -/
def TitlesSettled (db : AlbumDb) : Prop :=
  ∀ r ∈ db.titleReceipts, ∃ b, db.bindings.find? r.bindingId = some b ∧
    r.titleRevision ≤ b.titleRevision

/-! ## What a request does -/

/-- A title was accepted: its receipt is new, and its binding has the title. -/
structure TitleTaken (db db' : AlbumDb) (r : AlbumTitleReceipt) : Prop where
  fresh : db.titleReceipts.find? r.key = none
  receipts : ∀ key, db'.titleReceipts.find? key =
    if key = r.key then some r else db.titleReceipts.find? key
  binding : ∃ b b', db.bindings.find? r.bindingId = some b ∧
    db'.bindings.find? r.bindingId = some b' ∧ b'.identity = b.identity ∧
    b'.titleRevision = r.titleRevision

theorem AlbumDb.insertTitleReceipt_effect {m : Moment} {db db' : AlbumDb} {r : AlbumTitleReceipt}
    (h : AlbumDb.insertTitleReceipt m db r = some db') : TitleTaken db db' r := by
  obtain ⟨receipts, hrow, h⟩ := Option.bind_eq_some_iff.mp h
  obtain ⟨hadmissible, hrow⟩ := Table.insertIf?_eq_some.mp hrow
  obtain ⟨_, _, b, hb, _⟩ := hadmissible
  have hb : ({ db with titleReceipts := receipts } : AlbumDb).bindings.find? r.bindingId =
      some b := hb
  unfold AlbumDb.applyTitle at h
  rw [hb] at h
  have hreceipts : db'.titleReceipts = receipts := by
    obtain ⟨bindings, events, titles, rfl⟩ := AlbumDb.movedOnly_updateBindingRow h
    rfl
  simp only at h
  have hkey : b.bindingId = r.bindingId := Table.key_of_find? hb
  have hb' := AlbumDb.find?_updateBindingRow hb (by exact hkey) h
  refine ⟨(Table.insert?_eq_some hrow).1, ?_, b, _, hb, hb', rfl, rfl⟩
  intro key
  rw [hreceipts, Table.find?_insert? hrow]

/-- The receipt that a title intent inserts. -/
theorem titleRow_eq_some {m : Moment} {db : AlbumDb} {auth : AdmissionAuth}
    {request : AlbumTitleRequest} {r : AlbumTitleReceipt}
    (h : titleRow m db auth request = some r) :
    ∃ b, db.bindings.find? request.bindingId = some b ∧ ownerAuthorized m.world auth b ∧
      r.key = (request.bindingId, request.titleRevision) ∧
      r.expectedBindingRevision = request.expectedBindingRevision ∧
      r.expectedTitleRevision = request.expectedTitleRevision ∧
      r.desiredTitle = request.desiredTitle := by
  unfold titleRow at h
  split at h
  · next b linkReady hcontext =>
      split at h
      · next hguard =>
          cases h
          obtain ⟨hb, howner⟩ := owner_of_lifecycleContext hcontext
          refine ⟨b, hb, howner, ?_, rfl, rfl, rfl⟩
          rw [hguard.1.2.2, ← Table.key_of_find? hb]
          rfl
      · cases h
  · cases h

/-- The request repeats the one that made the receipt. -/
def AlbumTitleRequest.repeats (request : AlbumTitleRequest) (r : AlbumTitleReceipt) : Prop :=
  r.expectedBindingRevision = request.expectedBindingRevision ∧
  r.expectedTitleRevision = request.expectedTitleRevision ∧
  r.desiredTitle = request.desiredTitle

instance (request : AlbumTitleRequest) (r : AlbumTitleReceipt) : Decidable (request.repeats r) :=
  inferInstanceAs (Decidable (_ ∧ _ ∧ _))

/-- Every revision of the request is a safe positive integer. -/
def AlbumTitleRequest.wellFormed (request : AlbumTitleRequest) : Prop :=
  revisionInRange request.titleRevision ∧ revisionInRange request.expectedBindingRevision ∧
    revisionInRange request.expectedTitleRevision

instance (request : AlbumTitleRequest) : Decidable request.wellFormed :=
  inferInstanceAs (Decidable (_ ∧ _ ∧ _))

section Answers

variable {w : AlbumWorld} {clock : BatchClock} {db : AlbumDb} {auth : AdmissionAuth}
  {request : AlbumTitleRequest}

/-- A request makes the receipt of its revision and answers with it, or it changes nothing
and makes none. -/
theorem putAlbumTitleIntent_outcome :
    (∃ r current, TitleTaken db (putAlbumTitleIntent w clock db auth request).1 r ∧
      (putAlbumTitleIntent w clock db auth request).2 = .ok ⟨true, r, current⟩) ∨
    ((putAlbumTitleIntent w clock db auth request).1 = db ∧
      ∀ answer, (putAlbumTitleIntent w clock db auth request).2 = .ok answer →
        answer.created = false) := by
  unfold putAlbumTitleIntent
  split
  swap
  · right
    refine ⟨rfl, ?_⟩
    intro answer h
    cases h
  cases hrow : titleRow ⟨w, clock.insert⟩ db auth request with
  | none =>
      right
      refine ⟨rfl, ?_⟩
      intro answer h
      obtain ⟨_, _, _, hcreated⟩ := receiptRead_eq_ok (orError_eq_ok h)
      exact hcreated
  | some r =>
      cases hinsert : AlbumDb.insertTitleReceipt ⟨w, clock.insert⟩ db r with
      | none =>
          right
          simp only [insertSelected, hinsert, batchAnswer, true_and]
          intro answer h
          cases h
      | some db' =>
          left
          obtain ⟨b, hb, howner, hkey, hbinding, htitle, hdesired⟩ := titleRow_eq_some hrow
          have htaken := AlbumDb.insertTitleReceipt_effect hinsert
          have hid : r.bindingId = request.bindingId := congrArg Prod.fst hkey
          obtain ⟨old, b', hold, hb', hidentity, _⟩ := htaken.binding
          rw [hid] at hold hb'
          cases hb.symm.trans hold
          have howner' : ownerAuthorized w auth b' := by
            unfold ownerAuthorized
            rw [hidentity]
            exact howner
          have hnamed : b'.bindingId = request.bindingId := Table.key_of_find? hb'
          have hreceipt : db'.titleReceipts.find? (b'.bindingId, request.titleRevision) =
              some r := by
            rw [htaken.receipts, hnamed, if_pos hkey.symm]
          have hdecision : titleDecision ⟨w, clock.decision⟩ db' auth request = none := by
            unfold titleDecision
            rw [lifecycleContext_of_owner hb' howner']
            simp only [hreceipt]
            exact if_pos ⟨hbinding, htitle, hdesired⟩
          simp only [insertSelected, hinsert, batchAnswer, hdecision, orError]
          refine ⟨r, db'.lifecycle b', htaken, ?_⟩
          exact receiptRead_of_owner hb' howner' howner' hreceipt

/-- A request that names an accepted revision changes nothing.  Once it is authenticated, it
is answered with the receipt when it repeats it, and conflicts when it differs. -/
theorem putAlbumTitleIntent_accepted {r : AlbumTitleReceipt} (hvalid : request.wellFormed)
    (hkey : (request.bindingId, request.titleRevision) = r.key)
    (hr : db.titleReceipts.find? r.key = some r) :
    putAlbumTitleIntent w clock db auth request =
      (db, (contextBinding ⟨w, clock.decision⟩ db auth r.bindingId).bind fun b =>
        if request.repeats r then .ok ⟨false, r, db.lifecycle b⟩
        else .error .titleIntentConflict) := by
  have hid : r.bindingId = request.bindingId := (congrArg Prod.fst hkey).symm
  have hfound : ∀ b, db.bindings.find? request.bindingId = some b →
      db.titleReceipts.find? (b.bindingId, request.titleRevision) = some r := by
    intro b hb
    rw [Table.key_of_find? hb, hkey, hr]
  have hrow : titleRow ⟨w, clock.insert⟩ db auth request = none := by
    unfold titleRow
    split
    · next b linkReady hcontext =>
        rw [hfound b (owner_of_lifecycleContext hcontext).1]
        apply if_neg
        rintro ⟨_, _, _, _, hnone⟩
        cases hnone
    · rfl
  unfold putAlbumTitleIntent
  unfold AlbumTitleRequest.wellFormed at hvalid
  rw [if_pos hvalid, hrow, hid]
  simp only [insertSelected, batchAnswer]
  congr 1
  unfold titleDecision contextBinding
  cases hcontext : lifecycleContext ⟨w, clock.decision⟩ db auth request.bindingId with
  | none => rfl
  | some context =>
      obtain ⟨binding, linkReady⟩ := context
      cases binding with
      | none => rfl
      | some b =>
          obtain ⟨hb, howner⟩ := owner_of_lifecycleContext hcontext
          have howner : ownerAuthorized w auth b := howner
          simp only [hfound b hb, Except.bind]
          by_cases hrepeats : request.repeats r
          · rw [if_pos hrepeats]
            unfold AlbumTitleRequest.repeats at hrepeats
            rw [if_pos hrepeats]
            apply receiptRead_of_owner hb (by exact howner) (by exact howner)
            exact hfound b hb
          · rw [if_neg hrepeats]
            unfold AlbumTitleRequest.repeats at hrepeats
            rw [if_neg hrepeats]
            rfl

end Answers

/-! ## Runs -/

/-- The title revision a call wins: it is answered as the one that made the receipt. -/
def titleWon (move : Move AlbumDb AlbumMove) : Option (Token × Nat) :=
  match move.label.call with
  | .titleIntent clock auth request =>
      match (putAlbumTitleIntent move.label.world clock move.src auth request).2 with
      | .ok answer => if answer.created then some answer.receipt.key else none
      | .error _ => none
  | _ => none

/-- A step wins the title revision whose receipt it makes. -/
theorem AlbumStep.titleWon_cases {db db' : AlbumDb} {move : AlbumMove}
    (h : AlbumStep db move db') :
    (∃ r, TitleTaken db db' r ∧ titleWon ⟨db, move, db'⟩ = some r.key) ∨
    (db'.titleReceipts = db.titleReceipts ∧ titleWon ⟨db, move, db'⟩ = none) := by
  have hwrites := h.writes
  have hrun : move.call.run move.world db = db' := h
  unfold titleWon
  cases hcall : move.call with
  | titleIntent clock auth request =>
      rw [hcall] at hrun
      rcases @putAlbumTitleIntent_outcome move.world clock db auth request with
        ⟨r, current, htaken, hanswer⟩ | ⟨hsame, hanswer⟩
      · left
        refine ⟨r, hrun ▸ htaken, ?_⟩
        simp [hanswer]
      · right
        refine ⟨by rw [← hrun]; exact congrArg AlbumDb.titleReceipts hsame, ?_⟩
        cases hresult : (putAlbumTitleIntent move.world clock db auth request).2 with
        | error code => simp only [hresult]
        | ok answer =>
            simp only [hresult]
            exact if_neg (by simp [hanswer answer hresult])
  | _ =>
      right
      rw [hcall] at hwrites
      exact ⟨hwrites.titleReceipts_eq (by simp [AlbumCall.part]), rfl⟩

theorem AlbumStep.titlesRise {db db' : AlbumDb} {move : AlbumMove} (h : AlbumStep db move db') :
    TitlesRise db db' :=
  AlbumWrites.relates (fun _ _ _ => AlbumWrite.titlesRise) h.writes

theorem AlbumStep.titlesSettled {db db' : AlbumDb} {move : AlbumMove} (h : AlbumStep db move db')
    (hsettled : TitlesSettled db) : TitlesSettled db' := by
  have hkept : ∀ r ∈ db.titleReceipts, ∃ b, db'.bindings.find? r.bindingId = some b ∧
      r.titleRevision ≤ b.titleRevision := by
    intro r hr
    obtain ⟨b, hb, hle⟩ := hsettled r hr
    obtain ⟨b', hb', hrise⟩ := h.titlesRise r.bindingId b hb
    exact ⟨b', hb', hle.trans hrise⟩
  rcases h.titleWon_cases with ⟨taken, htaken, _⟩ | ⟨hsame, _⟩
  · intro r hr
    have hfound := Table.find?_of_mem hr
    rw [htaken.receipts] at hfound
    split at hfound
    · cases hfound
      obtain ⟨_, b', _, hb', _, hrevision⟩ := htaken.binding
      exact ⟨b', hb', hrevision.ge⟩
    · exact hkept r (Table.mem_of_find? hfound)
  · intro r hr
    rw [hsame] at hr
    exact hkept r hr

/-- A call adds the receipt it wins, and no other. -/
theorem AlbumStep.titleWon_receipt {db db' : AlbumDb} {move : AlbumMove}
    (h : AlbumStep db move db') (key : Token × Nat) :
    (if (db'.titleReceipts.find? key).isSome then 1 else 0) =
      (if (db.titleReceipts.find? key).isSome then 1 else 0) +
        if titleWon ⟨db, move, db'⟩ = some key then 1 else 0 := by
  rcases h.titleWon_cases with ⟨r, htaken, hwon⟩ | ⟨hsame, hwon⟩
  · rw [htaken.receipts, hwon]
    by_cases hkey : key = r.key
    · simp [hkey, htaken.fresh]
    · have hne : ¬ some r.key = some key := by
        intro heq
        exact hkey (Option.some.inj heq).symm
      simp [hkey, hne]
  · simp [hsame, hwon]

/-- Every receipt was won once. -/
theorem titles_won_once {db db' : AlbumDb} {trace : List (Move AlbumDb AlbumMove)}
    (hrun : Run AlbumStep db trace db') (key : Token × Nat) :
    (if (db'.titleReceipts.find? key).isSome then 1 else 0) =
      (if (db.titleReceipts.find? key).isSome then 1 else 0) +
        trace.countP fun move => titleWon move = some key := by
  induction hrun with
  | nil => rfl
  | snoc _ hstep ih =>
      rw [hstep.titleWon_receipt key, ih, List.countP_append, List.countP_singleton,
        Nat.add_assoc]
      simp only [decide_eq_true_eq]

/-- A receipt is never changed. -/
theorem titleReceipt_stays {db db' : AlbumDb} {trace : List (Move AlbumDb AlbumMove)}
    (hrun : Run AlbumStep db trace db') {key : Token × Nat} {r : AlbumTitleReceipt}
    (hr : db.titleReceipts.find? key = some r) : db'.titleReceipts.find? key = some r := by
  induction hrun with
  | nil => exact hr
  | snoc _ hstep ih =>
      rcases hstep.titleWon_cases with ⟨taken, htaken, _⟩ | ⟨hsame, _⟩
      · rw [htaken.receipts, if_neg]
        · exact ih
        · rintro rfl
          rw [htaken.fresh] at ih
          cases ih
      · rw [hsame]
        exact ih

/-- In every run, whatever else is done between them, the accepted title revisions of a
binding are 2, 3, … up to its own, each made by a request that names its predecessor; each
was won by exactly one call; and a later request that names an accepted revision changes
nothing and is answered, once authenticated, with the same receipt when it repeats the one
that made it and with a conflict when it differs. -/
theorem title_intents_linearizable {db : AlbumDb} {trace : List (Move AlbumDb AlbumMove)}
    (hrun : Run AlbumStep emptyAlbumDb trace db) :
    (∀ b ∈ db.bindings, ∀ n,
      (∃ r, db.titleReceipts.find? (b.bindingId, n) = some r ∧ r.expectedTitleRevision + 1 = n) ↔
        2 ≤ n ∧ n ≤ b.titleRevision) ∧
    (∀ key, (trace.countP fun move => titleWon move = some key) =
      if (db.titleReceipts.find? key).isSome then 1 else 0) ∧
    ∀ r ∈ db.titleReceipts, ∀ later db', Run AlbumStep db later db' →
      ∀ w clock auth request, request.wellFormed →
        (request.bindingId, request.titleRevision) = r.key →
        putAlbumTitleIntent w clock db' auth request =
          (db', (contextBinding ⟨w, clock.decision⟩ db' auth r.bindingId).bind fun b =>
            if request.repeats r then .ok ⟨false, r, db'.lifecycle b⟩
            else .error .titleIntentConflict) := by
  have hreachable : Reachable AlbumStep AlbumInitial db := ⟨emptyAlbumDb, trace, rfl, hrun⟩
  have haccepted := TitlesAccepted.reachable hreachable
  have hsettled : TitlesSettled db := by
    refine hrun.invariant ?_ fun move _ hsrc hstep => hstep.titlesSettled hsrc
    intro r hr
    exact absurd hr (Table.not_mem_empty r)
  refine ⟨?_, ?_, ?_⟩
  · intro b hb n
    constructor
    · rintro ⟨r, hr, hn⟩
      have hmem := Table.mem_of_find? hr
      have hid : r.bindingId = b.bindingId := congrArg Prod.fst (Table.key_of_find? hr)
      obtain ⟨stored, hstored, hle⟩ := hsettled r hmem
      rw [hid, Table.find?_of_mem hb] at hstored
      cases hstored
      have hpositive := haccepted.positive r hmem
      have hrevision : r.titleRevision = n := hn
      omega
    · rintro ⟨hlow, hhigh⟩
      obtain ⟨r, hr⟩ := Option.isSome_iff_exists.mp (haccepted.accepted b hb n hlow hhigh)
      exact ⟨r, hr, congrArg Prod.snd (Table.key_of_find? hr)⟩
  · intro key
    have hwon := titles_won_once hrun key
    have hnone : emptyAlbumDb.titleReceipts.find? key = none := Table.find?_empty key
    rw [hnone] at hwon
    simp only [Option.isSome_none, Bool.false_eq_true, if_false, Nat.zero_add] at hwon
    exact hwon.symm
  · intro r hr later db' hlater w clock auth request hvalid hkey
    exact putAlbumTitleIntent_accepted hvalid hkey
      (titleReceipt_stays hlater (Table.find?_of_mem hr))

namespace AlbumSample

def retitleRequest : AlbumTitleRequest := ⟨album, 2, 2, 1, autumn⟩
def removeMove : AlbumMove := ⟨world, .removeAlbum (at_ 4) auth removal⟩

end AlbumSample

/-- The new title of the sample album was won by one call; once the album is removed the same
request still answers its receipt, and another title for the same revision conflicts. -/
theorem title_intents_linearizable_sample : ∃ db db' r current,
    Run AlbumStep emptyAlbumDb (albumTrace emptyAlbumDb AlbumSample.calls) db ∧
    Run AlbumStep db (albumTrace db [AlbumSample.removeMove]) db' ∧
    ((albumTrace emptyAlbumDb AlbumSample.calls).countP fun move =>
      titleWon move = some (AlbumSample.album, 2)) = 1 ∧
    putAlbumTitleIntent AlbumSample.world (AlbumSample.at_ 5) db' AlbumSample.auth
      AlbumSample.retitleRequest = (db', .ok ⟨false, r, current⟩) ∧
    putAlbumTitleIntent AlbumSample.world (AlbumSample.at_ 5) db' AlbumSample.auth
      { AlbumSample.retitleRequest with desiredTitle := AlbumSample.summer } =
      (db', .error .titleIntentConflict) := by
  have hsome : (execAll AlbumMove.exec emptyAlbumDb AlbumSample.calls).isSome = true := by
    decide +kernel
  obtain ⟨db, hdb⟩ := Option.isSome_iff_exists.mp hsome
  have hfacts : ∀ db ∈ execAll AlbumMove.exec emptyAlbumDb AlbumSample.calls,
      (∃ r ∈ db.titleReceipts.find? (AlbumSample.album, 2), r.key = (AlbumSample.album, 2) ∧
        AlbumSample.retitleRequest.repeats r ∧ r.bindingId = AlbumSample.album ∧
        r.desiredTitle = AlbumSample.autumn) ∧
      ∃ db' ∈ execAll AlbumMove.exec db [AlbumSample.removeMove],
        ∃ b ∈ db'.bindings.find? AlbumSample.album,
          ownerAuthorized AlbumSample.world AlbumSample.auth b := by
    decide +kernel
  obtain ⟨⟨r, hr, hkey, hrepeats, hid, htitle⟩, db', hdb', b, hb, howner⟩ := hfacts db hdb
  have hrun := run_albumTrace hdb
  have hlater := run_albumTrace (by exact hdb')
  obtain ⟨_, hwon, hlinear⟩ := title_intents_linearizable hrun
  have hanswer := hlinear r (Table.mem_of_find? hr) _ db' hlater AlbumSample.world
    (AlbumSample.at_ 5) AlbumSample.auth
  have hcontext : ∀ m : Moment, m.world = AlbumSample.world →
      contextBinding m db' AlbumSample.auth r.bindingId = .ok b := by
    intro m hm
    rw [hid]
    exact contextBinding_of_owner hb (hm ▸ howner)
  refine ⟨db, db', r, db'.lifecycle b, hrun, hlater, ?_, ?_, ?_⟩
  · rw [hwon, hr]
    rfl
  · rw [hanswer AlbumSample.retitleRequest (by decide) hkey.symm, hcontext _ rfl]
    simp only [Except.bind, if_pos hrepeats]
  · rw [hanswer { AlbumSample.retitleRequest with desiredTitle := AlbumSample.summer } (by decide)
      hkey.symm, hcontext _ rfl]
    have hother : ¬ AlbumTitleRequest.repeats
        { AlbumSample.retitleRequest with desiredTitle := AlbumSample.summer } r := by
      rintro ⟨_, _, hsame⟩
      rw [htitle] at hsame
      exact absurd hsame (by decide)
    simp only [Except.bind, if_neg hother]

end FlickrGroupAddr

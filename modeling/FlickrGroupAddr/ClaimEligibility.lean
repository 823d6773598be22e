import FlickrGroupAddr.ResumeWriteGate

/-!
# Claim and begin

A claim tests `ELIGIBLE` over a due partition; the attempt it is made for tests its
own guard over the binding, the link, the gates and the head.  What the two tests
share is proved from an invariant on bindings and links, and what they do not share
is the link revision of the binding and the invocation deadline.
-/

namespace FlickrGroupAddr

set_option autoImplicit false

open KeyedTable Transition Relation

/-! ## Owners of links and bindings -/

/-- The columns `photo_binding_identity_immutable` protects. -/
structure BindingIdentity where
  userId : Token
  photoId : Token
  ownerNsid : String

def PhotoBinding.identity (binding : PhotoBinding) : BindingIdentity :=
  ⟨binding.userId, binding.photoId, binding.ownerNsid⟩

namespace FlickrTables

/-- Links and bindings stay and keep their owners; a new binding is owned like the
link of its user. -/
structure OwnersKept (f f' : FlickrTables) : Prop where
  links : ∀ userId link, f.links.find? userId = some link →
    ∃ link', f'.links.find? userId = some link' ∧ link'.ownerNsid = link.ownerNsid
  bindings : ∀ bindingId binding, f.bindings.find? bindingId = some binding →
    ∃ binding', f'.bindings.find? bindingId = some binding' ∧
      binding'.identity = binding.identity
  owned : ∀ bindingId binding', f'.bindings.find? bindingId = some binding' →
    (∃ binding, f.bindings.find? bindingId = some binding ∧
      binding.identity = binding'.identity) ∨
    ∃ link, f.links.find? binding'.userId = some link ∧ link.ownerNsid = binding'.ownerNsid

namespace OwnersKept

variable {f f' : FlickrTables}

/-- The links changed at most in their state and revision. -/
theorem of_links (hbindings : f'.bindings = f.bindings)
    (hlinks : ∀ userId, (f'.links.find? userId).map FlickrLink.ownerNsid =
      (f.links.find? userId).map FlickrLink.ownerNsid) : OwnersKept f f' := by
  refine ⟨?_, ?_, ?_⟩
  · intro userId link hfind
    have hmap := hlinks userId
    rw [hfind] at hmap
    exact Option.map_eq_some_iff.mp hmap
  · intro bindingId binding hfind
    rw [hbindings]
    exact ⟨binding, hfind, rfl⟩
  · intro bindingId binding hfind
    rw [hbindings] at hfind
    exact Or.inl ⟨binding, hfind, rfl⟩

theorem of_eq (hlinks : f'.links = f.links) (hbindings : f'.bindings = f.bindings) :
    OwnersKept f f' := by
  apply of_links hbindings
  intro userId
  rw [hlinks]

theorem of_sameRows (h : SameRows f f') : OwnersKept f f' := of_eq h.links h.bindings

end OwnersKept

variable {f f' : FlickrTables}

theorem find?_moveLink_owner (f : FlickrTables) (userId : Token) (state : LinkState) (k : Token) :
    ((f.moveLink userId state).links.find? k).map FlickrLink.ownerNsid =
      (f.links.find? k).map FlickrLink.ownerNsid :=
  Table.map_find?_modify _ _ _ k

theorem startOperation_owners (h : f.gateLog.WellFormed) {operation : LifecycleOperation}
    {state : ConnectionStatus} {localState : LocalCredentialState} {externalRemoval : Bool}
    {now : ClockReading}
    (hexec : f.startOperation operation state localState externalRemoval now.us = some f') :
    OwnersKept f f' := by
  obtain ⟨attached, hlog, hlinks, hbindings, _, rfl⟩ := startOperation_effect hexec
  rw [← hlog] at h
  have hsame : SameRows attached (attached.pauseGate (.user operation.userId) none now.us) :=
    (pauseGate_log h none).1
  apply OwnersKept.of_links (hsame.bindings.trans hbindings)
  intro userId
  rw [hsame.links, hlinks]
  exact find?_moveLink_owner f operation.userId .paused userId

theorem provision_owners (f : FlickrTables) (userId : Token) (ownerNsid : String)
    (userNow deploymentNow : ClockReading) :
    OwnersKept f (f.provision userId ownerNsid userNow.us deploymentNow.us) := by
  have hrows := (ensureGate_stop _ (.user userId) userNow).2.trans
    (ensureGate_stop (({ f with
      links := f.links.ensure ⟨userId, ownerNsid, 1, .paused⟩
      connections := f.connections.ensure ⟨userId, .unlinked, .absent, none, false, none⟩
    } : FlickrTables).ensureGate (.user userId) userNow.us) .deployment deploymentNow).2
  refine ⟨?_, ?_, ?_⟩
  · intro k link hfind
    refine ⟨link, ?_, rfl⟩
    rw [provision, hrows.links, Table.find?_ensure, hfind]
    split <;> rfl
  · intro k binding hfind
    rw [provision, hrows.bindings]
    exact ⟨binding, hfind, rfl⟩
  · intro k binding hfind
    rw [provision, hrows.bindings] at hfind
    exact Or.inl ⟨binding, hfind, rfl⟩

/-- Binding a photo verifies bindings again and adds at most one, of the snapshot's
owner. -/
theorem bindPhoto_identity {snapshot : GrantSnapshot} {photoId bindingId : Token}
    {source : SourceKind} {again : PhotoBinding → Bool} {now : Us}
    (h : f.bindPhoto snapshot photoId bindingId source again now = some f') (k : Token) :
    (f'.bindings.find? k).map PhotoBinding.identity =
        (f.bindings.find? k).map PhotoBinding.identity ∨
      f.bindings.find? k = none ∧ (f'.bindings.find? k).map PhotoBinding.identity =
        some ⟨snapshot.userId, photoId, snapshot.ownerNsid⟩ := by
  unfold bindPhoto at h
  split at h
  · cases h
    exact Or.inl (Table.map_find?_modifyWhere _ _ _ k)
  · obtain ⟨bindings, hinsert, rfl⟩ := Option.map_eq_some_iff.mp h
    have hverified : ∀ p : PhotoBinding → Bool,
        ((bindings.modifyWhere p fun binding =>
          { binding with
            linkRevision := snapshot.revision
            verificationRevision := binding.verificationRevision + 1
            verifiedAtUs := now }).find? k).map PhotoBinding.identity =
        (bindings.find? k).map PhotoBinding.identity :=
      fun p => Table.map_find?_modifyWhere _ _ _ k
    refine (or_congr (Eq.congr_left (hverified _)) (and_congr_right' (Eq.congr_left
      (hverified _)))).mpr ?_
    rw [Table.find?_insert? hinsert]
    by_cases hk : k = bindingId
    · right
      rw [hk]
      exact ⟨(Table.insert?_eq_some hinsert).1, by rw [if_pos rfl]; rfl⟩
    · left
      rw [if_neg hk]

theorem bindPhoto_owners {snapshot : GrantSnapshot} {photoId bindingId : Token}
    {source : SourceKind} {again : PhotoBinding → Bool} {now : Us}
    (hcurrent : f.grantCurrent snapshot)
    (h : f.bindPhoto snapshot photoId bindingId source again now = some f') :
    OwnersKept f f' := by
  obtain ⟨link, hlink, _, _, _, howner, _⟩ := hcurrent
  have hlinks : f'.links = f.links := by rw [bindPhoto_frame h]
  refine ⟨?_, ?_, ?_⟩
  · intro k other hfind
    rw [hlinks]
    exact ⟨other, hfind, rfl⟩
  · intro k binding hfind
    rcases bindPhoto_identity h k with hsame | ⟨hnone, _⟩
    · rw [hfind] at hsame
      exact Option.map_eq_some_iff.mp hsame
    · rw [hnone] at hfind
      cases hfind
  · intro k binding hfind
    rcases bindPhoto_identity h k with hsame | ⟨_, hnew⟩
    · rw [hfind] at hsame
      exact Or.inl (Option.map_eq_some_iff.mp hsame.symm)
    · rw [hfind] at hnew
      have hid : binding.identity = ⟨snapshot.userId, photoId, snapshot.ownerNsid⟩ :=
        Option.some.inj hnew
      right
      refine ⟨link, ?_, howner.trans (congrArg BindingIdentity.ownerNsid hid).symm⟩
      have huser : binding.userId = snapshot.userId := congrArg BindingIdentity.userId hid
      rw [huser]
      exact hlink

end FlickrTables

/-- Every call of the lifecycle keeps the owners. -/
theorem LifecycleCall.owners {db : Db} {call : LifecycleCall} {f' : FlickrTables}
    (h : db.flickr.gateLog.WellFormed) (hexec : call.exec db = some f') :
    FlickrTables.OwnersKept db.flickr f' := by
  cases call with
  | provision =>
      cases hexec
      exact FlickrTables.provision_owners _ _ _ _ _
  | beginLifecycle =>
      obtain ⟨_, _, _, _, _, hstart⟩ := FlickrTables.beginLifecycle_operation hexec
      exact FlickrTables.startOperation_owners h hstart
  | dispatchLifecycle =>
      obtain ⟨operation, _, hexec⟩ := Option.bind_eq_some_iff.mp hexec
      split at hexec
      · cases hexec
        exact FlickrTables.OwnersKept.of_eq rfl rfl
      · cases hexec
  | markUncertain =>
      obtain ⟨operation, _, hexec⟩ := Option.bind_eq_some_iff.mp hexec
      split at hexec
      · cases hexec
        exact FlickrTables.OwnersKept.of_eq rfl rfl
      · cases hexec
  | reconcileLifecycle =>
      obtain ⟨operation, _, hexec⟩ := Option.bind_eq_some_iff.mp hexec
      split at hexec
      · cases hexec
        exact FlickrTables.OwnersKept.of_links rfl fun k => Table.map_find?_modify _ _ _ k
      · cases hexec
  | rejectWorkerGrant =>
      simp only [LifecycleCall.exec, FlickrTables.rejectWorkerGrant] at hexec
      split at hexec
      · exact FlickrTables.startOperation_owners h hexec
      · cases hexec
  | rejectCurrentGrant =>
      simp only [LifecycleCall.exec, FlickrGroupAddr.rejectCurrentGrant] at hexec
      split at hexec
      · exact FlickrTables.startOperation_owners h hexec
      · cases hexec
  | commitBinding =>
      simp only [LifecycleCall.exec, FlickrGroupAddr.commitBinding] at hexec
      split at hexec
      · next hguard => exact FlickrTables.bindPhoto_owners hguard.2.1 hexec
      · cases hexec
  | commitUpload =>
      simp only [LifecycleCall.exec, FlickrGroupAddr.commitUpload] at hexec
      split at hexec
      · next hguard => exact FlickrTables.bindPhoto_owners hguard.2.1 hexec
      · cases hexec
  | operatorPause userId now =>
      cases hexec
      have hfirst : FlickrTables.SameRows db.flickr
          (db.flickr.pauseGate .deployment none now.us) :=
        (FlickrTables.pauseGate_log h none).1
      have hmiddle : (db.flickr.pauseGate .deployment none now.us).gateLog.WellFormed :=
        GateLog.stops_wellFormed (FlickrTables.pauseGate_stop h (by simp)) h
      exact FlickrTables.OwnersKept.of_sameRows
        (hfirst.trans (FlickrTables.pauseGate_log hmiddle none).1)
  | recordConformance =>
      obtain ⟨conformance, _, rfl⟩ := Option.map_eq_some_iff.mp hexec
      exact FlickrTables.OwnersKept.of_eq rfl rfl

/-! ## The binding of an intent -/

/-- The intent was admitted under the binding. -/
structure AdmittedUnder (binding : PhotoBinding) (intent : SubmissionIntent) : Prop where
  bindingId : intent.bindingId = binding.bindingId
  userId : intent.userId = binding.userId
  photoId : intent.photoId = binding.photoId

theorem AdmittedUnder.congr {binding : PhotoBinding} {old intent : SubmissionIntent}
    (h : AdmittedUnder binding old) (hid : old.identity = intent.identity) :
    AdmittedUnder binding intent where
  bindingId := (congrArg IntentIdentity.bindingId hid).symm.trans h.bindingId
  userId := (congrArg IntentIdentity.userId hid).symm.trans h.userId
  photoId := (congrArg IntentIdentity.photoId hid).symm.trans h.photoId

/-- An admission under a binding adds only intents of that binding. -/
def AddsOnly (binding : PhotoBinding) (q q' : QueueTables) : Prop :=
  ∀ intent ∈ q'.intents, intent ∈ q.intents ∨ AdmittedUnder binding intent

theorem AddsOnly.steps {binding : PhotoBinding} {q q' : QueueTables}
    (h : ReflTransGen (AddsOnly binding) q q') : AddsOnly binding q q' := by
  induction h with
  | refl => exact fun _ => Or.inl
  | tail _ hlast ih =>
      intro intent hmem
      rcases hlast intent hmem with hold | hnew
      · exact ih intent hold
      · exact Or.inr hnew

theorem ensurePartition_addsOnly {q q' : QueueTables} {binding : PhotoBinding}
    {requested : Requested} (h : q.ensurePartition binding.userId requested = some q') :
    AddsOnly binding q q' := by
  unfold QueueTables.ensurePartition at h
  split at h
  · cases h
    exact fun _ => Or.inl
  · obtain ⟨_, _, rfl⟩ := Option.map_eq_some_iff.mp h
    exact fun _ => Or.inl

theorem enqueue_addsOnly {q q' : QueueTables} {binding : PhotoBinding} {requestId : Token}
    {createdAtUs : Us} {requested : Requested}
    (h : q.enqueue binding requestId createdAtUs requested = some q') : AddsOnly binding q q' := by
  unfold QueueTables.enqueue at h
  split at h
  · cases h
    exact fun _ => Or.inl
  · split at h
    · cases h
      exact fun _ => Or.inl
    · split at h
      · cases h
      · obtain ⟨intents, hinsert, rfl⟩ := Option.map_eq_some_iff.mp h
        intro intent hmem
        rcases (Table.mem_insert? hinsert).mp hmem with hold | rfl
        · exact Or.inl hold
        · exact Or.inr ⟨rfl, rfl, rfl⟩

theorem admitRequest_addsOnly {db db' : Db} {auth : AdmissionAuth} {request : AdmissionRequest}
    {requestId : Token} {ids : List (Token × Token)} {now : ClockReading}
    {result : AdmissionResult}
    (h : admitRequest db auth request requestId ids now = some (db', result)) :
    ∃ binding, db.flickr.bindings.find? binding.bindingId = some binding ∧
      AddsOnly binding db.queue db'.queue := by
  obtain ⟨binding, hbinding, h⟩ := Option.bind_eq_some_iff.mp h
  have hstored : db.flickr.bindings.find? binding.bindingId = some binding := by
    obtain ⟨stored, hfind, hrest⟩ := Option.bind_eq_some_iff.mp hbinding
    obtain ⟨_, _, hrest⟩ := Option.bind_eq_some_iff.mp hrest
    obtain ⟨_, _, hrest⟩ := Option.bind_eq_some_iff.mp hrest
    obtain ⟨_, _, hrest⟩ := Option.bind_eq_some_iff.mp hrest
    obtain ⟨_, _, hrest⟩ := Option.bind_eq_some_iff.mp hrest
    split at hrest
    · cases hrest
      rw [Table.key_of_find? hfind]
      exact hfind
    · cases hrest
  split at h
  · obtain ⟨q, hq, h⟩ := Option.bind_eq_some_iff.mp h
    obtain ⟨middle, hpartitions, hintents⟩ := Option.bind_eq_some_iff.mp hq
    cases h
    have hpartition : ∀ (q : QueueTables) (r : Requested) (q' : QueueTables),
        q.ensurePartition binding.userId r = some q' → ReflTransGen (AddsOnly binding) q q' :=
      fun _ _ _ hstep => ReflTransGen.single (ensurePartition_addsOnly hstep)
    have hintent : ∀ (q : QueueTables) (r : Requested) (q' : QueueTables),
        q.enqueue binding requestId now.us r = some q' → ReflTransGen (AddsOnly binding) q q' :=
      fun _ _ _ hstep => ReflTransGen.single (enqueue_addsOnly hstep)
    refine ⟨binding, hstored, AddsOnly.steps ?_⟩
    exact (reflTransGen_of_foldlM hpartition hpartitions).trans
      (reflTransGen_of_foldlM hintent hintents)
  · cases h

/-- The intents of a call that is no admission are the old ones. -/
theorem QueueCall.intents_back {db db' : Db} {call : QueueCall} (h : call.exec db = some db') :
    ∀ intent ∈ db'.queue.intents,
      (∃ old ∈ db.queue.intents, old.identity = intent.identity) ∨
      ∃ binding, db.flickr.bindings.find? binding.bindingId = some binding ∧
        AdmittedUnder binding intent := by
  by_cases hother : call.isAdmission = false
  · intro intent hmem
    exact Or.inl ((QueueCall.sameIdentities hother h).intent_back hmem)
  · cases call with
    | admitRequest =>
        obtain ⟨_, hadmission, rfl⟩ := Option.map_eq_some_iff.mp h
        obtain ⟨binding, hstored, hadds⟩ := admitRequest_addsOnly hadmission
        intro intent hmem
        rcases hadds intent hmem with hold | hnew
        · exact Or.inl ⟨intent, hold, rfl⟩
        · exact Or.inr ⟨binding, hstored, hnew⟩
    | _ => exact absurd rfl hother

/-- Every binding is owned like the link of its user, and every intent has the
binding it was admitted under. -/
structure BindingAgreement (db : Db) : Prop where
  owned : ∀ bindingId binding, db.flickr.bindings.find? bindingId = some binding →
    ∃ link, db.flickr.links.find? binding.userId = some link ∧
      link.ownerNsid = binding.ownerNsid
  bound : ∀ intent ∈ db.queue.intents,
    ∃ binding, db.flickr.bindings.find? binding.bindingId = some binding ∧
      AdmittedUnder binding intent

namespace BindingAgreement

variable {db db' : Db}

theorem initially : BindingAgreement emptyDb := by
  refine ⟨?_, ?_⟩
  · intro bindingId binding hfind
    cases hfind
  · intro intent hmem
    exact absurd hmem (Table.not_mem_empty intent)

/-- The agreement survives a step that keeps the owners and admits intents only
under stored bindings. -/
theorem of_owners (h : BindingAgreement db)
    (howners : FlickrTables.OwnersKept db.flickr db'.flickr)
    (hintents : ∀ intent ∈ db'.queue.intents,
      (∃ old ∈ db.queue.intents, old.identity = intent.identity) ∨
      ∃ binding, db.flickr.bindings.find? binding.bindingId = some binding ∧
        AdmittedUnder binding intent) : BindingAgreement db' := by
  constructor
  · intro bindingId binding hfind
    have howned : ∃ link, db.flickr.links.find? binding.userId = some link ∧
        link.ownerNsid = binding.ownerNsid := by
      rcases howners.owned bindingId binding hfind with ⟨old, hold, hid⟩ | hlink
      · obtain ⟨link, hlink, howner⟩ := h.owned bindingId old hold
        have huser : old.userId = binding.userId := congrArg BindingIdentity.userId hid
        refine ⟨link, ?_, howner.trans (congrArg BindingIdentity.ownerNsid hid)⟩
        rw [← huser]
        exact hlink
      · exact hlink
    obtain ⟨link, hlink, howner⟩ := howned
    obtain ⟨link', hlink', hsame⟩ := howners.links _ link hlink
    exact ⟨link', hlink', hsame.trans howner⟩
  · intro intent hmem
    have hold : ∃ binding, db.flickr.bindings.find? binding.bindingId = some binding ∧
        AdmittedUnder binding intent := by
      rcases hintents intent hmem with ⟨old, hold, hid⟩ | hnew
      · obtain ⟨binding, hfind, hunder⟩ := h.bound old hold
        exact ⟨binding, hfind, hunder.congr hid⟩
      · exact hnew
    obtain ⟨binding, hfind, hunder⟩ := hold
    obtain ⟨binding', hfind', hid⟩ := howners.bindings _ binding hfind
    have hkey : binding'.bindingId = binding.bindingId := Table.key_of_find? hfind'
    refine ⟨binding', hkey.symm ▸ hfind', ?_, ?_, ?_⟩
    · exact hunder.bindingId.trans hkey.symm
    · exact hunder.userId.trans (congrArg BindingIdentity.userId hid).symm
    · exact hunder.photoId.trans (congrArg BindingIdentity.photoId hid).symm

end BindingAgreement

theorem SystemStep.bindingAgreement {s t : System} {event : SystemEvent}
    (hwf : s.log.WellFormed) (h : BindingAgreement s.db) (hstep : SystemStep s event t) :
    BindingAgreement t.db := by
  have hquiet : ∀ intent ∈ s.db.queue.intents,
      (∃ old ∈ s.db.queue.intents, old.identity = intent.identity) ∨
      ∃ binding, s.db.flickr.bindings.find? binding.bindingId = some binding ∧
        AdmittedUnder binding intent := fun intent hmem => Or.inl ⟨intent, hmem, rfl⟩
  cases hstep with
  | @commit _ call hexec =>
      cases call with
      | queue call =>
          obtain ⟨db, hcall, rfl⟩ := Option.map_eq_some_iff.mp hexec
          refine h.of_owners ?_ (QueueCall.intents_back hcall)
          rcases QueueCall.exec_flickr hcall with hsame | ⟨lease, attemptId, site, artifact, _, _,
            clock, _, hpause⟩
          · rw [hsame]
            exact FlickrTables.OwnersKept.of_eq rfl rfl
          · rw [hpause]
            exact FlickrTables.OwnersKept.of_sameRows (FlickrTables.pauseFor_stop hwf s.db.queue
              lease attemptId site artifact clock.gate).2
      | lifecycle call =>
          obtain ⟨f, hcall, rfl⟩ := Option.map_eq_some_iff.mp hexec
          exact h.of_owners (LifecycleCall.owners hwf hcall) hquiet
      | startResume =>
          obtain ⟨_, _, hexec⟩ := Option.bind_eq_some_iff.mp hexec
          obtain ⟨_, _, hexec⟩ := Option.bind_eq_some_iff.mp hexec
          cases hexec
          exact h
      | advanceResume =>
          obtain ⟨_, _, hexec⟩ := Option.bind_eq_some_iff.mp hexec
          obtain ⟨_, _, hexec⟩ := Option.bind_eq_some_iff.mp hexec
          cases hexec
          exact h
      | commitResume callId now =>
          obtain ⟨resumption, heffect⟩ := SystemCall.commitResume_effect hwf hexec
          apply h.of_owners (FlickrTables.OwnersKept.of_sameRows heffect.rows)
          rw [heffect.queue]
          exact hquiet
  | refuse => exact h
  | stop => exact h
  | outside hqueue hflickr _ =>
      apply h.of_owners
      · rw [hflickr]
        exact FlickrTables.OwnersKept.of_eq rfl rfl
      · rw [hqueue]
        exact hquiet

/-- What the agreement needs to survive a step. -/
structure BindingInvariant (s : System) : Prop where
  wellFormed : s.log.WellFormed
  agreement : BindingAgreement s.db

theorem SystemReachable.bindingAgreement {s : System} (h : SystemReachable s) :
    BindingAgreement s.db := by
  have hinv : BindingInvariant s := by
    apply h.invariant
    · rintro _ rfl
      exact ⟨GateLog.WellFormed.initially, BindingAgreement.initially⟩
    · intro _ _ _ hinv hstep
      exact ⟨hstep.wellFormed hinv.wellFormed,
        hstep.bindingAgreement hinv.wellFormed hinv.agreement⟩
  exact hinv.agreement

/-! ## Claim and begin -/

/-- The binding of the intent was verified under the present link revision. -/
def bindingCurrent (f : FlickrTables) (intent : SubmissionIntent) : Prop :=
  ∃ binding ∈ f.bindings.find? intent.bindingId, ∃ link ∈ f.links.find? intent.userId,
    link.linkRevision = binding.linkRevision

instance (f : FlickrTables) (intent : SubmissionIntent) : Decidable (bindingCurrent f intent) :=
  inferInstanceAs (Decidable (∃ binding ∈ f.bindings.find? intent.bindingId,
    ∃ link ∈ f.links.find? intent.userId, _))

/-- `begin` commits exactly under its guard: the revisions are there, and the
attempt id is fresh. -/
theorem begin_isSome_iff {db : Db} {lease : Lease} {attemptId : Token}
    {guardNow updateNow : ClockReading} {revisions : Revisions}
    (hrevisions : currentRevisions db lease = some revisions)
    (hfresh : db.queue.attempts.find? attemptId = none) :
    (∃ db', begin db lease attemptId guardNow updateNow = some db') ↔
      beginGuard db lease guardNow.us := by
  constructor
  · rintro ⟨db', h⟩
    exact (begin_effect h).1
  · intro hguard
    obtain ⟨attempts, hinsert⟩ : ∃ attempts,
        db.queue.attempts.insert? (newAttempt db.queue lease attemptId revisions) =
          some attempts := Table.insert?_isSome hfresh
    simp [begin, hrevisions, hguard, QueueTables.beginAttempt, hinsert]

/-- The gate rows and the link of a user whose writes are enabled. -/
theorem currentRevisions_of_enabled {db : Db} {lease : Lease} {partition : GroupPartition}
    (hfind : db.queue.partitions.find? lease.partitionId = some partition)
    (henabled : db.flickr.gatesEnabled partition.userId) :
    ∃ revisions, currentRevisions db lease = some revisions := by
  obtain ⟨⟨deployment, hdeployment, _⟩, ⟨gate, hgate, _⟩, ⟨link, hlink, _⟩⟩ := henabled
  rw [Option.mem_def] at hdeployment hgate hlink
  simp [currentRevisions, hfind, hdeployment, hgate, hlink]

variable {db db' : Db} {partitionId leaseId : Token} {expectedWakeRevision : Option Nat}
  {config : LeasePolicy} {now : ClockReading} {lease : Lease} {head : SubmissionIntent}

/-- What a claim leaves for `begin`: the lease row, and the head as it was. -/
structure Claimed (db : Db) (config : LeasePolicy) (now : Us) (lease : Lease)
    (partition : GroupPartition) (head : SubmissionIntent) (db' : Db) : Prop where
  flickr : db'.flickr = db.flickr
  intents : db'.queue.intents = db.queue.intents
  attempts : db'.queue.attempts = db.queue.attempts
  resolutions : db'.queue.resolutions = db.queue.resolutions
  blocks : db'.queue.blocks = db.queue.blocks
  headId : lease.headId = head.intentId
  expires : lease.expiresUs = now + config.leaseMs * 1000
  atHead : db.queue.headIntent lease.partitionId = some head
  stored : db.queue.partitions.find? lease.partitionId = some partition
  row : db'.queue.partitions.find? lease.partitionId = some
    { partition with
      leaseGeneration := lease.generation
      lease := some (claimColumns lease.leaseId config now)
      lastClaimAtUs := some now }
  ready : headReady db partition head now
  unblocked : ¬ db.queue.blocked head.photoId head.groupId

theorem claimPartition_claimed
    (h : claimPartition db partitionId leaseId expectedWakeRevision config now =
      some (db', lease)) :
    ∃ partition head, Claimed db config now.us lease partition head db' := by
  obtain ⟨rfl, partition, head, heffect⟩ := claimPartition_effect h
  obtain rfl := heffect.returned
  refine ⟨partition, head, rfl, rfl, rfl, rfl, rfl, rfl, rfl, heffect.atHead, heffect.stored, ?_,
    heffect.ready, heffect.unblocked⟩
  have hfind : ∀ k, (db.queue.takeLease partitionId leaseId config now.us).partitions.find? k =
      if k = partitionId then (db.queue.partitions.find? k).map fun partition =>
        { partition with
          leaseGeneration := partition.leaseGeneration + 1
          lease := some (claimColumns leaseId config now.us)
          lastClaimAtUs := some now.us }
      else db.queue.partitions.find? k := fun k => Table.find?_modify_eq _ _ _ k
  refine (hfind partitionId).trans ((if_pos rfl).trans ?_)
  rw [heffect.stored]
  rfl

/-- The guard of `begin` right after a claim of a head that is not attempting: all of
it follows but the binding's link revision and the invocation deadline. -/
theorem Claimed.beginGuard_iff {partition : GroupPartition}
    (hclaimed : Claimed db config now.us lease partition head db')
    (hq : QueueInvariant db.queue) (hbindings : BindingAgreement db)
    (hstate : head.state ≠ .attempting) {guardNow : Us} (hlease : guardNow < lease.expiresUs) :
    beginGuard db' lease guardNow ↔
      bindingCurrent db.flickr head ∧ guardNow < now.us + config.invocationMs * 1000 := by
  obtain ⟨henabled, hdue⟩ := hclaimed.ready.resolve_left hstate
  have hisHead := QueueTables.isHead_of_headIntent hclaimed.atHead
  have hfindHead : db'.queue.intents.find? lease.headId = some head := by
    rw [hclaimed.intents, hclaimed.headId]
    exact Table.find?_of_mem hisHead.mem
  have hhead' : db'.queue.headIntent lease.partitionId = some head := by
    rw [QueueTables.headIntent_congr hclaimed.intents]
    exact hclaimed.atHead
  have howns : db'.queue.ownsHead lease :=
    ⟨⟨_, hclaimed.row, ⟨_, rfl, rfl⟩, rfl⟩, head, hhead', hclaimed.headId.symm⟩
  have hlive : db'.queue.live lease guardNow ↔
      guardNow < now.us + config.invocationMs * 1000 := by
    rw [hclaimed.expires] at hlease
    constructor
    · rintro ⟨other, hother, columns, hsame, _, hdeadline⟩
      cases hclaimed.row.symm.trans hother
      cases hsame
      exact hdeadline
    · intro hdeadline
      exact ⟨_, hclaimed.row, _, rfl, hlease, hdeadline⟩
  have hactive : head.state = .queued ∨ head.state = .retrying ∨ head.state = .throttled := by
    rcases hdue with h | ⟨h, _⟩ | ⟨h, _⟩
    · exact Or.inl h
    · exact Or.inr (Or.inl h)
    · exact Or.inr (Or.inr h)
  have hleaseEnabled : leaseEnabled db' lease := by
    refine ⟨_, hclaimed.row, ?_⟩
    rw [hclaimed.flickr]
    exact henabled
  -- the head is in the partition of its own user, so its link is the linked one
  have huser : partition.userId = head.userId := by
    obtain ⟨other, hother, hsame, _⟩ := hq.layout.home head hisHead.mem
    rw [hisHead.partition, hclaimed.stored] at hother
    cases hother
    exact hsame
  have hbeginnable : beginnable db' head ↔ bindingCurrent db.flickr head := by
    have hunblocked : ¬ db'.queue.blocked head.photoId head.groupId := by
      rw [QueueTables.blocked, hclaimed.blocks]
      exact hclaimed.unblocked
    rw [beginnable, hclaimed.flickr]
    constructor
    · rintro ⟨_, ⟨binding, hbinding, link, hlink, _, hrevision, _⟩, _⟩
      exact ⟨binding, hbinding, link, hlink, hrevision⟩
    · rintro ⟨binding, hbinding, link, hlink, hrevision⟩
      obtain ⟨other, hother, hlinked⟩ := henabled.2.2
      rw [huser] at hother
      cases hlink.symm.trans hother
      obtain ⟨stored, hstored, hunder⟩ := hbindings.bound head hisHead.mem
      rw [← hunder.bindingId] at hstored
      cases hbinding.symm.trans hstored
      obtain ⟨owner, howner, hnsid⟩ := hbindings.owned _ binding hbinding
      rw [← hunder.userId] at howner
      cases hlink.symm.trans howner
      exact ⟨hactive, ⟨binding, hbinding, link, hlink, hnsid, hrevision, hlinked⟩, hunblocked⟩
  have hclosed : ∀ attempt ∈ db'.queue.attempts, attempt.intentId = lease.headId →
      ¬ db'.queue.unresolved attempt.attemptId := by
    intro attempt hmem hid hunresolved
    rw [hclaimed.attempts] at hmem
    rw [QueueTables.unresolved, hclaimed.resolutions] at hunresolved
    exact hstate ((hq.attempts.attempting head hisHead.mem).mpr
      ⟨attempt, ⟨hmem, hunresolved⟩, hid.trans hclaimed.headId⟩)
  have hintent : (∃ intent ∈ db'.queue.intents.find? lease.headId, beginnable db' intent) ↔
      bindingCurrent db.flickr head := by
    rw [← hbeginnable, hfindHead]
    simp
  unfold beginGuard
  rw [hlive, hintent]
  constructor
  · rintro ⟨_, hdeadline, _, hcurrent, _⟩
    exact ⟨hcurrent, hdeadline⟩
  · rintro ⟨hcurrent, hdeadline⟩
    exact ⟨howns, hdeadline, hleaseEnabled, hcurrent, hclosed⟩

/-- After a claim of a head that is not attempting, `begin` commits exactly when the
head's binding has the present link revision and the invocation deadline has not
passed. -/
theorem claim_begin_agreement {s : System} (hs : SystemReachable s) {partitionId leaseId : Token}
    {expectedWakeRevision : Option Nat} {config : LeasePolicy} {now : ClockReading} {db' : Db}
    {lease : Lease} {head : SubmissionIntent}
    (hclaim : claimPartition s.db partitionId leaseId expectedWakeRevision config now =
      some (db', lease))
    (hhead : s.db.queue.headIntent partitionId = some head) (hstate : head.state ≠ .attempting)
    {attemptId : Token} (hfresh : db'.queue.attempts.find? attemptId = none)
    {guardNow : ClockReading} (hlease : guardNow.us < lease.expiresUs)
    (updateNow : ClockReading) :
    (beginGuard db' lease guardNow.us ∧
      ∃ db'', begin db' lease attemptId guardNow updateNow = some db'') ↔
    (bindingCurrent s.db.flickr head ∧ guardNow.us < now.us + config.invocationMs * 1000) := by
  obtain ⟨partition, other, hclaimed⟩ := claimPartition_claimed hclaim
  have hpartition : lease.partitionId = partitionId := by
    obtain ⟨_, _, _, heffect⟩ := claimPartition_effect hclaim
    rw [heffect.returned]
  have hsame := hclaimed.atHead
  rw [hpartition, hhead] at hsame
  cases hsame
  have hguard := hclaimed.beginGuard_iff hs.queueInvariant hs.bindingAgreement hstate hlease
  have henabled : db'.flickr.gatesEnabled partition.userId := by
    rw [hclaimed.flickr]
    exact (hclaimed.ready.resolve_left hstate).1
  obtain ⟨revisions, hrevisions⟩ : ∃ revisions, currentRevisions db' lease = some revisions :=
    currentRevisions_of_enabled hclaimed.row henabled
  rw [begin_isSome_iff hrevisions hfresh, and_self]
  exact hguard

namespace Sample

def otherOperation : Token := ⟨"replace-2", Eq.refl true⟩
def otherGeneration : Token := ⟨"generation-2", Eq.refl true⟩

def admitted : List SystemCall :=
  connected ++
    [.queue (.admitRequest ⟨installation, "digest-1"⟩ request requestId [(partition, intent)]
      (clock 2))]

/-- The user authorizes the account again after the admission. -/
def relinked : List SystemCall :=
  admitted ++ replace otherOperation otherGeneration 3 ++ resume userCall .user 3

end Sample

/-- A photo admitted under the present link: the claim is followed by an attempt. -/
theorem claim_begin_agreement_admitted : ∃ s db' db'', SystemReachable s ∧
    claimPartition s.db Sample.partition Sample.leaseId (some 1) defaultLeasePolicy
      (Sample.clock 5) = some (db', Sample.lease) ∧
    begin db' Sample.lease Sample.attempt (Sample.clock 6) (Sample.clock 6) = some db'' := by
  have hexec : (execAll SystemCall.exec Sample.installed Sample.admitted).isSome = true := by
    decide +kernel
  obtain ⟨s, hs⟩ := Option.isSome_iff_exists.mp hexec
  have hfacts : ∀ s ∈ execAll SystemCall.exec Sample.installed Sample.admitted,
      ∃ claimed ∈ claimPartition s.db Sample.partition Sample.leaseId (some 1) defaultLeasePolicy
          (Sample.clock 5), claimed.2 = Sample.lease ∧
        claimed.1.queue.attempts.find? Sample.attempt = none ∧
        ∃ head ∈ s.db.queue.headIntent Sample.partition, head.state ≠ .attempting ∧
          bindingCurrent s.db.flickr head := by
    decide +kernel
  obtain ⟨⟨db', lease⟩, hclaim, rfl, hfresh, head, hhead, hstate, hcurrent⟩ := hfacts s hs
  have hreachable := Sample.installed_reachable.execAll hs
  have hlease : (Sample.clock 6).us < Sample.lease.expiresUs := by decide
  obtain ⟨_, db'', hbegin⟩ := (claim_begin_agreement hreachable hclaim hhead hstate hfresh hlease
    (Sample.clock 6)).mpr ⟨hcurrent, by decide⟩
  exact ⟨s, db', db'', hreachable, hclaim, hbegin⟩

/-- After a second authorization the binding has the old link revision: the claim
goes through, and the attempt is refused. -/
theorem claim_begin_refused :
    ¬ ∀ (s : System) (partitionId leaseId : Token) (expectedWakeRevision : Option Nat)
      (config : LeasePolicy) (now : ClockReading) (db' : Db) (lease : Lease)
      (head : SubmissionIntent) (attemptId : Token) (guardNow updateNow : ClockReading),
      SystemReachable s →
      claimPartition s.db partitionId leaseId expectedWakeRevision config now =
        some (db', lease) →
      s.db.queue.headIntent partitionId = some head → head.state ≠ .attempting →
      db'.queue.attempts.find? attemptId = none → guardNow.us < lease.expiresUs →
      beginGuard db' lease guardNow.us ∧
        ∃ db'', begin db' lease attemptId guardNow updateNow = some db'' := by
  intro hclaim
  have hexec : (execAll SystemCall.exec Sample.installed Sample.relinked).isSome = true := by
    decide +kernel
  obtain ⟨s, hs⟩ := Option.isSome_iff_exists.mp hexec
  have hfacts : ∀ s ∈ execAll SystemCall.exec Sample.installed Sample.relinked,
      ∃ claimed ∈ claimPartition s.db Sample.partition Sample.leaseId (some 1) defaultLeasePolicy
          (Sample.clock 5), claimed.2 = Sample.lease ∧
        claimed.1.queue.attempts.find? Sample.attempt = none ∧
        ¬ beginGuard claimed.1 Sample.lease 6 ∧
        ∃ head ∈ s.db.queue.headIntent Sample.partition, head.state ≠ .attempting := by
    decide +kernel
  obtain ⟨⟨db', lease⟩, hclaimed, rfl, hfresh, hrefused, head, hhead, hstate⟩ := hfacts s hs
  exact hrefused (hclaim s _ _ _ _ _ db' _ head Sample.attempt (Sample.clock 6) (Sample.clock 6)
    (Sample.installed_reachable.execAll hs) hclaimed hhead hstate hfresh (by decide)).1

end FlickrGroupAddr

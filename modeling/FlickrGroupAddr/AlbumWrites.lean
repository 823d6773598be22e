import FlickrGroupAddr.AlbumSystem

/-!
# What a call writes

A call is a sequence of row writes, each made when its guard holds.  `AlbumWrite` lists
them, a new row together with the event that shows it; every call is a finite sequence
of such writes, so what each of them keeps every call keeps.
-/

namespace FlickrGroupAddr

set_option autoImplicit false

open KeyedTable Transition Relation

/-- The event of a new obligation. -/
def admissionEvent (o : AlbumObligation) : AlbumObligationEvent :=
  AlbumDb.obligationEvent o .obligationAdmitted

/-- The event of a new binding. -/
def creationEvent (b : AlbumBinding) : AlbumBindingEvent :=
  ⟨b.bindingId, b.bindingRevision, .bindingCreated, b.snapshot⟩

/-- The first obligation of a new binding. -/
def firstObligationRow (b : AlbumBinding) : AlbumObligation :=
  ⟨⟨b.identity.firstObligationId, b.bindingId, b.identity.firstPhotoBindingId,
    b.identity.firstPhotoId, 1⟩, 1, .waitingForAlbum, .active⟩

/-- The work whose rows only its own calls write. -/
inductive AlbumPart where
  | ensures
  | associations
  | titleIntents
  | removals
  | repairs
  | creates
  | titles
  | attachments
deriving DecidableEq

/-- The work a call does. -/
def AlbumCall.part : AlbumCall → Option AlbumPart
  | .ensure .. => some .ensures
  | .associate .. => some .associations
  | .titleIntent .. => some .titleIntents
  | .removeAlbum .. | .removePhoto .. => some .removals
  | .repair .. => some .repairs
  | .claimCreate .. | .markCreate .. | .recordCreate .. | .finishCreate .. | .failCreate ..
  | .unknownCreate .. | .rejectCreate .. => some .creates
  | .claimTitle .. | .readTitle .. | .markTitle .. | .recordTitle .. | .reconcileTitle ..
  | .releaseTitle .. | .missingTitle .. => some .titles
  | .claimAttachment .. | .markAttachment .. | .recordAttachment .. | .finishAttachment ..
  | .deferAttachment .. | .unknownAttachment .. | .failAttachment .. | .attendAttachment .. =>
      some .attachments

/-- A title attempt that a change of its binding closes. -/
def TitleState.closes (state : TitleState) : Prop := state = .localRemoved ∨ state = .superseded

/-- One row write of the album tables, with the event that shows it, in a call that does
`part` of the work. -/
inductive AlbumWrite (part : Option AlbumPart) : AlbumDb → AlbumDb → Prop
  | binding {db db' : AlbumDb} (new : AlbumBinding) (h : db.setBinding new = some db') :
      AlbumWrite part db db'
  | bindingCreated {db : AlbumDb} (hpart : part = some .ensures) (m : Moment) (b : AlbumBinding)
      (bindings : Table AlbumBinding.bindingId) (events : Table AlbumBindingEvent.key)
      (obligations : Table AlbumObligation.obligationId)
      (obligationEvents : Table AlbumObligationEvent.key)
      (hadmissible : AlbumDb.bindingAdmissible m db b) (hrow : db.bindings.insert? b = some bindings)
      (hevent : db.bindingEvents.insert? (creationEvent b) = some events)
      (hfirst : db.obligations.insert? (firstObligationRow b) = some obligations)
      (hfirstEvent : db.obligationEvents.insert? (admissionEvent (firstObligationRow b)) =
        some obligationEvents) :
      AlbumWrite part db
        { db with
          bindings := bindings
          bindingEvents := events
          obligations := obligations
          obligationEvents := obligationEvents }
  | obligation {db db' : AlbumDb} (new : AlbumObligation) (h : db.setObligation new = some db') :
      AlbumWrite part db db'
  | obligationAdmitted {db : AlbumDb} (hpart : part = some .associations) (m : Moment)
      (o : AlbumObligation)
      (obligations : Table AlbumObligation.obligationId)
      (obligationEvents : Table AlbumObligationEvent.key)
      (hadmissible : AlbumDb.obligationAdmissible m db o) (hfree : db.obligationFree o)
      (hrow : db.obligations.insert? o = some obligations)
      (hevent : db.obligationEvents.insert? (admissionEvent o) = some obligationEvents) :
      AlbumWrite part db
        { db with obligations := obligations, obligationEvents := obligationEvents }
  | titleAttempt {db db' : AlbumDb} (m : Moment) (new : AlbumTitleAttempt)
      (hpart : part = some .titles ∨ new.state.closes)
      (h : AlbumDb.setTitleAttempt m db new = some db') : AlbumWrite part db db'
  | titleClaimed {db : AlbumDb} (hpart : part = some .titles) (m : Moment) (a : AlbumTitleAttempt)
      (attempts : Table AlbumTitleAttempt.attemptId)
      (hadmissible : AlbumDb.titleAttemptAdmissible m db a)
      (hrow : db.titleAttempts.insert? a = some attempts) :
      AlbumWrite part db { db with titleAttempts := attempts }
  | titleStepped {db : AlbumDb} (hpart : part = some .titles) (b : AlbumBinding)
      (e : AlbumTitleSemanticEvent)
      (events : Table AlbumTitleSemanticEvent.key) (hb : db.bindings.find? e.bindingId = some b)
      (hrevision : e.bindingRevisionBefore = b.bindingRevision)
      (hrow : db.titleSemanticEvents.insert? e = some events) :
      AlbumWrite part db { db with titleSemanticEvents := events }
  | titleReceipt {db : AlbumDb} (hpart : part = some .titleIntents) (m : Moment)
      (r : AlbumTitleReceipt)
      (receipts : Table AlbumTitleReceipt.key) (hadmissible : AlbumDb.titleReceiptAdmissible m db r)
      (hrow : db.titleReceipts.insert? r = some receipts) :
      AlbumWrite part db { db with titleReceipts := receipts }
  | photoRemoval {db : AlbumDb} (hpart : part = some .removals) (m : Moment)
      (r : PhotoRemovalReceipt)
      (receipts : Table PhotoRemovalReceipt.obligationId)
      (hadmissible : AlbumDb.photoRemovalAdmissible m db r)
      (hrow : db.photoRemovals.insert? r = some receipts) :
      AlbumWrite part db { db with photoRemovals := receipts }
  | albumRemoval {db : AlbumDb} (hpart : part = some .removals) (m : Moment)
      (r : AlbumRemovalReceipt)
      (receipts : Table AlbumRemovalReceipt.bindingId)
      (hadmissible : AlbumDb.albumRemovalAdmissible m db r)
      (hrow : db.albumRemovals.insert? r = some receipts) :
      AlbumWrite part db { db with albumRemovals := receipts }
  | createClaimed {db : AlbumDb} (hpart : part = some .creates) (m : Moment)
      (a : AlbumMaterializationAttempt)
      (attempts : Table AlbumMaterializationAttempt.attemptId)
      (hadmissible : AlbumDb.createAdmissible m db a)
      (hrow : db.materializations.insert? a = some attempts) :
      AlbumWrite part db { db with materializations := attempts }
  | createChanged {db : AlbumDb} (hpart : part = some .creates) (m : Moment)
      (old new : AlbumMaterializationAttempt)
      (hold : db.materializations.find? new.attemptId = some old)
      (hallowed : AlbumDb.CreateUpdateAllowed m db old new) :
      AlbumWrite part db { db with materializations := db.materializations.set new }
  | repair {db : AlbumDb} (hpart : part = some .repairs) (m : Moment) (r : AlbumCreateRepairReceipt)
      (receipts : Table AlbumCreateRepairReceipt.bindingId)
      (hadmissible : AlbumDb.repairAdmissible m db r)
      (hrow : db.repairReceipts.insert? r = some receipts) :
      AlbumWrite part db { db with repairReceipts := receipts }
  | attachmentClaimed {db : AlbumDb} (hpart : part = some .attachments) (m : Moment)
      (a : AlbumAttachmentAttempt)
      (attempts : Table AlbumAttachmentAttempt.attemptId)
      (hadmissible : AlbumDb.attachmentAdmissible m db a)
      (hrow : db.attachments.insert? a = some attempts) :
      AlbumWrite part db { db with attachments := attempts }
  | attachmentChanged {db : AlbumDb} (hpart : part = some .attachments) (m : Moment)
      (old new : AlbumAttachmentAttempt)
      (hold : db.attachments.find? new.attemptId = some old)
      (hallowed : AlbumDb.AttachmentUpdateAllowed m db old new) :
      AlbumWrite part db { db with attachments := db.attachments.set new }
  | attachmentStepped {db : AlbumDb} (hpart : part = some .attachments) (b : AlbumBinding)
      (o : AlbumObligation)
      (a : AlbumAttachmentAttempt) (e : AlbumAttachmentSemanticEvent)
      (events : Table AlbumAttachmentSemanticEvent.key)
      (ho : db.obligations.find? e.obligationId = some o)
      (hb : db.bindings.find? e.bindingId = some b) (ha : a ∈ db.attachments)
      (hof : a.obligationId = e.obligationId)
      (hshown : AlbumDb.shownEffective a.state = some e.state)
      (hadmissible : db.semanticAdmissible b o a)
      (hrevision : e.obligationRevisionBefore = o.obligationRevision)
      (hrow : db.attachmentSemanticEvents.insert? e = some events) :
      AlbumWrite part db { db with attachmentSemanticEvents := events }

/-- A finite sequence of row writes. -/
abbrev AlbumWrites (part : Option AlbumPart) := ReflTransGen (AlbumWrite part)

variable {part : Option AlbumPart}

theorem AlbumWrite.writes {db db' : AlbumDb} (h : AlbumWrite part db db') :
    AlbumWrites part db db' :=
  ReflTransGen.single h

namespace AlbumDb

/-! ## The binding and its title attempts -/

theorem writes_closeTitleAttempts {m : Moment} {db db' : AlbumDb} {b : AlbumBinding}
    (h : closeTitleAttempts m db b = some db') : AlbumWrites part db db' := by
  apply reflTransGen_of_foldlM _ h
  intro before a after hset
  refine (AlbumWrite.titleAttempt m _ (Or.inr ?_) hset).writes
  unfold TitleState.closes
  dsimp only
  split
  · exact Or.inl rfl
  · exact Or.inr rfl

theorem writes_updateBindingRow {m : Moment} {db db' : AlbumDb} {new : AlbumBinding}
    (h : updateBindingRow m db new = some db') : AlbumWrites part db db' := by
  obtain ⟨middle, hset, hclose⟩ := Option.bind_eq_some_iff.mp h
  exact (AlbumWrite.binding new hset).writes.trans (writes_closeTitleAttempts hclose)

theorem writes_moveBindingTo {m : Moment} {db db' : AlbumDb} {bindingId : Token} {revision : Nat}
    (h : moveBindingTo m db bindingId revision = some db') : AlbumWrites part db db' := by
  unfold moveBindingTo at h
  split at h
  · cases h
    exact ReflTransGen.refl
  · exact writes_updateBindingRow h

theorem writes_moveBindingUpTo {m : Moment} {db db' : AlbumDb} {bindingId : Token} {revision : Nat}
    (h : moveBindingUpTo m db bindingId revision = some db') : AlbumWrites part db db' := by
  unfold moveBindingUpTo at h
  split at h
  · cases h
    exact ReflTransGen.refl
  · split at h
    · exact writes_moveBindingTo h
    · cases h
      exact ReflTransGen.refl

/-! ## The obligation events stand apart

No guard of a binding or of a title attempt reads `album_obligation_events`, so the event
of a new obligation may as well be written before its binding moves. -/

/-- The database with these obligation events. -/
def withObligationEvents (events : Table AlbumObligationEvent.key) (db : AlbumDb) : AlbumDb :=
  { db with obligationEvents := events }

theorem bindingUpdateAllowed_withObligationEvents {events : Table AlbumObligationEvent.key}
    {db : AlbumDb} {old new : AlbumBinding} :
    (db.withObligationEvents events).BindingUpdateAllowed old new ↔
      db.BindingUpdateAllowed old new := by
  constructor
  · intro h
    exact ⟨h.inRange, h.photoset, h.identity, h.revision, h.materialization, h.archive⟩
  · intro h
    exact ⟨h.inRange, h.photoset, h.identity, h.revision, h.materialization, h.archive⟩

theorem titleUpdateAllowed_withObligationEvents {events : Table AlbumObligationEvent.key}
    {m : Moment} {db : AlbumDb} {old new : AlbumTitleAttempt} :
    TitleUpdateAllowed m (db.withObligationEvents events) old new ↔
      TitleUpdateAllowed m db old new := by
  constructor
  · intro h
    exact ⟨h.monotone, h.transition, h.columns, h.evidence, h.takeover, h.keys, h.marking,
      h.reading, h.outcome, h.fenced⟩
  · intro h
    exact ⟨h.monotone, h.transition, h.columns, h.evidence, h.takeover, h.keys, h.marking,
      h.reading, h.outcome, h.fenced⟩

theorem setBinding_withObligationEvents {events : Table AlbumObligationEvent.key}
    {db db' : AlbumDb} {new : AlbumBinding} (h : db.setBinding new = some db') :
    (db.withObligationEvents events).setBinding new = some (db'.withObligationEvents events) := by
  unfold setBinding at h ⊢
  cases hfind : db.bindings.find? new.bindingId with
  | none =>
      have hsame : (db.withObligationEvents events).bindings.find? new.bindingId = none := hfind
      simp only [hfind] at h
      cases h
      simp only [hsame]
  | some old =>
      have hsame : (db.withObligationEvents events).bindings.find? new.bindingId = some old :=
        hfind
      simp only [hfind] at h
      simp only [hsame]
      split at h
      · next hallowed =>
          rw [if_pos (bindingUpdateAllowed_withObligationEvents.mpr hallowed)]
          split at h
          · next hkept =>
              cases h
              rw [if_pos hkept]
              rfl
          · next hmoved =>
              rw [if_neg hmoved]
              obtain ⟨bindingEvents, hinsert, rfl⟩ := Option.map_eq_some_iff.mp h
              exact Option.map_eq_some_iff.mpr ⟨bindingEvents, hinsert, rfl⟩
      · cases h

theorem setTitleAttempt_withObligationEvents {events : Table AlbumObligationEvent.key}
    {m : Moment} {db db' : AlbumDb} {new : AlbumTitleAttempt}
    (h : setTitleAttempt m db new = some db') :
    setTitleAttempt m (db.withObligationEvents events) new =
      some (db'.withObligationEvents events) := by
  unfold setTitleAttempt at h ⊢
  cases hfind : db.titleAttempts.find? new.attemptId with
  | none =>
      have hsame : (db.withObligationEvents events).titleAttempts.find? new.attemptId = none :=
        hfind
      simp only [hfind] at h
      cases h
      simp only [hsame]
  | some old =>
      have hsame : (db.withObligationEvents events).titleAttempts.find? new.attemptId = some old :=
        hfind
      simp only [hfind] at h
      simp only [hsame]
      split at h
      · next hallowed =>
          cases h
          rw [if_pos (titleUpdateAllowed_withObligationEvents.mpr hallowed)]
          rfl
      · cases h

theorem closeTitleAttempts_withObligationEvents {events : Table AlbumObligationEvent.key}
    {m : Moment} {db db' : AlbumDb} {b : AlbumBinding}
    (h : closeTitleAttempts m db b = some db') :
    closeTitleAttempts m (db.withObligationEvents events) b =
      some (db'.withObligationEvents events) := by
  unfold closeTitleAttempts at h ⊢
  have hrows : (db.withObligationEvents events).titleAttempts.rows = db.titleAttempts.rows := rfl
  rw [hrows]
  generalize (db.titleAttempts.rows.filter fun a => titleClosable b a) = rows at h
  clear hrows
  induction rows generalizing db with
  | nil =>
      cases h
      rfl
  | cons a rest ih =>
      rw [List.foldlM_cons] at h ⊢
      obtain ⟨middle, hset, hrest⟩ := Option.bind_eq_some_iff.mp h
      exact Option.bind_eq_some_iff.mpr
        ⟨_, setTitleAttempt_withObligationEvents hset, ih hrest⟩

theorem moveBindingUpTo_withObligationEvents {events : Table AlbumObligationEvent.key}
    {m : Moment} {db db' : AlbumDb} {bindingId : Token} {revision : Nat}
    (h : moveBindingUpTo m db bindingId revision = some db') :
    moveBindingUpTo m (db.withObligationEvents events) bindingId revision =
      some (db'.withObligationEvents events) := by
  unfold moveBindingUpTo moveBindingTo updateBindingRow at h ⊢
  cases hfind : db.bindings.find? bindingId with
  | none =>
      have hsame : (db.withObligationEvents events).bindings.find? bindingId = none := hfind
      simp only [hfind] at h
      cases h
      simp only [hsame]
  | some b =>
      have hsame : (db.withObligationEvents events).bindings.find? bindingId = some b := hfind
      simp only [hfind] at h
      simp only [hsame]
      split at h
      · next hbehind =>
          rw [if_pos hbehind]
          obtain ⟨middle, hset, hclose⟩ := Option.bind_eq_some_iff.mp h
          exact Option.bind_eq_some_iff.mpr ⟨_, setBinding_withObligationEvents hset,
            closeTitleAttempts_withObligationEvents hclose⟩
      · next hthere =>
          cases h
          rw [if_neg hthere]

/-! ## What a move of the binding leaves alone -/

/-- Only the binding, its events and its title attempts changed. -/
def MovedOnly (db db' : AlbumDb) : Prop :=
  ∃ bindings bindingEvents titleAttempts,
    db' = { db with
      bindings := bindings
      bindingEvents := bindingEvents
      titleAttempts := titleAttempts }

theorem MovedOnly.same (db : AlbumDb) : MovedOnly db db :=
  ⟨db.bindings, db.bindingEvents, db.titleAttempts, rfl⟩

theorem movedOnly_setBinding {db db' : AlbumDb} {new : AlbumBinding}
    (h : db.setBinding new = some db') : MovedOnly db db' := by
  unfold setBinding at h
  split at h
  · cases h
    exact MovedOnly.same db
  · split at h
    · split at h
      · cases h
        exact ⟨_, db.bindingEvents, db.titleAttempts, rfl⟩
      · obtain ⟨events, _, rfl⟩ := Option.map_eq_some_iff.mp h
        exact ⟨_, events, db.titleAttempts, rfl⟩
    · cases h

/-- Setting title attempts changes nothing else. -/
theorem titlesOnly_setTitleAttempt {m : Moment} {db db' : AlbumDb} {new : AlbumTitleAttempt}
    (h : setTitleAttempt m db new = some db') :
    ∃ titleAttempts, db' = { db with titleAttempts := titleAttempts } := by
  unfold setTitleAttempt at h
  split at h
  · cases h
    exact ⟨_, rfl⟩
  · split at h
    · cases h
      exact ⟨_, rfl⟩
    · cases h

theorem titlesOnly_closeTitleAttempts {m : Moment} {db db' : AlbumDb} {b : AlbumBinding}
    (h : closeTitleAttempts m db b = some db') :
    ∃ titleAttempts, db' = { db with titleAttempts := titleAttempts } := by
  unfold closeTitleAttempts at h
  generalize (db.titleAttempts.rows.filter fun a => titleClosable b a) = rows at h
  induction rows generalizing db with
  | nil =>
      cases h
      exact ⟨_, rfl⟩
  | cons a rest ih =>
      rw [List.foldlM_cons] at h
      obtain ⟨middle, hset, hrest⟩ := Option.bind_eq_some_iff.mp h
      obtain ⟨first, rfl⟩ := titlesOnly_setTitleAttempt hset
      obtain ⟨titles, rfl⟩ := ih hrest
      exact ⟨titles, rfl⟩

theorem movedOnly_updateBindingRow {m : Moment} {db db' : AlbumDb} {new : AlbumBinding}
    (h : updateBindingRow m db new = some db') : MovedOnly db db' := by
  obtain ⟨middle, hset, hclose⟩ := Option.bind_eq_some_iff.mp h
  obtain ⟨bindings, events, titles, rfl⟩ := movedOnly_setBinding hset
  obtain ⟨closed, rfl⟩ := titlesOnly_closeTitleAttempts hclose
  exact ⟨bindings, events, closed, rfl⟩

theorem movedOnly_moveBindingTo {m : Moment} {db db' : AlbumDb} {bindingId : Token}
    {revision : Nat} (h : moveBindingTo m db bindingId revision = some db') : MovedOnly db db' := by
  unfold moveBindingTo at h
  split at h
  · cases h
    exact MovedOnly.same db
  · exact movedOnly_updateBindingRow h

theorem movedOnly_moveBindingUpTo {m : Moment} {db db' : AlbumDb} {bindingId : Token}
    {revision : Nat} (h : moveBindingUpTo m db bindingId revision = some db') :
    MovedOnly db db' := by
  unfold moveBindingUpTo at h
  split at h
  · cases h
    exact MovedOnly.same db
  · split at h
    · exact movedOnly_moveBindingTo h
    · cases h
      exact MovedOnly.same db

/-! ## New rows -/

theorem insertObligationEvent_eq_some {db db' : AlbumDb} {e : AlbumObligationEvent}
    (h : insertObligationEvent db e = some db') :
    ∃ events, db.obligationEvents.insert? e = some events ∧
      db' = db.withObligationEvents events := by
  obtain ⟨events, hinsert, rfl⟩ := Option.map_eq_some_iff.mp h
  exact ⟨events, (Table.insertIf?_eq_some.mp hinsert).2, rfl⟩

/-- What the insertion of an obligation did before its binding moved. -/
theorem insertObligation_eq_some {m : Moment} {db db' : AlbumDb} {o : AlbumObligation}
    (h : insertObligation m db o = some db') :
    ∃ obligations events, obligationAdmissible m db o ∧ db.obligationFree o ∧
      db.obligations.insert? o = some obligations ∧
      db.obligationEvents.insert? (admissionEvent o) = some events ∧
      moveBindingUpTo m { db with obligations := obligations, obligationEvents := events }
        o.albumBindingId o.identity.admissionBindingRevision = some db' := by
  obtain ⟨obligations, hrow, h⟩ := Option.bind_eq_some_iff.mp h
  obtain ⟨moved, hmoved, hevent⟩ := Option.bind_eq_some_iff.mp h
  obtain ⟨events, hinsert, rfl⟩ := insertObligationEvent_eq_some hevent
  obtain ⟨⟨hadmissible, hfree⟩, hrow⟩ := Table.insertIf?_eq_some.mp hrow
  have hkept : moved.obligationEvents = db.obligationEvents := by
    obtain ⟨bindings, bindingEvents, titles, rfl⟩ := movedOnly_moveBindingUpTo hmoved
    rfl
  rw [hkept] at hinsert
  exact ⟨obligations, events, hadmissible, hfree, hrow, hinsert,
    moveBindingUpTo_withObligationEvents hmoved⟩

theorem writes_insertObligation {m : Moment} {db db' : AlbumDb} {o : AlbumObligation}
    (hpart : part = some .associations) (h : insertObligation m db o = some db') : AlbumWrites part db db' := by
  obtain ⟨obligations, events, hadmissible, hfree, hrow, hevent, hmoved⟩ :=
    insertObligation_eq_some h
  exact (AlbumWrite.obligationAdmitted hpart m o obligations events hadmissible hfree hrow
    hevent).writes.trans (writes_moveBindingUpTo hmoved)

/-- A binding that is there already does not move. -/
theorem moveBindingUpTo_of_reached {m : Moment} {db : AlbumDb} {bindingId : Token} {revision : Nat}
    {b : AlbumBinding} (hb : db.bindings.find? bindingId = some b)
    (hreached : revision ≤ b.bindingRevision) :
    moveBindingUpTo m db bindingId revision = some db := by
  unfold moveBindingUpTo
  simp only [hb]
  rw [if_neg (Nat.not_lt.mpr hreached)]

/-- What the insertion of a binding did: its first obligation does not move it. -/
theorem insertBinding_eq_some {m : Moment} {db db' : AlbumDb} {b : AlbumBinding}
    (h : insertBinding m db b = some db') :
    ∃ bindings events obligations obligationEvents, bindingAdmissible m db b ∧
      db.bindings.insert? b = some bindings ∧
      db.bindingEvents.insert? (creationEvent b) = some events ∧
      db.obligations.insert? (firstObligationRow b) = some obligations ∧
      db.obligationEvents.insert? (admissionEvent (firstObligationRow b)) =
        some obligationEvents ∧
      db' = { db with
        bindings := bindings
        bindingEvents := events
        obligations := obligations
        obligationEvents := obligationEvents } := by
  obtain ⟨bindings, hrow, h⟩ := Option.bind_eq_some_iff.mp h
  obtain ⟨admitted, hfirst, h⟩ := Option.bind_eq_some_iff.mp h
  obtain ⟨events, hevent, h⟩ := Option.bind_eq_some_iff.mp h
  cases h
  obtain ⟨hadmissible, hrow⟩ := Table.insertIf?_eq_some.mp hrow
  obtain ⟨obligations, obligationEvents, _, _, hobligation, hobligationEvent, hmoved⟩ :=
    insertObligation_eq_some hfirst
  have hb : bindings.find? b.bindingId = some b := by
    rw [Table.find?_insert? hrow]
    exact if_pos rfl
  rw [@moveBindingUpTo_of_reached m _ _ _ b hb (Nat.le_of_eq hadmissible.1.1.symm)] at hmoved
  cases hmoved
  exact ⟨bindings, events, obligations, obligationEvents, hadmissible, hrow, hevent, hobligation,
    hobligationEvent, rfl⟩

theorem write_insertBinding {m : Moment} {db db' : AlbumDb} {b : AlbumBinding}
    (hpart : part = some .ensures) (h : insertBinding m db b = some db') : AlbumWrite part db db' := by
  obtain ⟨bindings, events, obligations, obligationEvents, hadmissible, hrow, hevent, hobligation,
    hobligationEvent, rfl⟩ := insertBinding_eq_some h
  exact AlbumWrite.bindingCreated hpart m b bindings events obligations obligationEvents hadmissible
    hrow hevent hobligation hobligationEvent

/-! ## Removals -/

theorem writes_applyPhotoSource {m : Moment} {db db' : AlbumDb} {r : PhotoRemovalReceipt}
    (h : applyPhotoSource m db r = some db') : AlbumWrites part db db' := by
  unfold applyPhotoSource at h
  split at h
  · cases h
    exact ReflTransGen.refl
  · split at h
    · exact writes_moveBindingTo h
    · cases h
      exact ReflTransGen.refl

theorem writes_archiveObligation {db db' : AlbumDb} {r : PhotoRemovalReceipt}
    (h : db.archiveObligation r = some db') : AlbumWrites part db db' := by
  unfold archiveObligation at h
  split at h
  · cases h
    exact ReflTransGen.refl
  · exact (AlbumWrite.obligation _ h).writes

theorem writes_insertPhotoRemoval {m : Moment} {db db' : AlbumDb} {r : PhotoRemovalReceipt}
    (hpart : part = some .removals) (h : insertPhotoRemoval m db r = some db') : AlbumWrites part db db' := by
  obtain ⟨receipts, hrow, h⟩ := Option.bind_eq_some_iff.mp h
  obtain ⟨moved, hmoved, harchive⟩ := Option.bind_eq_some_iff.mp h
  obtain ⟨hadmissible, hrow⟩ := Table.insertIf?_eq_some.mp hrow
  exact ((AlbumWrite.photoRemoval hpart m r receipts hadmissible hrow).writes.trans
    (writes_applyPhotoSource hmoved)).trans (writes_archiveObligation harchive)

theorem writes_archiveObligations {m : Moment} {db db' : AlbumDb} {bindingId : Token}
    (hpart : part = some .removals) (h : archiveObligations m db bindingId = some db') : AlbumWrites part db db' := by
  unfold archiveObligations at h
  split at h
  · cases h
    exact ReflTransGen.refl
  · apply reflTransGen_of_foldlM _ h
    intro before o after hinsert
    exact writes_insertPhotoRemoval hpart hinsert

theorem writes_insertAlbumRemoval {m : Moment} {db db' : AlbumDb} {r : AlbumRemovalReceipt}
    (hpart : part = some .removals) (h : insertAlbumRemoval m db r = some db') : AlbumWrites part db db' := by
  obtain ⟨receipts, hrow, h⟩ := Option.bind_eq_some_iff.mp h
  obtain ⟨hadmissible, hrow⟩ := Table.insertIf?_eq_some.mp hrow
  refine (AlbumWrite.albumRemoval hpart m r receipts hadmissible hrow).writes.trans ?_
  unfold archiveBinding at h
  split at h
  · cases h
    exact ReflTransGen.refl
  · obtain ⟨moved, hmoved, harchive⟩ := Option.bind_eq_some_iff.mp h
    exact (writes_updateBindingRow hmoved).trans (writes_archiveObligations hpart harchive)

/-! ## Titles -/

theorem writes_insertTitleReceipt {m : Moment} {db db' : AlbumDb} {r : AlbumTitleReceipt}
    (hpart : part = some .titleIntents) (h : insertTitleReceipt m db r = some db') : AlbumWrites part db db' := by
  obtain ⟨receipts, hrow, h⟩ := Option.bind_eq_some_iff.mp h
  obtain ⟨hadmissible, hrow⟩ := Table.insertIf?_eq_some.mp hrow
  refine (AlbumWrite.titleReceipt hpart m r receipts hadmissible hrow).writes.trans ?_
  unfold applyTitle at h
  split at h
  · cases h
    exact ReflTransGen.refl
  · exact writes_updateBindingRow h

theorem writes_titleChanged {m : Moment} {db db' : AlbumDb} {old new : AlbumTitleAttempt}
    (hpart : part = some .titles) (h : titleChanged m db old new = some db') : AlbumWrites part db db' := by
  unfold titleChanged takeTitleRevision at h
  split at h
  · split at h
    · cases h
      exact ReflTransGen.refl
    · next b hb =>
        split at h
        · obtain ⟨events, hrow, hmoved⟩ := Option.bind_eq_some_iff.mp h
          exact (AlbumWrite.titleStepped hpart b _ events hb rfl hrow).writes.trans
            (writes_moveBindingTo hmoved)
        · cases h
  · cases h
    exact ReflTransGen.refl

theorem writes_updateTitleAttempt {m : Moment} {db db' : AlbumDb} {new : AlbumTitleAttempt}
    (hpart : part = some .titles) (h : updateTitleAttempt m db new = some db') : AlbumWrites part db db' := by
  unfold updateTitleAttempt at h
  split at h
  · cases h
    exact ReflTransGen.refl
  · obtain ⟨middle, hset, hchanged⟩ := Option.bind_eq_some_iff.mp h
    exact (AlbumWrite.titleAttempt m new (Or.inl hpart) hset).writes.trans
      (writes_titleChanged hpart hchanged)

/-! ## Creates and their repairs -/

theorem writes_verifyFirstObligation {db db' : AlbumDb} {bindingId : Token}
    (h : db.verifyFirstObligation bindingId = some db') : AlbumWrites part db db' := by
  unfold verifyFirstObligation at h
  split at h
  · cases h
    exact ReflTransGen.refl
  · exact (AlbumWrite.obligation _ h).writes

theorem writes_showCreate {m : Moment} {db db' : AlbumDb} {bindingId : Token}
    {phase : MaterializationPhase} (h : showCreate m db bindingId phase = some db') :
    AlbumWrites part db db' := by
  unfold showCreate at h
  split at h
  · exact writes_updateBindingRow h
  · cases h
    exact ReflTransGen.refl

theorem writes_setMaterialization {m : Moment} {db db' : AlbumDb}
    {new : AlbumMaterializationAttempt} (hpart : part = some .creates)
    (h : setMaterialization m db new = some db') :
    AlbumWrites part db db' := by
  unfold setMaterialization at h
  split at h
  · cases h
    exact ReflTransGen.refl
  · next old hold =>
      split at h
      · next hallowed =>
          obtain ⟨shown, hshow, hverify⟩ := Option.bind_eq_some_iff.mp h
          refine ((AlbumWrite.createChanged hpart m old new hold hallowed).writes.trans
            (writes_showCreate hshow)).trans ?_
          unfold verifyCreated at hverify
          split at hverify
          · cases hverify
            exact ReflTransGen.refl
          · exact writes_verifyFirstObligation hverify
      · cases h

theorem writes_insertRepair {m : Moment} {db db' : AlbumDb} {r : AlbumCreateRepairReceipt}
    (hpart : part = some .repairs) (h : insertRepair m db r = some db') : AlbumWrites part db db' := by
  obtain ⟨receipts, hrow, h⟩ := Option.bind_eq_some_iff.mp h
  obtain ⟨repaired, hrepair, hverify⟩ := Option.bind_eq_some_iff.mp h
  obtain ⟨hadmissible, hrow⟩ := Table.insertIf?_eq_some.mp hrow
  refine ((AlbumWrite.repair hpart m r receipts hadmissible hrow).writes.trans ?_).trans
    (writes_verifyFirstObligation hverify)
  unfold repairBinding at hrepair
  split at hrepair
  · cases hrepair
    exact ReflTransGen.refl
  · exact writes_updateBindingRow hrepair

/-! ## Attachments -/

theorem writes_takeAttachmentStep {m : Moment} {db db' : AlbumDb} {b : AlbumBinding}
    {o : AlbumObligation} {a : AlbumAttachmentAttempt} {state : EffectiveState}
    (ho : db.obligations.find? o.obligationId = some o)
    (hb : db.bindings.find? b.bindingId = some b) (ha : a ∈ db.attachments)
    (hof : a.obligationId = o.obligationId) (hshown : shownEffective a.state = some state)
    (hpart : part = some .attachments) (h : takeAttachmentStep m db b o a state = some db') :
    AlbumWrites part db db' := by
  obtain ⟨events, hrow, h⟩ := Option.bind_eq_some_iff.mp h
  obtain ⟨stepped, hstepped, hmoved⟩ := Option.bind_eq_some_iff.mp h
  obtain ⟨hadmissible, hrow⟩ := Table.insertIf?_eq_some.mp hrow
  have hevent := AlbumWrite.attachmentStepped hpart b o a _ events ho hb ha hof hshown hadmissible
    rfl hrow
  exact (hevent.writes.trans (AlbumWrite.obligation _ hstepped).writes).trans
    (writes_moveBindingTo hmoved)

theorem writes_attachmentChanged {m : Moment} {db db' : AlbumDb} {a : AlbumAttachmentAttempt}
    (ha : a ∈ db.attachments) (hpart : part = some .attachments)
    (h : attachmentChanged m db a = some db') : AlbumWrites part db db' := by
  unfold attachmentChanged at h
  split at h
  · next state o hshown ho =>
      split at h
      · cases h
        exact ReflTransGen.refl
      · next b hb =>
          split at h
          · apply writes_takeAttachmentStep _ _ ha _ hshown hpart h
            · exact Table.find?_of_mem (Table.mem_of_find? ho)
            · exact Table.find?_of_mem (Table.mem_of_find? hb)
            · exact (Table.find?_eq_some.mp ho).2.symm
          · cases h
            exact ReflTransGen.refl
  · cases h
    exact ReflTransGen.refl

theorem writes_updateAttachment {m : Moment} {db db' : AlbumDb} {new : AlbumAttachmentAttempt}
    (hpart : part = some .attachments) (h : updateAttachment m db new = some db') : AlbumWrites part db db' := by
  unfold updateAttachment at h
  split at h
  · cases h
    exact ReflTransGen.refl
  · next old hold =>
      split at h
      · next hallowed =>
          have hstored : new ∈ db.attachments.set new :=
            Table.mem_set_self (Table.mem_of_find? hold) (Table.find?_eq_some.mp hold).2
          exact (AlbumWrite.attachmentChanged hpart m old new hold hallowed).writes.trans
            (writes_attachmentChanged hstored hpart h)
      · cases h

end AlbumDb

/-! ## Calls -/

theorem writes_insertSelected {ρ : Type} {db db' : AlbumDb} {insert : AlbumDb → ρ → Option AlbumDb}
    {row : Option ρ}
    (hinsert : ∀ row db', insert db row = some db' → AlbumWrites part db db')
    (h : insertSelected db insert row = some db') : AlbumWrites part db db' := by
  cases row with
  | none =>
      cases h
      exact ReflTransGen.refl
  | some row => exact hinsert row db' h

theorem writes_batchAnswer {α : Type} {db : AlbumDb} {written : Option AlbumDb}
    {read : AlbumDb → Except AlbumError α}
    (hwritten : ∀ db', written = some db' → AlbumWrites part db db') :
    AlbumWrites part db (batchAnswer db written read).1 := by
  cases written with
  | none => exact ReflTransGen.refl
  | some db' => exact hwritten db' rfl

theorem writes_committed {α : Type} {db : AlbumDb} {batch : Batch α}
    (hbatch : ∀ db' answer, batch = some (db', answer) → AlbumWrites part db db') :
    AlbumWrites part db (committed db batch) := by
  cases batch with
  | none => exact ReflTransGen.refl
  | some result => exact hbatch result.1 result.2 rfl

/-! ### Requests -/

section Requests

variable {w : AlbumWorld} {clock : BatchClock} {db : AlbumDb} {auth : AdmissionAuth}

theorem writes_ensureAlbumBinding {request : AlbumEnsureRequest} {bindingId obligationId : Token}
    (hpart : part = some .ensures) :
    AlbumWrites part db (ensureAlbumBinding w clock db auth request bindingId obligationId).1 := by
  unfold ensureAlbumBinding
  split
  · apply writes_batchAnswer
    intro db' hwritten
    apply writes_insertSelected _ hwritten
    intro b db' hinsert
    exact (AlbumDb.write_insertBinding hpart hinsert).writes
  · exact ReflTransGen.refl

theorem writes_associateAlbumPhoto {request : AlbumAssociateRequest} {obligationId : Token}
    (hpart : part = some .associations) :
    AlbumWrites part db (associateAlbumPhoto w clock db auth request obligationId).1 := by
  unfold associateAlbumPhoto
  split
  · apply writes_batchAnswer
    intro db' hwritten
    apply writes_insertSelected _ hwritten
    intro o db' hinsert
    exact AlbumDb.writes_insertObligation hpart hinsert
  · exact ReflTransGen.refl

theorem writes_putAlbumTitleIntent {request : AlbumTitleRequest}
    (hpart : part = some .titleIntents) :
    AlbumWrites part db (putAlbumTitleIntent w clock db auth request).1 := by
  unfold putAlbumTitleIntent
  split
  · apply writes_batchAnswer
    intro db' hwritten
    apply writes_insertSelected _ hwritten
    intro r db' hinsert
    exact AlbumDb.writes_insertTitleReceipt hpart hinsert
  · exact ReflTransGen.refl

theorem writes_putAlbumLocalRemoval {request : AlbumRemovalRequest}
    (hpart : part = some .removals) :
    AlbumWrites part db (putAlbumLocalRemoval w clock db auth request).1 := by
  unfold putAlbumLocalRemoval
  split
  · apply writes_batchAnswer
    intro db' hwritten
    apply writes_insertSelected _ hwritten
    intro r db' hinsert
    exact AlbumDb.writes_insertAlbumRemoval hpart hinsert
  · exact ReflTransGen.refl

theorem writes_putAlbumPhotoLocalRemoval {request : PhotoRemovalRequest}
    (hpart : part = some .removals) :
    AlbumWrites part db (putAlbumPhotoLocalRemoval w clock db auth request).1 := by
  unfold putAlbumPhotoLocalRemoval
  split
  · apply writes_batchAnswer
    intro db' hwritten
    apply writes_insertSelected _ hwritten
    intro r db' hinsert
    exact AlbumDb.writes_insertPhotoRemoval hpart hinsert
  · exact ReflTransGen.refl

theorem writes_commitAlbumResolution {auth : RepairAuth} {context : RepairContext}
    {request : ResolveRequest} {proof : AlbumResolutionProof} (hpart : part = some .repairs) :
    AlbumWrites part db (commitAlbumResolution w clock db auth context request proof).1 := by
  unfold commitAlbumResolution
  split
  · exact ReflTransGen.refl
  · apply writes_batchAnswer
    intro db' hwritten
    apply writes_insertSelected _ hwritten
    intro r db' hinsert
    exact AlbumDb.writes_insertRepair hpart hinsert

end Requests

/-! ### Workers -/

section Workers

variable {w : AlbumWorld} {m : Moment} {clock : ClaimClock} {db db' : AlbumDb}

theorem writes_claimAlbumMaterialization {bindingId attemptId leaseId : Token}
    {answer : Option AlbumMaterializationClaim}
    (hpart : part = some .creates) (h : claimAlbumMaterialization w clock db bindingId attemptId leaseId = some (db', answer)) :
    AlbumWrites part db db' := by
  obtain ⟨expired, hexpire, h⟩ := Option.bind_eq_some_iff.mp h
  obtain ⟨inserted, hinsert, h⟩ := Option.map_eq_some_iff.mp h
  cases h
  refine ReflTransGen.trans ?_ (writes_insertSelected ?_ hinsert)
  · apply reflTransGen_of_foldlM _ hexpire
    intro before a after hset
    exact AlbumDb.writes_setMaterialization hpart hset
  · intro a db' hclaimed
    obtain ⟨attempts, hrow, rfl⟩ := Option.map_eq_some_iff.mp hclaimed
    obtain ⟨hadmissible, hrow⟩ := Table.insertIf?_eq_some.mp hrow
    exact (AlbumWrite.createClaimed hpart _ a attempts hadmissible hrow).writes

theorem writes_changeCreate {claim : AlbumMaterializationClaim}
    {next : AlbumMaterializationAttempt → Option MaterializationPhase} {answer : Bool}
    (hpart : part = some .creates) (h : changeCreate m db claim next = some (db', answer)) : AlbumWrites part db db' := by
  unfold changeCreate at h
  split at h
  · cases h
    exact ReflTransGen.refl
  · split at h
    · cases h
      exact ReflTransGen.refl
    · obtain ⟨after, hset, h⟩ := Option.map_eq_some_iff.mp h
      cases h
      exact AlbumDb.writes_setMaterialization hpart hset

theorem writes_claimAlbumTitle {bindingId attemptId leaseId : Token}
    {answer : Option AlbumTitleClaim}
    (hpart : part = some .titles) (h : claimAlbumTitle w clock db bindingId attemptId leaseId = some (db', answer)) :
    AlbumWrites part db db' := by
  obtain ⟨exhausted, hexhaust, h⟩ := Option.bind_eq_some_iff.mp h
  obtain ⟨taken, htake, h⟩ := Option.bind_eq_some_iff.mp h
  obtain ⟨inserted, hinsert, h⟩ := Option.map_eq_some_iff.mp h
  cases h
  have hexhausted : AlbumWrites part db exhausted := by
    apply reflTransGen_of_foldlM _ hexhaust
    intro before a after hset
    exact AlbumDb.writes_updateTitleAttempt hpart hset
  have htaken : AlbumWrites part exhausted taken := by
    apply reflTransGen_of_foldlM _ htake
    intro before a after hset
    exact AlbumDb.writes_updateTitleAttempt hpart hset
  refine (hexhausted.trans htaken).trans (writes_insertSelected ?_ hinsert)
  intro a db' hclaimed
  obtain ⟨attempts, hrow, rfl⟩ := Option.map_eq_some_iff.mp hclaimed
  obtain ⟨hadmissible, hrow⟩ := Table.insertIf?_eq_some.mp hrow
  exact (AlbumWrite.titleClaimed hpart _ a attempts hadmissible hrow).writes

theorem writes_changeTitle {claim : AlbumTitleClaim}
    {next : AlbumTitleAttempt → Option AlbumTitleAttempt} {answer : Option AlbumTitleClaim}
    (hpart : part = some .titles) (h : changeTitle m db claim next = some (db', answer)) : AlbumWrites part db db' := by
  unfold changeTitle at h
  split at h
  · cases h
    exact ReflTransGen.refl
  · obtain ⟨after, hset, h⟩ := Option.map_eq_some_iff.mp h
    cases h
    exact AlbumDb.writes_updateTitleAttempt hpart hset

theorem writes_reconcileAlbumTitle {claim : AlbumTitleClaim} {proof : Option AlbumTitleProof}
    {answer : Option TitleState} (hpart : part = some .titles)
    (h : reconcileAlbumTitle m db claim proof = some (db', answer)) :
    AlbumWrites part db db' := by
  unfold reconcileAlbumTitle at h
  split at h
  · split at h
    · cases h
      exact ReflTransGen.refl
    · split at h
      · cases h
        exact ReflTransGen.refl
      · obtain ⟨after, hset, h⟩ := Option.map_eq_some_iff.mp h
        cases h
        exact AlbumDb.writes_updateTitleAttempt hpart hset
  · cases h
    exact ReflTransGen.refl

theorem writes_claimAlbumAttachment {obligationId attemptId leaseId : Token}
    {answer : Option AttachmentGrant}
    (hpart : part = some .attachments) (h : claimAlbumAttachment w clock db obligationId attemptId leaseId = some (db', answer)) :
    AlbumWrites part db db' := by
  obtain ⟨expired, hexpire, h⟩ := Option.bind_eq_some_iff.mp h
  obtain ⟨inserted, hinsert, h⟩ := Option.map_eq_some_iff.mp h
  cases h
  refine ReflTransGen.trans ?_ (writes_insertSelected ?_ hinsert)
  · apply reflTransGen_of_foldlM _ hexpire
    intro before a after hset
    exact AlbumDb.writes_updateAttachment hpart hset
  · intro a db' hclaimed
    obtain ⟨attempts, hrow, rfl⟩ := Option.map_eq_some_iff.mp hclaimed
    obtain ⟨hadmissible, hrow⟩ := Table.insertIf?_eq_some.mp hrow
    exact (AlbumWrite.attachmentClaimed hpart _ a attempts hadmissible hrow).writes

theorem writes_changeAttachment {grant : AttachmentGrant}
    {next : AlbumAttachmentAttempt → Option AlbumAttachmentAttempt} {answer : Bool}
    (hpart : part = some .attachments) (h : changeAttachment m db grant next = some (db', answer)) : AlbumWrites part db db' := by
  unfold changeAttachment at h
  split at h
  · cases h
    exact ReflTransGen.refl
  · obtain ⟨after, hset, h⟩ := Option.map_eq_some_iff.mp h
    cases h
    exact AlbumDb.writes_updateAttachment hpart hset

theorem writes_markAlbumAttachmentDispatch {grant : AttachmentGrant} {contextIds : List Token}
    {answer : Option AttachmentGrant}
    (hpart : part = some .attachments) (h : markAlbumAttachmentDispatch m db grant contextIds = some (db', answer)) :
    AlbumWrites part db db' := by
  unfold markAlbumAttachmentDispatch at h
  split at h
  · split at h
    · cases h
      exact ReflTransGen.refl
    · obtain ⟨after, hset, h⟩ := Option.map_eq_some_iff.mp h
      cases h
      exact AlbumDb.writes_updateAttachment hpart hset
  · cases h
    exact ReflTransGen.refl

theorem writes_unknownAlbumAttachment {grant : AttachmentGrant} {answer : Bool}
    (hpart : part = some .attachments) (h : unknownAlbumAttachment m db grant = some (db', answer)) : AlbumWrites part db db' := by
  unfold unknownAlbumAttachment at h
  split at h
  · obtain ⟨after, hset, h⟩ := Option.map_eq_some_iff.mp h
    cases h
    apply reflTransGen_of_foldlM _ hset
    intro before a after hstep
    exact AlbumDb.writes_updateAttachment hpart hstep
  · cases h
    exact ReflTransGen.refl

end Workers

/-- A batch that changes a fenced attempt or refuses to. -/
theorem writes_guarded {α : Type} {db db' : AlbumDb} {guard : Prop} [Decidable guard]
    {batch : Batch α} {refused answer : α}
    (hbatch : ∀ answer, batch = some (db', answer) → AlbumWrites part db db')
    (h : (if guard then batch else unchanged db refused) = some (db', answer)) :
    AlbumWrites part db db' := by
  split at h
  · exact hbatch answer h
  · cases h
    exact ReflTransGen.refl

/-- Every call is a finite sequence of row writes. -/
theorem AlbumCall.writes (w : AlbumWorld) (db : AlbumDb) (call : AlbumCall) :
    AlbumWrites call.part db (call.run w db) := by
  cases call with
  | ensure => exact writes_ensureAlbumBinding rfl
  | associate => exact writes_associateAlbumPhoto rfl
  | titleIntent => exact writes_putAlbumTitleIntent rfl
  | removeAlbum => exact writes_putAlbumLocalRemoval rfl
  | removePhoto => exact writes_putAlbumPhotoLocalRemoval rfl
  | repair => exact writes_commitAlbumResolution rfl
  | claimCreate =>
      apply writes_committed
      intro db' answer h
      exact writes_claimAlbumMaterialization rfl h
  | markTitle now claim proof =>
      apply writes_committed
      intro db' answer h
      unfold markAlbumTitleDispatch at h
      split at h
      · cases h
        exact ReflTransGen.refl
      · exact writes_changeTitle rfl h
  | markCreate | recordCreate | finishCreate | rejectCreate =>
      apply writes_committed
      intro db' answer h
      exact writes_guarded (fun _ => writes_changeCreate rfl) h
  | failCreate | unknownCreate =>
      apply writes_committed
      intro db' answer h
      exact writes_changeCreate rfl h
  | claimTitle =>
      apply writes_committed
      intro db' answer h
      exact writes_claimAlbumTitle rfl h
  | readTitle | recordTitle | releaseTitle | missingTitle =>
      apply writes_committed
      intro db' answer h
      exact writes_changeTitle rfl h
  | reconcileTitle =>
      apply writes_committed
      intro db' answer h
      exact writes_reconcileAlbumTitle rfl h
  | claimAttachment =>
      apply writes_committed
      intro db' answer h
      exact writes_claimAlbumAttachment rfl h
  | markAttachment =>
      apply writes_committed
      intro db' answer h
      exact writes_markAlbumAttachmentDispatch rfl h
  | recordAttachment now grant result =>
      apply writes_committed
      intro db' answer h
      unfold recordAlbumAttachmentResult at h
      split at h
      · cases h
        exact ReflTransGen.refl
      · exact writes_changeAttachment rfl h
  | finishAttachment | deferAttachment | attendAttachment =>
      apply writes_committed
      intro db' answer h
      exact writes_guarded (fun _ => writes_changeAttachment rfl) h
  | unknownAttachment =>
      apply writes_committed
      intro db' answer h
      exact writes_unknownAlbumAttachment rfl h
  | failAttachment =>
      apply writes_committed
      intro db' answer h
      exact writes_changeAttachment rfl h

theorem AlbumStep.writes {db db' : AlbumDb} {move : AlbumMove} (h : AlbumStep db move db') :
    AlbumWrites move.call.part db db' := by
  rw [← h]
  exact move.call.writes move.world db

/-- What every row write keeps, a sequence of them keeps. -/
theorem AlbumWrites.keeps {inv : AlbumDb → Prop} {db db' : AlbumDb}
    (hwrite : ∀ part db db', AlbumWrite part db db' → inv db → inv db') (hinv : inv db)
    (h : AlbumWrites part db db') : inv db' := by
  induction h with
  | refl => exact hinv
  | tail _ hlast ih => exact hwrite _ _ _ hlast ih

/-- What every row write keeps, every step of the album system keeps. -/
theorem AlbumStep.keeps {inv : AlbumDb → Prop} {db db' : AlbumDb} {move : AlbumMove}
    (hwrite : ∀ part db db', AlbumWrite part db db' → inv db → inv db') (hinv : inv db)
    (h : AlbumStep db move db') : inv db' :=
  AlbumWrites.keeps hwrite hinv h.writes

/-- A preorder that every row write respects relates the ends of a sequence of them. -/
theorem AlbumWrites.relates {rel : AlbumDb → AlbumDb → Prop} [IsPreorder AlbumDb rel]
    {db db' : AlbumDb} (hwrite : ∀ part db db', AlbumWrite part db db' → rel db db')
    (h : AlbumWrites part db db') : rel db db' := by
  apply AlbumWrites.keeps _ (refl_of rel db) h
  intro part middle last hlast hmiddle
  exact trans_of rel hmiddle (hwrite part middle last hlast)

/-- What holds of the empty tables and every row write keeps holds in every reachable state. -/
theorem album_invariant {inv : AlbumDb → Prop} {db : AlbumDb}
    (hempty : inv emptyAlbumDb)
    (hwrite : ∀ part db db', AlbumWrite part db db' → inv db → inv db')
    (h : Reachable AlbumStep AlbumInitial db) : inv db := by
  apply h.invariant
  · intro start hstart
    rw [hstart]
    exact hempty
  · intro before move after hbefore hstep
    exact AlbumStep.keeps hwrite hbefore hstep

/-- A preorder that every row write respects relates the ends of a run. -/
theorem album_relates {rel : AlbumDb → AlbumDb → Prop} [IsPreorder AlbumDb rel] {db db' : AlbumDb}
    {trace : List (Move AlbumDb AlbumMove)} (hrun : Run AlbumStep db trace db')
    (hwrite : ∀ part db db', AlbumWrite part db db' → rel db db') : rel db db' := by
  apply hrun.relates
  intro before move after hstep
  exact AlbumWrites.relates hwrite hstep.writes

end FlickrGroupAddr

import FlickrGroupAddr.PluginCodes

/-!
# The lifecycle of a plugin code

Every batch of the plugin codes is one transition of one installation: it starts
from an active row or from none, raises the revision by one and leaves one event.
The pointers are exact because the foreign keys hold whenever a batch commits.  A
repeated request finds the event of its own transition, unless that event names no
version.
-/

namespace FlickrGroupAddr

set_option autoImplicit false

open KeyedTable Transition

/-! ## What the statements do -/

namespace PluginDb

variable {db db' : PluginDb}

theorem insertInstallation_eq_ok {row : PluginInstallation}
    (h : db.insertInstallation row = .ok db') :
    row.checks ∧ ∃ installations, db.installations.insert? row = some installations ∧
      db' = { db with installations := installations } := by
  obtain ⟨_, hchecks, h⟩ := Fallible.bind_eq_ok.mp h
  refine ⟨require_eq_ok.mp hchecks, ?_⟩
  cases hinsert : db.installations.insert? row with
  | none =>
      rw [hinsert] at h
      cases h
  | some installations =>
      rw [hinsert] at h
      cases h
      exact ⟨installations, rfl, rfl⟩

theorem insertVersion_eq_ok {row : PluginVersion} (h : db.insertVersion row = .ok db') :
    ∃ versions, db.versions.insert? row = some versions ∧
      db' = { db with versions := versions } := by
  obtain ⟨_, _, h⟩ := Fallible.bind_eq_ok.mp h
  obtain ⟨_, _, h⟩ := Fallible.bind_eq_ok.mp h
  obtain ⟨_, _, h⟩ := Fallible.bind_eq_ok.mp h
  cases hinsert : db.versions.insert? row with
  | none =>
      rw [hinsert] at h
      cases h
  | some versions =>
      rw [hinsert] at h
      obtain ⟨_, _, h⟩ := Fallible.bind_eq_ok.mp h
      cases h
      exact ⟨versions, rfl, rfl⟩

theorem updateVersions_eq_ok {p : PluginVersion → Bool} {state : VersionState}
    {clearExpiry : Bool} (h : db.updateVersions p state clearExpiry = .ok db') :
    db' = { db with
      versions := db.versions.modifyWhere p (PluginVersion.become state clearExpiry) } := by
  obtain ⟨_, _, h⟩ := Fallible.bind_eq_ok.mp h
  obtain ⟨_, _, h⟩ := Fallible.bind_eq_ok.mp h
  obtain ⟨_, _, h⟩ := Fallible.bind_eq_ok.mp h
  cases h
  rfl

theorem updateInstallation_eq_ok {installationId : Token}
    {f : PluginInstallation → PluginInstallation}
    {hf : ∀ row, (f row).installationId = row.installationId}
    (h : db.updateInstallation installationId f hf = .ok db') :
    (∀ row, db.installations.find? installationId = some row → (f row).checks) ∧
      db' = { db with installations := db.installations.modify installationId f hf } := by
  obtain ⟨_, _, h⟩ := Fallible.bind_eq_ok.mp h
  obtain ⟨_, hchecks, h⟩ := Fallible.bind_eq_ok.mp h
  cases h
  refine ⟨?_, rfl⟩
  intro row hrow
  exact require_eq_ok.mp hchecks row hrow

theorem insertEvent_eq_ok {event : PluginLifecycleEvent} (h : db.insertEvent event = .ok db') :
    ∃ events, db.events.insert? event = some events ∧ db' = { db with events := events } := by
  obtain ⟨_, _, h⟩ := Fallible.bind_eq_ok.mp h
  obtain ⟨_, _, h⟩ := Fallible.bind_eq_ok.mp h
  obtain ⟨_, _, h⟩ := Fallible.bind_eq_ok.mp h
  cases hinsert : db.events.insert? event with
  | none =>
      rw [hinsert] at h
      cases h
  | some events =>
      rw [hinsert] at h
      cases h
      exact ⟨events, rfl, rfl⟩

theorem commit_eq_ok (h : db.commit = .ok db') : db' = db ∧ db.foreignKeys := by
  unfold commit at h
  split at h
  · cases h
    exact ⟨rfl, by assumption⟩
  · cases h

end PluginDb

/-! ## The system -/

/-- The batches the requests and the scheduler run. -/
inductive PluginBatch where
  | create (plan : CreatePlan)
  | change (plan : ChangePlan)
  | expire (plan : ExpirePlan)

namespace PluginBatch

def installationId : PluginBatch → Token
  | create plan => plan.installationId
  | change plan => plan.installationId
  | expire plan => plan.installationId

def run : PluginBatch → Token → Us → PluginDb → Except BatchFailure PluginDb
  | create plan => plan.run
  | change plan => plan.run
  | expire plan => plan.run

end PluginBatch

/-- What a step of the system was. -/
inductive PluginEvent where
  | commit (batch : PluginBatch)
  | refuse (batch : PluginBatch) (failure : BatchFailure)
  | outside

/-- The step is a transition of the installation. -/
def PluginEvent.moves (id : Token) : PluginEvent → Prop
  | .commit batch => batch.installationId = id
  | .refuse _ _ | .outside => False

/-- One step: a batch commits or fails as a whole, whichever request sent it and
however stale its reads were; or the sessions change. -/
inductive PluginStep : PluginDb → PluginEvent → PluginDb → Prop
  | commit {db db' : PluginDb} {batch : PluginBatch} {eventId : Token} {now : ClockReading} :
      batch.run eventId now.us db = .ok db' → PluginStep db (.commit batch) db'
  | refuse {db : PluginDb} {batch : PluginBatch} {eventId : Token} {now : ClockReading}
      {failure : BatchFailure} :
      batch.run eventId now.us db = .error failure → PluginStep db (.refuse batch failure) db
  | outside {db db' : PluginDb} :
      db'.installations = db.installations → db'.versions = db.versions →
      db'.events = db.events → PluginStep db .outside db'

def PluginReachable (db : PluginDb) : Prop :=
  Reachable PluginStep (fun start => start.installations = .empty ∧ start.versions = .empty ∧
    start.events = .empty) db

/-- A run without a transition of the installation. -/
def QuietRun (id : Token) (db db' : PluginDb) : Prop :=
  ∃ trace, Run PluginStep db trace db' ∧ ∀ move ∈ trace, ¬ move.label.moves id

/-! ## Transitions -/

namespace PluginDb

/-- The revision of an installation, 0 before there is one. -/
def revisionOf (db : PluginDb) (id : Token) : Nat :=
  ((db.installations.find? id).map PluginInstallation.revision).getD 0

/-- The constraints that hold between batches. -/
structure Sound (db : PluginDb) : Prop where
  checks : ∀ row ∈ db.installations, row.checks
  foreignKeys : db.foreignKeys

/-- What every committed batch is: one transition of one installation. -/
structure Moved (db : PluginDb) (id : Token) (db' : PluginDb) : Prop where
  active : ∀ row, db.installations.find? id = some row → row.active = true
  revision : db'.revisionOf id = db.revisionOf id + 1
  event : ∃ event, db.events.insert? event = some db'.events ∧ event.installationId = id ∧
    event.fromRevision = db.revisionOf id ∧ event.toRevision = db'.revisionOf id
  others : ∀ other, other ≠ id → db'.installations.find? other = db.installations.find? other
  versions : ∀ versionId version, version.installationId ≠ id →
    (db'.versions.find? versionId = some version ↔ db.versions.find? versionId = some version)
  sound : db'.Sound

end PluginDb

section Transitions

variable {db db' : PluginDb} {eventId : Token} {now : Us}

open PluginDb

/-- The parts of a transition, from its updated row, its event and its versions. -/
theorem moved_of_update {id : Token} {row : PluginInstallation}
    {event : PluginLifecycleEvent} {versions : Table PluginVersion.versionId}
    {events : Table PluginLifecycleEvent.eventId} (f : PluginInstallation → PluginInstallation)
    (hf : ∀ row, (f row).installationId = row.installationId)
    (hsound : db.Sound) (hrow : db.installations.find? id = some row) (hactive : row.active = true)
    (hrevision : (f row).revision = row.revision + 1) (hchecks : (f row).checks)
    (hinsert : db.events.insert? event = some events) (hid : event.installationId = id)
    (hfrom : event.fromRevision = row.revision) (hto : event.toRevision = row.revision + 1)
    (hversions : ∀ versionId version, version.installationId ≠ id →
      (versions.find? versionId = some version ↔ db.versions.find? versionId = some version))
    (hdb : db' = { db with
      installations := db.installations.modify id f hf
      versions := versions
      events := events })
    (hkeys : db'.foreignKeys) : Moved db id db' := by
  have hfind : db'.installations.find? id = some (f row) := by
    rw [hdb, Table.find?_modify, if_pos rfl, hrow]
    rfl
  have hbefore : db.revisionOf id = row.revision := by simp [revisionOf, hrow]
  have hafter : db'.revisionOf id = row.revision + 1 := by simp [revisionOf, hfind, hrevision]
  refine ⟨?_, ?_, ⟨event, ?_, hid, hfrom.trans hbefore.symm, hto.trans hafter.symm⟩, ?_, ?_, ?_,
    hkeys⟩
  · intro other hother
    rw [hrow] at hother
    cases hother
    exact hactive
  · rw [hafter, hbefore]
  · rw [hdb]
    exact hinsert
  · intro other hne
    rw [hdb, Table.find?_modify, if_neg hne]
  · intro versionId version hne
    rw [hdb]
    exact hversions versionId version hne
  · intro other hother
    rw [hdb] at hother
    rcases @Table.mem_modify_cases _ _ _ _ _ _ _ hf _ hother with ⟨hold, _⟩ | ⟨old, hold, rfl⟩
    · exact hsound.checks other hold
    · rw [hrow] at hold
      cases hold
      exact hchecks

/-- A new version leaves those of the other installations. -/
theorem find?_insertVersion_other {versions versions' : Table PluginVersion.versionId}
    {row version : PluginVersion} {id versionId : Token}
    (hinsert : versions.insert? row = some versions') (hid : row.installationId = id)
    (hne : version.installationId ≠ id) :
    versions'.find? versionId = some version ↔ versions.find? versionId = some version := by
  rw [Table.find?_insert? hinsert]
  split
  · next heq =>
      have hnone := (Table.insert?_eq_some hinsert).1
      rw [← heq] at hnone
      rw [hnone]
      constructor
      · rintro ⟨rfl⟩
        exact absurd hid hne
      · intro hfind
        cases hfind
  · rfl

theorem create_moved {plan : CreatePlan} (hsound : db.Sound)
    (h : plan.run eventId now db = .ok db') : Moved db plan.installationId db' := by
  obtain ⟨_, happroved, h⟩ := Fallible.bind_eq_ok.mp h
  obtain ⟨_, happroved⟩ := require_eq_ok.mp happroved
  obtain ⟨written, hwritten, h⟩ := Fallible.bind_eq_ok.mp h
  obtain ⟨logged, hlogged, h⟩ := Fallible.bind_eq_ok.mp h
  obtain ⟨events, hevents, rfl⟩ := insertEvent_eq_ok hlogged
  obtain ⟨rfl, hkeys⟩ := commit_eq_ok h
  unfold CreatePlan.write at hwritten
  split at hwritten
  · next label hpurpose =>
      obtain ⟨started, hstarted, hwritten⟩ := Fallible.bind_eq_ok.mp hwritten
      obtain ⟨hchecks, installations, hinsert, rfl⟩ := insertInstallation_eq_ok hstarted
      obtain ⟨versions, hversions, rfl⟩ := insertVersion_eq_ok hwritten
      have hnone : db.installations.find? plan.installationId = none :=
        (Table.insert?_eq_some hinsert).1
      have hsome : installations.find? plan.installationId =
          some (plan.installation label now) :=
        (Table.find?_insert? hinsert plan.installationId).trans (if_pos rfl)
      have hbefore : db.revisionOf plan.installationId = 0 := by simp [revisionOf, hnone]
      have hafter : revisionOf
          ⟨installations, versions, events, db.sessions, db.principals⟩ plan.installationId = 1 := by
        simp [revisionOf, hsome, CreatePlan.installation]
      refine ⟨?_, ?_, ⟨plan.event eventId now, hevents, rfl, ?_, ?_⟩, ?_, ?_, ?_, hkeys⟩
      · intro row hrow
        rw [hnone] at hrow
        cases hrow
      · rw [hafter, hbefore]
      · rw [hbefore]
        simp [CreatePlan.event, hpurpose]
      · rw [hafter]
        simp [CreatePlan.event, hpurpose]
      · intro other hne
        exact (Table.find?_insert? hinsert other).trans (if_neg hne)
      · intro versionId version hne
        exact find?_insertVersion_other hversions rfl hne
      · intro row hrow
        rcases (Table.mem_insert? hinsert).mp hrow with hold | rfl
        · exact hsound.checks row hold
        · exact hchecks
  · next revision hpurpose =>
      obtain ⟨added, hadded, hwritten⟩ := Fallible.bind_eq_ok.mp hwritten
      obtain ⟨versions, hversions, rfl⟩ := insertVersion_eq_ok hadded
      obtain ⟨hchecks, rfl⟩ := updateInstallation_eq_ok hwritten
      rw [hpurpose] at happroved
      obtain ⟨row, hrow, _, hrevision, hactive, _⟩ := happroved
      refine moved_of_update (PluginInstallation.startRotation plan.versionId) (fun _ => rfl) hsound hrow hactive rfl (hchecks row hrow) hevents rfl ?_ ?_ ?_ rfl
        hkeys
      · simp [CreatePlan.event, hpurpose, hrevision]
      · simp [CreatePlan.event, hpurpose, hrevision]
      · intro versionId version hne
        exact find?_insertVersion_other hversions rfl hne

theorem find?_become (versions : Table PluginVersion.versionId) (p : PluginVersion → Bool)
    (state : VersionState) (clearExpiry : Bool) (versionId : Token) :
    (versions.modifyWhere p (PluginVersion.become state clearExpiry)).find? versionId =
      (versions.find? versionId).map fun version =>
        if p version then version.become state clearExpiry else version :=
  Table.find?_modifyWhere _ _ _ versionId

/-- Updating versions of one installation leaves those of the others. -/
theorem find?_become_other {versions : Table PluginVersion.versionId} {p : PluginVersion → Bool}
    {state : VersionState} {clearExpiry : Bool} {id versionId : Token} {version : PluginVersion}
    (hp : ∀ version ∈ versions, p version = true → version.installationId = id)
    (hne : version.installationId ≠ id) :
    (versions.modifyWhere p (PluginVersion.become state clearExpiry)).find? versionId =
        some version ↔ versions.find? versionId = some version := by
  rw [find?_become]
  cases hfind : versions.find? versionId with
  | none => simp
  | some old =>
      have hold := Table.mem_of_find? hfind
      simp only [Option.map_some, Option.some.injEq]
      by_cases hmatch : p old = true
      · rw [if_pos hmatch]
        have howner := hp old hold hmatch
        constructor
        · rintro rfl
          exact absurd howner hne
        · rintro rfl
          exact absurd howner hne
      · rw [if_neg hmatch]

/-- A change writes only versions of its installation, and its candidate moves to the
state asked for. -/
theorem writeVersions_eq_ok {plan : ChangePlan} (h : plan.writeVersions db = .ok db') :
    ∃ versions : Table PluginVersion.versionId, db' = { db with versions := versions } ∧
      (∀ versionId version, version.installationId ≠ plan.installationId →
        (versions.find? versionId = some version ↔
          db.versions.find? versionId = some version)) ∧
      ∀ candidateId target version, plan.candidate = some (candidateId, target) →
        db.versions.find? candidateId = some version →
        version.installationId = plan.installationId → version.state = .pendingRotation →
        ∃ version', versions.find? candidateId = some version' ∧
          version'.installationId = plan.installationId ∧ version'.state = target.state := by
  unfold ChangePlan.writeVersions at h
  split at h
  · next hnone =>
      have hwritten := updateVersions_eq_ok h
      subst hwritten
      refine ⟨_, rfl, ?_, ?_⟩
      · intro versionId version hne
        apply find?_become_other _ hne
        intro other _ hother
        simp only [Bool.and_eq_true, decide_eq_true_eq] at hother
        exact hother.1
      · intro candidateId target version hsome
        rw [hnone] at hsome
        cases hsome
  · next candidateId target hsome =>
      split at h
      · obtain ⟨replaced, hreplaced, h⟩ := Fallible.bind_eq_ok.mp h
        have hreplaced := updateVersions_eq_ok hreplaced
        subst hreplaced
        have hwritten := updateVersions_eq_ok h
        subst hwritten
        refine ⟨_, rfl, ?_, ?_⟩
        · intro versionId version hne
          refine (find?_become_other ?_ hne).trans (find?_become_other ?_ hne)
          · intro other _ hother
            simp only [Bool.and_eq_true, decide_eq_true_eq] at hother
            exact hother.1.1
          · intro other _ hother
            simp only [Bool.and_eq_true, decide_eq_true_eq] at hother
            exact hother.1
        · intro candidateId' target' version hsome' hfind hid hstate
          rw [hsome] at hsome'
          cases hsome'
          have hkey := Table.key_of_find? hfind
          rw [find?_become, find?_become, hfind]
          simp [hid, hstate, hkey, CandidateTarget.state, PluginVersion.become]
      · have hwritten := updateVersions_eq_ok h
        subst hwritten
        refine ⟨_, rfl, ?_, ?_⟩
        · intro versionId version hne
          apply find?_become_other _ hne
          intro other _ hother
          simp only [Bool.and_eq_true, decide_eq_true_eq] at hother
          exact hother.1.1
        · intro candidateId' target' version hsome' hfind hid hstate
          rw [hsome] at hsome'
          cases hsome'
          have hkey := Table.key_of_find? hfind
          rw [find?_become, hfind]
          simp [hid, hstate, hkey, CandidateTarget.state, PluginVersion.become]

theorem installation_revision (plan : ChangePlan) (row : PluginInstallation) :
    (plan.installation now row).revision = row.revision + 1 := by
  unfold ChangePlan.installation
  split <;> rfl

theorem change_moved {plan : ChangePlan} (hsound : db.Sound)
    (h : plan.run eventId now db = .ok db') : Moved db plan.installationId db' := by
  obtain ⟨_, happroved, h⟩ := Fallible.bind_eq_ok.mp h
  obtain ⟨_, row, hrow, _, hactive, hrevision, _⟩ := require_eq_ok.mp happroved
  obtain ⟨written, hwritten, h⟩ := Fallible.bind_eq_ok.mp h
  obtain ⟨versions, rfl, hversions, _⟩ := writeVersions_eq_ok hwritten
  obtain ⟨updated, hupdated, h⟩ := Fallible.bind_eq_ok.mp h
  obtain ⟨hchecks, rfl⟩ := updateInstallation_eq_ok hupdated
  obtain ⟨logged, hlogged, h⟩ := Fallible.bind_eq_ok.mp h
  obtain ⟨events, hevents, rfl⟩ := insertEvent_eq_ok hlogged
  obtain ⟨rfl, hkeys⟩ := commit_eq_ok h
  exact moved_of_update (plan.installation now) (plan.installation_id now) hsound hrow hactive
    (installation_revision plan row) (hchecks row hrow) hevents rfl hrevision.symm
    (by rw [← hrevision]) hversions rfl hkeys

theorem expire_moved {plan : ExpirePlan} (hsound : db.Sound)
    (h : plan.run eventId now db = .ok db') : Moved db plan.installationId db' := by
  obtain ⟨_, happroved, h⟩ := Fallible.bind_eq_ok.mp h
  obtain ⟨row, hrow, hrevision, hpending, _⟩ := require_eq_ok.mp happroved
  obtain ⟨written, hwritten, h⟩ := Fallible.bind_eq_ok.mp h
  have hwritten := updateVersions_eq_ok hwritten
  subst hwritten
  obtain ⟨updated, hupdated, h⟩ := Fallible.bind_eq_ok.mp h
  obtain ⟨hchecks, rfl⟩ := updateInstallation_eq_ok hupdated
  obtain ⟨logged, hlogged, h⟩ := Fallible.bind_eq_ok.mp h
  obtain ⟨events, hevents, rfl⟩ := insertEvent_eq_ok hlogged
  obtain ⟨rfl, hkeys⟩ := commit_eq_ok h
  have hmem := Table.mem_of_find? hrow
  -- a revoked row has no pending version
  have hactive : row.active = true := by
    rcases (hsound.checks row hmem).2 with ⟨hactive, _⟩ | ⟨_, _, hnone⟩
    · exact hactive
    · rw [hpending] at hnone
      cases hnone
  -- the pending version is one of the installation
  have howner : ∀ version ∈ db.versions, (decide (version.versionId = plan.candidateId) &&
      (version.state == .pendingRotation)) = true →
      version.installationId = plan.installationId := by
    intro version hversion hmatch
    simp only [Bool.and_eq_true, decide_eq_true_eq] at hmatch
    obtain ⟨named, hnamed, hid, _⟩ :=
      (hsound.foreignKeys.1 row hmem).2 plan.candidateId hpending
    have hfind := Table.find?_of_mem hversion
    rw [hmatch.1, hnamed] at hfind
    cases hfind
    exact hid.trans (Table.key_of_find? hrow)
  refine moved_of_update PluginInstallation.endRotation (fun _ => rfl) hsound hrow hactive rfl (hchecks row hrow) hevents rfl hrevision.symm
    (by rw [← hrevision]) ?_ rfl hkeys
  intro versionId version hne
  exact find?_become_other howner hne

theorem batch_moved {batch : PluginBatch} (hsound : db.Sound)
    (h : batch.run eventId now db = .ok db') : Moved db batch.installationId db' := by
  cases batch with
  | create plan => exact create_moved hsound h
  | change plan => exact change_moved hsound h
  | expire plan => exact expire_moved hsound h

end Transitions

/-! ## Runs -/

section Runs

variable {db db' : PluginDb}

open PluginDb

theorem PluginStep.sound {event : PluginEvent} (hsound : db.Sound)
    (hstep : PluginStep db event db') : db'.Sound := by
  cases hstep with
  | commit hrun => exact (batch_moved hsound hrun).sound
  | refuse _ => exact hsound
  | outside hinstallations hversions _ =>
      obtain ⟨hchecks, hkeys⟩ := hsound
      refine ⟨?_, ?_⟩
      · rw [hinstallations]
        exact hchecks
      · unfold foreignKeys pointersResolve versionNamed at hkeys ⊢
        rw [hinstallations, hversions]
        exact hkeys

theorem PluginReachable.sound (h : PluginReachable db) : db.Sound := by
  apply Reachable.invariant h
  · rintro start ⟨hinstallations, hversions, _⟩
    refine ⟨?_, ?_, ?_⟩
    · intro row hrow
      rw [hinstallations] at hrow
      exact absurd hrow (Table.not_mem_empty row)
    · intro row hrow
      rw [hinstallations] at hrow
      exact absurd hrow (Table.not_mem_empty row)
    · intro version hversion
      rw [hversions] at hversion
      exact absurd hversion (Table.not_mem_empty version)
  · intro start event next hstart hstep
    exact hstep.sound hstart

namespace PluginDb

/-- The installation, its versions and its events are as they were. -/
structure Unmoved (db : PluginDb) (id : Token) (db' : PluginDb) : Prop where
  row : db'.installations.find? id = db.installations.find? id
  versions : ∀ versionId version, version.installationId = id →
    (db'.versions.find? versionId = some version ↔ db.versions.find? versionId = some version)
  events : db'.events.rows.filter (fun event => event.installationId = id) =
    db.events.rows.filter fun event => event.installationId = id

theorem Unmoved.refl (db : PluginDb) (id : Token) : Unmoved db id db :=
  ⟨rfl, fun _ _ _ => Iff.rfl, rfl⟩

theorem Unmoved.trans {id : Token} {middle last : PluginDb} (h : Unmoved db id middle)
    (h' : Unmoved middle id last) : Unmoved db id last := by
  refine ⟨h'.row.trans h.row, ?_, h'.events.trans h.events⟩
  intro versionId version hid
  exact (h'.versions versionId version hid).trans (h.versions versionId version hid)

end PluginDb

theorem PluginStep.unmoved {event : PluginEvent} {id : Token} (hsound : db.Sound)
    (hstep : PluginStep db event db') (hquiet : ¬ event.moves id) : Unmoved db id db' := by
  cases hstep with
  | @commit _ batch _ _ hrun =>
      have hmoved := batch_moved hsound hrun
      have hne : id ≠ batch.installationId := fun heq => hquiet heq.symm
      obtain ⟨event, hinsert, hid, _, _⟩ := hmoved.event
      refine ⟨hmoved.others id hne, ?_, ?_⟩
      · intro versionId version hversion
        apply hmoved.versions
        rw [hversion]
        exact hne
      · rw [(Table.insert?_eq_some hinsert).2, List.filter_append]
        have hother : event.installationId ≠ id := by
          rw [hid]
          exact hne.symm
        simp [hother]
  | refuse _ => exact Unmoved.refl _ _
  | outside hinstallations hversions hevents =>
      refine ⟨?_, ?_, ?_⟩
      · rw [hinstallations]
      · intro versionId version _
        rw [hversions]
      · rw [hevents]

theorem QuietRun.unmoved {id : Token} (hsound : db.Sound) (h : QuietRun id db db') :
    db'.Sound ∧ Unmoved db id db' := by
  obtain ⟨trace, hrun, hquiet⟩ := h
  apply hrun.invariant
  · exact ⟨hsound, Unmoved.refl db id⟩
  · intro move hmem ⟨hmiddle, hunmoved⟩ hstep
    exact ⟨hstep.sound hmiddle, hunmoved.trans (hstep.unmoved hmiddle (hquiet move hmem))⟩

/-- A revoked installation stays as it is. -/
theorem revoked_stays {trace : List (Move PluginDb PluginEvent)} {id : Token}
    {row : PluginInstallation} (hsound : db.Sound) (hrun : Run PluginStep db trace db')
    (hrow : db.installations.find? id = some row) (hrevoked : row.active = false) :
    db'.installations.find? id = some row := by
  have hinv : db'.Sound ∧ db'.installations.find? id = some row := by
    apply hrun.invariant
    · exact ⟨hsound, hrow⟩
    · intro move _ ⟨hmiddle, hfind⟩ hstep
      refine ⟨hstep.sound hmiddle, ?_⟩
      rw [← hfind]
      apply (hstep.unmoved hmiddle _).row
      intro hmoves
      cases hstep' : move.label with
      | commit batch =>
          rw [hstep'] at hstep hmoves
          cases hstep with
          | commit hexec =>
              have hactive := (batch_moved hmiddle hexec).active row (by rw [hmoves]; exact hfind)
              rw [hrevoked] at hactive
              cases hactive
      | refuse _ _ =>
          rw [hstep'] at hmoves
          exact hmoves
      | outside =>
          rw [hstep'] at hmoves
          exact hmoves
  exact hinv.2

end Runs

/-! ## Repeated requests -/

section Replay

variable {db db' : PluginDb}

open PluginDb

theorem owned_eq_ok {userId id : Token} {row : PluginInstallation} :
    db.owned userId id = .ok row ↔ db.installations.find? id = some row ∧ row.userId = userId := by
  unfold owned
  cases hfind : db.installations.find? id with
  | none => simp
  | some other =>
      simp only [Option.some.injEq]
      split
      · next huser =>
          constructor
          · rintro ⟨rfl⟩
            exact ⟨rfl, huser⟩
          · rintro ⟨rfl, _⟩
            rfl
      · next huser =>
          constructor
          · intro h
            cases h
          · rintro ⟨rfl, h⟩
            exact absurd h huser

/-- The rows a committed change leaves. -/
theorem change_effect {plan : ChangePlan} {eventId : Token} {now : Us}
    (h : plan.run eventId now db = .ok db') :
    ∃ row, (row.userId = plan.userId ∧ row.revision = plan.revision) ∧
      db'.installations.find? plan.installationId = some (plan.installation now row) ∧
      (∃ event ∈ db'.events, event.installationId = plan.installationId ∧
        event.fromRevision = plan.revision ∧ event.toRevision = plan.revision + 1 ∧
        event.kind = plan.kind ∧ event.versionId = plan.candidate.map Prod.fst) ∧
      ∀ candidateId target, plan.candidate = some (candidateId, target) →
        ∃ version, db'.versions.find? candidateId = some version ∧
          version.installationId = plan.installationId ∧ version.state = target.state := by
  obtain ⟨_, happroved, h⟩ := Fallible.bind_eq_ok.mp h
  obtain ⟨_, row, hrow, huser, _, hrevision, hpending⟩ := require_eq_ok.mp happroved
  obtain ⟨written, hwritten, h⟩ := Fallible.bind_eq_ok.mp h
  obtain ⟨versions, rfl, _, hmade⟩ := writeVersions_eq_ok hwritten
  obtain ⟨updated, hupdated, h⟩ := Fallible.bind_eq_ok.mp h
  obtain ⟨_, rfl⟩ := updateInstallation_eq_ok hupdated
  obtain ⟨logged, hlogged, h⟩ := Fallible.bind_eq_ok.mp h
  obtain ⟨events, hevents, rfl⟩ := insertEvent_eq_ok hlogged
  obtain ⟨rfl, _⟩ := commit_eq_ok h
  refine ⟨row, ⟨huser, hrevision⟩, ?_,
    ⟨_, (Table.mem_insert? hevents).mpr (Or.inr rfl), rfl, rfl, rfl, rfl, rfl⟩, ?_⟩
  · rw [Table.find?_modify, if_pos rfl, hrow]
    rfl
  · intro candidateId target hcandidate
    obtain ⟨_, version, hversion, hid, hstate, _⟩ := hpending _ hcandidate
    exact hmade candidateId target version hcandidate hversion hid hstate

/-- A committed change is found by the replay query exactly when it named a version. -/
theorem replayed_after_run {plan : ChangePlan} {eventId : Token} {now : Us}
    (h : plan.run eventId now db = .ok db') : plan.replayed db' ↔ plan.candidate ≠ none := by
  constructor
  · rintro ⟨event, _, _, _, _, _, versionId, _, hcandidate, _⟩ hnone
    rw [hnone] at hcandidate
    cases hcandidate
  · intro hsome
    obtain ⟨⟨candidateId, target⟩, hcandidate⟩ := Option.ne_none_iff_exists'.mp hsome
    obtain ⟨row, ⟨_, hrevision⟩, hrow, ⟨event, hmem, hid, hfrom, hto, hkind, hversion⟩, hmade⟩ :=
      change_effect h
    obtain ⟨version, hfind, _, hstate⟩ := hmade candidateId target hcandidate
    refine ⟨event, hmem, hid, hfrom, hkind, ⟨_, hrow, ?_⟩, candidateId, ?_, ?_, version, hfind, ?_⟩
    · rw [hto, installation_revision, hrevision]
    · rw [hversion, hcandidate]
      rfl
    · rw [hcandidate]
      rfl
    · rw [hstate]
      simp [ChangePlan.state, hcandidate]

/-- The replay query only looks at the installation. -/
theorem replayed_unmoved {plan : ChangePlan}
    (h : Unmoved db plan.installationId db')
    (hversion : ∀ candidateId target, plan.candidate = some (candidateId, target) →
      ∃ version, db.versions.find? candidateId = some version ∧
        version.installationId = plan.installationId) :
    plan.replayed db' ↔ plan.replayed db := by
  have hevent : ∀ event : PluginLifecycleEvent, event.installationId = plan.installationId →
      (event ∈ db'.events ↔ event ∈ db.events) := by
    intro event hid
    have hfilter : event ∈ db'.events.rows.filter
        (fun event => event.installationId = plan.installationId) ↔
        event ∈ db.events.rows.filter fun event => event.installationId = plan.installationId := by
      rw [h.events]
    simp only [List.mem_filter, hid, decide_true, and_true] at hfilter
    exact hfilter
  have hfind : ∀ candidateId, plan.candidate.map Prod.fst = some candidateId →
      db'.versions.find? candidateId = db.versions.find? candidateId := by
    intro candidateId hcandidate
    obtain ⟨⟨_, target⟩, hplan, rfl⟩ := Option.map_eq_some_iff.mp hcandidate
    obtain ⟨version, hfound, hid⟩ := hversion _ target hplan
    rw [hfound]
    exact (h.versions _ version hid).mpr hfound
  unfold ChangePlan.replayed PluginDb.replayed
  rw [h.row]
  constructor
  · rintro ⟨event, hmem, hid, hfrom, hkind, hrow, versionId, hnamed, hcandidate, hstate⟩
    refine ⟨event, (hevent event hid).mp hmem, hid, hfrom, hkind, hrow, versionId, hnamed,
      hcandidate, ?_⟩
    rw [← hfind versionId hcandidate]
    exact hstate
  · rintro ⟨event, hmem, hid, hfrom, hkind, hrow, versionId, hnamed, hcandidate, hstate⟩
    refine ⟨event, (hevent event hid).mpr hmem, hid, hfrom, hkind, hrow, versionId, hnamed,
      hcandidate, ?_⟩
    rw [hfind versionId hcandidate]
    exact hstate

/-- The detail of an installation only looks at the installation. -/
theorem getPluginCode_unmoved {id userId : Token} (hsound : db.Sound) (h : Unmoved db id db') :
    db'.getPluginCode userId id = db.getPluginCode userId id := by
  unfold getPluginCode owned
  rw [h.row]
  cases hrow : db.installations.find? id with
  | none => rfl
  | some row =>
      have hmem := Table.mem_of_find? hrow
      have hid := Table.key_of_find? hrow
      obtain ⟨hcurrent, hpending⟩ := hsound.foreignKeys.1 row hmem
      have hsummary : ∀ pointer : Option Token,
          (∀ versionId ∈ pointer, ∃ version ∈ db.versions.find? versionId,
            version.installationId = row.installationId) →
          db'.versionSummary pointer = db.versionSummary pointer := by
        intro pointer hresolve
        cases pointer with
        | none => rfl
        | some versionId =>
            obtain ⟨version, hversion, howner⟩ := hresolve versionId rfl
            have hsame := (h.versions versionId version (howner.trans hid)).mpr hversion
            simp only [versionSummary, Option.bind_some]
            rw [hsame, hversion]
      have hlast : db'.lastEvent row.installationId = db.lastEvent row.installationId := by
        unfold lastEvent
        rw [hid, h.events]
      have hdetail : db'.detail row = db.detail row := by
        unfold detail
        rw [hlast, hsummary row.currentVersionId, hsummary row.pendingVersionId]
        · intro versionId hnamed
          obtain ⟨version, hversion, howner, _⟩ := hpending versionId hnamed
          exact ⟨version, hversion, howner⟩
        · intro versionId hnamed
          obtain ⟨version, hversion, howner, _⟩ := hcurrent versionId hnamed
          exact ⟨version, hversion, howner⟩
      simp only
      split
      · exact congrArg Except.ok hdetail
      · rfl

/-- What the reads before a batch established. -/
theorem changePluginCode_batch {ownedDb candidateDb replayDb detailDb : PluginDb}
    {request : ChangeRequest} {plan : ChangePlan}
    (h : changePluginCode ownedDb candidateDb replayDb detailDb request = .ok (.batch plan)) :
    expectedRevision request.id request.ifMatch = .ok plan.revision ∧
      request.target = .ok plan.candidate ∧ plan.installationId = request.id ∧
      plan.userId = request.userId ∧ plan.sessionId = request.sessionId := by
  obtain ⟨row, _, h⟩ := Fallible.bind_eq_ok.mp h
  obtain ⟨revision, hrevision, h⟩ := Fallible.bind_eq_ok.mp h
  obtain ⟨candidate, hcandidate, h⟩ := Fallible.bind_eq_ok.mp h
  obtain ⟨_, _, h⟩ := Fallible.bind_eq_ok.mp h
  unfold ChangePlan.resolve at h
  have hanswer : ∀ result : Except PluginCodeError PluginCodeDetail,
      result.map ChangeStep.answer ≠ .ok (.batch plan) := by
    intro result hresult
    cases result <;> cases hresult
  split at h
  · split at h
    · exact absurd h (hanswer _)
    · cases h
  · split at h
    · exact absurd h (hanswer _)
    · split at h
      · cases h
      · cases h
        exact ⟨hrevision, hcandidate, rfl, rfl, rfl⟩

theorem target_eq_none {request : ChangeRequest} {candidate : Option (Token × CandidateTarget)}
    (h : request.target = .ok candidate) : candidate = none ↔ request.candidateId = none := by
  unfold ChangeRequest.target at h
  cases hid : request.candidateId with
  | none =>
      rw [hid] at h
      cases hbody : revocationRequest request.body with
      | error _ =>
          rw [hbody] at h
          cases h
      | ok _ =>
          rw [hbody] at h
          cases h
          simp
  | some candidateId =>
      rw [hid] at h
      cases hbody : candidateRequest request.body with
      | error _ =>
          rw [hbody] at h
          cases h
      | ok _ =>
          rw [hbody] at h
          cases h
          simp

/-- What a committed change is answered when it is sent again before the next
transition: its detail when it named a candidate, and a failed precondition when it
was a revocation. -/
theorem change_repeated {plan : ChangePlan} {eventId : Token} {now : Us}
    {ownedDb candidateDb replayDb detailDb ownedDb' candidateDb' replayDb' detailDb' : PluginDb}
    {request : ChangeRequest} (hsound : db'.Sound)
    (hsent : changePluginCode ownedDb candidateDb replayDb detailDb request = .ok (.batch plan))
    (hrun : plan.run eventId now db = .ok db') (howned : Unmoved db' request.id ownedDb')
    (hcandidate : Unmoved db' request.id candidateDb') (hreplay : Unmoved db' request.id replayDb')
    (hdetail : Unmoved db' request.id detailDb') :
    ∃ detail, db'.getPluginCode request.userId request.id = .ok detail ∧
      changePluginCode ownedDb' candidateDb' replayDb' detailDb' request =
        if request.candidateId = none then .error .preconditionFailed
        else .ok (.answer detail) := by
  obtain ⟨hrevision, htarget, hid, huser, hsession⟩ := changePluginCode_batch hsent
  have hreplayed := replayed_after_run hrun
  obtain ⟨row, ⟨howner, hbefore⟩, hfind, _, hmade⟩ := change_effect hrun
  have hkeeps : (plan.installation now row).userId = row.userId := by
    unfold ChangePlan.installation
    split <;> rfl
  have hthere : ∀ candidateId target, plan.candidate = some (candidateId, target) →
      ∃ version, db'.versions.find? candidateId = some version ∧
        version.installationId = plan.installationId := by
    intro candidateId target hsome
    obtain ⟨version, hversion, hversionId, _⟩ := hmade candidateId target hsome
    exact ⟨version, hversion, hversionId⟩
  rw [← hid] at howned hcandidate hreplay hdetail
  have hread : ownedDb'.owned request.userId request.id = .ok (plan.installation now row) := by
    rw [owned_eq_ok, ← hid]
    exact ⟨howned.row.trans hfind, hkeeps.trans (howner.trans huser)⟩
  have hknown : candidateKnown candidateDb' request.id plan.candidate = .ok () := by
    cases hsome : plan.candidate with
    | none => rfl
    | some candidate =>
        obtain ⟨candidateId, target⟩ := candidate
        obtain ⟨version, hversion, hversionId⟩ := hthere candidateId target hsome
        have hsame := (hcandidate.versions candidateId version hversionId).mpr hversion
        exact if_pos ⟨version, hsame, hversionId.trans hid⟩
  have hstale : (plan.installation now row).revision ≠ plan.revision := by
    rw [installation_revision, hbefore]
    omega
  have hcode : detailDb'.getPluginCode request.userId request.id =
      db'.getPluginCode request.userId request.id := by
    rw [← hid]
    exact getPluginCode_unmoved hsound hdetail
  have hplan : (⟨request.id, request.userId, request.sessionId, plan.revision, plan.candidate⟩ :
      ChangePlan) = plan := by
    rw [← hid, ← huser, ← hsession]
  have hanswer : changePluginCode ownedDb' candidateDb' replayDb' detailDb' request =
      plan.resolve (plan.installation now row) replayDb' detailDb' := by
    unfold changePluginCode
    rw [hread, hrevision, htarget]
    simp only [bind, Except.bind]
    rw [hknown, hplan]
  have hlater : plan.replayed replayDb' ↔ request.candidateId ≠ none :=
    (replayed_unmoved hreplay hthere).trans
      (hreplayed.trans (not_congr (target_eq_none htarget)))
  have howned' : db'.owned request.userId request.id = .ok (plan.installation now row) := by
    rw [owned_eq_ok, ← hid]
    exact ⟨hfind, hkeeps.trans (howner.trans huser)⟩
  have hdetail' : db'.getPluginCode request.userId request.id =
      .ok (db'.detail (plan.installation now row)) := by
    unfold getPluginCode
    rw [howned']
    rfl
  refine ⟨db'.detail (plan.installation now row), hdetail', ?_⟩
  rw [hanswer]
  unfold ChangePlan.resolve
  rw [if_pos hstale]
  by_cases hnone : request.candidateId = none
  · rw [if_pos hnone, if_neg]
    intro hfound
    exact hlater.mp hfound hnone
  · rw [if_neg hnone, if_pos (hlater.mpr hnone), huser, hid, hcode, hdetail']
    rfl

end Replay

theorem QuietRun.refl (id : Token) (db : PluginDb) : QuietRun id db db :=
  ⟨[], Run.nil db, fun _ hmem => absurd hmem List.not_mem_nil⟩

/-! ## The lifecycle -/

namespace PluginDb

/-- The pointers of an installation name exactly its current and its pending version. -/
structure PointersExact (db : PluginDb) (row : PluginInstallation) : Prop where
  current : ∀ version ∈ db.versions, version.installationId = row.installationId →
    (version.state = .current ↔ row.currentVersionId = some version.versionId)
  pending : ∀ version ∈ db.versions, version.installationId = row.installationId →
    (version.state = .pendingRotation ↔ row.pendingVersionId = some version.versionId)
  active : row.active = true → ∃ version ∈ db.versions,
    version.installationId = row.installationId ∧ version.state = .current
  named : ∀ versionId ∈ row.pendingVersionId, ∃ version ∈ db.versions,
    version.versionId = versionId ∧ version.installationId = row.installationId
  revoked : row.active = false → row.currentVersionId = none ∧ row.pendingVersionId = none

theorem Sound.pointersExact {db : PluginDb} (h : db.Sound) {row : PluginInstallation}
    (hmem : row ∈ db.installations) : db.PointersExact row := by
  obtain ⟨hcurrent, hpending⟩ := h.foreignKeys.1 row hmem
  have hnamed : ∀ version ∈ db.versions, version.installationId = row.installationId →
      (version.state = .current → row.currentVersionId = some version.versionId) ∧
      (version.state = .pendingRotation → row.pendingVersionId = some version.versionId) := by
    intro version hversion hid
    obtain ⟨owner, howner, hcurrent, hpending⟩ := h.foreignKeys.2 version hversion
    rw [hid, Table.find?_of_mem hmem] at howner
    cases howner
    exact ⟨fun hstate => (hcurrent hstate).2, fun hstate => (hpending hstate).2⟩
  refine ⟨?_, ?_, ?_, ?_, ?_⟩
  · intro version hversion hid
    refine ⟨(hnamed version hversion hid).1, ?_⟩
    intro hpointer
    obtain ⟨found, hfound, _, hstate⟩ := hcurrent version.versionId hpointer
    rw [Table.find?_of_mem hversion] at hfound
    cases hfound
    exact hstate
  · intro version hversion hid
    refine ⟨(hnamed version hversion hid).2, ?_⟩
    intro hpointer
    obtain ⟨found, hfound, _, hstate⟩ := hpending version.versionId hpointer
    rw [Table.find?_of_mem hversion] at hfound
    cases hfound
    exact hstate
  · intro hactive
    rcases (h.checks row hmem).2 with ⟨_, hsome⟩ | ⟨hrevoked, _⟩
    · obtain ⟨versionId, hpointer⟩ := Option.ne_none_iff_exists'.mp hsome
      obtain ⟨version, hversion, hid, hstate⟩ := hcurrent versionId hpointer
      exact ⟨version, Table.mem_of_find? hversion, hid, hstate⟩
    · rw [hactive] at hrevoked
      cases hrevoked
  · intro versionId hpointer
    obtain ⟨version, hversion, hid, _⟩ := hpending versionId hpointer
    exact ⟨version, Table.mem_of_find? hversion, Table.key_of_find? hversion, hid⟩
  · intro hrevoked
    rcases (h.checks row hmem).2 with ⟨hactive, _⟩ | ⟨_, hnone⟩
    · rw [hrevoked] at hactive
      cases hactive
    · exact hnone

/-- No installation, version or lifecycle row differs. -/
structure SameRows (db db' : PluginDb) : Prop where
  installations : db'.installations = db.installations
  versions : db'.versions = db.versions
  events : db'.events = db.events

end PluginDb

theorem PluginStep.sameRows {db db' : PluginDb} {event : PluginEvent}
    (hstep : PluginStep db event db') (hquiet : ∀ id, ¬ event.moves id) : db.SameRows db' := by
  cases hstep with
  | commit _ => exact absurd rfl (hquiet _)
  | refuse _ => exact ⟨rfl, rfl, rfl⟩
  | outside hinstallations hversions hevents => exact ⟨hinstallations, hversions, hevents⟩

/-- The lifecycle of plugin codes.  In every reachable state the pointers are exact; a
revoked installation stays as it is in every run; a step either is one transition of
one installation or changes no row; and a committed change that is sent again before
the next transition of its installation is answered with the detail it left exactly
when it named a candidate. -/
theorem plugin_code_lifecycle {db : PluginDb} (h : PluginReachable db) :
    (∀ row ∈ db.installations, db.PointersExact row) ∧
    (∀ trace db', Run PluginStep db trace db' → ∀ id row,
      db.installations.find? id = some row → row.active = false →
      db'.installations.find? id = some row) ∧
    (∀ event db', PluginStep db event db' →
      (∃ id, event.moves id ∧ db.Moved id db') ∨
      ((∀ id, ¬ event.moves id) ∧ db.SameRows db')) ∧
    ∀ request ownedDb candidateDb replayDb detailDb plan eventId (now : ClockReading) db',
      changePluginCode ownedDb candidateDb replayDb detailDb request = .ok (.batch plan) →
      plan.run eventId now.us db = .ok db' →
      ∀ ownedDb' candidateDb' replayDb' detailDb', QuietRun request.id db' ownedDb' →
      QuietRun request.id ownedDb' candidateDb' → QuietRun request.id candidateDb' replayDb' →
      QuietRun request.id replayDb' detailDb' →
      ((∃ detail, db'.getPluginCode request.userId request.id = .ok detail ∧
        changePluginCode ownedDb' candidateDb' replayDb' detailDb' request =
          .ok (.answer detail)) ↔ request.candidateId ≠ none) := by
  have hsound := h.sound
  refine ⟨fun row hmem => hsound.pointersExact hmem, ?_, ?_, ?_⟩
  · intro trace db' hrun id row hrow hrevoked
    exact revoked_stays hsound hrun hrow hrevoked
  · intro event db' hstep
    cases event with
    | commit batch =>
        left
        refine ⟨batch.installationId, rfl, ?_⟩
        cases hstep with
        | commit hexec => exact batch_moved hsound hexec
    | refuse _ _ => exact Or.inr ⟨fun _ hmoves => hmoves, hstep.sameRows fun _ hmoves => hmoves⟩
    | outside => exact Or.inr ⟨fun _ hmoves => hmoves, hstep.sameRows fun _ hmoves => hmoves⟩
  · intro request ownedDb candidateDb replayDb detailDb plan eventId now db' hsent hexec
      ownedDb' candidateDb' replayDb' detailDb' howned hcandidate hreplay hdetail
    have hsound' := (change_moved hsound hexec).sound
    obtain ⟨hsoundOwned, howned⟩ := howned.unmoved hsound'
    obtain ⟨hsoundCandidate, hcandidate⟩ := hcandidate.unmoved hsoundOwned
    obtain ⟨hsoundReplay, hreplay⟩ := hreplay.unmoved hsoundCandidate
    obtain ⟨_, hdetail⟩ := hdetail.unmoved hsoundReplay
    have hcandidate := howned.trans hcandidate
    have hreplay := hcandidate.trans hreplay
    have hdetail := hreplay.trans hdetail
    obtain ⟨detail, hcode, hanswer⟩ :=
      change_repeated hsound' hsent hexec howned hcandidate hreplay hdetail
    rw [hanswer]
    split
    · next hnone => simp [hnone]
    · next hsome =>
        simp only [hcode, ne_eq, hsome, not_false_eq_true, iff_true]
        exact ⟨detail, rfl, rfl⟩

namespace PluginSample

def owner : Token := ⟨"user-1", Eq.refl true⟩
def session : Token := ⟨"session-1", Eq.refl true⟩
def installation : Token := ⟨"installation-1", Eq.refl true⟩
def version : Token := ⟨"version-1", Eq.refl true⟩
def candidate : Token := ⟨"version-2", Eq.refl true⟩
def created : Token := ⟨"event-1", Eq.refl true⟩
def rotated : Token := ⟨"event-2", Eq.refl true⟩
def changed : Token := ⟨"event-3", Eq.refl true⟩

def clock (us : Us) (h : decide (0 ≤ us ∧ us ≤ maxClockUs) = true := by exact Eq.refl true) :
    ClockReading := .ofUs us h

/-- The owner has logged in. -/
def loggedIn : PluginDb :=
  { emptyPluginDb with
    sessions := ⟨[⟨session, owner, false, 1000000000000, 0⟩], List.nodup_singleton _⟩
    principals := [owner] }

def creation : CreatePlan := ⟨installation, owner, session, version, "digest-1", .inl "Mac"⟩
def rotation : CreatePlan := ⟨installation, owner, session, candidate, "digest-2", .inr 1⟩

/-- The owner asks to complete the rotation. -/
def complete : ChangeRequest :=
  ⟨owner, session, installation, .etag installation 2, .candidate .current, some candidate⟩

/-- The owner asks to revoke the plugin code. -/
def revoke : ChangeRequest :=
  ⟨owner, session, installation, .etag installation 1, .revocation, none⟩

def completePlan : ChangePlan := ⟨installation, owner, session, 2, some (candidate, .current)⟩
def revokePlan : ChangePlan := ⟨installation, owner, session, 1, none⟩

def exec (db : PluginDb) (call : PluginBatch × Token × ClockReading) : Option PluginDb :=
  (call.1.run call.2.1 call.2.2.us db).toOption

theorem exec_run {calls : List (PluginBatch × Token × ClockReading)} {db db' : PluginDb}
    (h : execAll exec db calls = some db') :
    Run PluginStep db (movesOf exec (fun call => .commit call.1) db calls) db' := by
  apply run_movesOf _ h
  intro start call finish hexec
  exact PluginStep.commit (Fallible.eq_ok_of_toOption hexec)

theorem reachable {calls : List (PluginBatch × Token × ClockReading)} {db : PluginDb}
    (h : execAll exec loggedIn calls = some db) : PluginReachable db :=
  ⟨loggedIn, _, ⟨rfl, rfl, rfl⟩, exec_run h⟩

/-- One plugin code. -/
def codeCalls : List (PluginBatch × Token × ClockReading) :=
  [(.create creation, created, clock 1000000)]

/-- The plugin code with a rotation candidate. -/
def candidateCalls : List (PluginBatch × Token × ClockReading) :=
  codeCalls ++ [(.create rotation, rotated, clock 2000000)]

end PluginSample

open PluginSample in
/-- The completion of a rotation is answered with its detail when it is sent again. -/
theorem plugin_code_lifecycle_completed :
    ∃ db db' detail, PluginReachable db ∧
      completePlan.run changed (clock 3000000).us db = .ok db' ∧
      db'.getPluginCode owner installation = .ok detail ∧
      changePluginCode db' db' db' db' complete = .ok (.answer detail) := by
  have hsome : (execAll exec loggedIn candidateCalls).isSome = true := by decide +kernel
  obtain ⟨db, hdb⟩ := Option.isSome_iff_exists.mp hsome
  have hcommits : ∀ db ∈ execAll exec loggedIn candidateCalls,
      changePluginCode db db db db complete = .ok (.batch completePlan) ∧
      (completePlan.run changed (clock 3000000).us db).toOption.isSome = true := by
    decide +kernel
  obtain ⟨hsent, hcommitted⟩ := hcommits db hdb
  obtain ⟨db', hdb'⟩ := Option.isSome_iff_exists.mp hcommitted
  have hrun := Fallible.eq_ok_of_toOption hdb'
  obtain ⟨_, _, _, hrepeated⟩ := plugin_code_lifecycle (reachable hdb)
  have hquiet := QuietRun.refl installation db'
  have hanswered : complete.candidateId ≠ none := by decide
  obtain ⟨detail, hdetail, hanswer⟩ := (hrepeated complete db db db db completePlan changed
    (clock 3000000) db' hsent hrun db' db' db' db' hquiet hquiet hquiet hquiet).mpr hanswered
  exact ⟨db, db', detail, reachable hdb, hrun, hdetail, hanswer⟩

open PluginSample in
/-- A revocation that committed is refused when it is sent again: its event names no
version, and the replay query asks for one. -/
theorem revocation_refused_when_repeated :
    ¬ ∀ db, PluginReachable db → ∀ request plan eventId (now : ClockReading) db',
      changePluginCode db db db db request = .ok (.batch plan) →
      plan.run eventId now.us db = .ok db' →
      ∃ detail, changePluginCode db' db' db' db' request = .ok (.answer detail) := by
  intro hclaim
  have hsome : (execAll exec loggedIn codeCalls).isSome = true := by decide +kernel
  obtain ⟨db, hdb⟩ := Option.isSome_iff_exists.mp hsome
  have hcommits : ∀ db ∈ execAll exec loggedIn codeCalls,
      changePluginCode db db db db revoke = .ok (.batch revokePlan) ∧
      (revokePlan.run changed (clock 3000000).us db).toOption.isSome = true ∧
      ∀ db' ∈ (revokePlan.run changed (clock 3000000).us db).toOption,
        changePluginCode db' db' db' db' revoke = .error .preconditionFailed := by
    decide +kernel
  obtain ⟨hsent, hcommitted, hrefused⟩ := hcommits db hdb
  obtain ⟨db', hdb'⟩ := Option.isSome_iff_exists.mp hcommitted
  have hrun := Fallible.eq_ok_of_toOption hdb'
  obtain ⟨detail, hanswer⟩ := hclaim db (reachable hdb) revoke revokePlan changed
    (clock 3000000) db' hsent hrun
  rw [hrefused db' hdb'] at hanswer
  cases hanswer

end FlickrGroupAddr

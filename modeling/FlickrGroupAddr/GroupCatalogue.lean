import FlickrGroupAddr.Admission
import FlickrGroupAddr.GroupPages
import FlickrGroupAddr.NativeLifecycle
import FlickrGroupAddr.Lib.Keyset

/-!
# The group catalogue

The tables of `group_discovery.ts` and the batches it runs on them: every user has at
most one refresh job and one published snapshot.  Each statement reads the clock on
its own.
-/

namespace FlickrGroupAddr

set_option autoImplicit false

open KeyedTable

/-! ## Tables -/

/-- `group_snapshots`. -/
structure GroupSnapshot where
  userId : Token
  revision : Nat
  refreshedAtUs : Option Us
  linkRevision : Option Nat
  generation : Option Token
deriving DecidableEq

/-- `group_snapshot_rows`. -/
structure SnapshotGroup where
  userId : Token
  group : Group
deriving DecidableEq

def SnapshotGroup.key (row : SnapshotGroup) : Token × Token :=
  (row.userId, row.group.flickrGroupId)

inductive RefreshState where
  | queued
  | running
  | succeeded
  | failed
deriving DecidableEq

/-- `group_refresh`. -/
structure RefreshJob where
  userId : Token
  jobId : Token
  installationId : Token
  versionId : Token
  linkRevision : Nat
  generation : Token
  state : RefreshState
  admittedAtUs : Us
  deadlineAtUs : Us
  failedAtUs : Option Us
deriving DecidableEq

/-- `group_refresh_rows`. -/
structure RefreshGroup where
  userId : Token
  jobId : Token
  group : Group
deriving DecidableEq

def RefreshGroup.key (row : RefreshGroup) : Token × Token × Token :=
  (row.userId, row.jobId, row.group.flickrGroupId)

structure GroupTables where
  snapshots : Table GroupSnapshot.userId
  snapshotRows : Table SnapshotGroup.key
  refresh : Table RefreshJob.userId
  refreshRows : Table RefreshGroup.key
deriving DecidableEq

/-- The tables before the first refresh. -/
def GroupTables.empty : GroupTables := ⟨.empty, .empty, .empty, .empty⟩

/-- The published groups of a user. -/
def GroupTables.published (t : GroupTables) (userId : Token) : List Group :=
  (t.snapshotRows.rows.filter fun row => row.userId = userId).map SnapshotGroup.group

/-- The groups a job has staged. -/
def GroupTables.staged (t : GroupTables) (userId jobId : Token) : List Group :=
  (t.refreshRows.rows.filter fun row => row.userId = userId ∧ row.jobId = jobId).map
    RefreshGroup.group

/-! ## Authority -/

/-- The user's link is whole and usable: it agrees with the verified credential. -/
def usableLink (db : Db) (userId : Token) (link : FlickrLink) (native : NativeCredential) : Prop :=
  db.flickr.links.find? userId = some link ∧ db.flickr.credentials.find? userId = some native ∧
    link.state = .linked ∧ native.linkRevision = link.linkRevision ∧
    native.operationId = none ∧ native.verifiedOwnerNsid = link.ownerNsid

instance (db : Db) (userId : Token) (link : FlickrLink) (native : NativeCredential) :
    Decidable (usableLink db userId link native) := inferInstanceAs (Decidable (_ ∧ _))

/-- An active plugin installation and its current version. -/
def currentPlugin (db : Db) (installationId : Token) (installation : Installation)
    (version : CredentialVersion) : Prop :=
  db.installations.find? installationId = some installation ∧ installation.active = true ∧
    installation.lrcPlugin = true ∧ installation.currentVersionId = some version.versionId ∧
    db.versions.find? version.versionId = some version ∧
    version.installationId = installationId ∧ version.state = .current

instance (db : Db) (installationId : Token) (installation : Installation)
    (version : CredentialVersion) :
    Decidable (currentPlugin db installationId installation version) :=
  inferInstanceAs (Decidable (_ ∧ _))

/-- The rows that the joins of `linkedGrant` and its guards come to. -/
def grantRows (db : Db) (installationId : Token) :
    Option (Installation × CredentialVersion × FlickrLink × NativeCredential) :=
  match db.installations.find? installationId with
  | none => none
  | some installation =>
      match installation.currentVersionId.bind db.versions.find?,
        db.flickr.links.find? installation.userId,
        db.flickr.credentials.find? installation.userId with
      | some version, some link, some native =>
          if currentPlugin db installationId installation version ∧
              usableLink db installation.userId link native then
            some (installation, version, link, native)
          else none
      | _, _, _ => none

/-- `linkedGrant`. -/
def linkedGrant (db : Db) (auth : AdmissionAuth) : Option GrantSnapshot :=
  ((grantRows db auth.installationId).filter fun rows =>
    rows.2.1.credentialDigest = auth.credentialDigest).map fun rows =>
      ⟨rows.1.userId, rows.2.2.1.ownerNsid, rows.2.2.1.linkRevision, rows.2.2.2.activeGeneration⟩

/-- `authorityGuard`. -/
def authorityGuard (db : Db) (auth : AdmissionAuth) (grant : GrantSnapshot) : Bool :=
  (grantRows db auth.installationId).any fun rows =>
    rows.1.userId = grant.userId ∧ rows.2.1.credentialDigest = auth.credentialDigest ∧
      rows.2.2.1.linkRevision = grant.revision ∧ rows.2.2.2.activeGeneration = grant.generation

/-- `LIVE_JOB`. -/
def liveJob (db : Db) (job : RefreshJob) : Bool :=
  (grantRows db job.installationId).any fun rows =>
    rows.1.userId = job.userId ∧ rows.2.1.versionId = job.versionId ∧
      rows.2.2.1.linkRevision = job.linkRevision ∧ rows.2.2.2.activeGeneration = job.generation

/-! ## Batches of a request -/

/-- `GROUP_LIMITS.freshnessUs` and `GROUP_LIMITS.intervalUs`. -/
def groupFreshnessUs : Us := 900000000
def groupIntervalUs : Us := 60000000

def RefreshState.open : RefreshState → Bool
  | .queued | .running => true
  | .succeeded | .failed => false

def RefreshJob.expire (job : RefreshJob) (now : Us) : RefreshJob :=
  { job with state := .failed, failedAtUs := some now }

/-- The row an admission inserts. -/
def RefreshJob.admitted (auth : AdmissionAuth) (grant : GrantSnapshot) (jobId versionId : Token)
    (now : Us) : RefreshJob where
  userId := grant.userId
  jobId := jobId
  installationId := auth.installationId
  versionId := versionId
  linkRevision := grant.revision
  generation := grant.generation
  state := .queued
  admittedAtUs := now
  deadlineAtUs := now + 120000000
  failedAtUs := none

namespace GroupTables

/-- `expire`: the update and the deletion read the clock one after the other. -/
def expire (t : GroupTables) (failNow deleteNow : Us) : GroupTables :=
  let refresh := t.refresh.modifyWhere
    (fun job => job.state.open && job.deadlineAtUs ≤ failNow) fun job => job.expire failNow
  { t with
    refresh := refresh
    refreshRows := t.refreshRows.deleteWhere fun row =>
      !(refresh.rows.any fun job => job.userId = row.userId ∧ job.jobId = row.jobId ∧
        job.state = .running ∧ deleteNow < job.deadlineAtUs) }

/-- The snapshot calls for a refresh under the grant. -/
def wantsRefresh (t : GroupTables) (grant : GrantSnapshot) (now : Us) : Bool :=
  (t.snapshots.find? grant.userId).any fun snapshot =>
    snapshot.refreshedAtUs.all (fun at_ => at_ < now - groupFreshnessUs) ||
      snapshot.linkRevision.any (fun revision => revision ≠ grant.revision) ||
      snapshot.generation.any (fun generation => generation ≠ grant.generation)

/-- `admitRefresh`; a taken job id aborts. -/
def admitRefresh (t : GroupTables) (db : Db) (auth : AdmissionAuth) (grant : GrantSnapshot)
    (jobId : Token) (now : Us) : Option GroupTables :=
  match grantRows db auth.installationId with
  | none => none
  | some rows =>
      if authorityGuard db auth grant then
        let t := { t with snapshots := t.snapshots.ensure ⟨grant.userId, 0, none, none, none⟩ }
        let job := RefreshJob.admitted auth grant jobId rows.2.1.versionId now
        if ¬ t.wantsRefresh grant now then some t
        else if t.refresh.rows.any fun other => other.jobId = jobId then none
        else
          match t.refresh.find? grant.userId with
          | none => (t.refresh.insert? job).map fun refresh => { t with refresh := refresh }
          | some prior =>
              if prior.state.open = false ∧ prior.admittedAtUs ≤ now - groupIntervalUs then
                some { t with refresh := t.refresh.set job }
              else some t
      else none

end GroupTables

/-! ## Pages of a request -/

/-- What `groupQuery` accepts; without a revision the reader starts. -/
structure PageQuery where
  size : Nat
  revision : Option Nat
  after : String
  size_pos : 1 ≤ size
  size_le : size ≤ 100
  start : revision = none → after = ""
deriving DecidableEq

inductive SnapshotStatus where
  | fresh
  | staleRefreshing
  | staleRefreshFailed
deriving DecidableEq

/-- A page of groups as it is answered; times are milliseconds. -/
structure DiscoveryPage where
  snapshotRevision : Nat
  refreshedAt : Int
  snapshotStatus : SnapshotStatus
  refreshFailedAt : Option Int
  groups : List Group
  nextAfterGroupId : Option Token
deriving DecidableEq

inductive GroupsAnswer where
  | page (page : DiscoveryPage)
  | refreshing
  | snapshotChanged
  | refreshUnavailable
deriving DecidableEq

/-- The column the pages are ordered by. -/
def groupKey (group : Group) : String := group.flickrGroupId.text

theorem groupKey_nodup {groups : List Group} (h : (groups.map Group.flickrGroupId).Nodup) :
    (groups.map groupKey).Nodup := by
  have hmap : groups.map groupKey = (groups.map Group.flickrGroupId).map Token.text := by
    simp [groupKey, Function.comp_def]
  rw [hmap]
  apply h.map
  intro left right heq
  cases left
  cases right
  cases heq
  rfl

/-- A token comes after the empty cursor. -/
theorem groupKey_pos (group : Group) : "" < groupKey group := by
  have hvalid := group.flickrGroupId.valid
  unfold groupKey
  rw [String.lt_iff_toList_lt]
  cases hchars : group.flickrGroupId.text.toList with
  | nil =>
      rw [isToken, hchars] at hvalid
      cases hvalid
  | cons c rest => exact List.nil_lt_cons c rest

/-- The status of a snapshot. -/
def snapshotStatus (refreshedAtUs now : Us) (job : Option RefreshJob) : SnapshotStatus :=
  if 0 ≤ now - refreshedAtUs ∧ now - refreshedAtUs ≤ groupFreshnessUs then .fresh
  else if job.any fun job => job.state = .failed then .staleRefreshFailed
  else .staleRefreshing

/-- The snapshot, where it was refreshed under the grant. -/
def usableSnapshot (t : GroupTables) (grant : GrantSnapshot) : Option (GroupSnapshot × Us) :=
  (t.snapshots.find? grant.userId).bind fun snapshot =>
    snapshot.refreshedAtUs.bind fun refreshedAtUs =>
      if snapshot.linkRevision = some grant.revision ∧ snapshot.generation = some grant.generation
      then some (snapshot, refreshedAtUs)
      else none

/-- The reading batch of `groupsRequest` and the answer it comes to. -/
def servePage (t : GroupTables) (db : Db) (auth : AdmissionAuth) (grant : GrantSnapshot)
    (query : PageQuery) (now : Us) : GroupsAnswer :=
  if ¬ authorityGuard db auth grant then .refreshUnavailable
  else
    let job := t.refresh.find? grant.userId
    match usableSnapshot t grant with
    | none =>
        if query.revision ≠ none then .snapshotChanged
        else if (t.snapshots.find? grant.userId).isSome ∧ job.any fun job => job.state.open then
          .refreshing
        else .refreshUnavailable
    | some (snapshot, refreshedAtUs) =>
        if query.revision ≠ none ∧ query.revision ≠ some snapshot.revision then .snapshotChanged
        else
          let rows := Keyset.page groupKey (t.published grant.userId) query.after (query.size + 1)
          let groups := rows.take query.size
          let status := snapshotStatus refreshedAtUs now job
          .page
            { snapshotRevision := snapshot.revision
              refreshedAt := refreshedAtUs / 1000
              snapshotStatus := status
              refreshFailedAt :=
                if status = .staleRefreshFailed then
                  (job.bind RefreshJob.failedAtUs).map fun failedAtUs => failedAtUs / 1000
                else none
              groups := groups
              nextAfterGroupId :=
                if query.size < rows.length then groups.getLast?.map Group.flickrGroupId
                else none }

/-! ## Batches of a refresh -/

/-- The largest revision the column takes. -/
def maxSnapshotRevision : Nat := 9007199254740991

def GroupSnapshot.refreshed (snapshot : GroupSnapshot) (job : RefreshJob) (now : Us) :
    GroupSnapshot :=
  { snapshot with
    revision := snapshot.revision + 1
    refreshedAtUs := some now
    linkRevision := some job.linkRevision
    generation := some job.generation }

namespace GroupTables

/-- The job as its row has it now. -/
def current (t : GroupTables) (job : RefreshJob) : Option RefreshJob :=
  (t.refresh.find? job.userId).filter fun row => row.jobId = job.jobId

/-- The guard of the claim. -/
def claimable (t : GroupTables) (db : Db) (job : RefreshJob) (now : Us) : Bool :=
  (t.current job).any fun row => row.state = .queued && now < row.deadlineAtUs && liveJob db row

/-- `runningGuard`. -/
def runningGuard (t : GroupTables) (db : Db) (job : RefreshJob) (now : Us) : Bool :=
  (t.current job).any fun row => row.state = .running && now < row.deadlineAtUs && liveJob db row

/-- A change of the job's row, where it is still there. -/
def changeJob (t : GroupTables) (job : RefreshJob) (change : RefreshJob → RefreshJob)
    (hchange : ∀ row, (change row).userId = row.userId) : GroupTables :=
  { t with
    refresh := t.refresh.modifyWhere
      (fun row => row.userId = job.userId && row.jobId = job.jobId) change hchange }

/-- Delete what the job has staged. -/
def unstage (t : GroupTables) (job : RefreshJob) : GroupTables :=
  { t with
    refreshRows := t.refreshRows.deleteWhere fun row =>
      row.userId = job.userId && row.jobId = job.jobId }

/-- The batch that claims a job. -/
def claim (t : GroupTables) (db : Db) (job : RefreshJob) (guardNow updateNow : Us) :
    Option GroupTables :=
  if t.claimable db job guardNow then
    let t := t.changeJob job
      (fun row => { row with state := .running, deadlineAtUs := updateNow + 60000000 })
      fun _ => rfl
    some { t with
      refreshRows := t.refreshRows.deleteWhere fun row => row.userId = job.userId }
  else none

/-- The batch that stages a page; a group that is already staged aborts. -/
def stage (t : GroupTables) (db : Db) (job : RefreshJob) (groups : List Group) (now : Us) :
    Option GroupTables :=
  if t.runningGuard db job now then
    (t.refreshRows.insertAll? (groups.map fun group => ⟨job.userId, job.jobId, group⟩)).map
      fun rows => { t with refreshRows := rows }
  else none

/-- The batch that publishes what the job has staged; the groups refer to a snapshot. -/
def publish (t : GroupTables) (db : Db) (job : RefreshJob) (guardNow updateNow : Us) :
    Option GroupTables :=
  let snapshot := t.snapshots.find? job.userId
  let staged := t.staged job.userId job.jobId
  if t.runningGuard db job guardNow = true ∧
      snapshot.all (fun snapshot => snapshot.revision < maxSnapshotRevision) ∧
      (staged ≠ [] → snapshot ≠ none) then
    ((t.snapshotRows.deleteWhere fun row => row.userId = job.userId).insertAll?
        (staged.map fun group => ⟨job.userId, group⟩)).map fun rows =>
      ({ t with
        snapshots := t.snapshots.modify job.userId
          fun snapshot => snapshot.refreshed job updateNow
        snapshotRows := rows }.changeJob job
          (fun row => { row with state := .succeeded, failedAtUs := none })
          fun _ => rfl).unstage job
  else none

/-- `fail`. -/
def fail (t : GroupTables) (job : RefreshJob) (now : Us) : GroupTables :=
  (t.changeJob job (fun row => if row.state.open then row.expire now else row) (by
    intro row
    split <;> rfl)).unstage job

end GroupTables

end FlickrGroupAddr

import FlickrGroupAddr.GroupRefresh

/-!
# What is published

The invariants of refresh jobs: a job is claimed once, what it has staged is what its
invocation accepted, and a snapshot changes only when a finished job publishes.
-/

namespace FlickrGroupAddr

set_option autoImplicit false

open KeyedTable Transition

/-! ## What the batches do to the jobs -/

/-- The row of a job stays that job, and is not queued again. -/
def RefreshJob.Kept (old new : RefreshJob) : Prop :=
  new.userId = old.userId ∧ new.jobId = old.jobId ∧ (new.state = .queued → old.state = .queued)

/-- Every job was there before. -/
def GroupTables.KeepsJobs (t t' : GroupTables) : Prop :=
  ∀ row' ∈ t'.refresh, ∃ row ∈ t.refresh, RefreshJob.Kept row row'

namespace GroupTables

variable {t t' : GroupTables} {db : Db} {job : RefreshJob}

theorem KeepsJobs.of_eq (h : t'.refresh = t.refresh) : t.KeepsJobs t' := by
  intro row hrow
  exact ⟨row, h ▸ hrow, rfl, rfl, id⟩

/-- A change of the rows that meet a condition. -/
theorem KeepsJobs.of_modifyWhere {p : RefreshJob → Bool} {change : RefreshJob → RefreshJob}
    {hchange : ∀ row, (change row).userId = row.userId}
    (h : t'.refresh = t.refresh.modifyWhere p change hchange)
    (hkept : ∀ row, RefreshJob.Kept row (change row)) : t.KeepsJobs t' := by
  intro row hrow
  rw [h] at hrow
  obtain ⟨old, hold, rfl⟩ := Table.mem_modifyWhere.mp hrow
  refine ⟨old, hold, ?_⟩
  split
  · exact hkept old
  · exact ⟨rfl, rfl, id⟩

theorem find?_expire (failNow deleteNow : Us) (userId : Token) :
    (t.expire failNow deleteNow).refresh.find? userId =
      (t.refresh.find? userId).map fun job =>
        if job.state.open && job.deadlineAtUs ≤ failNow then job.expire failNow else job :=
  Table.find?_modifyWhere t.refresh
    (fun job => job.state.open && job.deadlineAtUs ≤ failNow) (fun job => job.expire failNow) userId

theorem keepsJobs_expire (failNow deleteNow : Us) :
    t.KeepsJobs (t.expire failNow deleteNow) := by
  have hrefresh : (t.expire failNow deleteNow).refresh = t.refresh.modifyWhere
      (fun job => job.state.open && job.deadlineAtUs ≤ failNow) (fun job => job.expire failNow) := rfl
  apply KeepsJobs.of_modifyWhere hrefresh
  intro row
  exact ⟨rfl, rfl, by simp [RefreshJob.expire]⟩

/-- What a failure does. -/
theorem fail_eq (now : Us) :
    (t.fail job now).refresh = t.refresh.modifyWhere
        (fun row => row.userId = job.userId && row.jobId = job.jobId)
        (fun row => if row.state.open then row.expire now else row)
        (fun row => by split <;> rfl) ∧
      (t.fail job now).refreshRows = t.refreshRows.deleteWhere
        (fun row => row.userId = job.userId && row.jobId = job.jobId) ∧
      (t.fail job now).snapshots = t.snapshots ∧
      (t.fail job now).snapshotRows = t.snapshotRows := ⟨rfl, rfl, rfl, rfl⟩

theorem keepsJobs_fail (now : Us) : t.KeepsJobs (t.fail job now) := by
  apply KeepsJobs.of_modifyWhere (fail_eq now).1
  intro row
  split
  · exact ⟨rfl, rfl, by simp [RefreshJob.expire]⟩
  · exact ⟨rfl, rfl, id⟩

theorem current_eq_some {row : RefreshJob} :
    t.current job = some row ↔
      t.refresh.find? job.userId = some row ∧ row.jobId = job.jobId := by
  simp [current, Option.filter_eq_some_iff]

/-- What a claim found and did. -/
theorem claim_some {guardNow updateNow : Us} (h : t.claim db job guardNow updateNow = some t') :
    (∃ row, t.current job = some row ∧ row.state = .queued) ∧
      t'.refresh = t.refresh.modifyWhere
        (fun row => row.userId = job.userId && row.jobId = job.jobId)
        (fun row => { row with state := .running, deadlineAtUs := updateNow + 60000000 }) ∧
      t'.refreshRows = t.refreshRows.deleteWhere (fun row => row.userId = job.userId) ∧
      t'.snapshots = t.snapshots ∧ t'.snapshotRows = t.snapshotRows := by
  obtain ⟨hguard, h⟩ := Option.ite_none_right_eq_some.mp h
  cases h
  obtain ⟨row, hrow, hqueued⟩ := (Option.any_eq_true _ _).mp hguard
  simp only [Bool.and_eq_true, decide_eq_true_eq] at hqueued
  exact ⟨⟨row, hrow, hqueued.1.1⟩, rfl, rfl, rfl, rfl⟩

theorem keepsJobs_claim {guardNow updateNow : Us}
    (h : t.claim db job guardNow updateNow = some t') : t.KeepsJobs t' := by
  apply KeepsJobs.of_modifyWhere (claim_some h).2.1
  intro row
  exact ⟨rfl, rfl, by simp⟩

/-- What `runningGuard` finds. -/
theorem runningGuard_row {now : Us} (h : t.runningGuard db job now = true) :
    ∃ row, t.current job = some row ∧ row.state = .running ∧ now < row.deadlineAtUs ∧
      liveJob db row = true := by
  obtain ⟨row, hrow, hrunning⟩ := (Option.any_eq_true _ _).mp h
  simp only [Bool.and_eq_true, decide_eq_true_eq] at hrunning
  exact ⟨row, hrow, hrunning.1.1, hrunning.1.2, hrunning.2⟩

/-- What staging a page found and did. -/
theorem stage_some {groups : List Group} {now : Us} (h : t.stage db job groups now = some t') :
    t.runningGuard db job now = true ∧ t'.refresh = t.refresh ∧
      t'.refreshRows.rows = t.refreshRows.rows ++
        groups.map (fun group => ⟨job.userId, job.jobId, group⟩) ∧
      t'.snapshots = t.snapshots ∧ t'.snapshotRows = t.snapshotRows := by
  obtain ⟨hguard, h⟩ := Option.ite_none_right_eq_some.mp h
  obtain ⟨rows, hrows, rfl⟩ := Option.map_eq_some_iff.mp h
  exact ⟨hguard, rfl, Table.insertAll?_rows hrows, rfl, rfl⟩

/-- The snapshot rows after a publication. -/
theorem find?_refreshed (now : Us) (userId : Token) :
    (t.snapshots.modify job.userId fun snapshot => snapshot.refreshed job now).find? userId =
      if userId = job.userId then
        (t.snapshots.find? userId).map fun snapshot => snapshot.refreshed job now
      else t.snapshots.find? userId :=
  Table.find?_modify_eq t.snapshots job.userId _ userId

/-- What a publication found and did. -/
theorem publish_some {guardNow updateNow : Us}
    (h : t.publish db job guardNow updateNow = some t') :
    t.runningGuard db job guardNow = true ∧
      t'.refresh = t.refresh.modifyWhere
        (fun row => row.userId = job.userId && row.jobId = job.jobId)
        (fun row => { row with state := .succeeded, failedAtUs := none }) ∧
      t'.refreshRows = t.refreshRows.deleteWhere
        (fun row => row.userId = job.userId && row.jobId = job.jobId) ∧
      t'.snapshots = t.snapshots.modify job.userId
        (fun snapshot => snapshot.refreshed job updateNow) ∧
      t'.snapshotRows.rows =
        (t.snapshotRows.deleteWhere fun row => row.userId = job.userId).rows ++
          (t.staged job.userId job.jobId).map (fun group => ⟨job.userId, group⟩) := by
  obtain ⟨⟨hguard, _⟩, h⟩ := Option.ite_none_right_eq_some.mp h
  obtain ⟨rows, hrows, rfl⟩ := Option.map_eq_some_iff.mp h
  exact ⟨hguard, rfl, rfl, rfl, Table.insertAll?_rows hrows⟩

theorem keepsJobs_publish {guardNow updateNow : Us}
    (h : t.publish db job guardNow updateNow = some t') : t.KeepsJobs t' := by
  apply KeepsJobs.of_modifyWhere (publish_some h).2.1
  intro row
  exact ⟨rfl, rfl, by simp⟩

/-- What an admission did: the snapshot row is there, and the job, if one was admitted,
is the only one of its user. -/
theorem admitRefresh_some {auth : AdmissionAuth} {grant : GrantSnapshot} {jobId : Token}
    {now : Us} (h : t.admitRefresh db auth grant jobId now = some t') :
    t'.snapshots = t.snapshots.ensure ⟨grant.userId, 0, none, none, none⟩ ∧
      t'.snapshotRows = t.snapshotRows ∧ t'.refreshRows = t.refreshRows ∧
      (t'.refresh = t.refresh ∨
        ∃ job : RefreshJob, job.userId = grant.userId ∧ job.jobId = jobId ∧
          (∀ row, row ∈ t'.refresh ↔
            row = job ∨ (row ∈ t.refresh ∧ row.userId ≠ job.userId))) := by
  dsimp only [admitRefresh] at h
  split at h
  · cases h
  next rows _ =>
  split at h
  swap
  · cases h
  split at h
  · cases h
    exact ⟨rfl, rfl, rfl, Or.inl rfl⟩
  split at h
  · cases h
  split at h
  · next hnone =>
      obtain ⟨refresh, hinsert, rfl⟩ := Option.map_eq_some_iff.mp h
      refine ⟨rfl, rfl, rfl, Or.inr
        ⟨RefreshJob.admitted auth grant jobId rows.2.1.versionId now, rfl, rfl, ?_⟩⟩
      intro row
      rw [Table.mem_insert? hinsert]
      constructor
      · rintro (hrow | rfl)
        · exact Or.inr ⟨hrow, Table.find?_eq_none.mp hnone row hrow⟩
        · exact Or.inl rfl
      · rintro (rfl | ⟨hrow, _⟩)
        · exact Or.inr rfl
        · exact Or.inl hrow
  · next prior hprior =>
      split at h
      · cases h
        refine ⟨rfl, rfl, rfl, Or.inr
        ⟨RefreshJob.admitted auth grant jobId rows.2.1.versionId now, rfl, rfl, ?_⟩⟩
        intro row
        obtain ⟨hmem, hkey⟩ := Table.find?_eq_some.mp hprior
        constructor
        · intro hrow
          by_cases huser : row.userId = grant.userId
          · left
            exact Table.eq_of_key_eq hrow (Table.mem_set_self hmem hkey) huser
          · right
            rcases Table.mem_set_cases hrow with rfl | hold
            · exact absurd rfl huser
            · exact hold
        · rintro (rfl | ⟨hold, huser⟩)
          · exact Table.mem_set_self hmem hkey
          · exact Table.mem_set_of_ne hold huser
      · cases h
        exact ⟨rfl, rfl, rfl, Or.inl rfl⟩

/-- Jobs have drawn ids, each its own. -/
structure JobsInv (t : GroupTables) (jobIds : List Token) : Prop where
  ids : ∀ row ∈ t.refresh, row.jobId ∈ jobIds
  unique : ∀ row ∈ t.refresh, ∀ row' ∈ t.refresh, row.jobId = row'.jobId → row = row'
  snapshots : ∀ row ∈ t.refresh, t.snapshots.find? row.userId ≠ none

/-- Snapshot rows stay. -/
def KeepsSnapshots (t t' : GroupTables) : Prop :=
  ∀ userId, t.snapshots.find? userId ≠ none → t'.snapshots.find? userId ≠ none

theorem KeepsSnapshots.of_eq (h : t'.snapshots = t.snapshots) : t.KeepsSnapshots t' := by
  intro userId
  rw [h]
  exact id

theorem keepsSnapshots_publish {guardNow updateNow : Us}
    (h : t.publish db job guardNow updateNow = some t') : t.KeepsSnapshots t' := by
  intro userId hrow
  rw [(publish_some h).2.2.2.1, find?_refreshed]
  split
  · simpa using hrow
  · exact hrow

theorem JobsInv.kept {jobIds : List Token} (hinv : JobsInv t jobIds) (hjobs : t.KeepsJobs t')
    (hsnapshots : t.KeepsSnapshots t') : JobsInv t' jobIds := by
  constructor
  · intro row' hrow'
    obtain ⟨row, hrow, _, hid, _⟩ := hjobs row' hrow'
    rw [hid]
    exact hinv.ids row hrow
  · intro left hleft right hright heq
    obtain ⟨left', hleft', huser, hid, _⟩ := hjobs left hleft
    obtain ⟨right', hright', huser', hid', _⟩ := hjobs right hright
    have hsame : left' = right' :=
      hinv.unique left' hleft' right' hright' (hid.symm.trans (heq.trans hid'))
    apply Table.eq_of_key_eq hleft hright
    rw [huser, huser', hsame]
  · intro row' hrow'
    obtain ⟨row, hrow, huser, _⟩ := hjobs row' hrow'
    rw [huser]
    exact hsnapshots _ (hinv.snapshots row hrow)

theorem JobsInv.admitted {jobIds : List Token} (hinv : JobsInv t jobIds) {auth : AdmissionAuth}
    {grant : GrantSnapshot} {jobId : Token} {now : Us} (hfresh : jobId ∉ jobIds)
    (h : t.admitRefresh db auth grant jobId now = some t') : JobsInv t' (jobId :: jobIds) := by
  obtain ⟨hsnapshots, _, _, hrefresh⟩ := admitRefresh_some h
  have hthere : ∀ userId, t.snapshots.find? userId ≠ none ∨ userId = grant.userId →
      t'.snapshots.find? userId ≠ none := by
    intro userId hcase
    rw [hsnapshots, Table.find?_ensure]
    split
    · simp
    · next hne => exact hcase.resolve_right hne
  rcases hrefresh with hsame | ⟨job, huser, hid, hmem⟩
  · have hkept := hinv.kept (KeepsJobs.of_eq hsame) (fun userId h => hthere userId (Or.inl h))
    exact ⟨fun row hrow => List.mem_cons_of_mem _ (hkept.ids row hrow), hkept.unique,
      hkept.snapshots⟩
  · constructor
    · intro row hrow
      rcases (hmem row).mp hrow with rfl | ⟨hold, _⟩
      · simp [hid]
      · exact List.mem_cons_of_mem _ (hinv.ids row hold)
    · intro left hleft right hright heq
      rcases (hmem left).mp hleft with rfl | ⟨hold, _⟩
      · rcases (hmem right).mp hright with rfl | ⟨hold, _⟩
        · rfl
        · rw [hid] at heq
          exact absurd (heq ▸ hinv.ids right hold) hfresh
      · rcases (hmem right).mp hright with rfl | ⟨hold', _⟩
        · rw [hid] at heq
          exact absurd (heq ▸ hinv.ids left hold) hfresh
        · exact hinv.unique left hold right hold' heq
    · intro row hrow
      apply hthere
      rcases (hmem row).mp hrow with rfl | ⟨hold, _⟩
      · exact Or.inr huser
      · exact Or.inl (hinv.snapshots row hold)

end GroupTables

/-! ## Accepted pages -/

/-- The accepted pages are the first of one list: they were asked for in order under one
grant, each was valid as the page it was asked for, and they agree on their number and
on the total. -/
structure RefreshLoop.Agreed (loop : RefreshLoop) : Prop where
  numbered : loop.receipts.map GroupReceipt.number = List.range' 1 loop.receipts.length
  valid : ∀ receipt ∈ loop.receipts,
    validateGroupPage receipt.value receipt.number = some receipt.page
  signed : ∀ receipt ∈ loop.receipts, receipt.signedBy = loop.grant.generation
  totals : ∀ receipt ∈ loop.receipts,
    receipt.page.pages = loop.pages ∧ loop.total = some receipt.page.total
  length : loop.receipts ≠ [] → loop.receipts.length ≤ loop.pages

/-- The grant is the one the job was admitted under. -/
def RefreshLoop.For (loop : RefreshLoop) (job : RefreshJob) : Prop :=
  loop.grant.userId = job.userId ∧ loop.grant.revision = job.linkRevision ∧
    loop.grant.generation = job.generation

/-- The next page fits the loop. -/
structure RefreshLoop.Fits (loop : RefreshLoop) (receipt : GroupReceipt) : Prop where
  number : receipt.number = loop.page
  valid : validateGroupPage receipt.value receipt.number = some receipt.page
  signed : receipt.signedBy = loop.grant.generation
  takes : loop.takes receipt.page
  within : loop.page ≤ loop.pages

theorem RefreshLoop.agreed_nil (auth : AdmissionAuth) (grant : GrantSnapshot) :
    (RefreshLoop.mk auth grant []).Agreed := by
  constructor <;> simp

/-- A validated page is one of at least one. -/
theorem validateGroupPage_pages {value : JsonValue} {expectedPage : Nat} {page : GroupPage}
    (h : validateGroupPage value expectedPage = some page) : 1 ≤ page.pages := by
  unfold validateGroupPage at h
  split at h
  · cases h
  split at h
  · split at h
    · obtain ⟨groups, _, rfl⟩ := Option.map_eq_some_iff.mp h
      exact le_max_left _ _
    · cases h
  · cases h

@[simp] theorem RefreshLoop.pages_push (loop : RefreshLoop) (receipt : GroupReceipt) :
    (loop.push receipt).pages = receipt.page.pages := by
  simp [RefreshLoop.pages, RefreshLoop.push]

@[simp] theorem RefreshLoop.total_push (loop : RefreshLoop) (receipt : GroupReceipt) :
    (loop.push receipt).total = some receipt.page.total := by
  simp [RefreshLoop.total, RefreshLoop.push]

@[simp] theorem RefreshLoop.groups_push (loop : RefreshLoop) (receipt : GroupReceipt) :
    (loop.push receipt).groups = loop.groups ++ receipt.page.groups := by
  simp [RefreshLoop.groups, RefreshLoop.push]

theorem RefreshLoop.length_groups (loop : RefreshLoop) : loop.groups.length = loop.count := by
  simp [RefreshLoop.groups, RefreshLoop.count, List.length_flatMap]

/-- A page that fits keeps the pages agreed. -/
theorem RefreshLoop.Agreed.push {loop : RefreshLoop} {receipt : GroupReceipt}
    (h : loop.Agreed) (hfits : loop.Fits receipt) : (loop.push receipt).Agreed := by
  have hdrift : ∀ old ∈ loop.receipts,
      loop.pages = receipt.page.pages ∧ loop.total = some receipt.page.total := by
    intro old hold
    apply hfits.takes.1
    have hpos := List.length_pos_of_mem hold
    unfold RefreshLoop.page
    omega
  constructor
  · simp only [RefreshLoop.push, List.map_append, h.numbered, List.map_singleton, hfits.number,
      List.length_append, List.length_singleton, RefreshLoop.page]
    rw [List.range'_concat]
    simp [Nat.add_comm]
  · intro r hr
    rcases List.mem_append.mp hr with hold | hnew
    · exact h.valid r hold
    · obtain rfl := List.mem_singleton.mp hnew
      exact hfits.valid
  · intro r hr
    rcases List.mem_append.mp hr with hold | hnew
    · exact h.signed r hold
    · obtain rfl := List.mem_singleton.mp hnew
      exact hfits.signed
  · intro r hr
    rw [RefreshLoop.pages_push, RefreshLoop.total_push]
    rcases List.mem_append.mp hr with hold | hnew
    · obtain ⟨hpages, htotal⟩ := h.totals r hold
      obtain ⟨hpages', htotal'⟩ := hdrift r hold
      exact ⟨hpages.trans hpages', htotal'.symm.trans htotal⟩
    · obtain rfl := List.mem_singleton.mp hnew
      exact ⟨rfl, rfl⟩
  · intro _
    rw [RefreshLoop.pages_push]
    simp only [RefreshLoop.push, List.length_append, List.length_singleton]
    cases hreceipts : loop.receipts with
    | nil =>
        have hpos := validateGroupPage_pages hfits.valid
        simpa using hpos
    | cons first rest =>
        have hfirst : first ∈ loop.receipts := by simp [hreceipts]
        have hwithin := hfits.within
        rw [← (hdrift first hfirst).1, ← hreceipts]
        exact hwithin

/-- What an invocation knows where it is. -/
def RefreshStage.Ok (job : RefreshJob) : RefreshStage → Prop
  | .reading loop => loop.For job ∧ loop.Agreed
  | .asked loop signedBy | .answered loop signedBy _ =>
      loop.For job ∧ loop.Agreed ∧ loop.page ≤ loop.pages ∧ signedBy = loop.grant.generation
  | .parsed loop receipt | .confirmed loop receipt =>
      loop.For job ∧ loop.Agreed ∧ loop.Fits receipt
  | .selected | .claimed | .versioned _ | .failing | .ended => True

theorem QuietMove.ok {s : CatalogueState} {job : RefreshJob} {stage stage' : RefreshStage}
    (h : QuietMove s job stage stage') (hok : stage.Ok job) : stage'.Ok job := by
  cases h with
  | version => trivial
  | grant _ huser hrevision hgeneration =>
      exact ⟨⟨huser, hrevision, hgeneration⟩, RefreshLoop.agreed_nil _ _⟩
  | asked hpage hsigned _ => exact ⟨hok.1, hok.2, hpage, hsigned⟩
  | answered => exact hok
  | parsed hvalid htakes =>
      exact ⟨hok.1, hok.2.1, rfl, hvalid, hok.2.2.2, htakes, hok.2.2.1⟩
  | confirmed _ => exact hok
  | thrown _ => trivial
  | ended _ => trivial

/-! ## The invariant -/

/-- A job is claimed once, by the invocation that works on it. -/
structure CatalogueInv (s : CatalogueState) : Prop where
  jobs : s.tables.JobsInv s.jobIds
  drawn : ∀ w worker, s.workers w = some worker → worker.job.jobId ∈ s.jobIds
  taken : ∀ w worker, s.workers w = some worker → worker.stage ≠ .selected →
    ∀ row ∈ s.tables.refresh, row.jobId = worker.job.jobId → row.state ≠ .queued
  alone : ∀ w w' worker worker', s.workers w = some worker → s.workers w' = some worker' →
    worker.stage ≠ .selected → worker'.stage ≠ .selected →
    worker.job.jobId = worker'.job.jobId → w = w'
  stages : ∀ w worker, s.workers w = some worker → worker.stage.Ok worker.job

namespace CatalogueInv

variable {s s' : CatalogueState}

theorem init (h : s.Initial) : CatalogueInv s := by
  obtain ⟨htables, hworkers, hids⟩ := h
  have hnone : ∀ w worker, s.workers w ≠ some worker := by
    intro w worker hsome
    rw [hworkers] at hsome
    cases hsome
  constructor
  · rw [htables, hids]
    constructor
    · intro row hrow
      exact absurd hrow (Table.not_mem_empty row)
    · intro row hrow
      exact absurd hrow (Table.not_mem_empty row)
    · intro row hrow
      exact absurd hrow (Table.not_mem_empty row)
  · intro w worker h
    exact absurd h (hnone w worker)
  · intro w worker h
    exact absurd h (hnone w worker)
  · intro w _ worker _ h
    exact absurd h (hnone w worker)
  · intro w worker h
    exact absurd h (hnone w worker)

/-- The tables change under invocations that stay as they are. -/
theorem tables (hinv : CatalogueInv s) (hworkers : s'.workers = s.workers)
    (hids : s'.jobIds = s.jobIds) (hjobs : s.tables.KeepsJobs s'.tables)
    (hsnapshots : s.tables.KeepsSnapshots s'.tables) : CatalogueInv s' := by
  constructor
  · rw [hids]
    exact hinv.jobs.kept hjobs hsnapshots
  · rw [hworkers, hids]
    exact hinv.drawn
  · rw [hworkers]
    intro w worker hworker hstage row' hrow' hid hqueued
    obtain ⟨row, hrow, _, hsame, hback⟩ := hjobs row' hrow'
    exact hinv.taken w worker hworker hstage row hrow (hsame.symm.trans hid) (hback hqueued)
  · rw [hworkers]
    exact hinv.alone
  · rw [hworkers]
    exact hinv.stages

/-- One invocation that has claimed its job moves on. -/
theorem moved (hinv : CatalogueInv s) {w : Nat} {job : RefreshJob} {stage stage' : RefreshStage}
    (hworker : s.workers w = some ⟨job, stage⟩) (hstage : stage ≠ .selected)
    (hok : stage'.Ok job) : CatalogueInv (s.advance w job stage') := by
  have hworkers : (s.advance w job stage').workers =
      Function.update s.workers w (some ⟨job, stage'⟩) := rfl
  have hold : ∀ v worker, (s.advance w job stage').workers v = some worker →
      worker.stage ≠ .selected →
      ∃ old, s.workers v = some old ∧ old.stage ≠ .selected ∧ old.job = worker.job := by
    intro v worker hv hclaimed
    rw [hworkers] at hv
    by_cases hvw : v = w
    · subst hvw
      rw [Function.update_self] at hv
      cases hv
      exact ⟨_, hworker, hstage, rfl⟩
    · rw [Function.update_of_ne hvw] at hv
      exact ⟨worker, hv, hclaimed, rfl⟩
  constructor
  · exact hinv.jobs
  · intro v worker hv
    rw [hworkers] at hv
    by_cases hvw : v = w
    · subst hvw
      rw [Function.update_self] at hv
      cases hv
      have hdrawn := hinv.drawn v _ hworker
      exact hdrawn
    · rw [Function.update_of_ne hvw] at hv
      exact hinv.drawn v worker hv
  · intro v worker hv hclaimed
    obtain ⟨old, hv', hclaimed', hjob⟩ := hold v worker hv hclaimed
    rw [← hjob]
    exact hinv.taken v old hv' hclaimed'
  · intro v v' worker worker' hv hv' hclaimed hclaimed' hsame
    obtain ⟨old, hold₁, hclaimed₁, hjob⟩ := hold v worker hv hclaimed
    obtain ⟨old', hold₂, hclaimed₂, hjob'⟩ := hold v' worker' hv' hclaimed'
    rw [← hjob, ← hjob'] at hsame
    exact hinv.alone v v' old old' hold₁ hold₂ hclaimed₁ hclaimed₂ hsame
  · intro v worker hv
    rw [hworkers] at hv
    by_cases hvw : v = w
    · subst hvw
      rw [Function.update_self] at hv
      cases hv
      exact hok
    · rw [Function.update_of_ne hvw] at hv
      exact hinv.stages v worker hv

/-- An invocation selects a job. -/
theorem selected (hinv : CatalogueInv s) {w : Nat} {job : RefreshJob}
    (hnext : s.nextJob = some job) : CatalogueInv (s.advance w job .selected) := by
  have hmem : job ∈ s.tables.refresh := (List.mem_filter.mp (List.argmin_mem hnext)).1
  have hold : ∀ v worker, (s.advance w job .selected).workers v = some worker →
      s.workers v = some worker ∨ worker = ⟨job, .selected⟩ := by
    intro v worker hv
    simp only [CatalogueState.advance, CatalogueState.setWorker] at hv
    by_cases hvw : v = w
    · subst hvw
      rw [Function.update_self] at hv
      cases hv
      exact Or.inr rfl
    · rw [Function.update_of_ne hvw] at hv
      exact Or.inl hv
  have hclaimed : ∀ v worker, (s.advance w job .selected).workers v = some worker →
      worker.stage ≠ .selected → s.workers v = some worker := by
    intro v worker hv hstage
    rcases hold v worker hv with h | rfl
    · exact h
    · exact absurd rfl hstage
  constructor
  · exact hinv.jobs
  · intro v worker hv
    rcases hold v worker hv with h | rfl
    · exact hinv.drawn v worker h
    · exact hinv.jobs.ids job hmem
  · intro v worker hv hstage
    exact hinv.taken v worker (hclaimed v worker hv hstage) hstage
  · intro v v' worker worker' hv hv' hstage hstage'
    exact hinv.alone v v' worker worker' (hclaimed v worker hv hstage)
      (hclaimed v' worker' hv' hstage') hstage hstage'
  · intro v worker hv
    rcases hold v worker hv with h | rfl
    · exact hinv.stages v worker h
    · trivial

/-- An invocation goes without having claimed its job. -/
theorem dropped (hinv : CatalogueInv s) {w : Nat} : CatalogueInv (s.setWorker w none) := by
  have hold : ∀ v worker, (s.setWorker w none).workers v = some worker →
      s.workers v = some worker := by
    intro v worker hv
    simp only [CatalogueState.setWorker] at hv
    by_cases hvw : v = w
    · subst hvw
      rw [Function.update_self] at hv
      cases hv
    · rwa [Function.update_of_ne hvw] at hv
  constructor
  · exact hinv.jobs
  · intro v worker hv
    exact hinv.drawn v worker (hold v worker hv)
  · intro v worker hv
    exact hinv.taken v worker (hold v worker hv)
  · intro v v' worker worker' hv hv'
    exact hinv.alone v v' worker worker' (hold v worker hv) (hold v' worker' hv')
  · intro v worker hv
    exact hinv.stages v worker (hold v worker hv)

/-- An invocation claims its job: the row was queued, so nobody has claimed it. -/
theorem claimed (hinv : CatalogueInv s) {w : Nat} {job : RefreshJob} {guardNow updateNow : Us}
    {tables : GroupTables} {stage : RefreshStage}
    (hworker : s.workers w = some ⟨job, .selected⟩)
    (hclaim : s.tables.claim s.db job guardNow updateNow = some tables) (hok : stage.Ok job) :
    CatalogueInv ((s.commit tables updateNow).advance w job stage) := by
  obtain ⟨⟨row, hcurrent, hqueued⟩, hrefresh, _, hsnapshots, _⟩ := GroupTables.claim_some hclaim
  obtain ⟨hfind, hid⟩ := GroupTables.current_eq_some.mp hcurrent
  have hmem := Table.mem_of_find? hfind
  have hunclaimed : ∀ v worker, s.workers v = some worker → worker.stage ≠ .selected →
      worker.job.jobId ≠ job.jobId := by
    intro v worker hv hstage heq
    exact hinv.taken v worker hv hstage row hmem (hid.trans heq.symm) hqueued
  have hbase : CatalogueInv (s.commit tables updateNow) :=
    hinv.tables rfl rfl (GroupTables.keepsJobs_claim hclaim)
      (GroupTables.KeepsSnapshots.of_eq hsnapshots)
  have hold : ∀ v worker, ((s.commit tables updateNow).advance w job stage).workers v =
      some worker → (v = w ∧ worker = ⟨job, stage⟩) ∨ (v ≠ w ∧ s.workers v = some worker) := by
    intro v worker hv
    simp only [CatalogueState.advance, CatalogueState.setWorker] at hv
    by_cases hvw : v = w
    · subst hvw
      rw [Function.update_self] at hv
      cases hv
      exact Or.inl ⟨rfl, rfl⟩
    · rw [Function.update_of_ne hvw] at hv
      exact Or.inr ⟨hvw, hv⟩
  constructor
  · exact hbase.jobs
  · intro v worker hv
    rcases hold v worker hv with ⟨_, rfl⟩ | ⟨_, hv⟩
    · have hdrawn := hinv.drawn w _ hworker
      exact hdrawn
    · exact hinv.drawn v worker hv
  · intro v worker hv hstage
    rcases hold v worker hv with ⟨_, rfl⟩ | ⟨_, hv⟩
    · intro row' hrow' hsame
      have hrow' : row' ∈ tables.refresh := hrow'
      rw [hrefresh] at hrow'
      obtain ⟨old, hmem', rfl⟩ := Table.mem_modifyWhere.mp hrow'
      split
      · simp
      · next hother =>
          -- the row of that id is the one that was claimed
          intro _
          rw [if_neg hother] at hsame
          have heq := hinv.jobs.unique old hmem' row hmem (hsame.trans hid.symm)
          apply hother
          rw [heq]
          simp [hid, Table.key_of_find? hfind]
    · exact hbase.taken v worker hv hstage
  · intro v v' worker worker' hv hv' hstage hstage' hsame
    rcases hold v worker hv with ⟨hvw, rfl⟩ | ⟨_, hother⟩
    · rcases hold v' worker' hv' with ⟨hvw', rfl⟩ | ⟨_, hother'⟩
      · rw [hvw, hvw']
      · exact absurd hsame.symm (hunclaimed v' worker' hother' hstage')
    · rcases hold v' worker' hv' with ⟨_, rfl⟩ | ⟨_, hother'⟩
      · exact absurd hsame (hunclaimed v worker hother hstage)
      · exact hinv.alone v v' worker worker' hother hother' hstage hstage' hsame
  · intro v worker hv
    rcases hold v worker hv with ⟨_, rfl⟩ | ⟨_, hv⟩
    · exact hok
    · exact hinv.stages v worker hv

theorem step {event : CatalogueEvent} (hinv : CatalogueInv s)
    (h : CatalogueMove s event s') : CatalogueInv s' := by
  cases h with
  | relink db =>
      exact hinv.tables rfl rfl (GroupTables.KeepsJobs.of_eq rfl)
        (GroupTables.KeepsSnapshots.of_eq rfl)
  | expire failNow deleteNow =>
      exact hinv.tables rfl rfl (GroupTables.keepsJobs_expire _ _)
        (GroupTables.KeepsSnapshots.of_eq rfl)
  | @admitCalled auth grant jobId now tables hfresh hadmit =>
      obtain ⟨_, _, _, hrefresh⟩ := GroupTables.admitRefresh_some hadmit
      constructor
      · exact hinv.jobs.admitted hfresh hadmit
      · intro w worker hworker
        exact List.mem_cons_of_mem _ (hinv.drawn w worker hworker)
      · intro w worker hworker hstage row hrow hid
        have hrow : row ∈ tables.refresh := hrow
        have hold : row ∈ s.tables.refresh := by
          rcases hrefresh with hsame | ⟨job, _, hjob, hmem⟩
          · rwa [hsame] at hrow
          · rcases (hmem row).mp hrow with rfl | ⟨hold, _⟩
            · -- a claimed job has an id drawn before
              rw [← hjob, hid] at hfresh
              exact absurd (hinv.drawn w worker hworker) hfresh
            · exact hold
        exact hinv.taken w worker hworker hstage row hold hid
      · exact hinv.alone
      · exact hinv.stages
  | select _ hnext => exact hinv.selected hnext
  | @claim _ _ _ _ told _ hworker hclaim =>
      apply hinv.claimed hworker hclaim
      cases told <;> trivial
  | @quiet _ w job stage stage' _ _ hworker hquiet =>
      have hclaimed : stage ≠ .selected := by
        rintro rfl
        cases hquiet with
        | thrown hne => exact hne rfl
        | ended hne => exact hne rfl
      exact hinv.moved hworker hclaimed (hquiet.ok (hinv.stages w _ hworker))
  | dropped _ => exact hinv.dropped
  | @stage w job loop receipt now told tables hworker hstage =>
      obtain ⟨_, hrefresh, _, hsnapshots, _⟩ := GroupTables.stage_some hstage
      have hbase : CatalogueInv (s.commit tables now) :=
        hinv.tables rfl rfl (GroupTables.KeepsJobs.of_eq hrefresh)
          (GroupTables.KeepsSnapshots.of_eq hsnapshots)
      have hworker' : (s.commit tables now).workers w = some ⟨job, .confirmed loop receipt⟩ :=
        hworker
      apply hbase.moved hworker' (by simp)
      cases told with
      | false => trivial
      | true =>
          obtain ⟨hfor, hagreed, hfits⟩ := hinv.stages w _ hworker
          exact ⟨hfor, hagreed.push hfits⟩
  | @publish w job loop guardNow updateNow told tables hworker _ hpublish =>
      have hbase : CatalogueInv (s.commit tables updateNow) :=
        hinv.tables rfl rfl (GroupTables.keepsJobs_publish hpublish)
          (GroupTables.keepsSnapshots_publish hpublish)
      have hworker' : (s.commit tables updateNow).workers w = some ⟨job, .reading loop⟩ :=
        hworker
      apply hbase.moved hworker' (by simp)
      cases told <;> trivial
  | @fail w job now hworker =>
      have hbase : CatalogueInv (s.commit (s.tables.fail job now) now) :=
        hinv.tables rfl rfl (GroupTables.keepsJobs_fail now) (GroupTables.KeepsSnapshots.of_eq rfl)
      have hworker' : (s.commit (s.tables.fail job now) now).workers w = some ⟨job, .failing⟩ :=
        hworker
      exact hbase.moved hworker' (by simp) trivial

end CatalogueInv

end FlickrGroupAddr

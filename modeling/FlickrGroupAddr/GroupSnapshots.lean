import FlickrGroupAddr.GroupPublications

/-!
# Snapshots

A snapshot changes when a finished job publishes, and only then.  As long as the clock
of the database does not run backwards, what is published are the groups that the
pages of that job told.
-/

namespace FlickrGroupAddr

set_option autoImplicit false

open KeyedTable Transition

/-! ## What is published and staged after a batch -/

namespace GroupTables

variable {t t' : GroupTables} {db : Db} {job : RefreshJob}

theorem published_of_eq (h : t'.snapshotRows = t.snapshotRows) (userId : Token) :
    t'.published userId = t.published userId := by
  simp [published, h]

/-- A publication replaces the groups of one user by what the job has staged. -/
theorem published_publish {guardNow updateNow : Us}
    (h : t.publish db job guardNow updateNow = some t') (userId : Token) :
    t'.published userId =
      if userId = job.userId then t.staged job.userId job.jobId else t.published userId := by
  obtain ⟨_, _, _, _, hrows⟩ := publish_some h
  simp only [published, hrows, List.filter_append, List.map_append]
  split
  · next heq =>
      rw [Table.filter_deleteWhere_eq_nil (by simp [heq])]
      simp [List.filter_map, Function.comp_def, heq]
  · next hne =>
      rw [Table.filter_deleteWhere (by
        intro row _ huser
        simp only [decide_eq_true_eq] at huser
        simp [huser, hne])]
      simp [List.filter_map, Function.comp_def, Ne.symm hne]

/-- Published groups are distinct. -/
theorem published_nodup (t : GroupTables) (userId : Token) :
    ((t.published userId).map Group.flickrGroupId).Nodup := by
  have hkeys := List.pairwise_map.mp t.snapshotRows.nodup
  simp only [published, List.map_map]
  apply List.pairwise_map.mpr
  apply (hkeys.sublist List.filter_sublist).imp_of_mem
  intro left right hleft hright hne heq
  apply hne
  have huser := of_decide_eq_true (List.mem_filter.mp hleft).2
  have huser' := of_decide_eq_true (List.mem_filter.mp hright).2
  exact Prod.ext (huser.trans huser'.symm) heq

theorem staged_of_eq (h : t'.refreshRows = t.refreshRows) (userId jobId : Token) :
    t'.staged userId jobId = t.staged userId jobId := by
  simp [staged, h]

/-- Deleting rows that a job has not staged. -/
theorem staged_deleteWhere {p : RefreshGroup → Bool}
    (hrows : t'.refreshRows = t.refreshRows.deleteWhere p) {userId jobId : Token}
    (h : ∀ row ∈ t.refreshRows, row.userId = userId → row.jobId = jobId → p row = false) :
    t'.staged userId jobId = t.staged userId jobId := by
  simp only [staged, hrows]
  rw [Table.filter_deleteWhere]
  intro row hrow hboth
  have hboth := of_decide_eq_true hboth
  exact h row hrow hboth.1 hboth.2

/-- A staged page is appended to what its job has staged. -/
theorem staged_stage {groups : List Group} {now : Us}
    (h : t.stage db job groups now = some t') (userId jobId : Token) :
    t'.staged userId jobId =
      if userId = job.userId ∧ jobId = job.jobId then t.staged userId jobId ++ groups
      else t.staged userId jobId := by
  obtain ⟨_, _, hrows, _⟩ := stage_some h
  simp only [staged, hrows, List.filter_append, List.map_append, List.filter_map,
    Function.comp_def]
  split
  · next heq => simp [heq.1, heq.2, Function.comp_def]
  · next hne =>
      have hne : ¬ (job.userId = userId ∧ job.jobId = jobId) := by
        rintro ⟨rfl, rfl⟩
        exact hne ⟨rfl, rfl⟩
      simp [hne]

/-- A change of one job leaves the rows of the others. -/
theorem current_of_modifyWhere {change : RefreshJob → RefreshJob}
    {hchange : ∀ row, (change row).userId = row.userId}
    (h : t'.refresh = t.refresh.modifyWhere
      (fun row => row.userId = job.userId && row.jobId = job.jobId) change hchange)
    (hid : ∀ row, (change row).jobId = row.jobId) {other row : RefreshJob}
    (hne : other.jobId ≠ job.jobId) (hcurrent : t'.current other = some row) :
    t.current other = some row := by
  obtain ⟨hfind, hsame⟩ := current_eq_some.mp hcurrent
  rw [h, Table.find?_modifyWhere _ _ _ _ hchange] at hfind
  obtain ⟨old, hold, rfl⟩ := Option.map_eq_some_iff.mp hfind
  split at hsame
  · next hmatch =>
      simp only [Bool.and_eq_true, decide_eq_true_eq] at hmatch
      rw [hid, hmatch.2] at hsame
      exact absurd hsame.symm hne
  · next hmatch =>
      rw [if_neg hmatch]
      exact current_eq_some.mpr ⟨hold, hsame⟩

end GroupTables

/-! ## What a step does to a snapshot -/

/-- The published groups and the snapshot row stay, or an empty snapshot row appears. -/
def GroupTables.SnapshotKept (t t' : GroupTables) (userId : Token) : Prop :=
  t'.published userId = t.published userId ∧
    (t'.snapshots.find? userId = t.snapshots.find? userId ∨
      (t.snapshots.find? userId = none ∧
        t'.snapshots.find? userId = some ⟨userId, 0, none, none, none⟩))

/-- A finished job of the user, still running before its deadline and under its grant,
publishes what it has staged under the next revision. -/
structure PublishesSnapshot (s : CatalogueState) (event : CatalogueEvent) (s' : CatalogueState)
    (userId : Token) (job : RefreshJob) (loop : RefreshLoop) : Prop where
  publishes : ∃ w guardNow updateNow told, event = .publish w guardNow updateNow told ∧
    s.workers w = some ⟨job, .reading loop⟩ ∧ s.tables.runningGuard s.db job guardNow = true ∧
    ∃ snapshot, s.tables.snapshots.find? userId = some snapshot ∧
      s'.tables.snapshots.find? userId = some (snapshot.refreshed job updateNow)
  user : job.userId = userId
  finished : loop.finished
  published : s'.tables.published userId = s.tables.staged userId job.jobId

section Step

variable {s s' : CatalogueState} {event : CatalogueEvent}

theorem GroupTables.SnapshotKept.of_eq {t t' : GroupTables} (hrows : t'.snapshotRows = t.snapshotRows)
    (hsnapshots : t'.snapshots = t.snapshots) (userId : Token) : t.SnapshotKept t' userId :=
  ⟨GroupTables.published_of_eq hrows userId, Or.inl (by rw [hsnapshots])⟩

/-- A snapshot changes by a publication, and by nothing else. -/
theorem CatalogueMove.snapshot (hinv : CatalogueInv s) (h : CatalogueMove s event s')
    (userId : Token) :
    s.tables.SnapshotKept s'.tables userId ∨
      ∃ job loop, PublishesSnapshot s event s' userId job loop := by
  cases h with
  | relink | expire | select | quiet | dropped | fail =>
      exact Or.inl (GroupTables.SnapshotKept.of_eq rfl rfl userId)
  | admitCalled _ hadmit =>
      obtain ⟨hsnapshots, hrows, _⟩ := GroupTables.admitRefresh_some hadmit
      left
      refine ⟨GroupTables.published_of_eq hrows userId, ?_⟩
      simp only [CatalogueState.commit, hsnapshots, Table.find?_ensure]
      split
      · next heq =>
          rw [heq]
          cases hfind : s.tables.snapshots.find? _ with
          | none => exact Or.inr ⟨rfl, rfl⟩
          | some snapshot => exact Or.inl rfl
      · exact Or.inl rfl
  | claim _ hclaim =>
      obtain ⟨_, _, _, hsnapshots, hrows⟩ := GroupTables.claim_some hclaim
      exact Or.inl (GroupTables.SnapshotKept.of_eq hrows hsnapshots userId)
  | stage _ hstage =>
      obtain ⟨_, _, _, hsnapshots, hrows⟩ := GroupTables.stage_some hstage
      exact Or.inl (GroupTables.SnapshotKept.of_eq hrows hsnapshots userId)
  | @publish w job loop guardNow updateNow told tables hworker hfinished hpublish =>
      have hpublished := GroupTables.published_publish hpublish userId
      obtain ⟨hguard, _, _, hsnapshots, _⟩ := GroupTables.publish_some hpublish
      have hfind := @GroupTables.find?_refreshed s.tables job updateNow userId
      rw [← hsnapshots] at hfind
      by_cases huser : userId = job.userId
      · rw [if_pos huser] at hpublished hfind
        subst huser
        obtain ⟨row, hcurrent, _⟩ := GroupTables.runningGuard_row hguard
        obtain ⟨hrow, _⟩ := GroupTables.current_eq_some.mp hcurrent
        have hthere := hinv.jobs.snapshots row (Table.mem_of_find? hrow)
        rw [Table.key_of_find? hrow] at hthere
        obtain ⟨snapshot, hsnapshot⟩ := Option.ne_none_iff_exists'.mp hthere
        rw [hsnapshot] at hfind
        exact Or.inr ⟨job, loop,
          ⟨w, guardNow, updateNow, told, rfl, hworker, hguard, snapshot, hsnapshot, hfind⟩,
          rfl, hfinished, hpublished⟩
      · rw [if_neg huser] at hpublished hfind
        exact Or.inl ⟨hpublished, Or.inl hfind⟩

end Step

/-! ## What a job has staged -/

/-- The groups an invocation has staged so far, as long as it works on its job. -/
def RefreshStage.groups? : RefreshStage → Option (List Group)
  | .claimed | .versioned _ => some []
  | .reading loop | .asked loop _ | .answered loop _ _ | .parsed loop _ | .confirmed loop _ =>
      some loop.groups
  | .selected | .failing | .ended => none

theorem QuietMove.groups {s : CatalogueState} {job : RefreshJob} {stage stage' : RefreshStage}
    (h : QuietMove s job stage stage') {groups : List Group}
    (hgroups : stage'.groups? = some groups) : stage.groups? = some groups := by
  cases h with
  | version | grant | asked | answered | parsed | confirmed => exact hgroups
  | thrown => cases hgroups
  | ended => cases hgroups

/-- Until its deadline a running job has staged what its invocation accepted. -/
def StagedInv (s : CatalogueState) : Prop :=
  ∀ w worker groups row, s.workers w = some worker → worker.stage.groups? = some groups →
    s.tables.current worker.job = some row → row.state = .running →
    s.clock < row.deadlineAtUs →
    s.tables.staged worker.job.userId worker.job.jobId = groups

namespace StagedInv

variable {s s' : CatalogueState}

theorem init (h : s.Initial) : StagedInv s := by
  intro w worker groups row hworker
  rw [h.2.1] at hworker
  cases hworker

/-- The other invocations, when one of them changes its own job and rows. -/
theorem others (hinv : StagedInv s) {w : Nat} {job : RefreshJob}
    (hother : ∀ v worker, s.workers v = some worker → worker.stage.groups? ≠ none → v ≠ w →
      ∀ row, s'.tables.current worker.job = some row → row.state = .running →
        s.tables.current worker.job = some row ∧
        s'.tables.staged worker.job.userId worker.job.jobId =
          s.tables.staged worker.job.userId worker.job.jobId)
    (hclock : s.clock ≤ s'.clock) {stage : RefreshStage}
    (hworkers : s'.workers = Function.update s.workers w (some ⟨job, stage⟩))
    (hself : ∀ groups row, stage.groups? = some groups → s'.tables.current job = some row →
      row.state = .running → s'.clock < row.deadlineAtUs →
      s'.tables.staged job.userId job.jobId = groups) : StagedInv s' := by
  intro v worker groups row hv hgroups hcurrent hrunning hdeadline
  rw [hworkers] at hv
  by_cases hvw : v = w
  · subst hvw
    rw [Function.update_self] at hv
    cases hv
    exact hself groups row hgroups hcurrent hrunning hdeadline
  · rw [Function.update_of_ne hvw] at hv
    have hsome : worker.stage.groups? ≠ none := by
      rw [hgroups]
      exact Option.some_ne_none groups
    obtain ⟨hcurrent', hstaged⟩ := hother v worker hv hsome hvw row hcurrent hrunning
    rw [hstaged]
    exact hinv v worker groups row hv hgroups hcurrent' hrunning (hclock.trans_lt hdeadline)

/-- Jobs of different invocations have different ids. -/
theorem apart (hcat : CatalogueInv s) {v w : Nat} {worker : RefreshWorker} {job : RefreshJob}
    {stage : RefreshStage} (hv : s.workers v = some worker)
    (hsome : worker.stage.groups? ≠ none) (hw : s.workers w = some ⟨job, stage⟩)
    (hstage : stage ≠ .selected) (hne : v ≠ w) : worker.job.jobId ≠ job.jobId := by
  intro heq
  apply hne
  apply hcat.alone v w worker ⟨job, stage⟩ hv hw _ hstage heq
  intro hselected
  rw [hselected] at hsome
  exact hsome rfl

theorem step {event : CatalogueEvent} (hcat : CatalogueInv s) (hinv : StagedInv s)
    (h : CatalogueMove s event s') (hforward : (s.clock :: event.readings).Pairwise (· ≤ ·)) :
    StagedInv s' := by
  cases h with
  | relink db => exact hinv
  | expire failNow deleteNow =>
      simp only [CatalogueEvent.readings, List.pairwise_cons, List.mem_cons] at hforward
      have hfail : s.clock ≤ failNow := hforward.1 failNow (Or.inl rfl)
      have hdelete : failNow ≤ deleteNow := hforward.2.1 deleteNow (Or.inl rfl)
      intro w worker groups row hworker hgroups hcurrent hrunning hdeadline
      obtain ⟨hfind, hid⟩ := GroupTables.current_eq_some.mp hcurrent
      have hfound : (s.tables.expire failNow deleteNow).refresh.find? worker.job.userId =
          some row := hfind
      obtain ⟨old, hold, hrow⟩ :=
        Option.map_eq_some_iff.mp ((GroupTables.find?_expire _ _ _).symm.trans hfound)
      split at hrow
      · rw [← hrow] at hrunning
        cases hrunning
      · -- a row that is running now was not expired by the update
        subst hrow
        have hstaged : (s.tables.expire failNow deleteNow).staged worker.job.userId
            worker.job.jobId = s.tables.staged worker.job.userId worker.job.jobId := by
          apply GroupTables.staged_deleteWhere rfl
          intro other _ huser hjob
          simp only [Bool.not_eq_false', List.any_eq_true, decide_eq_true_eq]
          exact ⟨old, Table.mem_of_find? hfound,
            (Table.key_of_find? hfound).trans huser.symm, hid.trans hjob.symm, hrunning, hdeadline⟩
        refine hstaged.trans ?_
        apply hinv w worker groups old hworker hgroups
          (GroupTables.current_eq_some.mpr ⟨hold, hid⟩) hrunning
        exact (hfail.trans hdelete).trans_lt hdeadline
  | @admitCalled auth grant jobId now tables hfresh hadmit =>
      simp only [CatalogueEvent.readings, List.pairwise_cons, List.mem_singleton] at hforward
      obtain ⟨_, _, hrows, hrefresh⟩ := GroupTables.admitRefresh_some hadmit
      intro w worker groups row hworker hgroups hcurrent hrunning hdeadline
      obtain ⟨hfind, hid⟩ := GroupTables.current_eq_some.mp hcurrent
      have hmem : row ∈ tables.refresh := Table.mem_of_find? hfind
      have hold : row ∈ s.tables.refresh := by
        rcases hrefresh with hsame | ⟨job, _, hjob, hmems⟩
        · rwa [hsame] at hmem
        · rcases (hmems row).mp hmem with rfl | ⟨hold, _⟩
          · -- the job of an invocation is older than the one admitted
            rw [← hjob, hid] at hfresh
            exact absurd (hcat.drawn w worker hworker) hfresh
          · exact hold
      have hcurrent' : s.tables.current worker.job = some row := by
        apply GroupTables.current_eq_some.mpr
        exact ⟨Table.find?_eq_some.mpr ⟨hold, Table.key_of_find? hfind⟩, hid⟩
      refine (GroupTables.staged_of_eq hrows _ _).trans ?_
      exact hinv w worker groups row hworker hgroups hcurrent' hrunning
        ((hforward.1 now rfl).trans_lt hdeadline)
  | @select w job hnone _ =>
      refine hinv.others ?_ le_rfl rfl ?_
      · intro v worker _ _ _ row hcurrent _
        exact ⟨hcurrent, rfl⟩
      · intro groups row hgroups
        cases hgroups
  | @claim w job guardNow updateNow told tables hworker hclaim =>
      simp only [CatalogueEvent.readings, List.pairwise_cons, List.mem_cons] at hforward
      have hclock : s.clock ≤ updateNow := hforward.1 updateNow (Or.inr (Or.inl rfl))
      obtain ⟨⟨claimed, hclaimed, hqueued⟩, hrefresh, hrows, _⟩ := GroupTables.claim_some hclaim
      obtain ⟨hclaimed, hclaimedId⟩ := GroupTables.current_eq_some.mp hclaimed
      apply hinv.others _ hclock rfl
      · intro groups row hgroups _ _ _
        have hempty : tables.staged job.userId job.jobId = [] := by
          simp only [GroupTables.staged, hrows]
          rw [Table.filter_deleteWhere_eq_nil]
          · rfl
          · intro row hboth
            exact decide_eq_true (of_decide_eq_true hboth).1
        cases told with
        | true =>
            cases hgroups
            exact hempty
        | false => cases hgroups
      · intro v worker hv hsome hvw row hcurrent _
        have hne : worker.job.jobId ≠ job.jobId := by
          intro heq
          apply hcat.taken v worker hv _ claimed (Table.mem_of_find? hclaimed)
            (hclaimedId.trans heq.symm) hqueued
          intro hselected
          rw [hselected] at hsome
          exact hsome rfl
        have hcurrent' := GroupTables.current_of_modifyWhere hrefresh (fun _ => rfl) hne hcurrent
        refine ⟨hcurrent', ?_⟩
        apply GroupTables.staged_deleteWhere hrows
        intro other _ huser hjob
        -- the row of the user is that of the claimed job
        apply decide_eq_false
        intro hsame
        obtain ⟨hfind, hid⟩ := GroupTables.current_eq_some.mp hcurrent'
        rw [← huser, hsame, hclaimed] at hfind
        cases hfind
        exact hne (hid.symm.trans hclaimedId)
  | @quiet event w job stage stage' hreadings _ hworker hquiet =>
      refine hinv.others ?_ le_rfl rfl ?_
      · intro v worker _ _ _ row hcurrent _
        exact ⟨hcurrent, rfl⟩
      · intro groups row hgroups hcurrent hrunning hdeadline
        exact hinv w ⟨job, stage⟩ groups row hworker (hquiet.groups hgroups) hcurrent hrunning
          hdeadline
  | @dropped w job hworker =>
      intro v worker groups row hv
      simp only [CatalogueState.setWorker] at hv
      by_cases hvw : v = w
      · subst hvw
        rw [Function.update_self] at hv
        cases hv
      · rw [Function.update_of_ne hvw] at hv
        exact hinv v worker groups row hv
  | @stage w job loop receipt now told tables hworker hstage =>
      simp only [CatalogueEvent.readings, List.pairwise_cons, List.mem_singleton] at hforward
      have hclock : s.clock ≤ now := hforward.1 now rfl
      obtain ⟨hguard, hrefresh, _⟩ := GroupTables.stage_some hstage
      have hcurrentEq : ∀ other, tables.current other = s.tables.current other := by
        intro other
        simp [GroupTables.current, hrefresh]
      apply hinv.others _ hclock rfl
      · intro groups row hgroups hcurrent hrunning hdeadline
        cases told with
        | false => cases hgroups
        | true =>
            cases hgroups
            have hbefore := hinv w ⟨job, .confirmed loop receipt⟩ loop.groups row hworker rfl
              ((hcurrentEq job).symm.trans hcurrent) hrunning (hclock.trans_lt hdeadline)
            have hstaged := GroupTables.staged_stage hstage job.userId job.jobId
            rw [if_pos ⟨rfl, rfl⟩] at hstaged
            rw [RefreshLoop.groups_push, ← hbefore]
            exact hstaged
      · intro v worker hv hsome hvw row hcurrent _
        have hne := apart hcat hv hsome hworker (by simp) hvw
        refine ⟨(hcurrentEq worker.job).symm.trans hcurrent, ?_⟩
        refine (GroupTables.staged_stage hstage _ _).trans (if_neg ?_)
        exact fun hboth => hne hboth.2
  | @publish w job loop guardNow updateNow told tables hworker _ hpublish =>
      simp only [CatalogueEvent.readings, List.pairwise_cons, List.mem_cons] at hforward
      have hclock : s.clock ≤ updateNow := hforward.1 updateNow (Or.inr (Or.inl rfl))
      obtain ⟨_, hrefresh, hrows, _⟩ := GroupTables.publish_some hpublish
      apply hinv.others _ hclock rfl
      · intro groups row hgroups
        cases told <;> cases hgroups
      · intro v worker hv hsome hvw row hcurrent _
        have hne := apart hcat hv hsome hworker (by simp) hvw
        refine ⟨GroupTables.current_of_modifyWhere hrefresh (fun _ => rfl) hne hcurrent, ?_⟩
        apply GroupTables.staged_deleteWhere hrows
        intro other _ _ hjob
        simp [hjob, hne]
  | @fail w job now hworker =>
      simp only [CatalogueEvent.readings, List.pairwise_cons, List.mem_singleton] at hforward
      have hclock : s.clock ≤ now := hforward.1 now rfl
      apply hinv.others _ hclock rfl
      · intro groups row hgroups
        cases hgroups
      · intro v worker hv hsome hvw row hcurrent _
        have hne := apart hcat hv hsome hworker (by simp) hvw
        have hid : ∀ row : RefreshJob,
            (if row.state.open then row.expire now else row).jobId = row.jobId := by
          intro row
          split <;> rfl
        refine ⟨GroupTables.current_of_modifyWhere (GroupTables.fail_eq now).1 hid hne hcurrent, ?_⟩
        apply GroupTables.staged_deleteWhere (GroupTables.fail_eq now).2.1
        intro other _ _ hjob
        simp [hjob, hne]

end StagedInv

/-! ## Runs -/

/-- The groups are those of one finished refresh: under one grant its pages, all of them
and in order, told the same page size, number of pages and total, and the groups they
listed are that many and distinct. -/
structure FinishedRefresh (job : RefreshJob) (loop : RefreshLoop) (groups : List Group) : Prop where
  grant : loop.For job
  agreed : loop.Agreed
  pages : loop.receipts.length = loop.pages
  size : ∀ receipt ∈ loop.receipts, ∃ root, pageRoot receipt.value = some root ∧
    (root.field "page").bind pageInteger = some receipt.number ∧
    pageSize root = some groupPageSize ∧
    (root.field "total").bind pageInteger = some groups.length
  total : loop.total = some groups.length
  listed : groups = loop.receipts.flatMap fun receipt => receipt.page.groups
  nodup : (groups.map Group.flickrGroupId).Nodup

/-- Where the snapshot of a user comes from: there is none yet, or a move of the run
published what a finished refresh under the recorded grant had found. -/
inductive SnapshotOrigin (trace : List (Move CatalogueState CatalogueEvent)) (t : CatalogueState)
    (userId : Token) : Prop
  | none : t.tables.published userId = [] →
      (∀ snapshot, t.tables.snapshots.find? userId = some snapshot →
        snapshot = ⟨userId, 0, none, none, none⟩) → SnapshotOrigin trace t userId
  | refresh {move : Move CatalogueState CatalogueEvent} {w : Nat} {guardNow updateNow : Us}
      {told : Bool} {job : RefreshJob} {loop : RefreshLoop} {snapshot : GroupSnapshot} :
      move ∈ trace → move.label = .publish w guardNow updateNow told →
      move.src.workers w = some ⟨job, .reading loop⟩ → job.userId = userId →
      FinishedRefresh job loop (t.tables.published userId) →
      t.tables.snapshots.find? userId = some snapshot →
      snapshot.refreshedAtUs = some updateNow → snapshot.linkRevision = some job.linkRevision →
      snapshot.generation = some job.generation → SnapshotOrigin trace t userId

section Runs

variable {s t : CatalogueState} {trace : List (Move CatalogueState CatalogueEvent)}

theorem CatalogueInv.run (hinv : CatalogueInv s) (hrun : Run catalogueStep s trace t) :
    CatalogueInv t := by
  induction hrun with
  | nil => exact hinv
  | snoc _ hstep ih => exact ih.step (CatalogueState.exec_move hstep)

theorem ForwardClock.front {move : Move CatalogueState CatalogueEvent}
    (h : ForwardClock (trace ++ [move])) : ForwardClock trace ∧ ForwardMove move :=
  ⟨fun m hm => h m (List.mem_append_left _ hm), h move (by simp)⟩

theorem StagedInv.run (hcat : CatalogueInv s) (hinv : StagedInv s)
    (hrun : Run catalogueStep s trace t) (hforward : ForwardClock trace) : StagedInv t := by
  induction hrun with
  | nil => exact hinv
  | snoc hrun hstep ih =>
      obtain ⟨hfront, hmove⟩ := hforward.front
      exact (ih hfront).step (hcat.run hrun) (CatalogueState.exec_move hstep) hmove

/-- A finished loop has read all pages, and as many groups as they told. -/
theorem RefreshLoop.finished_all {loop : RefreshLoop} (hagreed : loop.Agreed)
    (h : loop.finished) : loop.receipts.length = loop.pages ∧ loop.total = some loop.groups.length := by
  obtain ⟨hpages, htotal⟩ := h
  have hne : loop.receipts ≠ [] := by
    intro hnil
    simp [RefreshLoop.total, hnil] at htotal
  have hle := hagreed.length hne
  unfold RefreshLoop.page at hpages
  rw [loop.length_groups]
  exact ⟨by omega, htotal⟩

/-- Every snapshot comes from a finished refresh. -/
theorem SnapshotOrigin.of_run (hinit : s.Initial) (hrun : Run catalogueStep s trace t)
    (hforward : ForwardClock trace) (userId : Token) : SnapshotOrigin trace t userId := by
  induction hrun with
  | nil =>
      apply SnapshotOrigin.none
      · rw [hinit.1]
        rfl
      · intro snapshot hsnapshot
        rw [hinit.1] at hsnapshot
        cases hsnapshot
  | @snoc t u trace event hrun hstep ih =>
      obtain ⟨hfront, hmove⟩ := hforward.front
      have hinv := (CatalogueInv.init hinit).run hrun
      have hstaged := StagedInv.run (CatalogueInv.init hinit) (StagedInv.init hinit) hrun hfront
      rcases (CatalogueState.exec_move hstep).snapshot hinv userId with
        ⟨hpublished, hsnapshots⟩ | ⟨job, loop, hpublishes⟩
      · cases ih hfront with
        | none hempty hrow =>
            apply SnapshotOrigin.none
            · rw [hpublished, hempty]
            · intro snapshot hsnapshot
              rcases hsnapshots with hsame | ⟨_, hnew⟩
              · exact hrow snapshot (hsame.symm.trans hsnapshot)
              · exact (Option.some.inj (hnew.symm.trans hsnapshot)).symm
        | refresh hmem hlabel hworker hjob hfinished hsnapshot hrefreshed hlink hgeneration =>
            have hsame := hsnapshots.resolve_right (fun hnew => by
              rw [hsnapshot] at hnew
              cases hnew.1)
            exact SnapshotOrigin.refresh (List.mem_append_left _ hmem) hlabel hworker hjob
              (hpublished.symm ▸ hfinished) (hsame.trans hsnapshot) hrefreshed hlink hgeneration
      · obtain ⟨⟨w, guardNow, updateNow, told, rfl, hworker, hguard, snapshot, _, hsnapshot⟩,
          huser, hfinished, hpublished⟩ := hpublishes
        obtain ⟨hfor, hagreed⟩ := hinv.stages w _ hworker
        obtain ⟨row, hcurrent, hrunning, hdeadline, _⟩ := GroupTables.runningGuard_row hguard
        have hclock : t.clock ≤ guardNow := by
          have hreadings := hmove
          simp only [ForwardMove, CatalogueEvent.readings, List.pairwise_cons] at hreadings
          exact hreadings.1 guardNow (by simp)
        have hgroups := hstaged w _ loop.groups row hworker rfl hcurrent hrunning
          (hclock.trans_lt hdeadline)
        have hpublished : u.tables.published userId = loop.groups := by
          rw [hpublished, ← huser]
          exact hgroups
        obtain ⟨hpages, htotal⟩ := RefreshLoop.finished_all hagreed hfinished
        apply SnapshotOrigin.refresh (List.mem_append_right _ (List.mem_singleton_self _)) rfl
          hworker huser _ hsnapshot rfl rfl rfl
        rw [← hpublished] at htotal
        refine ⟨hfor, hagreed, hpages, ?_, htotal, hpublished, GroupTables.published_nodup _ _⟩
        intro receipt hreceipt
        obtain ⟨root, hroot, hpage, hsize, hcount, _⟩ :=
          validateGroupPage_some (hagreed.valid receipt hreceipt)
        have hsame : receipt.page.total = (u.tables.published userId).length :=
          Option.some.inj ((hagreed.totals receipt hreceipt).2.symm.trans htotal)
        exact ⟨root, hroot, hpage, hsize, hsame ▸ hcount⟩

/-! ## Revisions -/

/-- The revision of the snapshot of a user; a user without a row has published nothing. -/
def CatalogueState.snapshotRevision (s : CatalogueState) (userId : Token) : Nat :=
  ((s.tables.snapshots.find? userId).map GroupSnapshot.revision).getD 0

/-- A move publishes for the user exactly when it raises the revision, and then by one;
every other move leaves the revision and the groups. -/
theorem CatalogueMove.revision {s' : CatalogueState} {event : CatalogueEvent}
    (hinv : CatalogueInv s) (h : CatalogueMove s event s') (userId : Token) :
    (s'.snapshotRevision userId = s.snapshotRevision userId ∧
        s'.tables.published userId = s.tables.published userId) ∨
      (s'.snapshotRevision userId = s.snapshotRevision userId + 1 ∧
        ∃ job loop, PublishesSnapshot s event s' userId job loop) := by
  rcases h.snapshot hinv userId with ⟨hpublished, hsnapshots⟩ | ⟨job, loop, hpublishes⟩
  · left
    refine ⟨?_, hpublished⟩
    unfold CatalogueState.snapshotRevision
    rcases hsnapshots with hsame | ⟨hnone, hnew⟩
    · rw [hsame]
    · rw [hnone, hnew]
      rfl
  · right
    refine ⟨?_, job, loop, hpublishes⟩
    obtain ⟨⟨_, _, _, _, _, _, _, snapshot, hbefore, hafter⟩, _⟩ := hpublishes
    unfold CatalogueState.snapshotRevision
    rw [hbefore, hafter]
    rfl

/-- Revisions do not go back, and while one lasts the groups are the same. -/
theorem CatalogueInv.revision_run (hinv : CatalogueInv s) (hrun : Run catalogueStep s trace t)
    (userId : Token) :
    s.snapshotRevision userId ≤ t.snapshotRevision userId ∧
      (t.snapshotRevision userId = s.snapshotRevision userId →
        t.tables.published userId = s.tables.published userId) := by
  induction hrun with
  | nil => exact ⟨le_rfl, fun _ => rfl⟩
  | @snoc t u trace event hrun hstep ih =>
      obtain ⟨hle, hsame⟩ := ih
      rcases (CatalogueState.exec_move hstep).revision (hinv.run hrun) userId with
        ⟨hrevision, hpublished⟩ | ⟨hrevision, _⟩
      · rw [hrevision, hpublished]
        exact ⟨hle, hsame⟩
      · rw [hrevision]
        refine ⟨by omega, ?_⟩
        intro heq
        omega

end Runs

end FlickrGroupAddr

import FlickrGroupAddr.MembershipObservations

/-!
# Readers of observations

A call publishes what a complete read under one authority returned, and pages follow each
other through one publication.
-/

namespace FlickrGroupAddr

set_option autoImplicit false

open KeyedTable Program Workers Transition

/-! ## Calls -/

/-- What a call has asked, up to its first page or its cursor. -/
def authorityCallOf (auth : AdmissionAuth) (bindingId : Token) (binding : PhotoBinding)
    (grant : GrantSnapshot) : Call MembershipOp.Answer :=
  [⟨.authLive auth, .ok true⟩, ⟨.binding auth bindingId, .ok (some binding)⟩,
    ⟨.linkedGrant auth, .ok (some grant)⟩]

/-- The secrets and the contexts of a photo, read while the grant stands. -/
def contextsCall (auth : AdmissionAuth) (binding : PhotoBinding) (grant : GrantSnapshot)
    (grantSecret applicationSecret value : JsonValue) (pair app : String × String) :
    Call MembershipOp.Answer :=
  [⟨.grantSecret, .ok grantSecret⟩, ⟨.applicationSecret, .ok applicationSecret⟩,
    ⟨.linkedGrant auth, .ok (some grant)⟩, ⟨.getAllContexts binding.photoId pair app, .ok value⟩]

/-- The call took down its authority, opened the view and read these groups in time. -/
structure ReadBy (call : Call MembershipOp.Answer) (auth : AdmissionAuth) (grant : GrantSnapshot)
    (binding : PhotoBinding) (groups : List Group) : Prop where
  read : ∃ bindingId grantSecret applicationSecret value pair app,
    call = authorityCallOf auth bindingId binding grant ++
        [⟨.openView auth grant binding, .ok ()⟩, ⟨.started, true⟩] ++
        contextsCall auth binding grant grantSecret applicationSecret value pair app ++
        [⟨.inTime, true⟩] ∧
      grantPair grant.generation grantSecret = some pair ∧
      applicationPair applicationSecret = some app ∧
      rejectsGrant value = false ∧ validateMembership value = some groups

/-- What a call may ask and answer. -/
def membershipRule (call : Call MembershipOp.Answer) : MembershipOp → Prop
  | .replaceObservation auth grant binding groups => ReadBy call auth grant binding groups
  | .respond (.page page) => ∃ auth grant binding query observation rows,
      call.getLast? =
        some ⟨.pageRows auth grant binding query, .ok (observation, rows)⟩ ∧
      readPage grant binding query observation rows = .page page
  | _ => True

section Rules

variable {auth : AdmissionAuth} {call : Call MembershipOp.Answer} {grant : GrantSnapshot}
  {binding : PhotoBinding}

abbrev ReadRuns {α : Type} (post : α → Call MembershipOp.Answer → Prop)
    (call : Call MembershipOp.Answer) (x : MembershipThrows α) : Prop :=
  Runs (callMonitor membershipRule) post (fun _ _ => True) call x

open MembershipRead

theorem readAssert_runs {p : Prop} [Decidable p] {fault : MembershipFault}
    {post : Unit → Call MembershipOp.Answer → Prop} (hpost : p → post () call) :
    ReadRuns post call (assert p fault) := by
  unfold assert
  split
  · next hp => exact hpost hp
  · trivial

theorem readPresent_runs {α : Type} {value : Option α} {fault : MembershipFault}
    {post : α → Call MembershipOp.Answer → Prop} (hpost : ∀ found, value = some found → post found call) :
    ReadRuns post call (present value fault) := by
  cases value with
  | none => trivial
  | some found => exact hpost found rfl

theorem rejectPhotoGrant_runs {value : JsonValue} {post : Unit → Call MembershipOp.Answer → Prop}
    (hpost : rejectsGrant value = false → post () call) :
    ReadRuns post call (rejectPhotoGrant auth grant value) := by
  unfold rejectPhotoGrant
  split
  · refine ⟨trivial, ?_⟩
    intro answer
    cases answer <;> trivial
  · next hkept => exact hpost (Bool.eq_false_of_not_eq_true hkept)

theorem contexts_runs {post : List Group → Call MembershipOp.Answer → Prop}
    (hread : ∀ grantSecret applicationSecret value pair app groups,
      grantPair grant.generation grantSecret = some pair →
      applicationPair applicationSecret = some app → rejectsGrant value = false →
      validateMembership value = some groups →
      post groups (call ++ contextsCall auth binding grant grantSecret applicationSecret value
        pair app)) :
    ReadRuns post call (contexts auth grant binding) := by
  unfold contexts
  rw [ReadRuns, runs_bind]
  refine ⟨trivial, ?_⟩
  intro grantSecret
  cases grantSecret with
  | error fault => trivial
  | ok grantSecret =>
  show Runs _ _ _ _ (_ >>= _)
  rw [runs_bind]
  refine ⟨trivial, ?_⟩
  intro applicationSecret
  cases applicationSecret with
  | error fault => trivial
  | ok applicationSecret =>
  show Runs _ _ _ _ (_ >>= _)
  rw [runs_bind]
  apply readPresent_runs
  intro pair hpair
  rw [runs_bind]
  apply readPresent_runs
  intro app happ
  rw [runs_bind]
  refine ⟨trivial, ?_⟩
  intro linked
  cases linked with
  | error fault => trivial
  | ok linked =>
  show Runs _ _ _ _ (_ >>= _)
  rw [runs_bind]
  apply readAssert_runs
  rintro rfl
  rw [runs_bind]
  refine ⟨trivial, ?_⟩
  intro value
  cases value with
  | error fault => trivial
  | ok value =>
  show Runs _ _ _ _ (_ >>= _)
  rw [runs_bind]
  apply rejectPhotoGrant_runs
  intro hkept
  apply readPresent_runs
  intro groups hgroups
  have hpost := hread grantSecret applicationSecret value pair app groups hpair happ hkept hgroups
  simp only [contextsCall, callMonitor, List.append_assoc, List.cons_append,
    List.nil_append] at hpost ⊢
  exact hpost

theorem boundedRead_runs {post : List Group → Call MembershipOp.Answer → Prop}
    (hread : ∀ grantSecret applicationSecret value pair app groups,
      grantPair grant.generation grantSecret = some pair →
      applicationPair applicationSecret = some app → rejectsGrant value = false →
      validateMembership value = some groups →
      post groups (call ++ [⟨.started, true⟩] ++
        contextsCall auth binding grant grantSecret applicationSecret value pair app ++
        [⟨.inTime, true⟩])) :
    ReadRuns post call (boundedRead auth grant binding) := by
  unfold boundedRead
  rw [ReadRuns, runs_bind]
  refine ⟨trivial, ?_⟩
  intro started
  show Runs _ _ _ _ (_ >>= _)
  rw [runs_bind]
  apply readAssert_runs
  rintro rfl
  rw [runs_bind]
  apply contexts_runs
  intro grantSecret applicationSecret value pair app groups hpair happ hkept hgroups
  rw [runs_bind]
  refine ⟨trivial, ?_⟩
  intro inTime
  show Runs _ _ _ _ (_ >>= _)
  rw [runs_bind]
  apply readAssert_runs
  rintro rfl
  exact hread grantSecret applicationSecret value pair app groups hpair happ hkept hgroups

/-- The first page replaces the observation by what it read, and by nothing else. -/
theorem refresh_runs {bindingId : Token} :
    ReadRuns (fun _ _ => True) (authorityCallOf auth bindingId binding grant)
      (refresh auth grant binding) := by
  unfold refresh
  rw [ReadRuns, runs_bind]
  refine ⟨trivial, ?_⟩
  intro opened
  cases opened with
  | error fault => trivial
  | ok _ =>
      show Runs _ _ _ _ (_ >>= _)
      rw [runs_bind]
      apply boundedRead_runs
      intro grantSecret applicationSecret value pair app groups hpair happ hkept hgroups
      refine ⟨⟨bindingId, grantSecret, applicationSecret, value, pair, app, ?_, hpair, happ, hkept,
        hgroups⟩, ?_⟩
      · simp [callMonitor]
      · intro answer
        cases answer <;> trivial

/-- A call answers the page it read last. -/
theorem page_runs {query : PageQuery} :
    ReadRuns (fun response later => membershipRule later (.respond response)) call
      (page auth grant binding query) := by
  unfold page
  rw [ReadRuns, runs_bind]
  refine ⟨trivial, ?_⟩
  intro read
  cases read with
  | error fault => trivial
  | ok read =>
      obtain ⟨observation, rows⟩ := read
      show membershipRule _ (.respond (readPage grant binding query observation rows))
      cases hresponse : readPage grant binding query observation rows with
      | page page =>
          exact ⟨auth, grant, binding, query, observation, rows, by simp [callMonitor], hresponse⟩
      | _ => trivial

theorem serve_runs {bindingId : Token} {query : PageQuery} :
    ReadRuns (fun response later => membershipRule later (.respond response))
      (authorityCallOf auth bindingId binding grant) (servedPage auth grant binding query) := by
  unfold servedPage
  split
  · rw [ReadRuns, runs_bind]
    exact refresh_runs.imp (fun _ _ _ => page_runs) fun _ _ _ => trivial
  · exact page_runs

/-- The authority of a call, or an answer that is no page. -/
def AuthorityRead (auth : AdmissionAuth) (bindingId : Token) (call : Call MembershipOp.Answer) :
    Except MembershipResponse (PhotoBinding × GrantSnapshot) → Prop
  | .error response => ∀ later, membershipRule later (.respond response)
  | .ok authority => call = authorityCallOf auth bindingId authority.1 authority.2

theorem bindingAuthority_runs {bindingId : Token} :
    ReadRuns (fun result later => AuthorityRead auth bindingId later result) []
      (authority auth bindingId) := by
  unfold authority
  rw [ReadRuns, runs_bind]
  refine ⟨trivial, ?_⟩
  intro live
  cases live with
  | error fault => trivial
  | ok live =>
      cases live with
      | false => exact fun _ => trivial
      | true =>
          refine ⟨trivial, ?_⟩
          intro binding
          cases binding with
          | error fault => trivial
          | ok binding =>
              cases binding with
              | none => exact fun _ => trivial
              | some binding =>
                  refine ⟨trivial, ?_⟩
                  intro grant
                  cases grant with
                  | error fault => trivial
                  | ok grant =>
                      cases grant with
                      | none => exact fun _ => trivial
                      | some grant =>
                          show Runs _ _ _ _ (if _ then _ else _)
                          split
                          · exact rfl
                          · exact fun _ => trivial

/-- A response that is no page. -/
def MembershipResponse.refuses : MembershipResponse → Prop
  | .page _ => False
  | _ => True

theorem membershipRule_refuses {response : MembershipResponse}
    (h : MembershipResponse.refuses response) : membershipRule call (.respond response) := by
  cases response with
  | page page => cases h
  | _ => trivial

theorem failure_runs {grant : Option GrantSnapshot} :
    ReadRuns (fun response _ => MembershipResponse.refuses response) call
      (MembershipRead.failure auth grant) := by
  unfold MembershipRead.failure
  rw [ReadRuns, runs_bind]
  refine ⟨trivial, ?_⟩
  intro live
  cases live with
  | error fault => trivial
  | ok live =>
      cases live with
      | false => trivial
      | true =>
          cases grant with
          | none => trivial
          | some grant =>
              refine ⟨trivial, ?_⟩
              intro linked
              cases linked with
              | error fault => trivial
              | ok linked =>
                  show MembershipResponse.refuses (if _ then _ else _)
                  split <;> trivial

abbrev MembershipFollows (call : Call MembershipOp.Answer) (program : MembershipProg Unit) : Prop :=
  Program.Follows (callMonitor membershipRule) (fun _ _ => True) call program

theorem membershipRespond_follows {response : MembershipResponse}
    (h : membershipRule call (.respond response)) :
    MembershipFollows call (Prog.query (MembershipOp.respond response)) :=
  ⟨h, fun _ => trivial⟩

theorem readFailed_follows {grant : Option GrantSnapshot} :
    MembershipFollows call (respondFailed auth grant) := by
  unfold respondFailed
  rw [MembershipFollows, follows_bind]
  apply Program.Follows.imp failure_runs
  intro result later hresult
  cases result with
  | ok response => exact membershipRespond_follows (membershipRule_refuses hresult)
  | error fault => exact membershipRespond_follows trivial

/-- Every call follows the rule. -/
theorem photoMembershipsRequest_follows (bindingId : String) (params : List (String × String)) :
    MembershipFollows [] (photoMembershipsRequest auth bindingId params) := by
  unfold photoMembershipsRequest
  split
  · exact membershipRespond_follows trivial
  · next query hquery =>
      split
      · next hid =>
          rw [MembershipFollows, follows_bind]
          apply Program.Follows.imp bindingAuthority_runs
          intro result later hresult
          cases result with
          | error fault => exact readFailed_follows
          | ok result =>
              cases result with
              | error response => exact membershipRespond_follows (hresult later)
              | ok taken =>
                  obtain ⟨binding, grant⟩ := taken
                  cases hresult
                  show Program.Follows _ _ _ (_ >>= _)
                  rw [follows_bind]
                  apply Program.Follows.imp serve_runs
                  intro result later hresult
                  cases result with
                  | ok response => exact membershipRespond_follows hresult
                  | error fault => exact readFailed_follows
      · exact membershipRespond_follows trivial

end Rules

/-! ## Pages -/

/-- A page of these groups. -/
structure PageOf (groups : List Group) (query : PageQuery) (page : MembershipPage) : Prop where
  shown : page.groups = (Keyset.page groupKey groups query.after (query.size + 1)).take query.size
  next : page.nextAfterGroupId =
    if query.size < (Keyset.page groupKey groups query.after (query.size + 1)).length then
      ((Keyset.page groupKey groups query.after (query.size + 1)).take query.size).getLast?.map
        Group.flickrGroupId
    else none

/-- Pages of one revision that follow `nextAfterGroupId` from a cursor to the end. -/
inductive PagesFollow (revision : Nat) : String → List (PageQuery × MembershipPage) → Prop
  | last {cursor : String} {query : PageQuery} {page : MembershipPage} :
      query.after = cursor → page.observationRevision = revision →
      page.nextAfterGroupId = none → PagesFollow revision cursor [(query, page)]
  | more {cursor : String} {query : PageQuery} {page : MembershipPage} {next : Token}
      {rest : List (PageQuery × MembershipPage)} :
      query.after = cursor → page.observationRevision = revision →
      page.nextAfterGroupId = some next → PagesFollow revision next.text rest →
      PagesFollow revision cursor ((query, page) :: rest)

/-- Pages of the same groups make up the groups after the first cursor. -/
theorem PagesFollow.groups {groups : List Group} (hkeys : (groups.map groupKey).Nodup)
    {revision : Nat} {cursor : String} {pages : List (PageQuery × MembershipPage)}
    (h : PagesFollow revision cursor pages)
    (hpages : ∀ entry ∈ pages, PageOf groups entry.1 entry.2) :
    (pages.flatMap fun entry => entry.2.groups) = Keyset.after groupKey groups cursor := by
  induction h with
  | @last cursor query page hcursor _ hnone =>
      subst hcursor
      obtain ⟨hgroups, hnext⟩ := hpages _ List.mem_cons_self
      rw [hnone] at hnext
      simp only [List.flatMap_cons, List.flatMap_nil, List.append_nil]
      rw [hgroups]
      exact Keyset.take_page_end query.size_pos hnext.symm
  | @more cursor query page next rest hcursor _ hsome _ ih =>
      subst hcursor
      obtain ⟨hgroups, hnext⟩ := hpages _ List.mem_cons_self
      rw [hsome] at hnext
      obtain ⟨last, rfl, hrest⟩ := Keyset.take_page_next hkeys hnext.symm
      rw [List.flatMap_cons, ih fun entry hentry => hpages entry (List.mem_cons_of_mem _ hentry),
        hgroups]
      exact hrest

theorem PagesFollow.revision {revision : Nat} {cursor : String}
    {pages : List (PageQuery × MembershipPage)} (h : PagesFollow revision cursor pages) :
    pages ≠ [] ∧ ∀ entry ∈ pages, entry.2.observationRevision = revision := by
  induction h with
  | last _ hrevision _ => exact ⟨by simp, by simp [hrevision]⟩
  | more _ hrevision _ _ ih =>
      refine ⟨by simp, ?_⟩
      intro entry hentry
      rcases List.mem_cons.mp hentry with rfl | hentry
      · exact hrevision
      · exact ih.2 entry hentry

/-- What a page is read from. -/
theorem readPage_page {s : MembershipStore} {auth : AdmissionAuth} {grant : GrantSnapshot}
    {binding : PhotoBinding} {query : PageQuery} {observation : Option MembershipObservation}
    {rows : List Group} {page : MembershipPage}
    (hrows : s.pageRows auth grant binding query = some (observation, rows))
    (h : readPage grant binding query observation rows = .page page) :
    ¬ s.Retired binding.bindingId ∧
      page.observationRevision = s.revisionOf binding.bindingId ∧
      (query.revision = none ∨ query.revision = some page.observationRevision) ∧
      PageOf (s.observed binding.bindingId) query page := by
  obtain ⟨_, hrows⟩ := Option.ite_none_right_eq_some.mp hrows
  cases hrows
  unfold readPage at h
  split at h
  · cases h
  · next observation hobservation =>
      split at h
      · next hshown =>
          cases h
          refine ⟨?_, ?_, hshown.2.2.2, rfl, rfl⟩
          · intro hretired
            rw [hretired observation hobservation] at hshown
            cases hshown.1
          · simp [MembershipStore.revisionOf, hobservation]
      · cases h

section Fence

variable {ι : Type} [DecidableEq ι]

/-- The move reads a page. -/
structure ReadsPage (move : MembershipMove ι) (i : ι) (auth : AdmissionAuth) (grant : GrantSnapshot)
    (binding : PhotoBinding) (query : PageQuery) (page : MembershipPage) : Prop where
  reads : ∃ observation rows,
    move.label = .perform ⟨i, .pageRows auth grant binding query, .ok (observation, rows)⟩ ∧
      move.src.store.pageRows auth grant binding query = some (observation, rows) ∧
      readPage grant binding query observation rows = .page page

/-- A run of any calls for any photos. -/
structure MembershipViews (trace : List (MembershipMove ι)) : Prop where
  /-- Only a publication changes a revision or its groups. -/
  kept : ∀ move ∈ trace, ∀ bindingId,
    KeepsObservation move.src.store move.dst.store bindingId ∨
      ∃ groups, Publishes move bindingId (move.src.store.revisionOf bindingId + 1) groups
  /-- A publication is of a complete read of a call, whose authority still stands. -/
  published : ∀ front move back bindingId revision groups, trace = front ++ move :: back →
    Publishes move bindingId revision groups →
    (groups.map Group.flickrGroupId).Nodup ∧
    ∃ auth grant binding, binding.bindingId = bindingId ∧
      CurrentBinding move.src.store auth grant binding ∧
      ∃ i first rest, front = first ++ rest ∧ ReadBy (callOf i first) auth grant binding groups
  rising : ∀ front first middle second back bindingId revision revision' groups groups',
    trace = front ++ first :: middle ++ second :: back →
    Publishes first bindingId revision groups → Publishes second bindingId revision' groups' →
    revision < revision'
  /-- A page that is answered was read before. -/
  answered : ∀ front move back i page answer, trace = front ++ move :: back →
    move.label.tells ⟨i, .respond (.page page), answer⟩ →
    ∃ read ∈ front, ∃ auth grant binding query, ReadsPage read i auth grant binding query page
  /-- A page is one of a publication before it, under the revision that was asked for. -/
  paged : ∀ front read back i auth grant binding query page, trace = front ++ read :: back →
    ReadsPage read i auth grant binding query page →
    (query.revision = none ∨ query.revision = some page.observationRevision) ∧
    ∃ source ∈ front, ∃ groups,
      Publishes source binding.bindingId page.observationRevision groups ∧
      PageOf groups query page
  /-- Pages that follow each other are the groups of one publication, each once and in order. -/
  followed : ∀ bindingId revision pages, PagesFollow revision "" pages →
    (∀ entry ∈ pages, ∃ read ∈ trace, ∃ i auth grant binding, binding.bindingId = bindingId ∧
      ReadsPage read i auth grant binding entry.1 entry.2) →
    ∃ source ∈ trace, ∃ groups, Publishes source bindingId revision groups ∧
      (pages.flatMap fun entry => entry.2.groups) = Keyset.ordered groupKey groups
  /-- Otherwise the answer to a read is that the observation changed. -/
  changed : ∀ move ∈ trace, ∀ i auth grant binding query observation rows,
    move.label = .perform ⟨i, .pageRows auth grant binding query, .ok (observation, rows)⟩ →
    (∃ page, ReadsPage move i auth grant binding query page) ∨
      readPage grant binding query observation rows = .observationChanged
  /-- What is read after a view was opened was published after it. -/
  opened : ∀ front view middle read back i auth grant binding query page,
    trace = front ++ view :: middle ++ read :: back → Opens view binding.bindingId →
    ReadsPage read i auth grant binding query page →
    ∃ source ∈ middle, ∃ groups,
      Publishes source binding.bindingId page.observationRevision groups

/-- No photo was observed yet. -/
def MembershipStore.Unobserved (s : MembershipStore) : Prop :=
  s.observations = .empty ∧ s.rows = .empty

variable {start p : MembershipPool ι} {trace : List (MembershipMove ι)} {move : MembershipMove ι}

/-- How a worker came to know the rows of a page. -/
theorem pageRows_told (hstep : PoolStep membershipMachine move.src move.label move.dst) {i : ι}
    {auth : AdmissionAuth} {grant : GrantSnapshot} {binding : PhotoBinding} {query : PageQuery}
    {observation : Option MembershipObservation} {rows : List Group}
    (htells : move.label.tells ⟨i, .pageRows auth grant binding query, .ok (observation, rows)⟩) :
    move.label = .perform ⟨i, .pageRows auth grant binding query, .ok (observation, rows)⟩ ∧
      move.src.store.pageRows auth grant binding query = some (observation, rows) := by
  obtain ⟨src, label, dst⟩ := move
  dsimp only at hstep htells
  rcases htells with rfl | rfl
  · cases hstep with
    | perform hasks hserve =>
        refine ⟨rfl, ?_⟩
        obtain ⟨hanswer, _⟩ := hserve
        split at hanswer
        · cases hanswer
        · next read hread =>
            cases hanswer
            exact hread
  · cases hstep with
    | lose hasks hlost => cases hlost

theorem membershipPrograms (program : Prog MembershipOp.Answer Unit)
    (h : membershipMachine.program program) : MembershipFollows [] program := by
  obtain ⟨auth, bindingId, params, rfl⟩ := h
  exact photoMembershipsRequest_follows bindingId params

/-- A page is one of a publication before it. -/
theorem page_published {init : MembershipPool ι} (hretired : ∀ bindingId, init.store.Retired bindingId)
    {front : List (MembershipMove ι)} {read : MembershipMove ι}
    (hrun : Run (PoolStep membershipMachine) init front read.src)
    {i : ι} {auth : AdmissionAuth} {grant : GrantSnapshot} {binding : PhotoBinding}
    {query : PageQuery} {page : MembershipPage}
    (hread : ReadsPage read i auth grant binding query page) :
    ∃ source ∈ front, ∃ groups,
      Publishes source binding.bindingId page.observationRevision groups ∧
      PageOf groups query page := by
  obtain ⟨observation, rows, _, hrows, hpage⟩ := hread
  obtain ⟨hshown, hrevision, _, hof⟩ := readPage_page hrows hpage
  rcases published_since (hretired binding.bindingId) hrun with hnone | ⟨source, hsource, hpublish⟩
  · exact absurd hnone hshown
  · rw [hrevision]
    exact ⟨source, hsource, _, hpublish, hof⟩

theorem MembershipStore.Unobserved.retired {s : MembershipStore} (h : s.Unobserved)
    (bindingId : Token) : s.Retired bindingId := by
  intro observation hobservation
  rw [h.1] at hobservation
  cases hobservation

/-- Whatever the calls, a reader of a photo sees whole observations, and no retired ones. -/
theorem membership_views (hstart : PoolInitial MembershipStore.Unobserved start)
    (hrun : Run (PoolStep membershipMachine) start trace p) : MembershipViews trace := by
  have hpaged : ∀ front read back i auth grant binding query page, trace = front ++ read :: back →
      ReadsPage read i auth grant binding query page →
      ∃ source ∈ front, ∃ groups,
        Publishes source binding.bindingId page.observationRevision groups ∧
        PageOf groups query page := by
    rintro front read back i auth grant binding query page rfl hread
    exact page_published hstart.store.retired hrun.around.1 hread
  constructor
  · intro move hmove bindingId
    obtain ⟨front, back, rfl⟩ := List.append_of_mem hmove
    exact move_observation move hrun.around.2.1 bindingId
  · rintro front move back bindingId revision groups rfl hpublish
    have hnodup := MembershipStore.observed_nodup move.dst.store bindingId
    rw [hpublish.after.2] at hnodup
    obtain ⟨⟨auth, grant, binding, now, hserved, hbinding, hreplace⟩, _⟩ := hpublish
    exact ⟨hnodup, auth, grant, binding, hbinding,
      (MembershipStore.replaceObservation_eq_some hreplace).1.current,
      run_served membershipPrograms hstart hrun hserved⟩
  · rintro front first middle second back bindingId revision revision' groups groups' rfl
    exact publications_rise hrun
  · rintro front move back i page answer rfl htells
    obtain ⟨auth, grant, binding, query, observation, rows, hlast, hpage⟩ :=
      run_asked membershipPrograms hstart hrun htells
    obtain ⟨read, hread, hreads⟩ := mem_callOf (List.mem_of_getLast? hlast)
    obtain ⟨before, after, rfl⟩ := List.append_of_mem hread
    obtain ⟨hlabel, hrows⟩ := pageRows_told hrun.around.1.around.2.1 hreads
    exact ⟨read, hread, auth, grant, binding, query, observation, rows, hlabel, hrows, hpage⟩
  · intro front read back i auth grant binding query page htrace hread
    refine ⟨?_, hpaged front read back i auth grant binding query page htrace hread⟩
    obtain ⟨observation, rows, _, hrows, hpage⟩ := hread
    exact (readPage_page hrows hpage).2.2.1
  · intro bindingId revision pages hfollow hreads
    have hsources : ∀ entry ∈ pages, ∃ source ∈ trace, ∃ groups,
        Publishes source bindingId revision groups ∧ PageOf groups entry.1 entry.2 := by
      intro entry hentry
      obtain ⟨read, hread, i, auth, grant, binding, rfl, hpage⟩ := hreads entry hentry
      obtain ⟨front, back, htrace⟩ := List.append_of_mem hread
      obtain ⟨source, hsource, groups, hpublish, hof⟩ :=
        hpaged front read back i auth grant binding entry.1 entry.2 htrace hpage
      rw [hfollow.revision.2 entry hentry] at hpublish
      refine ⟨source, ?_, groups, hpublish, hof⟩
      rw [htrace]
      exact List.mem_append_left _ hsource
    obtain ⟨first, hfirst⟩ := List.exists_mem_of_ne_nil _ hfollow.revision.1
    obtain ⟨source, hsource, groups, hpublish, _⟩ := hsources first hfirst
    have hnodup := MembershipStore.observed_nodup source.dst.store bindingId
    rw [hpublish.after.2] at hnodup
    refine ⟨source, hsource, groups, hpublish, ?_⟩
    rw [hfollow.groups (groupKey_nodup hnodup), Keyset.after_eq_ordered fun group _ => groupKey_pos group]
    intro entry hentry
    obtain ⟨other, hother, groups', hpublish', hof⟩ := hsources entry hentry
    rw [publication_unique hrun hsource hother hpublish hpublish']
    exact hof
  · intro move hmove i auth grant binding query observation rows hlabel
    obtain ⟨front, back, rfl⟩ := List.append_of_mem hmove
    obtain ⟨_, hrows⟩ := pageRows_told hrun.around.2.1 (Or.inl hlabel)
    cases hresponse : readPage grant binding query observation rows with
    | page page => exact Or.inl ⟨page, observation, rows, hlabel, hrows, hresponse⟩
    | observationChanged => exact Or.inr rfl
    | _ =>
        unfold readPage at hresponse
        split at hresponse
        · cases hresponse
        · split at hresponse <;> cases hresponse
  · rintro front view middle read back i auth grant binding query page rfl hopens hread
    have hbefore := hrun.around.1
    obtain ⟨_, _, hmiddle⟩ := hbefore.around
    obtain ⟨observation, rows, _, hrows, hpage⟩ := hread
    obtain ⟨hshown, hrevision, _, _⟩ := readPage_page hrows hpage
    have hretired : view.dst.store.Retired binding.bindingId := by
      obtain ⟨auth', grant', binding', _, hbinding, hopened⟩ := hopens
      rw [← hbinding]
      exact (MembershipStore.openView_eq_some hopened).2.1
    rcases published_since hretired hmiddle with hnone | ⟨source, hsource, hpublish⟩
    · exact absurd hnone hshown
    · rw [hrevision]
      exact ⟨source, hsource, _, hpublish⟩

end Fence

namespace MembershipSample

def user : Token := ⟨"user-1", Eq.refl true⟩
def installation : Token := ⟨"installation-1", Eq.refl true⟩
def version : Token := ⟨"version-1", Eq.refl true⟩
def generation : Token := ⟨"generation-1", Eq.refl true⟩
def photo : Token := ⟨"photo-1", Eq.refl true⟩
def birds : Group := ⟨⟨"1@N01", Eq.refl true⟩, "Birds"⟩
def boats : Group := ⟨⟨"2@N02", Eq.refl true⟩, "Boats"⟩
def auth : AdmissionAuth := ⟨installation, "digest-1"⟩

/-- A linked user with one plugin and one verified photo. -/
def start : MembershipStore where
  db :=
    { emptyDb with
      flickr :=
        { emptyDb.flickr with
          links := ⟨[⟨user, "1@N01", 1, .linked⟩], by decide⟩
          credentials := ⟨[⟨user, generation, 1, "1@N01", .write, none⟩], by decide⟩
          bindings := ⟨[⟨photo, user, photo, "1@N01", 1, 1, .existingPublic, 0⟩], by decide⟩ }
      installations := ⟨[⟨installation, user, true, true, some version⟩], by decide⟩
      versions := ⟨[⟨version, installation, .current, "digest-1"⟩], by decide⟩ }
  observations := .empty
  rows := .empty

def grantSecret : JsonValue :=
  .object [("schemaVersion", .number 1), ("generation", .text "generation-1"),
    ("token", .text "token-1"), ("tokenSecret", .text "secret-1")]

def applicationSecret : JsonValue :=
  .object [("schemaVersion", .number 1), ("consumerKey", .text "key-1"),
    ("consumerSecret", .text "secret-2")]

/-- The photo is in two groups and in one album. -/
def value : JsonValue :=
  .object
    [("stat", .text "ok"),
      ("pool", .array
        [.object [("id", .text "2@N02"), ("title", .text "Boats")],
          .object [("id", .text "1@N01"), ("title", .text "Birds")]]),
      ("set", .array [.object [("id", .text "album-1"), ("title", .text "")]])]

/-- The answer of a batch, and the store it leaves. -/
def settle (s : MembershipStore) (batch : Option MembershipStore) :
    Except MembershipFault Unit × MembershipStore :=
  match batch with
  | none => (.error .unavailable, s)
  | some after => (.ok (), after)

theorem settle_serves {s s' : MembershipStore} {batch : Option MembershipStore}
    {answer : Except MembershipFault Unit} (h : settle s batch = (answer, s')) :
    batchServes s batch answer s' := by
  cases batch with
  | none =>
      cases h
      exact ⟨rfl, rfl⟩
  | some after =>
      cases h
      exact ⟨rfl, rfl⟩

def oracle (s : MembershipStore) : (o : MembershipOp) → Option (o.Answer × MembershipStore)
  | .authLive auth => some (.ok (photoAuthLive s.db auth), s)
  | .binding auth bindingId => some (.ok (s.binding auth bindingId), s)
  | .linkedGrant auth => some (.ok (FlickrGroupAddr.linkedGrant s.db auth), s)
  | .openView auth grant binding => some (settle s (s.openView auth grant binding))
  | .started => some (true, s)
  | .grantSecret => some (.ok grantSecret, s)
  | .applicationSecret => some (.ok applicationSecret, s)
  | .getAllContexts .. => some (.ok value, s)
  | .rejectGrant .. => none
  | .inTime => some (true, s)
  | .replaceObservation auth grant binding groups =>
      some (settle s (s.replaceObservation auth grant binding groups 7))
  | .pageRows auth grant binding query =>
      (s.pageRows auth grant binding query).map fun read => (.ok read, s)
  | .respond _ => some ((), s)

theorem oracle_serve (s : MembershipStore) (o : MembershipOp) (answer : o.Answer)
    (s' : MembershipStore) (h : oracle s o = some (answer, s')) :
    membershipMachine.serve s o answer s' := by
  cases o with
  | authLive | binding | linkedGrant =>
      cases h
      exact ⟨rfl, rfl⟩
  | started | grantSecret | applicationSecret | getAllContexts | inTime | respond =>
      cases h
      exact rfl
  | openView auth grant binding => exact settle_serves (Option.some.inj h)
  | replaceObservation auth grant binding groups => exact ⟨7, settle_serves (Option.some.inj h)⟩
  | pageRows auth grant binding query =>
      obtain ⟨read, hread, h⟩ := Option.map_eq_some_iff.mp h
      cases h
      show _ = _ ∧ _
      rw [hread]
      exact ⟨rfl, rfl⟩
  | rejectGrant => cases h

/-- A first page of one group, and the page after it. -/
def calls : List (MembershipProg Unit) :=
  [photoMembershipsRequest auth "photo-1" [("page_size", "1")],
    photoMembershipsRequest auth "photo-1"
      [("page_size", "1"), ("observation_revision", "1"), ("after_group_id", "1@N01")]]

def pool : MembershipPool Unit := (Pool.idle start).playAll oracle () 20 calls

/-- The pages that were answered, the last one first. -/
def pages : List MembershipPage :=
  pool.log.filterMap fun entry =>
    match entry.op with
    | .respond (.page page) => some page
    | _ => none

end MembershipSample

theorem membership_views_sample :
    ∃ trace, Run (PoolStep membershipMachine) (Pool.idle MembershipSample.start) trace
        MembershipSample.pool ∧
      MembershipViews trace ∧
      MembershipSample.pages =
        [⟨MembershipSample.photo, MembershipSample.photo, 1, 7, [MembershipSample.boats], none⟩,
          ⟨MembershipSample.photo, MembershipSample.photo, 1, 7, [MembershipSample.birds],
            some ⟨"1@N01", Eq.refl true⟩⟩] := by
  have hprograms : ∀ program ∈ MembershipSample.calls, membershipMachine.program program := by
    intro program hprogram
    simp only [MembershipSample.calls, List.mem_cons, List.not_mem_nil, or_false] at hprogram
    rcases hprogram with rfl | rfl
    · exact ⟨_, _, _, rfl⟩
    · exact ⟨_, _, _, rfl⟩
  obtain ⟨trace, hrun⟩ := Pool.run_playAll MembershipSample.oracle_serve () 20 hprograms
    (Pool.idle MembershipSample.start)
  have hstart : MembershipSample.start.Unobserved := ⟨rfl, rfl⟩
  have hviews := membership_views ⟨hstart, fun _ => rfl, rfl, rfl⟩ hrun
  refine ⟨trace, hrun, hviews, ?_⟩
  decide +kernel

end FlickrGroupAddr

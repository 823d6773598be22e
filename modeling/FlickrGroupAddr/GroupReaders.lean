import FlickrGroupAddr.GroupSnapshots

/-!
# Readers of the catalogue

A reader takes pages at any moments of a run; `GroupDiscoveryClient.lua` collects
them into one list.
-/

namespace FlickrGroupAddr

set_option autoImplicit false

open KeyedTable Transition

/-! ## One page -/

section Page

variable {t : GroupTables} {db : Db} {auth : AdmissionAuth} {grant : GrantSnapshot}
  {query : PageQuery} {now : Us} {page : DiscoveryPage}

theorem usableSnapshot_some {snapshot : GroupSnapshot} {refreshedAtUs : Us}
    (h : usableSnapshot t grant = some (snapshot, refreshedAtUs)) :
    t.snapshots.find? grant.userId = some snapshot := by
  obtain ⟨found, hfound, h⟩ := Option.bind_eq_some_iff.mp h
  obtain ⟨_, _, h⟩ := Option.bind_eq_some_iff.mp h
  obtain ⟨_, h⟩ := Option.ite_none_right_eq_some.mp h
  cases h
  exact hfound

/-- A page is taken from the snapshot under its revision, which is the one asked for. -/
theorem servePage_page (h : servePage t db auth grant query now = .page page) :
    (∃ snapshot, t.snapshots.find? grant.userId = some snapshot ∧
      page.snapshotRevision = snapshot.revision) ∧
    (query.revision = none ∨ query.revision = some page.snapshotRevision) ∧
    page.groups = (Keyset.page groupKey (t.published grant.userId) query.after
      (query.size + 1)).take query.size ∧
    page.nextAfterGroupId =
      if query.size < (Keyset.page groupKey (t.published grant.userId) query.after
          (query.size + 1)).length then
        page.groups.getLast?.map Group.flickrGroupId
      else none := by
  unfold servePage at h
  split at h
  · cases h
  dsimp only at h
  split at h
  · split at h
    · cases h
    · split at h <;> cases h
  · next snapshot refreshedAtUs husable =>
      split at h
      · cases h
      · next hrevision =>
          cases h
          refine ⟨⟨snapshot, usableSnapshot_some husable, rfl⟩, ?_, rfl, rfl⟩
          by_cases hnone : query.revision = none
          · exact Or.inl hnone
          · exact Or.inr (not_not.mp fun hne => hrevision ⟨hnone, hne⟩)

/-- A reader that asks for another revision than the published one is told so. -/
theorem servePage_changed (hauthority : authorityGuard db auth grant = true) {revision : Nat}
    (hquery : query.revision = some revision)
    (hrevision : ∀ snapshot, t.snapshots.find? grant.userId = some snapshot →
      snapshot.revision ≠ revision) :
    servePage t db auth grant query now = .snapshotChanged := by
  unfold servePage
  rw [if_neg (by simp [hauthority])]
  dsimp only
  split
  · rw [if_pos (by simp [hquery])]
  · next snapshot refreshedAtUs husable =>
      have hne := hrevision snapshot (usableSnapshot_some husable)
      rw [if_pos (by simp [hquery, Ne.symm hne])]

end Page

/-! ## Paging -/

/-- A reader of a user takes pages of one revision at moments of a run, following the
cursors to the end: `Paging userId revision cursor s groups t`. -/
inductive Paging (userId : Token) (revision : Nat) :
    String → CatalogueState → List Group → CatalogueState → Prop
  | last {cursor : String} {s t : CatalogueState}
      {trace : List (Move CatalogueState CatalogueEvent)} {auth : AdmissionAuth}
      {grant : GrantSnapshot} {query : PageQuery} {now : Us} {page : DiscoveryPage} :
      Run catalogueStep s trace t → grant.userId = userId → query.after = cursor →
      servePage t.tables t.db auth grant query now = .page page →
      page.snapshotRevision = revision → page.nextAfterGroupId = none →
      Paging userId revision cursor s page.groups t
  | more {cursor : String} {s t u : CatalogueState}
      {trace : List (Move CatalogueState CatalogueEvent)} {auth : AdmissionAuth}
      {grant : GrantSnapshot} {query : PageQuery} {now : Us} {page : DiscoveryPage} {next : Token}
      {rest : List Group} :
      Run catalogueStep s trace t → grant.userId = userId → query.after = cursor →
      servePage t.tables t.db auth grant query now = .page page →
      page.snapshotRevision = revision → page.nextAfterGroupId = some next →
      Paging userId revision next.text t rest u →
      Paging userId revision cursor s (page.groups ++ rest) u

/-- The page that ends a list, and one that does not. -/
theorem servePage_groups {t : GroupTables} {db : Db} {auth : AdmissionAuth}
    {grant : GrantSnapshot} {query : PageQuery} {now : Us} {page : DiscoveryPage}
    (h : servePage t db auth grant query now = .page page) :
    (page.nextAfterGroupId = none →
      page.groups = Keyset.after groupKey (t.published grant.userId) query.after) ∧
    (∀ next, page.nextAfterGroupId = some next →
      page.groups ++ Keyset.after groupKey (t.published grant.userId) next.text =
        Keyset.after groupKey (t.published grant.userId) query.after) := by
  obtain ⟨_, _, hgroups, hnext⟩ := servePage_page h
  have hkeys := groupKey_nodup (GroupTables.published_nodup t grant.userId)
  constructor
  · intro hnone
    rw [hnext, hgroups] at hnone
    rw [hgroups]
    exact Keyset.take_page_end query.size_pos hnone
  · intro next hsome
    rw [hnext, hgroups] at hsome
    rw [hgroups]
    obtain ⟨last, rfl, hrest⟩ := Keyset.take_page_next hkeys hsome
    exact hrest

theorem servePage_revision {t : CatalogueState} {auth : AdmissionAuth} {grant : GrantSnapshot}
    {query : PageQuery} {now : Us} {page : DiscoveryPage}
    (h : servePage t.tables t.db auth grant query now = .page page) :
    t.snapshotRevision grant.userId = page.snapshotRevision := by
  obtain ⟨⟨snapshot, hsnapshot, hrevision⟩, _⟩ := servePage_page h
  simp [CatalogueState.snapshotRevision, hsnapshot, hrevision]

theorem Paging.run {s t : CatalogueState} {userId : Token} {revision : Nat} {cursor : String}
    {groups : List Group} (h : Paging userId revision cursor s groups t) :
    ∃ trace, Run catalogueStep s trace t := by
  induction h with
  | last hrun => exact ⟨_, hrun⟩
  | more hrun _ _ _ _ _ _ ih =>
      obtain ⟨trace, hrest⟩ := ih
      exact ⟨_, hrun.append hrest⟩

/-- The pages of one revision make up the groups after the first cursor. -/
theorem Paging.groups {s t : CatalogueState} (hinv : CatalogueInv s) {userId : Token}
    {revision : Nat} {cursor : String} {groups : List Group}
    (h : Paging userId revision cursor s groups t) :
    t.snapshotRevision userId = revision ∧
      groups = Keyset.after groupKey (t.tables.published userId) cursor := by
  induction h with
  | last hrun huser hcursor hpage hrevision hnone =>
      subst huser hcursor
      refine ⟨(servePage_revision hpage).trans hrevision, ?_⟩
      exact (servePage_groups hpage).1 hnone
  | @more cursor s t u trace auth grant query now page next rest hrun huser hcursor hpage
      hrevision hnext _ ih =>
      subst huser hcursor
      have hmiddle := hinv.run hrun
      obtain ⟨hend, hrest⟩ := ih hmiddle
      refine ⟨hend, ?_⟩
      obtain ⟨_, hlater⟩ := Paging.run ‹Paging grant.userId revision next.text t rest u›
      have hsame := (hmiddle.revision_run hlater grant.userId).2
        (hend.trans ((servePage_revision hpage).trans hrevision).symm)
      rw [hrest, hsame]
      exact (servePage_groups hpage).2 next hnext

/-- The groups a reader that starts at the beginning gets: all of them, each once and in
order. -/
theorem Paging.all {s t : CatalogueState} (hinv : CatalogueInv s) {userId : Token}
    {revision : Nat} {groups : List Group} (h : Paging userId revision "" s groups t) :
    t.snapshotRevision userId = revision ∧
      groups = Keyset.ordered groupKey (t.tables.published userId) := by
  obtain ⟨hrevision, hgroups⟩ := h.groups hinv
  rw [Keyset.after_eq_ordered fun group _ => groupKey_pos group] at hgroups
  exact ⟨hrevision, hgroups⟩

/-! ## The client -/

/-- Where the client goes on. -/
structure DiscoveryCursor where
  snapshot : Nat
  after : Token
  refreshedAt : Int
deriving DecidableEq

/-- The loop variables of `discoverStored`. -/
structure DiscoveryClient where
  groups : List Group
  cursor : Option DiscoveryCursor
  pages : Nat
  restarts : Nat
  polls : Nat
  waited : Nat
deriving DecidableEq

inductive DiscoveryResult where
  | complete (groups : List Group) (snapshotRevision : Nat) (refreshedAt : Int)
      (snapshotStatus : SnapshotStatus) (refreshFailedAt : Option Int)
  | failed (state : String)
deriving DecidableEq

namespace DiscoveryClient

def start : DiscoveryClient := ⟨[], none, 0, 0, 0, 0⟩

/-- The request the client makes, `PAGE_SIZE` groups from its cursor on. -/
def query (client : DiscoveryClient) : PageQuery where
  size := 100
  revision := client.cursor.map DiscoveryCursor.snapshot
  after := (client.cursor.map fun cursor => cursor.after.text).getD ""
  size_pos := by decide
  size_le := by decide
  start := by
    intro hnone
    rw [Option.map_eq_none_iff.mp hnone]
    rfl

/-- `displayName`, on text that is already Unicode. -/
def validDisplayName (name : String) : Bool :=
  1 ≤ name.utf8ByteSize && name.utf8ByteSize ≤ 4096 && name.toList.length ≤ 1024 &&
    !name.toList.any controlChar

/-- `pageValid`. -/
def pageValid (page : DiscoveryPage) (after : Option Token) : Prop :=
  1 ≤ page.snapshotRevision ∧ page.snapshotRevision ≤ 9007199254740991 ∧
    (page.snapshotStatus = .staleRefreshFailed ↔ page.refreshFailedAt ≠ none) ∧
    page.groups.length ≤ 100 ∧
    (∀ group ∈ page.groups, validDisplayName group.displayName = true) ∧
    ((after.map Token.text).toList ++ page.groups.map groupKey).IsChain (· < ·) ∧
    ∀ next ∈ page.nextAfterGroupId,
      (page.groups.getLast?.map Group.flickrGroupId) = some next

instance (page : DiscoveryPage) (after : Option Token) : Decidable (pageValid page after) :=
  inferInstanceAs (Decidable (_ ∧ _ ∧ (_ ↔ _) ∧ _ ∧ (∀ group ∈ page.groups, _) ∧ _ ∧
    ∀ next ∈ page.nextAfterGroupId, _))

/-- `MAX_PAGES`, `MAX_GROUPS`, `MAX_PENDING_POLLS` and `MAX_WAIT_SECONDS`. -/
def maxPages : Nat := 100
def maxGroups : Nat := 10000
def maxPendingPolls : Nat := 12
def maxWaitSeconds : Nat := 60

/-- The seconds after which the server asks to come back. -/
def retryAfter : Nat := 60

/-- What the client does with an answer of `groupsRequest`. -/
def consume (client : DiscoveryClient) : GroupsAnswer → DiscoveryClient ⊕ DiscoveryResult
  | .page page =>
      if ¬ pageValid page (client.cursor.map DiscoveryCursor.after) then
        .inr (.failed "service_response_invalid")
      else if ∃ cursor ∈ client.cursor, cursor.snapshot ≠ page.snapshotRevision ∨
          cursor.refreshedAt ≠ page.refreshedAt then
        .inr (.failed "service_response_invalid")
      else if maxPages < client.pages + 1 ∨
          maxGroups < client.groups.length + page.groups.length then
        .inr (.failed "service_response_invalid")
      else
        match page.nextAfterGroupId with
        | none =>
            .inr (.complete (client.groups ++ page.groups) page.snapshotRevision page.refreshedAt
              page.snapshotStatus page.refreshFailedAt)
        | some next =>
            if maxPages ≤ client.pages + 1 then .inr (.failed "service_response_invalid")
            else
              .inl { client with
                groups := client.groups ++ page.groups
                pages := client.pages + 1
                cursor := some ⟨page.snapshotRevision, next, page.refreshedAt⟩ }
  | .refreshing =>
      if client.cursor ≠ none then .inr (.failed "service_response_invalid")
      else if maxPendingPolls < client.polls + 1 ∨ maxWaitSeconds < client.waited + retryAfter then
        .inr (.failed "retryable")
      else .inl { client with polls := client.polls + 1, waited := client.waited + retryAfter }
  | .snapshotChanged =>
      if 1 ≤ client.restarts then .inr (.failed "snapshot_changed")
      else .inl { client with groups := [], cursor := none, pages := 0,
                              restarts := client.restarts + 1 }
  | .refreshUnavailable => .inr (.failed "retryable")

end DiscoveryClient

/-- A client of a user has exchanged requests and answers along a run. -/
inductive Discovery (userId : Token) (s : CatalogueState) :
    DiscoveryClient → CatalogueState → Prop
  | start : Discovery userId s .start s
  | exchange {client client' : DiscoveryClient} {t u : CatalogueState}
      {trace : List (Move CatalogueState CatalogueEvent)} {auth : AdmissionAuth}
      {grant : GrantSnapshot} {now : Us} :
      Discovery userId s client t → Run catalogueStep t trace u → grant.userId = userId →
      client.consume (servePage u.tables u.db auth grant client.query now) = .inl client' →
      Discovery userId s client' u

/-- The client has the groups up to its cursor, of the revision it reads. -/
structure DiscoveryInv (userId : Token) (client : DiscoveryClient) (t : CatalogueState) : Prop where
  catalogue : CatalogueInv t
  start : client.cursor = none → client.groups = []
  reading : ∀ cursor, client.cursor = some cursor →
    ∃ seen trace, Run catalogueStep seen trace t ∧ CatalogueInv seen ∧
      seen.snapshotRevision userId = cursor.snapshot ∧
      client.groups ++ Keyset.after groupKey (seen.tables.published userId) cursor.after.text =
        Keyset.ordered groupKey (seen.tables.published userId)

/-- What a page adds to the groups the client has. -/
theorem DiscoveryInv.rest {userId : Token} {client : DiscoveryClient} {t u : CatalogueState}
    {trace : List (Move CatalogueState CatalogueEvent)} {auth : AdmissionAuth}
    {grant : GrantSnapshot} {now : Us} {page : DiscoveryPage}
    (hinv : DiscoveryInv userId client t) (hrun : Run catalogueStep t trace u)
    (huser : grant.userId = userId)
    (hpage : servePage u.tables u.db auth grant client.query now = .page page) :
    client.groups ++
        Keyset.after groupKey (u.tables.published userId) client.query.after =
      Keyset.ordered groupKey (u.tables.published userId) := by
  subst huser
  cases hcursor : client.cursor with
  | none =>
      have hquery : client.query.after = "" := by simp [DiscoveryClient.query, hcursor]
      rw [hinv.start hcursor, hquery, List.nil_append]
      exact Keyset.after_eq_ordered fun group _ => groupKey_pos group
  | some cursor =>
      obtain ⟨seen, front, hfront, hseen, hrevision, hgroups⟩ := hinv.reading cursor hcursor
      have hquery : client.query.after = cursor.after.text := by
        simp [DiscoveryClient.query, hcursor]
      have hfixed : client.query.revision = some cursor.snapshot := by
        simp [DiscoveryClient.query, hcursor]
      have hasked : page.snapshotRevision = cursor.snapshot := by
        rcases (servePage_page hpage).2.1 with hnone | hsome
        · rw [hfixed] at hnone
          cases hnone
        · exact (Option.some.inj (hfixed.symm.trans hsome)).symm
      have hsame := (hseen.revision_run (hfront.append hrun) grant.userId).2
        ((servePage_revision hpage).trans (hasked.trans hrevision.symm))
      rw [hquery, hsame]
      exact hgroups

theorem DiscoveryInv.exchange {userId : Token} {client client' : DiscoveryClient}
    {t u : CatalogueState} {trace : List (Move CatalogueState CatalogueEvent)}
    {auth : AdmissionAuth} {grant : GrantSnapshot} {now : Us}
    (hinv : DiscoveryInv userId client t) (hrun : Run catalogueStep t trace u)
    (huser : grant.userId = userId)
    (h : client.consume (servePage u.tables u.db auth grant client.query now) = .inl client') :
    DiscoveryInv userId client' u := by
  have hlater := hinv.catalogue.run hrun
  cases hanswer : servePage u.tables u.db auth grant client.query now with
  | page page =>
      rw [hanswer] at h
      dsimp only [DiscoveryClient.consume] at h
      split at h
      · cases h
      split at h
      · cases h
      split at h
      · cases h
      split at h
      · cases h
      next next hnext =>
      split at h
      · cases h
      cases h
      have hrest := hinv.rest hrun huser hanswer
      have hmore := (servePage_groups hanswer).2 next hnext
      refine ⟨hlater, by simp, ?_⟩
      intro cursor hcursor
      cases hcursor
      refine ⟨u, [], Run.nil u, hlater, ?_, ?_⟩
      · exact huser ▸ servePage_revision hanswer
      · subst huser
        rw [List.append_assoc, hmore]
        exact hrest
  | refreshing =>
      rw [hanswer] at h
      dsimp only [DiscoveryClient.consume] at h
      split at h
      · cases h
      next hnone =>
      split at h
      · cases h
      cases h
      refine ⟨hlater, hinv.start, ?_⟩
      intro cursor hcursor
      exact absurd hcursor (by simp [not_not.mp hnone])
  | snapshotChanged =>
      rw [hanswer] at h
      dsimp only [DiscoveryClient.consume] at h
      split at h
      · cases h
      cases h
      exact ⟨hlater, fun _ => rfl, by simp⟩
  | refreshUnavailable =>
      rw [hanswer] at h
      cases h

theorem Discovery.inv {userId : Token} {s t : CatalogueState} {client : DiscoveryClient}
    (hinv : CatalogueInv s) (h : Discovery userId s client t) : DiscoveryInv userId client t := by
  induction h with
  | start => exact ⟨hinv, fun _ => rfl, by simp [DiscoveryClient.start]⟩
  | exchange _ hrun huser hconsume ih => exact ih.exchange hrun huser hconsume

/-- A client that completes has all groups of the revision it reports, each once and in
order. -/
theorem Discovery.complete {userId : Token} {s t u : CatalogueState} {client : DiscoveryClient}
    {trace : List (Move CatalogueState CatalogueEvent)} {auth : AdmissionAuth}
    {grant : GrantSnapshot} {now : Us} {groups : List Group} {revision : Nat} {refreshedAt : Int}
    {status : SnapshotStatus} {failedAt : Option Int} (hinv : CatalogueInv s)
    (h : Discovery userId s client t) (hrun : Run catalogueStep t trace u)
    (huser : grant.userId = userId)
    (hresult : client.consume (servePage u.tables u.db auth grant client.query now) =
      .inr (.complete groups revision refreshedAt status failedAt)) :
    u.snapshotRevision userId = revision ∧
      groups = Keyset.ordered groupKey (u.tables.published userId) := by
  have hclient := h.inv hinv
  cases hanswer : servePage u.tables u.db auth grant client.query now with
  | page page =>
      rw [hanswer] at hresult
      dsimp only [DiscoveryClient.consume] at hresult
      split at hresult
      · cases hresult
      split at hresult
      · cases hresult
      split at hresult
      · cases hresult
      split at hresult
      · next hnone =>
          cases hresult
          refine ⟨huser ▸ servePage_revision hanswer, ?_⟩
          have hrest := hclient.rest hrun huser hanswer
          have hlast := (servePage_groups hanswer).1 hnone
          subst huser
          rw [hlast]
          exact hrest
      · split at hresult <;> cases hresult
  | refreshing =>
      rw [hanswer] at hresult
      dsimp only [DiscoveryClient.consume] at hresult
      split at hresult
      · cases hresult
      split at hresult <;> cases hresult
  | snapshotChanged =>
      rw [hanswer] at hresult
      dsimp only [DiscoveryClient.consume] at hresult
      split at hresult <;> cases hresult
  | refreshUnavailable =>
      rw [hanswer] at hresult
      cases hresult

/-! ## The catalogue -/

/-- From the empty catalogue on: a snapshot is what one finished refresh found, as long as
the clock did not run backwards; it changes, and its revision rises, exactly when a
finished job that is still running under its grant publishes; and whoever pages through
one revision gets all of its groups, each once and in order, or is told that it changed. -/
theorem group_catalogue_published {s t : CatalogueState}
    {trace : List (Move CatalogueState CatalogueEvent)} (hinit : s.Initial)
    (hrun : Run catalogueStep s trace t) (userId : Token) :
    (ForwardClock trace → SnapshotOrigin trace t userId) ∧
    (∀ event u, catalogueStep t event u →
      (u.snapshotRevision userId = t.snapshotRevision userId ∧
          u.tables.published userId = t.tables.published userId) ∨
        (u.snapshotRevision userId = t.snapshotRevision userId + 1 ∧
          ∃ job loop, PublishesSnapshot t event u userId job loop)) ∧
    (∀ revision groups u, Paging userId revision "" t groups u →
      u.snapshotRevision userId = revision ∧
        groups = Keyset.ordered groupKey (u.tables.published userId)) ∧
    (∀ auth (grant : GrantSnapshot) (query : PageQuery) now revision, grant.userId = userId →
      query.revision = some revision → t.snapshotRevision userId ≠ revision →
      authorityGuard t.db auth grant = true →
      servePage t.tables t.db auth grant query now = .snapshotChanged) ∧
    (∀ client u v back auth (grant : GrantSnapshot) now groups revision refreshedAt status failedAt,
      Discovery userId t client u → Run catalogueStep u back v → grant.userId = userId →
      client.consume (servePage v.tables v.db auth grant client.query now) =
        .inr (.complete groups revision refreshedAt status failedAt) →
      v.snapshotRevision userId = revision ∧
        groups = Keyset.ordered groupKey (v.tables.published userId)) := by
  have hinv := (CatalogueInv.init hinit).run hrun
  refine ⟨fun hforward => SnapshotOrigin.of_run hinit hrun hforward userId, ?_, ?_, ?_, ?_⟩
  · intro event u hstep
    exact (CatalogueState.exec_move hstep).revision hinv userId
  · intro revision groups u hpaging
    exact hpaging.all hinv
  · intro auth grant query now revision huser hquery hrevision hauthority
    apply servePage_changed hauthority hquery
    intro snapshot hsnapshot heq
    apply hrevision
    rw [← huser]
    simp [CatalogueState.snapshotRevision, hsnapshot, heq]
  · intro client u v back auth grant now groups revision refreshedAt status failedAt hdiscovery
      hback huser hresult
    exact hdiscovery.complete hinv hback huser hresult

/-! ## Two runs -/

namespace CatalogueSample

def user : Token := ⟨"user-1", Eq.refl true⟩
def installation : Token := ⟨"installation-1", Eq.refl true⟩
def version : Token := ⟨"version-1", Eq.refl true⟩
def generation : Token := ⟨"generation-1", Eq.refl true⟩
def job : Token := ⟨"job-1", Eq.refl true⟩
def owner : String := "1@N01"
def auth : AdmissionAuth := ⟨installation, "digest-1"⟩
def grant : GrantSnapshot := ⟨user, owner, 1, generation⟩

/-- A linked user with one plugin. -/
def db : Db :=
  { emptyDb with
    flickr :=
      { emptyDb.flickr with
        links := ⟨[⟨user, owner, 1, .linked⟩], by decide⟩
        credentials := ⟨[⟨user, generation, 1, owner, .write, none⟩], by decide⟩ }
    installations := ⟨[⟨installation, user, true, true, some version⟩], by decide⟩
    versions := ⟨[⟨version, installation, .current, "digest-1"⟩], by decide⟩ }

def start : CatalogueState := ⟨db, .empty, fun _ => none, [], 0⟩

/-- A list of one group. -/
def answer : JsonValue :=
  .object
    [("stat", .text "ok"),
      ("groups", .object
        [("page", .number 1), ("pages", .number 1), ("per_page", .number 400),
          ("total", .text "1"),
          ("group", .array [.object [("nsid", .text "2@N02"), ("name", .text "Birds")]])])]

/-- One refresh up to its publication. -/
def read : List CatalogueEvent :=
  [.admitCalled auth grant job 0, .select 0 ⟨user, job, installation, version, 1, generation,
      .queued, 0, 120000000, none⟩, .claim 0 0 0 true, .readVersion 0, .readGrant 0,
    .ask 0 generation, .answer 0 answer, .parse 0, .confirm 0, .stage 0 0 true]

/-- The cleanup sees the deadline pass between its two statements, and the publication
reads an earlier clock. -/
def regressed : List CatalogueEvent :=
  read ++ [.expire 59999000 60000000, .publish 0 59999000 59999000 true]

def steady : List CatalogueEvent := read ++ [.publish 0 1000 1000 true]

def trace (events : List CatalogueEvent) : List (Move CatalogueState CatalogueEvent) :=
  movesOf CatalogueState.exec id start events

theorem run_trace {events : List CatalogueEvent} {t : CatalogueState}
    (h : execAll CatalogueState.exec start events = some t) :
    Run catalogueStep start (trace events) t :=
  run_movesOf (fun _ _ _ => id) h

/-- The move publishes for a loop that was told there are no groups. -/
def publishesNone (move : Move CatalogueState CatalogueEvent) : Bool :=
  match move.label with
  | .publish worker _ _ _ =>
      match move.src.workers worker with
      | some ⟨_, .reading loop⟩ => loop.total == some 0
      | _ => false
  | _ => false

end CatalogueSample

/-- The refresh of the sample is what is published. -/
theorem group_catalogue_published_steady : ∃ t trace,
    Run catalogueStep CatalogueSample.start trace t ∧
    t.tables.published CatalogueSample.user = [⟨⟨"2@N02", by decide⟩, "Birds"⟩] ∧
    SnapshotOrigin trace t CatalogueSample.user := by
  have hsome : (execAll CatalogueState.exec CatalogueSample.start CatalogueSample.steady).isSome =
      true := by decide +kernel
  obtain ⟨t, ht⟩ := Option.isSome_iff_exists.mp hsome
  have hgroups : ∀ t ∈ execAll CatalogueState.exec CatalogueSample.start CatalogueSample.steady,
      t.tables.published CatalogueSample.user = [⟨⟨"2@N02", by decide⟩, "Birds"⟩] := by
    decide +kernel
  have hforward : ForwardClock (CatalogueSample.trace CatalogueSample.steady) := by
    unfold ForwardClock
    decide +kernel
  have hrun := CatalogueSample.run_trace ht
  exact ⟨t, _, hrun, hgroups t ht,
    (group_catalogue_published ⟨rfl, rfl, rfl⟩ hrun CatalogueSample.user).1 hforward⟩

/-- With a clock that runs backwards a finished refresh of one group publishes none. -/
theorem group_catalogue_regressed :
    ¬ ∀ (s t : CatalogueState) (trace : List (Move CatalogueState CatalogueEvent))
      (userId : Token), s.Initial → Run catalogueStep s trace t →
        SnapshotOrigin trace t userId := by
  intro hall
  have hsome : (execAll CatalogueState.exec CatalogueSample.start
      CatalogueSample.regressed).isSome = true := by decide +kernel
  obtain ⟨t, ht⟩ := Option.isSome_iff_exists.mp hsome
  have hfacts : ∀ t ∈ execAll CatalogueState.exec CatalogueSample.start
      CatalogueSample.regressed, t.tables.published CatalogueSample.user = [] ∧
        (t.tables.snapshots.find? CatalogueSample.user).map GroupSnapshot.revision = some 1 := by
    decide +kernel
  have hmoves : ∀ move ∈ CatalogueSample.trace CatalogueSample.regressed,
      CatalogueSample.publishesNone move = false := by decide +kernel
  obtain ⟨hempty, hrevision⟩ := hfacts t ht
  cases hall _ t _ CatalogueSample.user ⟨rfl, rfl, rfl⟩ (CatalogueSample.run_trace ht) with
  | none _ hrow =>
      obtain ⟨snapshot, hsnapshot, hone⟩ := Option.map_eq_some_iff.mp hrevision
      rw [hrow snapshot hsnapshot] at hone
      cases hone
  | @refresh move _ _ _ _ _ loop _ hmem hlabel hworker _ hfinished =>
      have htotal := hfinished.total
      rw [hempty] at htotal
      have hnone := hmoves move hmem
      simp [CatalogueSample.publishesNone, hlabel, hworker, htotal] at hnone

end FlickrGroupAddr

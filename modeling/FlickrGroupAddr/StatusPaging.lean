import FlickrGroupAddr.Coordination
import FlickrGroupAddr.Lib.Fallible
import FlickrGroupAddr.SubmissionStatus
import Mathlib

/-!
# Paging through the history

A caller reads the history page by page while admissions and the dispatcher go on.
Intents keep their identity columns and are never removed, and the cursor is such a
column pair, so the pages together list every intent there was at the first one.
-/

namespace FlickrGroupAddr

set_option autoImplicit false

open KeyedTable Calendar Transition Relation

/-! ## The cursor as text -/

/-- The milliseconds are rounded down, before the epoch too. -/
theorem floor_tdiv (us : Int) :
    (if 0 ≤ us then us.tdiv 1000 else (us - 999).tdiv 1000) = us / 1000 := by
  split
  · next h => exact Int.tdiv_eq_ediv_of_nonneg h
  · next h =>
      have hneg : us - 999 = -(999 - us) := by omega
      have hpos : 0 ≤ 999 - us := by omega
      rw [hneg, Int.neg_tdiv, Int.tdiv_eq_ediv_of_nonneg hpos]
      omega

theorem statusTimestamp_eq_ok {us : Us} {text : String} :
    statusTimestamp us = .ok text ↔ (microText us).map String.ofList = some text := by
  have hmicros : ∀ n : Int, n - n / 1000 * 1000 = n % 1000 := by omega
  unfold statusTimestamp microText
  rw [floor_tdiv]
  dsimp only
  rw [hmicros]
  cases isoText (us / 1000) <;> simp

theorem parseTimestamp_eq_ok {text : String} {us : Us} :
    parseTimestamp text = .ok us ↔ readMicro text.toList = some us := by
  unfold parseTimestamp
  cases readMicro text.toList <;> simp

/-- A printed time reads back as the time it was printed from. -/
theorem parseTimestamp_statusTimestamp {us : Us} (h : 0 ≤ yearOfMicro us)
    (h' : yearOfMicro us ≤ 9999) :
    ∃ text, statusTimestamp us = .ok text ∧ parseTimestamp text = .ok us := by
  obtain ⟨text, htext, hback⟩ := readMicro_microText h h'
  refine ⟨String.ofList text, ?_, ?_⟩
  · rw [statusTimestamp_eq_ok, htext, Option.map_some]
  · rw [parseTimestamp_eq_ok, String.toList_ofList, hback]

/-- Whatever a printed time reads back as, it is that time. -/
theorem parseTimestamp_unique {us us' : Us} {text : String} (h : statusTimestamp us = .ok text)
    (hread : parseTimestamp text = .ok us') : us' = us := by
  obtain ⟨printed, hprinted, rfl⟩ := Option.map_eq_some_iff.mp (statusTimestamp_eq_ok.mp h)
  rw [parseTimestamp_eq_ok, String.toList_ofList] at hread
  exact readMicro_of_microText hprinted hread

@[simp] theorem readId_text (id : Token) : readId id.text = some id := by
  simp [readId, id.valid]

/-! ## Requests of the history -/

/-- The request asks for the history after a cursor, with pages of any size. -/
structure Follows (url : StatusUrl) (binding : Option Token) (next : Option NextPage) : Prop where
  view : url.get "view" = some "history"
  binding : url.get "photo_binding_id" = binding.map Token.text
  createdAt : url.get "before_created_at" = next.map NextPage.beforeCreatedAt
  intentId : url.get "before_intent_id" = next.map fun cursor => cursor.beforeIntentId.text

/-- The key that a cursor stands for. -/
inductive CursorKey : Option NextPage → StatusKey → Prop
  | first : CursorKey none ⊥
  | after {next : NextPage} {us : Us} :
      parseTimestamp next.beforeCreatedAt = .ok us →
      CursorKey (some next) ↑(OrderDual.toDual (toLex (us, next.beforeIntentId.text)))

@[simp] theorem parseBinding_text (binding : Option Token) :
    parseBinding (binding.map Token.text) = some binding := by
  cases binding <;> simp [parseBinding]

/-- What a request for the history is read as. -/
theorem Follows.query {url : StatusUrl} {binding : Option Token} {next : Option NextPage}
    {query : StatusQuery} (h : Follows url binding next)
    (hquery : parseStatusQuery url false = .ok query) :
    query.view = .history ∧ query.binding = binding ∧ CursorKey next query.cursor := by
  unfold parseStatusQuery at hquery
  rw [h.view, h.binding, h.createdAt, h.intentId, parseBinding_text] at hquery
  split at hquery
  · cases hquery
  · cases hsize : parsePageSize ((url.get "page_size").getD "50") with
    | none => simp [StatusView.parse, hsize] at hquery
    | some size =>
        cases next with
        | none =>
            simp [StatusView.parse, hsize] at hquery
            subst hquery
            exact ⟨rfl, rfl, CursorKey.first⟩
        | some cursor =>
            simp only [StatusView.parse, hsize, Option.getD_some, Option.map_some, readId_text]
              at hquery
            obtain ⟨us, hus, hquery⟩ := Fallible.bind_eq_ok.mp hquery
            cases hquery
            exact ⟨rfl, rfl, CursorKey.after hus⟩

/-- A request for the history whose cursor can be read is not refused. -/
theorem Follows.accepted {url : StatusUrl} {binding : Option Token} {next : Option NextPage}
    (h : Follows url binding next) (hlength : url.search.length ≤ 2048)
    (hkeys : ∀ param ∈ url.searchParams, param.1 ∈ statusKeys)
    (hnodup : (url.searchParams.map Prod.fst).Nodup)
    (hsize : (parsePageSize ((url.get "page_size").getD "50")).isSome = true)
    (hcursor : ∀ cursor ∈ next, ∃ us, parseTimestamp cursor.beforeCreatedAt = .ok us) :
    ∃ query, parseStatusQuery url false = .ok query := by
  obtain ⟨size, hsize⟩ := Option.isSome_iff_exists.mp hsize
  have hvalid : ¬ (2048 < url.search.length ∨ (false = true ∧ url.search ≠ "") ∨
      (∃ param ∈ url.searchParams, param.1 ∉ statusKeys) ∨
      ¬ (url.searchParams.map Prod.fst).Nodup) := by
    push Not
    exact ⟨hlength, by simp, hkeys, hnodup⟩
  unfold parseStatusQuery
  rw [if_neg hvalid, h.view, h.binding, h.createdAt, h.intentId, parseBinding_text, hsize]
  cases next with
  | none => exact ⟨_, rfl⟩
  | some cursor =>
      obtain ⟨us, hus⟩ := hcursor cursor rfl
      simp only [StatusView.parse, Option.getD_some, Option.map_some, readId_text, hus]
      exact ⟨_, rfl⟩

/-! ## One page -/

/-- The item shows the intent's id and creation time. -/
structure Shown (intent : SubmissionIntent) (item : StatusIntent) : Prop where
  id : item.fgaSubmissionIntentId = intent.intentId
  createdAt : statusTimestamp intent.createdAtUs = .ok item.createdAt

/-- The projection keeps the id and prints the creation time. -/
theorem statusIntent_shown {writeGates : List GateStatus} {row : StatusRow} {item : StatusIntent}
    (h : statusIntent writeGates row = .ok item) :
    item.fgaSubmissionIntentId = row.id ∧ statusTimestamp row.created = .ok item.createdAt := by
  obtain ⟨_, _, h⟩ := Fallible.bind_eq_ok.mp h
  obtain ⟨_, _, h⟩ := Fallible.bind_eq_ok.mp h
  split at h
  · cases h
  obtain ⟨_, _, h⟩ := Fallible.bind_eq_ok.mp h
  split at h
  · cases h
  obtain ⟨_, _, h⟩ := Fallible.bind_eq_ok.mp h
  split at h
  · cases h
  obtain ⟨_, _, h⟩ := Fallible.bind_eq_ok.mp h
  obtain ⟨_, _, h⟩ := Fallible.bind_eq_ok.mp h
  obtain ⟨_, _, h⟩ := Fallible.bind_eq_ok.mp h
  obtain ⟨_, _, h⟩ := Fallible.bind_eq_ok.mp h
  obtain ⟨_, hcreated, h⟩ := Fallible.bind_eq_ok.mp h
  obtain ⟨_, _, h⟩ := Fallible.bind_eq_ok.mp h
  obtain ⟨_, _, h⟩ := Fallible.bind_eq_ok.mp h
  cases h
  exact ⟨rfl, hcreated⟩

/-- The rows of a history page before the cut. -/
abbrev historyRows (t : Db) (userId : Token) (binding : Option Token) (cursor : StatusKey)
    (limit : Nat) : List SubmissionIntent :=
  Keyset.page statusKey (t.queue.statusJoin userId binding) cursor (limit + 1)

/-- Every intent that joins with its partition has a row, and every row its item. -/
theorem joined_shown {q : QueueTables} {writeGates : List GateStatus}
    {intents : List SubmissionIntent} {items : List StatusIntent}
    (hjoined : ∀ intent ∈ intents, (q.partitions.find? intent.partitionId).isSome = true)
    (h : List.Forall₂ (fun row item => statusIntent writeGates row = .ok item)
      (intents.filterMap fun intent =>
        (q.partitions.find? intent.partitionId).map (q.statusRow intent)) items) :
    List.Forall₂ Shown intents items := by
  induction intents generalizing items with
  | nil =>
      rw [List.filterMap_nil, List.forall₂_nil_left_iff] at h
      rw [h]
      exact List.Forall₂.nil
  | cons intent rest ih =>
      obtain ⟨partition, hpartition⟩ :=
        Option.isSome_iff_exists.mp (hjoined intent List.mem_cons_self)
      rw [List.filterMap_cons, hpartition, Option.map_some, List.forall₂_cons_left_iff] at h
      obtain ⟨item, others, hitem, hrest, rfl⟩ := h
      obtain ⟨hid, hcreated⟩ := statusIntent_shown hitem
      refine List.Forall₂.cons ⟨hid, hcreated⟩ (ih ?_ hrest)
      intro other hother
      exact hjoined other (List.mem_cons_of_mem _ hother)

/-- A page of the history, read in a state. -/
inductive HistoryPage (userId : Token) (binding : Option Token) (next : Option NextPage) (t : Db) :
    StatusPage → Prop
  | read {auth : StatusAuth} {url : StatusUrl} {admitted : Except StatusError Unit}
      {now : ClockReading} {principals : Table StatusPrincipal.userId}
      {sessions : Table StatusSession.sessionId} {page : StatusPage} :
      auth.userId = userId → Follows url binding next →
      readSubmissionStatus (some ⟨t, principals, sessions⟩) auth url none admitted now =
        .ok (.page page) →
      HistoryPage userId binding next t page

/-- What a page shows, and what it hands out as the next cursor. -/
structure PageRows (userId : Token) (binding : Option Token) (next : Option NextPage) (t : Db)
    (page : StatusPage) (cursor : StatusKey) (limit : Nat) : Prop where
  key : CursorKey next cursor
  shown : List.Forall₂ Shown ((historyRows t userId binding cursor limit).take limit) page.intents
  last : page.nextPage = none → (historyRows t userId binding cursor limit).length ≤ limit
  more : ∀ further, page.nextPage = some further →
    ∃ last, ((historyRows t userId binding cursor limit).take limit).getLast? = some last ∧
      further.beforeIntentId = last.intentId ∧
      statusTimestamp last.createdAtUs = .ok further.beforeCreatedAt

theorem getLast?_forall₂ {α β : Type} {R : α → β → Prop} {xs : List α} {ys : List β} {y : β}
    (h : List.Forall₂ R xs ys) (hlast : ys.getLast? = some y) :
    ∃ x, xs.getLast? = some x ∧ R x y := by
  have hreverse : List.Forall₂ R xs.reverse ys.reverse := List.rel_reverse h
  rw [← List.head?_reverse] at hlast ⊢
  generalize xs.reverse = left at *
  generalize ys.reverse = right at *
  cases hreverse with
  | nil => cases hlast
  | cons hhead _ =>
      cases hlast
      exact ⟨_, rfl, hhead⟩

/-- The items of an authorized page are the joined rows, in order. -/
theorem projectStatus_page {db : StatusDb} {auth : StatusAuth} {query : StatusQuery}
    {now : ClockReading} {page : StatusPage}
    (h : projectStatus auth query none (statusSnapshot db auth query none now) = .ok (.page page)) :
    ∃ writeGates items observedAt,
      (statusSnapshot db auth query none now).rows.mapM (statusIntent writeGates) = .ok items ∧
      authorized db now.us auth = true ∧
      pageDocument query (statusSnapshot db auth query none now) observedAt writeGates items =
        .ok page := by
  unfold projectStatus at h
  split at h
  · cases h
  · next herror =>
      obtain ⟨_, _, h⟩ := Fallible.bind_eq_ok.mp h
      obtain ⟨writeGates, _, h⟩ := Fallible.bind_eq_ok.mp h
      obtain ⟨observedAt, _, h⟩ := Fallible.bind_eq_ok.mp h
      obtain ⟨items, hitems, h⟩ := Fallible.bind_eq_ok.mp h
      obtain ⟨document, hdocument, h⟩ := Fallible.map_eq_ok.mp h
      cases h
      refine ⟨writeGates, items, observedAt, hitems, ?_, hdocument⟩
      by_contra hauthorized
      have hfalse : (statusSnapshot db auth query none now).authorized = false := by
        simpa [statusSnapshot] using hauthorized
      unfold snapshotError at herror
      rw [if_pos hfalse] at herror
      cases auth <;> cases herror

theorem pageDocument_page {query : StatusQuery} {snapshot : StatusSnapshot} {observedAt : String}
    {writeGates : List GateStatus} {items : List StatusIntent} {page : StatusPage}
    (h : pageDocument query snapshot observedAt writeGates items = .ok page) :
    page.intents = items.take query.size ∧
      page.nextPage = if query.size < items.length then
          (items.take query.size).getLast?.map fun last =>
            ⟨last.createdAt, last.fgaSubmissionIntentId⟩
        else none := by
  obtain ⟨_, _, h⟩ := Fallible.bind_eq_ok.mp h
  obtain ⟨_, _, h⟩ := Fallible.bind_eq_ok.mp h
  obtain ⟨_, _, h⟩ := Fallible.bind_eq_ok.mp h
  cases h
  exact ⟨rfl, rfl⟩

theorem mem_statusJoin {q : QueueTables} {userId : Token} {binding : Option Token}
    {intent : SubmissionIntent} :
    intent ∈ q.statusJoin userId binding ↔ intent ∈ q.intents ∧ intent.userId = userId ∧
      (binding = none ∨ binding = some intent.bindingId) ∧
      (q.partitions.find? intent.partitionId).isSome = true := by
  simp only [QueueTables.statusJoin, QueueTables.statusBase, Table.mem_def, List.mem_filter,
    decide_eq_true_eq]
  tauto

theorem HistoryPage.rows {userId : Token} {binding : Option Token} {next : Option NextPage} {t : Db}
    {page : StatusPage} (h : HistoryPage userId binding next t page) :
    ∃ cursor limit, PageRows userId binding next t page cursor limit := by
  cases h with
  | @read auth url admitted now principals sessions _ huser hfollows hread =>
  obtain ⟨query, hquery, hread⟩ := Fallible.bind_eq_ok.mp hread
  obtain ⟨_, hitem, hread⟩ := Fallible.bind_eq_ok.mp hread
  obtain ⟨_, _, hread⟩ := Fallible.bind_eq_ok.mp hread
  cases hitem
  obtain ⟨hview, hbinding, hcursor⟩ := hfollows.query hquery
  obtain ⟨writeGates, items, observedAt, hitems, hauthorized, hdocument⟩ :=
    projectStatus_page hread
  obtain ⟨hintents, hnext⟩ := pageDocument_page hdocument
  have hrows : (statusSnapshot ⟨t, principals, sessions⟩ auth query none now).rows =
      (historyRows t userId binding query.cursor query.size).filterMap fun intent =>
        (t.queue.partitions.find? intent.partitionId).map (t.queue.statusRow intent) := by
    simp [statusSnapshot, statusPage, hauthorized, huser, hbinding, hview, StatusView.shows]
  have hjoined : ∀ intent ∈ historyRows t userId binding query.cursor query.size,
      (t.queue.partitions.find? intent.partitionId).isSome = true := by
    intro intent hmem
    exact (mem_statusJoin.mp (Keyset.mem_of_mem_page hmem).1).2.2.2
  have hshown : List.Forall₂ Shown (historyRows t userId binding query.cursor query.size) items := by
    rw [hrows, Fallible.mapM_eq_ok] at hitems
    exact joined_shown hjoined hitems
  have hlength := hshown.length_eq
  have hpage : List.Forall₂ Shown
      ((historyRows t userId binding query.cursor query.size).take query.size) page.intents := by
    rw [hintents]
    exact List.forall₂_take query.size hshown
  refine ⟨query.cursor, query.size, hcursor, hpage, ?_, ?_⟩
  · intro hnone
    rw [hnext] at hnone
    split at hnone
    · next hlong =>
        -- a page with a row ahead has items
        rw [Option.map_eq_none_iff, List.getLast?_eq_none_iff, List.take_eq_nil_iff] at hnone
        have hpos := query.size_pos
        rcases hnone with hzero | hnil
        · omega
        · rw [hnil] at hlong
          exact absurd hlong (Nat.not_lt_zero _)
    · next hshort => omega
  · intro further hsome
    rw [hnext] at hsome
    split at hsome
    · obtain ⟨item, hlast, rfl⟩ := Option.map_eq_some_iff.mp hsome
      rw [← hintents] at hlast
      obtain ⟨last, hrow, hid, hcreated⟩ := getLast?_forall₂ hpage hlast
      exact ⟨last, hrow, hid, hcreated⟩
    · cases hsome

/-! ## Intents are kept -/

/-- Every intent of a user's scope is there later, with the same identity columns. -/
def KeepsJoin (q q' : QueueTables) : Prop :=
  ∀ userId binding, ∀ intent ∈ q.statusJoin userId binding,
    ∃ later ∈ q'.statusJoin userId binding, later.identity = intent.identity

theorem KeepsJoin.refl (q : QueueTables) : KeepsJoin q q :=
  fun _ _ intent hintent => ⟨intent, hintent, rfl⟩

theorem KeepsJoin.trans {q q' q'' : QueueTables} (h : KeepsJoin q q') (h' : KeepsJoin q' q'') :
    KeepsJoin q q'' := by
  intro userId binding intent hintent
  obtain ⟨middle, hmiddle, hsame⟩ := h userId binding intent hintent
  obtain ⟨later, hlater, hsame'⟩ := h' userId binding middle hmiddle
  exact ⟨later, hlater, hsame'.trans hsame⟩

/-- It is enough that intents and partitions are kept. -/
theorem KeepsJoin.of_rows {q q' : QueueTables}
    (hintents : ∀ intent ∈ q.intents, ∃ later ∈ q'.intents, later.identity = intent.identity)
    (hpartitions : ∀ k, (q.partitions.find? k).isSome = true →
      (q'.partitions.find? k).isSome = true) : KeepsJoin q q' := by
  intro userId binding intent hintent
  obtain ⟨hmem, huser, hbinding, hpartition⟩ := mem_statusJoin.mp hintent
  obtain ⟨later, hlater, hsame⟩ := hintents intent hmem
  have hlaterUser : later.userId = intent.userId := congrArg IntentIdentity.userId hsame
  have hlaterBinding : later.bindingId = intent.bindingId := congrArg IntentIdentity.bindingId hsame
  have hlaterPartition : later.partitionId = intent.partitionId :=
    congrArg IntentIdentity.partitionId hsame
  refine ⟨later, mem_statusJoin.mpr ⟨hlater, hlaterUser.trans huser, ?_, ?_⟩, hsame⟩
  · rw [hlaterBinding]
    exact hbinding
  · rw [hlaterPartition]
    exact hpartitions _ hpartition

theorem SameIdentities.keepsJoin {q q' : QueueTables} (h : SameIdentities q q') :
    KeepsJoin q q' := by
  refine KeepsJoin.of_rows (fun _ => h.intent_forward) ?_
  intro k hpartition
  have hmap := congrArg Option.isSome (h.partitions k)
  simpa [hpartition] using hmap

theorem AdmissionStep.keepsJoin {q q' : QueueTables} (h : AdmissionStep q q') :
    KeepsJoin q q' := by
  cases h with
  | addPartition _ hinsert =>
      refine KeepsJoin.of_rows (fun intent hintent => ⟨intent, hintent, rfl⟩) ?_
      intro k hpartition
      rw [Table.find?_insert? hinsert]
      split
      · rfl
      · exact hpartition
  | enqueue _ _ _ hinsert =>
      refine KeepsJoin.of_rows ?_ ?_
      · intro intent hintent
        exact ⟨intent, (Table.mem_insert? hinsert).mpr (Or.inl hintent), rfl⟩
      · intro k hpartition
        simp only [QueueTables.enqueued, Table.find?_modify]
        split
        · rw [Option.isSome_map]
          exact hpartition
        · exact hpartition

theorem admissionSteps_keepsJoin {q q' : QueueTables} (h : ReflTransGen AdmissionStep q q') :
    KeepsJoin q q' := by
  induction h with
  | refl => exact KeepsJoin.refl q
  | tail _ hlast ih => exact ih.trans hlast.keepsJoin

theorem QueueCall.keepsJoin {db db' : Db} {call : QueueCall} (h : call.exec db = some db') :
    KeepsJoin db.queue db'.queue := by
  cases hadmission : call.isAdmission with
  | false => exact (QueueCall.sameIdentities hadmission h).keepsJoin
  | true =>
      cases call with
      | admitRequest =>
          obtain ⟨_, hcall, rfl⟩ := Option.map_eq_some_iff.mp h
          exact admissionSteps_keepsJoin (admitRequest_steps hcall).1
      | _ => cases hadmission

theorem keepsJoin_run {s t : Db} {trace : List (Move Db QueueEvent)}
    (hrun : Run QueueEventStep s trace t) : KeepsJoin s.queue t.queue := by
  induction hrun with
  | nil => exact KeepsJoin.refl _
  | snoc _ hstep ih =>
      refine ih.trans ?_
      cases hstep with
      | commit hexec => exact QueueCall.keepsJoin hexec
      | refuse => exact KeepsJoin.refl _
      | outside hsame =>
          rw [hsame]
          exact KeepsJoin.refl _

/-! ## All pages -/

/-- A caller reads pages in states of a run and follows the cursors to the end:
`HistoryWalk userId binding next s items t` starts with the page of `next` in `s`. -/
inductive HistoryWalk (userId : Token) (binding : Option Token) :
    Option NextPage → Db → List StatusIntent → Db → Prop
  | last {next : Option NextPage} {t : Db} {page : StatusPage} :
      HistoryPage userId binding next t page → page.nextPage = none →
      HistoryWalk userId binding next t page.intents t
  | more {next : Option NextPage} {s t u : Db} {page : StatusPage} {further : NextPage}
      {trace : List (Move Db QueueEvent)} {rest : List StatusIntent} :
      HistoryPage userId binding next s page → page.nextPage = some further →
      Run QueueEventStep s trace t → HistoryWalk userId binding (some further) t rest u →
      HistoryWalk userId binding next s (page.intents ++ rest) u

/-- The intents a walk shows, those of the first page first. -/
structure WalkRows (userId : Token) (binding : Option Token) (cursor : StatusKey) (s t : Db)
    (items : List StatusIntent) (rows : List SubmissionIntent) : Prop where
  shown : List.Forall₂ Shown rows items
  strict : rows.Pairwise fun newer older => statusKey newer < statusKey older
  after : ∀ row ∈ rows, cursor < statusKey row
  kept : ∀ row ∈ rows, ∃ later ∈ t.queue.statusJoin userId binding, later.identity = row.identity
  all : ∀ intent ∈ s.queue.statusJoin userId binding, cursor < statusKey intent →
    ∃ row ∈ rows, row.identity = intent.identity

theorem statusKey_identity {intent other : SubmissionIntent} (h : intent.identity = other.identity) :
    statusKey intent = statusKey other := by
  have hid : intent.intentId = other.intentId := congrArg IntentIdentity.intentId h
  have hcreated : intent.createdAtUs = other.createdAtUs := congrArg IntentIdentity.createdAtUs h
  rw [statusKey, statusKey, hid, hcreated]

/-- The cursor tells two intents apart by their ids. -/
theorem intentId_of_statusKey {left right : SubmissionIntent}
    (h : statusKey left = statusKey right) : left.intentId = right.intentId := by
  have hpair := toLex.injective (OrderDual.toDual.injective (WithBot.coe_injective h))
  have htext : left.intentId.text = right.intentId.text := (Prod.mk.inj hpair).2
  cases hleft : left.intentId
  cases hright : right.intentId
  rw [hleft, hright] at htext
  cases htext
  rfl

theorem statusKeys_nodup (q : QueueTables) (userId : Token) (binding : Option Token) :
    ((q.statusJoin userId binding).map statusKey).Nodup := by
  have hids : ((q.statusJoin userId binding).map SubmissionIntent.intentId).Nodup := by
    refine List.Nodup.sublist (List.Sublist.map _ ?_) q.intents.nodup
    exact List.filter_sublist.trans List.filter_sublist
  refine List.Nodup.map_on ?_ hids.of_map
  intro left hleft right hright hkey
  exact List.inj_on_of_nodup_map hids hleft hright (intentId_of_statusKey hkey)

/-- The next cursor is the key of the last row. -/
theorem PageRows.next_key {userId : Token} {binding : Option Token} {next : Option NextPage}
    {t : Db} {page : StatusPage} {cursor later : StatusKey} {limit : Nat} {further : NextPage}
    (h : PageRows userId binding next t page cursor limit) (hsome : page.nextPage = some further)
    (hkey : CursorKey (some further) later) :
    ∃ last, ((historyRows t userId binding cursor limit).take limit).getLast? = some last ∧
      later = statusKey last := by
  obtain ⟨last, hlast, hid, hcreated⟩ := h.more further hsome
  refine ⟨last, hlast, ?_⟩
  cases hkey with
  | after hparse =>
      rw [parseTimestamp_unique hcreated hparse, hid]
      rfl

/-- Rows in order end with their greatest key. -/
theorem le_getLast {rows : List SubmissionIntent} {last : SubmissionIntent}
    (hstrict : rows.Pairwise fun newer older => statusKey newer < statusKey older)
    (hlast : rows.getLast? = some last) : ∀ row ∈ rows, statusKey row ≤ statusKey last := by
  obtain ⟨front, rfl⟩ := List.getLast?_eq_some_iff.mp hlast
  intro row hrow
  rcases List.mem_append.mp hrow with hfront | hsingle
  · exact ((List.pairwise_append.mp hstrict).2.2 row hfront last (List.mem_singleton_self _)).le
  · rw [List.mem_singleton.mp hsingle]

/-- The rows of a page and those of the pages after it. -/
theorem WalkRows.prepend {userId : Token} {binding : Option Token} {next : Option NextPage}
    {s t u : Db} {page : StatusPage} {further : NextPage} {trace : List (Move Db QueueEvent)}
    {cursor later : StatusKey} {limit : Nat} {items : List StatusIntent}
    {rest : List SubmissionIntent} (hrows : PageRows userId binding next s page cursor limit)
    (hsome : page.nextPage = some further) (hrun : Run QueueEventStep s trace t)
    (htail : ∃ later, Run QueueEventStep t later u)
    (hkey : CursorKey (some further) later) (hrest : WalkRows userId binding later t u items rest) :
    WalkRows userId binding cursor s u (page.intents ++ items)
      ((historyRows s userId binding cursor limit).take limit ++ rest) := by
  obtain ⟨last, hlast, rfl⟩ := hrows.next_key hsome hkey
  obtain ⟨_, htail⟩ := htail
  have hstrict := Keyset.strict_take_page (statusKeys_nodup s.queue userId binding) cursor limit
  have hlastMem := Keyset.mem_of_mem_take_page (List.mem_of_getLast? hlast)
  refine ⟨List.rel_append hrows.shown hrest.shown, ?_, ?_, ?_, ?_⟩
  · refine List.pairwise_append.mpr ⟨hstrict, hrest.strict, ?_⟩
    intro newer hnewer older holder
    exact (le_getLast hstrict hlast newer hnewer).trans_lt (hrest.after older holder)
  · intro row hrow
    rcases List.mem_append.mp hrow with hpage | hlater
    · exact (Keyset.mem_of_mem_take_page hpage).2
    · exact hlastMem.2.trans (hrest.after row hlater)
  · intro row hrow
    rcases List.mem_append.mp hrow with hpage | hlater
    · exact keepsJoin_run (hrun.append htail) userId binding row
        (Keyset.mem_of_mem_take_page hpage).1
    · exact hrest.kept row hlater
  · intro intent hintent hafter
    rcases Keyset.mem_take_page_or (statusKeys_nodup _ _ _) hlast hintent hafter with hpage | hlater
    · exact ⟨intent, List.mem_append_left _ hpage, rfl⟩
    · obtain ⟨kept, hkept, hsame⟩ := keepsJoin_run hrun userId binding intent hintent
      rw [← statusKey_identity hsame] at hlater
      obtain ⟨row, hrow, hidentity⟩ := hrest.all kept hkept hlater
      exact ⟨row, List.mem_append_right _ hrow, hidentity.trans hsame⟩

theorem HistoryWalk.run {userId : Token} {binding : Option Token} {next : Option NextPage}
    {s t : Db} {items : List StatusIntent} (h : HistoryWalk userId binding next s items t) :
    ∃ trace, Run QueueEventStep s trace t := by
  induction h with
  | last => exact ⟨[], Run.nil _⟩
  | more _ _ hrun _ ih =>
      obtain ⟨trace, hrest⟩ := ih
      exact ⟨_, hrun.append hrest⟩

theorem HistoryWalk.rows {userId : Token} {binding : Option Token} {next : Option NextPage}
    {s t : Db} {items : List StatusIntent} (h : HistoryWalk userId binding next s items t) :
    ∃ cursor rows, CursorKey next cursor ∧ WalkRows userId binding cursor s t items rows := by
  induction h with
  | last hpage hnone =>
      obtain ⟨cursor, limit, hrows⟩ := hpage.rows
      refine ⟨cursor, _, hrows.key, hrows.shown, ?_, ?_, ?_, ?_⟩
      · exact Keyset.strict_take_page (statusKeys_nodup _ _ _) _ _
      · intro row hrow
        exact (Keyset.mem_of_mem_take_page hrow).2
      · intro row hrow
        exact ⟨row, (Keyset.mem_of_mem_take_page hrow).1, rfl⟩
      · intro intent hintent hafter
        exact ⟨intent, (Keyset.mem_take_page_of_le (hrows.last hnone)).mpr ⟨hintent, hafter⟩, rfl⟩
  | more hpage hsome hrun hwalk ih =>
      obtain ⟨cursor, limit, hrows⟩ := hpage.rows
      obtain ⟨later, rest, hkey, hrest⟩ := ih
      exact ⟨cursor, _, hrows.key, hrest.prepend hrows hsome hrun hwalk.run hkey⟩

/-- One row for an id. -/
theorem WalkRows.ids_nodup {userId : Token} {binding : Option Token} {cursor : StatusKey}
    {s t : Db} {items : List StatusIntent} {rows : List SubmissionIntent}
    (h : WalkRows userId binding cursor s t items rows) :
    (rows.map SubmissionIntent.intentId).Nodup := by
  rw [List.Nodup, List.pairwise_map]
  refine h.strict.imp_of_mem ?_
  intro newer older hnewer holder hlt hid
  -- both are the same stored intent, which has one creation time
  obtain ⟨left, hleft, hleftSame⟩ := h.kept newer hnewer
  obtain ⟨right, hright, hrightSame⟩ := h.kept older holder
  have hleftId : left.intentId = newer.intentId := congrArg IntentIdentity.intentId hleftSame
  have hrightId : right.intentId = older.intentId := congrArg IntentIdentity.intentId hrightSame
  have heq : left = right := by
    refine Table.eq_of_key_eq (mem_statusJoin.mp hleft).1 (mem_statusJoin.mp hright).1 ?_
    rw [hleftId, hrightId, hid]
  rw [← statusKey_identity hleftSame, ← statusKey_identity hrightSame, heq] at hlt
  exact lt_irrefl _ hlt

theorem shown_ids {rows : List SubmissionIntent} {items : List StatusIntent}
    (h : List.Forall₂ Shown rows items) :
    items.map StatusIntent.fgaSubmissionIntentId = rows.map SubmissionIntent.intentId := by
  induction h with
  | nil => rfl
  | cons hhead _ ih => simp [hhead.id, ih]

/-- Newest first, by creation time and then by id. -/
def NewestFirst (newer older : SubmissionIntent) : Prop :=
  older.createdAtUs < newer.createdAtUs ∨
    (older.createdAtUs = newer.createdAtUs ∧ older.intentId.text < newer.intentId.text)

theorem statusKey_lt {newer older : SubmissionIntent} :
    statusKey newer < statusKey older ↔ NewestFirst newer older := by
  unfold statusKey NewestFirst
  rw [WithBot.coe_lt_coe, OrderDual.toDual_lt_toDual, Prod.Lex.toLex_lt_toLex]

namespace StatusSample

def groupTwo : Token := ⟨"group-2", Eq.refl true⟩
def partitionTwo : Token := ⟨"partition-2", Eq.refl true⟩
def intentTwo : Token := ⟨"intent-2", Eq.refl true⟩

def auth : StatusAuth := .installation Sample.user Sample.installation "digest-1"

/-- The photo goes to two groups. -/
def request : AdmissionRequest where
  fgaPhotoBindingId := Sample.binding
  expectedVerificationRevision := 1
  flickrGroupIds := [Sample.group, groupTwo]
  revision_pos := Sample.request.revision_pos
  revision_safe := Sample.request.revision_safe
  groups_pos := by decide
  groups_le := by decide
  groups_nodup := by decide

/-- Both intents are created in the same microsecond. -/
def admitted : QueueCall :=
  .admitRequest ⟨Sample.installation, "digest-1"⟩ request Sample.requestId
    [(Sample.partition, Sample.intent), (partitionTwo, intentTwo)] (Sample.clock 1000)

def claimed : QueueCall :=
  .claim Sample.partition Sample.leaseId (some 1) defaultLeasePolicy (Sample.clock 2000)

def db : Db := (admitted.exec Sample.db).getD emptyDb

def later : Db := (claimed.exec db).getD emptyDb

def next : NextPage := ⟨"1970-01-01T00:00:00.001000Z", intentTwo⟩

/-- One item a page. -/
def url (next : Option NextPage) : StatusUrl where
  search := "?view=history&page_size=1"
  searchParams :=
    [("view", "history"), ("page_size", "1")] ++
      match next with
      | none => []
      | some cursor =>
          [("before_created_at", cursor.beforeCreatedAt),
            ("before_intent_id", cursor.beforeIntentId.text)]

def read (t : Db) (next : Option NextPage) : Except StatusError StatusDocument :=
  readSubmissionStatus (some ⟨t, .empty, .empty⟩) auth (url next) none (.ok ()) (Sample.clock 3000)

def pageOf : Except StatusError StatusDocument → Option StatusPage
  | .ok (.page page) => some page
  | _ => none

theorem exists_page {answer : Except StatusError StatusDocument} {next : Option NextPage}
    (h : (pageOf answer).map StatusPage.nextPage = some next) :
    ∃ page, answer = .ok (.page page) ∧ page.nextPage = next := by
  obtain ⟨page, hpage, hnext⟩ := Option.map_eq_some_iff.mp h
  refine ⟨page, ?_, hnext⟩
  unfold pageOf at hpage
  split at hpage
  · cases hpage
    rfl
  · cases hpage

theorem follows_url (next : Option NextPage) : Follows (url next) none next := by
  cases next <;> exact ⟨rfl, rfl, rfl, rfl⟩

theorem claimed_db : claimed.exec db = some later := by
  have hsome : (claimed.exec db).isSome = true := by decide +kernel
  obtain ⟨t, ht⟩ := Option.isSome_iff_exists.mp hsome
  rw [later, ht, Option.getD_some]

end StatusSample

end FlickrGroupAddr

import FlickrGroupAddr.GroupCatalogue
import FlickrGroupAddr.Lib.Transition

/-!
# Refresh jobs

`refreshGroups` as it runs beside other invocations of itself, requests, expiries and
changes of the authority: every batch and every read is a move of its own, and an
invocation may throw or lose an answer anywhere.
-/

namespace FlickrGroupAddr

set_option autoImplicit false

open KeyedTable Transition

/-! ## Invocations -/

/-- An accepted page: the answer, which page it was asked for as, and the generation of
the secret that signed the request. -/
structure GroupReceipt where
  number : Nat
  value : JsonValue
  page : GroupPage
  signedBy : Token

/-- What the loop over the pages holds. -/
structure RefreshLoop where
  auth : AdmissionAuth
  grant : GrantSnapshot
  receipts : List GroupReceipt

namespace RefreshLoop

/-- `page`, `pages`, `total` and `count`, from the pages accepted so far. -/
def page (loop : RefreshLoop) : Nat := loop.receipts.length + 1

def pages (loop : RefreshLoop) : Nat :=
  (loop.receipts.getLast?.map fun receipt => receipt.page.pages).getD 1

def total (loop : RefreshLoop) : Option Nat :=
  loop.receipts.getLast?.map fun receipt => receipt.page.total

def count (loop : RefreshLoop) : Nat :=
  (loop.receipts.map fun receipt => receipt.page.groups.length).sum

/-- The groups staged so far. -/
def groups (loop : RefreshLoop) : List Group :=
  loop.receipts.flatMap fun receipt => receipt.page.groups

def push (loop : RefreshLoop) (receipt : GroupReceipt) : RefreshLoop :=
  { loop with receipts := loop.receipts ++ [receipt] }

/-- The checks after the loop. -/
def finished (loop : RefreshLoop) : Prop := loop.pages < loop.page ∧ loop.total = some loop.count

instance (loop : RefreshLoop) : Decidable loop.finished := inferInstanceAs (Decidable (_ ∧ _))

/-- The checks on a parsed page before the grant is read again. -/
def takes (loop : RefreshLoop) (page : GroupPage) : Prop :=
  (1 < loop.page → loop.pages = page.pages ∧ loop.total = some page.total) ∧
    loop.count + page.groups.length ≤ groupRowLimit

instance (loop : RefreshLoop) (page : GroupPage) : Decidable (loop.takes page) :=
  inferInstanceAs (Decidable ((_ → _ ∧ _) ∧ _))

end RefreshLoop

/-- Where an invocation is. -/
inductive RefreshStage where
  | selected
  | claimed
  | versioned (auth : AdmissionAuth)
  | reading (loop : RefreshLoop)
  | asked (loop : RefreshLoop) (signedBy : Token)
  | answered (loop : RefreshLoop) (signedBy : Token) (value : JsonValue)
  | parsed (loop : RefreshLoop) (receipt : GroupReceipt)
  | confirmed (loop : RefreshLoop) (receipt : GroupReceipt)
  | failing
  | ended

/-- An invocation with the job it selected. -/
structure RefreshWorker where
  job : RefreshJob
  stage : RefreshStage

/-- The database, the invocations, the job ids drawn so far and the last clock reading. -/
structure CatalogueState where
  db : Db
  tables : GroupTables
  workers : Nat → Option RefreshWorker
  jobIds : List Token
  clock : Us

/-- Before the first request. -/
def CatalogueState.Initial (s : CatalogueState) : Prop :=
  s.tables = .empty ∧ s.workers = (fun _ => none) ∧ s.jobIds = []

/-! ## Moves -/

/-- A move; `told` is whether the answer of a batch arrives. -/
inductive CatalogueEvent where
  /-- Any change of installations, links and credentials. -/
  | relink (db : Db)
  | expire (failNow deleteNow : Us)
  | admitCalled (auth : AdmissionAuth) (grant : GrantSnapshot) (jobId : Token) (now : Us)
  | select (worker : Nat) (job : RefreshJob)
  | claim (worker : Nat) (guardNow updateNow : Us) (told : Bool)
  | readVersion (worker : Nat)
  | readGrant (worker : Nat)
  | ask (worker : Nat) (signedBy : Token)
  | answer (worker : Nat) (value : JsonValue)
  | parse (worker : Nat)
  | confirm (worker : Nat)
  | stage (worker : Nat) (now : Us) (told : Bool)
  | publish (worker : Nat) (guardNow updateNow : Us) (told : Bool)
  /-- The invocation throws. -/
  | giveUp (worker : Nat)
  | fail (worker : Nat) (now : Us)

/-- The clock readings of a move, in order. -/
def CatalogueEvent.readings : CatalogueEvent → List Us
  | .expire failNow deleteNow => [failNow, deleteNow]
  | .admitCalled _ _ _ now => [now]
  | .claim _ guardNow updateNow _ => [guardNow, updateNow]
  | .stage _ now _ => [now]
  | .publish _ guardNow updateNow _ => [guardNow, updateNow]
  | .fail _ now => [now]
  | _ => []

namespace CatalogueState

def setWorker (s : CatalogueState) (worker : Nat) (value : Option RefreshWorker) :
    CatalogueState :=
  { s with workers := Function.update s.workers worker value }

/-- The worker moves on to a stage. -/
def advance (s : CatalogueState) (worker : Nat) (job : RefreshJob) (stage : RefreshStage) :
    CatalogueState := s.setWorker worker (some ⟨job, stage⟩)

/-- Tables after a batch, and the last reading it took. -/
def commit (s : CatalogueState) (tables : GroupTables) (now : Us) : CatalogueState :=
  { s with tables := tables, clock := now }

local instance refreshOrder : Preorder Int := Int.instLinearOrder.toPreorder

/-- The job the cron selects. -/
def nextJob (s : CatalogueState) : Option RefreshJob :=
  (s.tables.refresh.rows.filter fun job => job.state = .queued).argmin RefreshJob.admittedAtUs

/-- What an invocation does next on its own. -/
def work (s : CatalogueState) (worker : Nat) (job : RefreshJob) :
    CatalogueEvent → RefreshStage → Option CatalogueState
  | .claim _ guardNow updateNow told, .selected =>
      (s.tables.claim s.db job guardNow updateNow).map fun tables =>
        (s.commit tables updateNow).advance worker job (if told then .claimed else .ended)
  | .readVersion _, .claimed =>
      (s.db.versions.find? job.versionId).map fun version =>
        s.advance worker job (.versioned ⟨job.installationId, version.credentialDigest⟩)
  | .readGrant _, .versioned auth =>
      ((linkedGrant s.db auth).filter fun grant => grant.userId = job.userId ∧
          grant.revision = job.linkRevision ∧ grant.generation = job.generation).map fun grant =>
        s.advance worker job (.reading ⟨auth, grant, []⟩)
  | .ask _ signedBy, .reading loop =>
      if loop.page ≤ loop.pages ∧ signedBy = loop.grant.generation ∧
          linkedGrant s.db loop.auth = some loop.grant then
        some (s.advance worker job (.asked loop signedBy))
      else none
  | .answer _ value, .asked loop signedBy =>
      some (s.advance worker job (.answered loop signedBy value))
  | .parse _, .answered loop signedBy value =>
      ((validateGroupPage value loop.page).filter fun page => loop.takes page).map fun page =>
        s.advance worker job (.parsed loop ⟨loop.page, value, page, signedBy⟩)
  | .confirm _, .parsed loop receipt =>
      if linkedGrant s.db loop.auth = some loop.grant then
        some (s.advance worker job (.confirmed loop receipt))
      else none
  | .stage _ now told, .confirmed loop receipt =>
      (s.tables.stage s.db job receipt.page.groups now).map fun tables =>
        (s.commit tables now).advance worker job
          (if told then .reading (loop.push receipt) else .failing)
  | .publish _ guardNow updateNow told, .reading loop =>
      if loop.finished then
        (s.tables.publish s.db job guardNow updateNow).map fun tables =>
          (s.commit tables updateNow).advance worker job (if told then .ended else .failing)
      else none
  | .giveUp _, .selected => some (s.setWorker worker none)
  | .giveUp _, .failing => some (s.advance worker job .ended)
  | .giveUp _, .ended => none
  | .giveUp _, _ => some (s.advance worker job .failing)
  | .fail _ now, .failing =>
      some ((s.commit (s.tables.fail job now) now).advance worker job .ended)
  | _, _ => none

/-- The invocation that makes a move. -/
def actor : CatalogueEvent → Option Nat
  | .relink _ | .expire _ _ | .admitCalled _ _ _ _ | .select _ _ => none
  | .claim worker _ _ _ | .readVersion worker | .readGrant worker | .ask worker _
  | .answer worker _ | .parse worker | .confirm worker | .stage worker _ _
  | .publish worker _ _ _ | .giveUp worker | .fail worker _ => some worker

/-- One move; `none` where it cannot be made. -/
def exec (s : CatalogueState) (event : CatalogueEvent) : Option CatalogueState :=
  match event, actor event with
  | .relink db, _ => some { s with db := db }
  | .expire failNow deleteNow, _ => some (s.commit (s.tables.expire failNow deleteNow) deleteNow)
  | .admitCalled auth grant jobId now, _ =>
      -- a random UUID is not drawn twice
      if jobId ∈ s.jobIds then none
      else
        (s.tables.admitRefresh s.db auth grant jobId now).map fun tables =>
          { s.commit tables now with jobIds := jobId :: s.jobIds }
  | .select worker job, _ =>
      if (s.workers worker).isNone = true ∧ s.nextJob = some job then
        some (s.advance worker job .selected)
      else none
  | event, some worker =>
      (s.workers worker).bind fun running => s.work worker running.job event running.stage
  | _, none => none

end CatalogueState

/-- One move. -/
def catalogueStep (s : CatalogueState) (event : CatalogueEvent) (s' : CatalogueState) : Prop :=
  s.exec event = some s'

/-- No reading of the move is before an earlier one. -/
def ForwardMove (move : Move CatalogueState CatalogueEvent) : Prop :=
  (move.src.clock :: move.label.readings).Pairwise (· ≤ ·)

instance (move : Move CatalogueState CatalogueEvent) : Decidable (ForwardMove move) :=
  inferInstanceAs (Decidable (List.Pairwise _ _))

/-- The clock of the database does not run backwards. -/
def ForwardClock (trace : List (Move CatalogueState CatalogueEvent)) : Prop :=
  ∀ move ∈ trace, ForwardMove move

/-! ## What a move can do -/

/-- A move of an invocation that leaves the tables alone. -/
inductive QuietMove (s : CatalogueState) (job : RefreshJob) :
    RefreshStage → RefreshStage → Prop
  | version {version : CredentialVersion} :
      QuietMove s job .claimed (.versioned ⟨job.installationId, version.credentialDigest⟩)
  | grant {auth : AdmissionAuth} {grant : GrantSnapshot} :
      linkedGrant s.db auth = some grant → grant.userId = job.userId →
      grant.revision = job.linkRevision → grant.generation = job.generation →
      QuietMove s job (.versioned auth) (.reading ⟨auth, grant, []⟩)
  | asked {loop : RefreshLoop} {signedBy : Token} :
      loop.page ≤ loop.pages → signedBy = loop.grant.generation →
      linkedGrant s.db loop.auth = some loop.grant →
      QuietMove s job (.reading loop) (.asked loop signedBy)
  | answered {loop : RefreshLoop} {signedBy : Token} {value : JsonValue} :
      QuietMove s job (.asked loop signedBy) (.answered loop signedBy value)
  | parsed {loop : RefreshLoop} {signedBy : Token} {value : JsonValue} {page : GroupPage} :
      validateGroupPage value loop.page = some page → loop.takes page →
      QuietMove s job (.answered loop signedBy value)
        (.parsed loop ⟨loop.page, value, page, signedBy⟩)
  | confirmed {loop : RefreshLoop} {receipt : GroupReceipt} :
      linkedGrant s.db loop.auth = some loop.grant →
      QuietMove s job (.parsed loop receipt) (.confirmed loop receipt)
  | thrown {stage : RefreshStage} : stage ≠ .selected → QuietMove s job stage .failing
  | ended {stage : RefreshStage} : stage ≠ .selected → QuietMove s job stage .ended

/-- The moves, each with what it found. -/
inductive CatalogueMove (s : CatalogueState) : CatalogueEvent → CatalogueState → Prop
  | relink (db : Db) : CatalogueMove s (.relink db) { s with db := db }
  | expire (failNow deleteNow : Us) :
      CatalogueMove s (.expire failNow deleteNow)
        (s.commit (s.tables.expire failNow deleteNow) deleteNow)
  | admitCalled {auth : AdmissionAuth} {grant : GrantSnapshot} {jobId : Token} {now : Us}
      {tables : GroupTables} :
      jobId ∉ s.jobIds → s.tables.admitRefresh s.db auth grant jobId now = some tables →
      CatalogueMove s (.admitCalled auth grant jobId now)
        { s.commit tables now with jobIds := jobId :: s.jobIds }
  | select {worker : Nat} {job : RefreshJob} :
      s.workers worker = none → s.nextJob = some job →
      CatalogueMove s (.select worker job) (s.advance worker job .selected)
  | claim {worker : Nat} {job : RefreshJob} {guardNow updateNow : Us} {told : Bool}
      {tables : GroupTables} :
      s.workers worker = some ⟨job, .selected⟩ →
      s.tables.claim s.db job guardNow updateNow = some tables →
      CatalogueMove s (.claim worker guardNow updateNow told)
        ((s.commit tables updateNow).advance worker job (if told then .claimed else .ended))
  | quiet {event : CatalogueEvent} {worker : Nat} {job : RefreshJob}
      {stage stage' : RefreshStage} :
      event.readings = [] → (∀ w g u told, event ≠ .publish w g u told) →
      s.workers worker = some ⟨job, stage⟩ → QuietMove s job stage stage' →
      CatalogueMove s event (s.advance worker job stage')
  | dropped {worker : Nat} {job : RefreshJob} :
      s.workers worker = some ⟨job, .selected⟩ →
      CatalogueMove s (.giveUp worker) (s.setWorker worker none)
  | stage {worker : Nat} {job : RefreshJob} {loop : RefreshLoop} {receipt : GroupReceipt}
      {now : Us} {told : Bool} {tables : GroupTables} :
      s.workers worker = some ⟨job, .confirmed loop receipt⟩ →
      s.tables.stage s.db job receipt.page.groups now = some tables →
      CatalogueMove s (.stage worker now told)
        ((s.commit tables now).advance worker job
          (if told then .reading (loop.push receipt) else .failing))
  | publish {worker : Nat} {job : RefreshJob} {loop : RefreshLoop} {guardNow updateNow : Us}
      {told : Bool} {tables : GroupTables} :
      s.workers worker = some ⟨job, .reading loop⟩ → loop.finished →
      s.tables.publish s.db job guardNow updateNow = some tables →
      CatalogueMove s (.publish worker guardNow updateNow told)
        ((s.commit tables updateNow).advance worker job (if told then .ended else .failing))
  | fail {worker : Nat} {job : RefreshJob} {now : Us} :
      s.workers worker = some ⟨job, .failing⟩ →
      CatalogueMove s (.fail worker now)
        ((s.commit (s.tables.fail job now) now).advance worker job .ended)

namespace CatalogueState

/-- What an invocation does on its own is one of its moves. -/
theorem work_move {s s' : CatalogueState} {worker : Nat} {job : RefreshJob}
    {event : CatalogueEvent} {stage : RefreshStage} (hactor : actor event = some worker)
    (hworker : s.workers worker = some ⟨job, stage⟩)
    (h : s.work worker job event stage = some s') : CatalogueMove s event s' := by
  unfold work at h
  split at h
  · next told =>
      obtain ⟨tables, hclaim, rfl⟩ := Option.map_eq_some_iff.mp h
      cases hactor
      exact CatalogueMove.claim hworker hclaim
  · obtain ⟨version, _, rfl⟩ := Option.map_eq_some_iff.mp h
    exact CatalogueMove.quiet rfl (by simp) hworker QuietMove.version
  · obtain ⟨grant, hgrant, rfl⟩ := Option.map_eq_some_iff.mp h
    obtain ⟨hlinked, hsame⟩ := Option.filter_eq_some_iff.mp hgrant
    have hsame := of_decide_eq_true hsame
    exact CatalogueMove.quiet rfl (by simp) hworker
      (QuietMove.grant hlinked hsame.1 hsame.2.1 hsame.2.2)
  · obtain ⟨⟨hpage, hsigned, hlinked⟩, h⟩ := Option.ite_none_right_eq_some.mp h
    cases h
    exact CatalogueMove.quiet rfl (by simp) hworker (QuietMove.asked hpage hsigned hlinked)
  · cases h
    exact CatalogueMove.quiet rfl (by simp) hworker QuietMove.answered
  · obtain ⟨page, hpage, rfl⟩ := Option.map_eq_some_iff.mp h
    obtain ⟨hvalid, htakes⟩ := Option.filter_eq_some_iff.mp hpage
    exact CatalogueMove.quiet rfl (by simp) hworker
      (QuietMove.parsed hvalid (of_decide_eq_true htakes))
  · obtain ⟨hlinked, h⟩ := Option.ite_none_right_eq_some.mp h
    cases h
    exact CatalogueMove.quiet rfl (by simp) hworker (QuietMove.confirmed hlinked)
  · obtain ⟨tables, hstage, rfl⟩ := Option.map_eq_some_iff.mp h
    cases hactor
    exact CatalogueMove.stage hworker hstage
  · obtain ⟨hfinished, h⟩ := Option.ite_none_right_eq_some.mp h
    obtain ⟨tables, hpublish, rfl⟩ := Option.map_eq_some_iff.mp h
    cases hactor
    exact CatalogueMove.publish hworker hfinished hpublish
  · cases h
    cases hactor
    exact CatalogueMove.dropped hworker
  · cases h
    exact CatalogueMove.quiet rfl (by simp) hworker (QuietMove.ended (by simp))
  · cases h
  · next hselected _ _ =>
      cases h
      exact CatalogueMove.quiet rfl (by simp) hworker (QuietMove.thrown hselected)
  · cases h
    cases hactor
    exact CatalogueMove.fail hworker
  · cases h

theorem exec_move {s s' : CatalogueState} {event : CatalogueEvent} (h : s.exec event = some s') :
    CatalogueMove s event s' := by
  unfold exec at h
  split at h
  · cases h
    exact CatalogueMove.relink _
  · cases h
    exact CatalogueMove.expire _ _
  · obtain ⟨hfresh, h⟩ := Option.ite_none_left_eq_some.mp h
    obtain ⟨tables, hadmit, rfl⟩ := Option.map_eq_some_iff.mp h
    exact CatalogueMove.admitCalled hfresh hadmit
  · obtain ⟨⟨hnone, hnext⟩, h⟩ := Option.ite_none_right_eq_some.mp h
    cases h
    exact CatalogueMove.select (by simpa using hnone) hnext
  · next hactor =>
      obtain ⟨⟨job, stage⟩, hworker, hwork⟩ := Option.bind_eq_some_iff.mp h
      exact work_move hactor hworker hwork
  · cases h

end CatalogueState

end FlickrGroupAddr

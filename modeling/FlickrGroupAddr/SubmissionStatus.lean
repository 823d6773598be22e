import FlickrGroupAddr.Admission
import FlickrGroupAddr.Lib.Keyset
import FlickrGroupAddr.Lib.Timestamps
import Mathlib.Data.List.MinMax
import Mathlib.Data.Prod.Lex
import Mathlib.Order.WithBot

/-!
# Submission status

`submission_status.ts`: the query of a status page, the one statement that takes the
snapshot, and the projection of its rows into the document the caller gets.  The
charge of a read is `QuotaCredit`; here it is an argument.
-/

namespace FlickrGroupAddr

set_option autoImplicit false

open KeyedTable Calendar

/-- The order that `ORDER BY` takes of an integer column. -/
local instance statusOrder : Preorder Int := Int.instLinearOrder.toPreorder

/-! ## Requests -/

structure StatusError where
  code : String
  status : Nat
  retryAfter : Option Nat
deriving DecidableEq

namespace StatusError

def invalidQuery : StatusError := ⟨"invalid_status_query", 400, none⟩
def invalidContinuation : StatusError := ⟨"invalid_status_continuation", 400, none⟩
def projectionInvalid : StatusError := ⟨"status_projection_invalid", 500, none⟩
def notFound : StatusError := ⟨"not_found", 404, none⟩
def unavailable : StatusError := ⟨"status_unavailable", 503, some 5⟩

end StatusError

inductive StatusAuth where
  | installation (userId installationId : Token) (proof : String)
  | admin (userId sessionId : Token) (proof : String)
deriving DecidableEq

def StatusAuth.userId : StatusAuth → Token
  | .installation userId _ _ => userId
  | .admin userId _ _ => userId

inductive StatusView where
  | active
  | attention
  | history
deriving DecidableEq

def StatusView.parse : String → Option StatusView
  | "active" => some .active
  | "attention" => some .attention
  | "history" => some .history
  | _ => none

structure StatusQuery where
  view : StatusView
  size : Nat
  binding : Option Token
  before : Option (Us × Token)
  size_pos : 1 ≤ size
  size_le : size ≤ 100

/-- The text of the query and the parameters decoded from it. -/
structure StatusUrl where
  search : String
  searchParams : List (String × String)

def StatusUrl.get (url : StatusUrl) (key : String) : Option String :=
  url.searchParams.lookup key

/-- Microseconds as text; there is none beyond what a date can hold. -/
def statusTimestamp (us : Us) : Except StatusError String :=
  let ms := if 0 ≤ us then us.tdiv 1000 else (us - 999).tdiv 1000
  match isoText ms with
  | none => .error .projectionInvalid
  | some iso => .ok (String.ofList (iso ++ padded 3 (us - ms * 1000).toNat ++ ['Z']))

/-- `statusTimestamp` of a column that may be null. -/
def statusTimestamp? (us : Option Us) : Except StatusError (Option String) :=
  us.mapM statusTimestamp

def parseTimestamp (value : String) : Except StatusError Us :=
  match readMicro value.toList with
  | none => .error .invalidContinuation
  | some us => .ok us

/-- The test of `ID`. -/
def readId (text : String) : Option Token :=
  if h : isToken text = true then some ⟨text, h⟩ else none

/-- `/^[1-9]\d{0,2}$/`, and at most one hundred. -/
def parsePageSize (text : String) : Option { size : Nat // 1 ≤ size ∧ size ≤ 100 } :=
  let digits := text.toList
  let size := digitsValue digits
  if digits.length ≤ 3 ∧ digits.all Char.isDigit = true ∧ digits.head? ≠ some '0' then
    if h : 1 ≤ size ∧ size ≤ 100 then some ⟨size, h⟩ else none
  else none

def statusKeys : List String :=
  ["view", "page_size", "photo_binding_id", "before_created_at", "before_intent_id"]

/-- A parameter that may be missing. -/
def parseBinding : Option String → Option (Option Token)
  | none => some none
  | some text => (readId text).map some

def parseStatusQuery (url : StatusUrl) (item : Bool) : Except StatusError StatusQuery :=
  if 2048 < url.search.length ∨ (item = true ∧ url.search ≠ "") ∨
      (∃ param ∈ url.searchParams, param.1 ∉ statusKeys) ∨
      ¬ (url.searchParams.map Prod.fst).Nodup then .error .invalidQuery
  else
    match StatusView.parse ((url.get "view").getD "active"),
      parsePageSize ((url.get "page_size").getD "50"),
      parseBinding (url.get "photo_binding_id") with
    | some view, some size, some binding =>
        match url.get "before_created_at", url.get "before_intent_id" with
        | none, none => .ok ⟨view, size, binding, none, size.2.1, size.2.2⟩
        | some createdAt, some intentId => do
            let us ← parseTimestamp createdAt
            match readId intentId with
            | none => .error .invalidContinuation
            | some id => .ok ⟨view, size, binding, some (us, id), size.2.1, size.2.2⟩
        | _, _ => .error .invalidContinuation
    | _, _, _ => .error .invalidQuery

/-! ## The snapshot -/

/-- `admin_principals`, as a status page reads them. -/
structure StatusPrincipal where
  userId : Token
  googleSub : String
deriving DecidableEq

/-- `admin_sessions`, as a status page reads them. -/
structure StatusSession where
  sessionId : Token
  userId : Token
  expiresAtUs : Us
  revokedAtUs : Option Us
deriving DecidableEq

/-- The tables a status page is read from. -/
structure StatusDb where
  core : Db
  principals : Table StatusPrincipal.userId
  sessions : Table StatusSession.sessionId

/-- `authorized`. -/
def authorized (db : StatusDb) (now : Us) : StatusAuth → Bool
  | .installation userId installationId proof =>
      match db.core.installations.find? installationId with
      | none => false
      | some installation =>
          match installation.currentVersionId.bind db.core.versions.find? with
          | none => false
          | some version =>
              decide (installation.userId = userId ∧ installation.active = true ∧
                installation.lrcPlugin = true ∧
                version.installationId = installation.installationId ∧
                version.state = .current ∧ version.credentialDigest = proof)
  | .admin userId sessionId proof =>
      match db.sessions.find? sessionId, db.principals.find? userId with
      | some session, some principal =>
          decide (session.userId = userId ∧ principal.googleSub = proof ∧
            session.revokedAtUs = none ∧ now < session.expiresAtUs)
      | _, _ => false

/-- The last resolved attempt of an intent, capacity refusals left out. -/
structure OutcomeRow where
  id : Token
  reason : String
  code : Option Int
  atUs : Us
deriving DecidableEq

structure BlockRow where
  reason : String
  atUs : Us
deriving DecidableEq

/-- The JSON object of one intent. -/
structure StatusRow where
  id : Token
  binding : Token
  photo : Token
  group : Token
  state : IntentState
  revision : Nat
  active : Bool
  created : Us
  changed : Us
  terminal : Option Us
  due : Option Us
  ahead : Nat
  head : Option Token
  attempts : Nat
  outcome : Option OutcomeRow
  block : Option BlockRow
deriving DecidableEq

namespace QueueTables

/-- `'outcome'`. -/
def statusOutcome (q : QueueTables) (intentId : Token) : Option OutcomeRow :=
  let resolved := q.attempts.rows.filterMap fun attempt =>
    if attempt.intentId = intentId then
      (q.resolutions.find? attempt.attemptId).bind fun r =>
        if r.reason ≠ "rate_capacity_unavailable" then some (attempt, r) else none
    else none
  (resolved.argmax fun row => row.1.ordinal).map fun row =>
    ⟨row.1.attemptId, row.2.reason, row.2.flickrCode, row.2.completedAtUs⟩

/-- The row of an intent in its partition. -/
def statusRow (q : QueueTables) (intent : SubmissionIntent) (partition : GroupPartition) :
    StatusRow where
  id := intent.intentId
  binding := intent.bindingId
  photo := intent.photoId
  group := intent.groupId
  state := intent.state
  revision := intent.stateVersion
  active := intent.state.active
  created := intent.createdAtUs
  changed := intent.stateChangedAtUs
  terminal := intent.terminalAtUs
  due := partition.nextWorkNotBeforeUs
  ahead := ((q.activeIntents intent.partitionId).filter fun other =>
    other.enqueueOrdinal < intent.enqueueOrdinal).length
  head := (q.headIntent intent.partitionId).map SubmissionIntent.intentId
  attempts := (q.attempts.rows.filter fun attempt => attempt.intentId = intent.intentId).length
  outcome := q.statusOutcome intent.intentId
  block := (q.blocks.find? (intent.photoId, intent.groupId)).map fun block =>
    ⟨block.firstReason, block.createdAtUs⟩

/-- The intents of a user, of one binding if one is asked for. -/
def statusBase (q : QueueTables) (userId : Token) (binding : Option Token) :
    List SubmissionIntent :=
  q.intents.rows.filter fun intent =>
    intent.userId = userId ∧ (binding = none ∨ binding = some intent.bindingId)

/-- Those that join with their partition. -/
def statusJoin (q : QueueTables) (userId : Token) (binding : Option Token) :
    List SubmissionIntent :=
  (q.statusBase userId binding).filter fun intent =>
    (q.partitions.find? intent.partitionId).isSome

end QueueTables

/-- `i.state IN ('needs_attention','delivery_uncertain')`. -/
def IntentState.attention (state : IntentState) : Bool :=
  state = .needsAttention || state = .deliveryUncertain

def StatusView.shows : StatusView → IntentState → Bool
  | .history, _ => true
  | .active, state => state.active
  | .attention, state => state.attention

/-- Newest first: the order of creation time and id, upside down. -/
abbrev StatusKey := WithBot (OrderDual (Us ×ₗ String))

def statusKey (intent : SubmissionIntent) : StatusKey :=
  ↑(OrderDual.toDual (toLex (intent.createdAtUs, intent.intentId.text)))

/-- Where a query goes on. -/
def StatusQuery.cursor (query : StatusQuery) : StatusKey :=
  match query.before with
  | none => ⊥
  | some (us, id) => ↑(OrderDual.toDual (toLex (us, id.text)))

/-- `scope` with its order and its limit. -/
def statusPage (q : QueueTables) (userId : Token) (query : StatusQuery)
    (itemId : Option Token) : List SubmissionIntent :=
  let rows := q.statusJoin userId query.binding
  match itemId with
  | some id => Keyset.page statusKey (rows.filter fun intent => intent.intentId = id) query.cursor 1
  | none =>
      Keyset.page statusKey (rows.filter fun intent => query.view.shows intent.state) query.cursor
        (query.size + 1)

inductive GateScope where
  | user
  | deployment
deriving DecidableEq

structure GateRow where
  scope : GateScope
  enabled : Bool
  revision : Nat
  atUs : Option Us
  reason : Option String
deriving DecidableEq

/-- A gate with the first event of its revision. -/
def FlickrTables.gateRow (f : FlickrTables) (scope : GateScope) (gate : WriteGate) : GateRow :=
  let event := (f.gateEvents.filter fun event =>
    event.key = gate.key ∧ event.revision = gate.revision).argmin WriteGateEvent.createdAtUs
  ⟨scope, gate.enabled, gate.revision, event.map WriteGateEvent.createdAtUs,
    event.map WriteGateEvent.reason⟩

/-- `'gates'`. -/
def FlickrTables.gateRows (f : FlickrTables) (userId : Token) : List GateRow :=
  ((f.gates.find? (.user userId)).map (f.gateRow .user)).toList ++
    ((f.gates.find? .deployment).map (f.gateRow .deployment)).toList

/-- The JSON object that the statement returns. -/
structure StatusSnapshot where
  authorized : Bool
  observed : Us
  bindingExists : Bool
  active : Nat
  partitions : Nat
  attention : Nat
  oldest : Option Us
  rows : List StatusRow
  gates : List GateRow

def statusSnapshot (db : StatusDb) (auth : StatusAuth) (query : StatusQuery)
    (itemId : Option Token) (now : ClockReading) : StatusSnapshot :=
  let q := db.core.queue
  -- every count has `authorized` in its condition
  let admitted := authorized db now.us auth
  let base := if admitted then q.statusBase auth.userId query.binding else []
  let active := base.filter fun intent => intent.state.active
  { authorized := admitted
    observed := now.us
    bindingExists := query.binding.all fun id =>
      (db.core.flickr.bindings.find? id).any fun binding => binding.userId = auth.userId
    active := active.length
    partitions := (active.map SubmissionIntent.partitionId).dedup.length
    attention := (base.filter fun intent => intent.state.attention).length
    oldest := (active.map SubmissionIntent.createdAtUs).argmin id
    rows :=
      if admitted then
        (statusPage q auth.userId query itemId).filterMap fun intent =>
          (q.partitions.find? intent.partitionId).map (q.statusRow intent)
      else []
    gates := db.core.flickr.gateRows auth.userId }

/-! ## The projection -/

/-- `integer`: a safe integer, not below the minimum. -/
def statusInteger (n : Nat) (min : Nat) : Except StatusError Nat :=
  if isSafeInteger n ∧ min ≤ n then .ok n else .error .projectionInvalid

/-- `reason`: what a stored reason is called outside. -/
def statusReason (internal : String) (code : Option Int) : Except StatusError String :=
  if internal = "pre_add_membership_observation" then .ok "membership_already_present"
  else if internal ∈ ["flickr_added", "flickr_code_3"] then .ok "added"
  else if internal ∈ ["flickr_code_6", "flickr_code_7"] then .ok "moderation_submission_recorded"
  else if internal ∈ ["unknown_code", "unresolved_dispatch"] then
    .ok "post_dispatch_result_unavailable"
  else if internal ∈ ["flickr_code_105", "flickr_code_106"] then .ok "temporary_flickr_failure"
  else if internal = "flickr_code_5" then .ok "flickr_group_limit"
  else if internal = "flickr_code_1" then .ok "photo_unavailable_or_ineligible"
  else if internal ∈ ["flickr_code_2", "flickr_code_8", "flickr_code_10", "flickr_code_11"] then
    .ok "group_unavailable_or_ineligible"
  else if internal ∈ ["flickr_code_4", "flickr_code_116"] then .ok "request_policy_rejected"
  else if internal ∈ ["flickr_code_98", "flickr_code_99"] ∨
      (internal = "flickr_read_failure" ∧ (code = some 98 ∨ code = some 99)) then
    .ok "user_flickr_reauthorization_required"
  else if internal ∈ ["flickr_code_95", "flickr_code_96", "flickr_code_97", "flickr_code_100",
      "flickr_code_111", "flickr_code_112", "flickr_code_114", "flickr_code_115"] then
    .ok "deployment_repair_required"
  else if internal ∈ ["safe_read_unavailable", "flickr_read_failure", "abandoned_before_dispatch",
      "not_dispatched_preflight_expired"] then .ok "safe_transport_failure"
  else if internal = "cancelled" then .ok "cancelled"
  else .error .projectionInvalid

/-- A write gate as the page shows it. -/
structure GateStatus where
  scope : GateScope
  paused : Bool
  revision : Nat
  pausedAt : Option String
  reasonCode : Option String
  affectedActiveIntentCount : Nat
deriving DecidableEq

/-- Why a gate is paused. -/
def gateReason (scope : GateScope) (reason : Option String) : Except StatusError String :=
  match reason with
  | none => .error .projectionInvalid
  | some text =>
      if text ∈ ["gate_paused", "initially_paused", "migration_snapshot"] then
        .ok "operator_review_required"
      else if text ∈ ["unknown_code", "flickr_read_failure", "flickr_code_95", "flickr_code_96",
          "flickr_code_97", "flickr_code_98", "flickr_code_99", "flickr_code_100",
          "flickr_code_111", "flickr_code_112", "flickr_code_114", "flickr_code_115"] then
        match scope with
        | .user => .ok "user_flickr_reauthorization_required"
        | .deployment => .ok "deployment_repair_required"
      else .error .projectionInvalid

def gateStatus (rows : List GateRow) (count : Nat) (scope : GateScope) :
    Except StatusError GateStatus :=
  match rows.find? fun row => row.scope = scope with
  | none => .error .projectionInvalid
  | some row => do
      let revision ← statusInteger row.revision 1
      if row.enabled then .ok ⟨scope, false, revision, none, none, 0⟩
      else
        match row.atUs with
        | none => .error .projectionInvalid
        | some us => do
            let pausedAt ← statusTimestamp us
            let reasonCode ← gateReason scope row.reason
            .ok ⟨scope, true, revision, some pausedAt, some reasonCode, count⟩

/-- `gates`. -/
def statusGates (rows : List GateRow) (count : Nat) : Except StatusError (List GateStatus) :=
  if rows.length ≠ 2 then .error .projectionInvalid
  else [GateScope.user, GateScope.deployment].mapM (gateStatus rows count)

structure StatusOutcome where
  reasonCode : String
  flickrResultCode : Option Int
  observedAt : String
  correlationId : Token
deriving DecidableEq

structure StatusBlock where
  reasonCode : String
  createdAt : String
deriving DecidableEq

structure StatusQueue where
  isPartitionHead : Bool
  activeAheadInPartition : Nat
  nextWorkNotBefore : Option String
  holds : List String
deriving DecidableEq

/-- `attention`; FGA never allows a resubmission. -/
structure StatusAttention where
  kind : IntentState
  reasonCode : String
  occurredAt : Option String
  operatorAction : String
  fgaResubmissionAllowed : Bool
deriving DecidableEq

/-- An intent as the page shows it; the group name and its time are always null. -/
structure StatusIntent where
  fgaSubmissionIntentId : Token
  fgaPhotoBindingId : Token
  flickrPhotoId : Token
  flickrGroupId : Token
  state : IntentState
  stateRevision : Nat
  createdAt : String
  stateChangedAt : String
  terminalAt : Option String
  attemptCount : Nat
  queue : Option StatusQueue
  lastOutcome : Option StatusOutcome
  permanentSubmissionBlock : Option StatusBlock
  attention : Option StatusAttention
deriving DecidableEq

/-- The text of the block time, a column that SQLite prints. -/
def blockTime (us : Us) : String := String.ofList ((microText us).getD [])

def blockStatus (row : BlockRow) : Except StatusError StatusBlock :=
  if row.reason = "delivery_uncertain" then .ok ⟨"delivery_uncertain", blockTime row.atUs⟩
  else if row.reason ∈ ["flickr_code_6", "flickr_code_7"] then
    .ok ⟨"moderation_submission_recorded", blockTime row.atUs⟩
  else .error .projectionInvalid

def outcomeStatus (row : OutcomeRow) : Except StatusError StatusOutcome := do
  let observedAt ← statusTimestamp row.atUs
  if ¬ ∀ code ∈ row.code, isSafeInteger code then .error .projectionInvalid
  else do
    let reasonCode ← statusReason row.reason row.code
    .ok ⟨reasonCode, row.code, observedAt, row.id⟩

/-- The block that a state demands. -/
def blockFits (state : IntentState) (block : Option StatusBlock) : Prop :=
  match state with
  | .moderationSubmitted => block.map StatusBlock.reasonCode = some "moderation_submission_recorded"
  | .deliveryUncertain => block.map StatusBlock.reasonCode = some "delivery_uncertain"
  | _ => block = none

instance (state : IntentState) (block : Option StatusBlock) : Decidable (blockFits state block) := by
  unfold blockFits
  cases state <;> exact inferInstance

/-- The outcome that a state demands. -/
def outcomeFits (state : IntentState) (outcome : Option StatusOutcome) : Prop :=
  match state with
  | .moderationSubmitted =>
      outcome.map StatusOutcome.reasonCode = some "moderation_submission_recorded"
  | .deliveryUncertain =>
      outcome.map StatusOutcome.reasonCode = some "post_dispatch_result_unavailable"
  | .added => outcome.map StatusOutcome.reasonCode = some "added" ∨
      outcome.map StatusOutcome.reasonCode = some "membership_already_present"
  | _ => True

instance (state : IntentState) (outcome : Option StatusOutcome) :
    Decidable (outcomeFits state outcome) := by
  unfold outcomeFits
  cases state <;> exact inferInstance

/-- What an operator can do about an intent that needs attention. -/
def attentionAction (reasonCode : String) : Option String :=
  if reasonCode = "user_flickr_reauthorization_required" then some "reauthorize_flickr"
  else if reasonCode = "deployment_repair_required" then some "repair_deployment"
  else if reasonCode ∈ ["photo_unavailable_or_ineligible", "group_unavailable_or_ineligible",
      "request_policy_rejected"] then some "correct_future_selection"
  else none

def operatorAction (state : IntentState) (reasonCode : String) : Option String :=
  if state = .deliveryUncertain then some "inspect_flickr_no_fga_resubmit"
  else attentionAction reasonCode

def attentionStatus (state : IntentState) (outcome : Option StatusOutcome)
    (terminalAt : Option String) : Except StatusError (Option StatusAttention) :=
  if state.attention then
    match outcome with
    | none => .error .projectionInvalid
    | some outcome =>
        match operatorAction state outcome.reasonCode with
        | none => .error .projectionInvalid
        | some action => .ok (some ⟨state, outcome.reasonCode, terminalAt, action, false⟩)
  else .ok none

/-- `holds`: the paused gates, sorted. -/
def statusHolds (writeGates : List GateStatus) : List String :=
  (if writeGates.any fun g => g.scope = .deployment && g.paused then
    ["deployment_flickr_write_gate_paused"] else []) ++
  (if writeGates.any fun g => g.scope = .user && g.paused then
    ["user_flickr_write_gate_paused"] else [])

/-- The due time of a partition whose head waits. -/
def dueStatus (row : StatusRow) : Except StatusError (Option String) :=
  if row.head = some row.id ∧ row.state ≠ .attempting then statusTimestamp? row.due else .ok none

/-- The queue part of an active intent, `due` being the due time of a head to be worked on. -/
def queueStatus (row : StatusRow) (due : Option String) (holds : List String) :
    Except StatusError (Option StatusQueue) :=
  let isHead := decide (row.head = some row.id)
  if row.active then
    if isHead ≠ decide (row.ahead = 0) then .error .projectionInvalid
    else if isHead = true ∧ row.state ≠ .attempting ∧ due = none then .error .projectionInvalid
    else .ok (some ⟨isHead, row.ahead, due, holds⟩)
  else .ok none

/-- `intent`. -/
def statusIntent (writeGates : List GateStatus) (row : StatusRow) :
    Except StatusError StatusIntent := do
  let terminalAt ← statusTimestamp? row.terminal
  let ahead ← statusInteger row.ahead 0
  if row.state.active ≠ row.active ∨ row.state.active ≠ decide (terminalAt = none) then
    .error .projectionInvalid
  else do
    let block ← row.block.mapM blockStatus
    if ¬ blockFits row.state block then .error .projectionInvalid
    else do
      let outcome ← row.outcome.mapM outcomeStatus
      if ¬ outcomeFits row.state outcome then .error .projectionInvalid
      else do
        let attention ← attentionStatus row.state outcome terminalAt
        let due ← dueStatus row
        let queue ← queueStatus { row with ahead := ahead } due (statusHolds writeGates)
        let stateRevision ← statusInteger row.revision 1
        let createdAt ← statusTimestamp row.created
        let stateChangedAt ← statusTimestamp row.changed
        let attemptCount ← statusInteger row.attempts 0
        .ok
          { fgaSubmissionIntentId := row.id
            fgaPhotoBindingId := row.binding
            flickrPhotoId := row.photo
            flickrGroupId := row.group
            state := row.state
            stateRevision := stateRevision
            createdAt := createdAt
            stateChangedAt := stateChangedAt
            terminalAt := terminalAt
            attemptCount := attemptCount
            queue := queue
            lastOutcome := outcome
            permanentSubmissionBlock := block
            attention := attention }

/-! ## The read -/

structure StatusSummary where
  activeIntentCount : Nat
  activePartitionCount : Nat
  attentionIntentCount : Nat
  oldestActiveEnqueuedAt : Option String
  writeGates : List GateStatus
deriving DecidableEq

structure NextPage where
  beforeCreatedAt : String
  beforeIntentId : Token
deriving DecidableEq

structure StatusPage where
  observedAt : String
  view : StatusView
  pageSize : Nat
  photoBindingId : Option Token
  summary : StatusSummary
  intents : List StatusIntent
  nextPage : Option NextPage
  recommendedPollAfterSeconds : Option Nat
deriving DecidableEq

structure StatusItem where
  observedAt : String
  intent : StatusIntent
  writeGates : List GateStatus
  recommendedPollAfterSeconds : Option Nat
deriving DecidableEq

inductive StatusDocument where
  | page (page : StatusPage)
  | item (item : StatusItem)
deriving DecidableEq

/-- `poll`. -/
def statusPoll (writeGates : List GateStatus) (hasActive : Bool) : Option Nat :=
  if hasActive then some (if writeGates.any GateStatus.paused then 60 else 15) else none

/-- What is wrong with a snapshot before its rows are looked at. -/
def snapshotError (auth : StatusAuth) (snapshot : StatusSnapshot) : Option StatusError :=
  if snapshot.authorized = false then
    match auth with
    | .installation _ _ _ => some ⟨"invalid_token", 401, none⟩
    | .admin _ _ _ => some ⟨"unauthorized", 401, none⟩
  else if snapshot.bindingExists = false then some .notFound
  else none

/-- The document of a page. -/
def pageDocument (query : StatusQuery) (snapshot : StatusSnapshot) (observedAt : String)
    (writeGates : List GateStatus) (items : List StatusIntent) : Except StatusError StatusPage := do
  let page := items.take query.size
  let partitions ← statusInteger snapshot.partitions 0
  let attention ← statusInteger snapshot.attention 0
  let oldest ← statusTimestamp? snapshot.oldest
  .ok
    { observedAt := observedAt
      view := query.view
      pageSize := query.size
      photoBindingId := query.binding
      summary := ⟨snapshot.active, partitions, attention, oldest, writeGates⟩
      intents := page
      nextPage :=
        if query.size < items.length then
          page.getLast?.map fun last => ⟨last.createdAt, last.fgaSubmissionIntentId⟩
        else none
      recommendedPollAfterSeconds := statusPoll writeGates (decide (0 < snapshot.active)) }

/-- The document of one intent. -/
def itemDocument (observedAt : String) (writeGates : List GateStatus)
    (items : List StatusIntent) : Except StatusError StatusItem :=
  match items with
  | [] => .error .notFound
  | intent :: _ =>
      .ok ⟨observedAt, intent, writeGates.filter GateStatus.paused,
        statusPoll writeGates intent.state.active⟩

/-- From the snapshot to the document. -/
def projectStatus (auth : StatusAuth) (query : StatusQuery) (itemId : Option Token)
    (snapshot : StatusSnapshot) : Except StatusError StatusDocument :=
  match snapshotError auth snapshot with
  | some error => .error error
  | none => do
      let active ← statusInteger snapshot.active 0
      let writeGates ← statusGates snapshot.gates active
      let observedAt ← statusTimestamp snapshot.observed
      let items ← snapshot.rows.mapM (statusIntent writeGates)
      match itemId with
      | some _ => (itemDocument observedAt writeGates items).map .item
      | none => (pageDocument query snapshot observedAt writeGates items).map .page

/-- `readSubmissionStatus`: `admitted` is the answer of `admitStatusRead`, and there is no
database when the statement fails. -/
def readSubmissionStatus (db : Option StatusDb) (auth : StatusAuth) (url : StatusUrl)
    (itemId : Option String) (admitted : Except StatusError Unit) (now : ClockReading) :
    Except StatusError StatusDocument := do
  let query ← parseStatusQuery url itemId.isSome
  let item ← match itemId with
    | none => .ok none
    | some text =>
        match readId text with
        | none => .error .notFound
        | some id => .ok (some id)
  admitted
  match db with
  | none => .error .unavailable
  | some db => projectStatus auth query item (statusSnapshot db auth query item now)

end FlickrGroupAddr

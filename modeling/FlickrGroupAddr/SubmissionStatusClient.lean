import FlickrGroupAddr.ClientChecks
import FlickrGroupAddr.Lib.PercentCoding
import FlickrGroupAddr.Lib.PagedReader
import Mathlib.Data.List.Sort

/-!
# The submission status client

`SubmissionStatusClient.lua`: the checks of a row and of the gates, a traversal of the
pages of a history, and `history`, which traverses twice and keeps what both agree on.
-/

namespace FlickrGroupAddr

set_option autoImplicit false

open Spelling

namespace StatusClient

def maxPages : Nat := 100
def maxIntents : Nat := 10000

/-! ## Fields -/

def names (texts : List String) : List Bytes := texts.map ascii

def field (name : String) (v : LuaValue) : Option LuaValue := v.field? (ascii name)

def text (name : String) (v : LuaValue) : Option Bytes := (field name v).bind LuaValue.text?

def isNull (name : String) (v : LuaValue) : Bool := ((field name v).map LuaValue.isNull).getD false

/-- `integer`: from a minimum on, up to the largest safe integer. -/
def integer (name : String) (minimum : Nat) (v : LuaValue) : Option Nat :=
  (field name v).bind (LuaValue.integer? minimum Binary64.Number.maxSafeInteger)

def isId (name : String) (v : LuaValue) : Bool := ((text name v).map isOpaqueId).getD false

def isTime (name : String) (v : LuaValue) : Bool := ((text name v).map isMicroTimestamp).getD false

/-- The field is this string. -/
def isText (name : String) (expected : Bytes) (v : LuaValue) : Bool := text name v == some expected

/-! ## Rows -/

/-- The binding that a history is read for. -/
structure Binding where
  fgaPhotoBindingId : Bytes
  flickrPhotoId : Bytes

def active : List Bytes := names ["queued", "attempting", "retrying", "throttled"]

def terminal : List Bytes :=
  names ["added", "moderation_submitted", "delivery_uncertain", "needs_attention", "cancelled"]

def reasons : List Bytes :=
  names ["membership_already_present", "added", "moderation_submission_recorded",
    "post_dispatch_result_unavailable", "temporary_flickr_failure", "flickr_group_limit",
    "photo_unavailable_or_ineligible", "group_unavailable_or_ineligible", "request_policy_rejected",
    "user_flickr_reauthorization_required", "deployment_repair_required", "safe_transport_failure",
    "cancelled"]

def attentionAction (reason : Bytes) : Option Bytes :=
  if reason = ascii "user_flickr_reauthorization_required" then some (ascii "reauthorize_flickr")
  else if reason = ascii "deployment_repair_required" then some (ascii "repair_deployment")
  else if reason ∈ names ["photo_unavailable_or_ineligible", "group_unavailable_or_ineligible",
    "request_policy_rejected"] then some (ascii "correct_future_selection")
  else none

def intentFields : List Bytes :=
  names ["fgaSubmissionIntentId", "fgaPhotoBindingId", "flickrPhotoId", "flickrGroupId",
    "groupDisplayName", "groupDisplayNameObservedAt", "state", "stateRevision", "createdAt",
    "stateChangedAt", "terminalAt", "attemptCount", "queue", "lastOutcome",
    "permanentSubmissionBlock", "attention"]

/-- `[%z\1-\31\127]`. -/
def isControl (byte : UInt8) : Bool := decide (byte.toNat < 32 ∨ byte.toNat = 127)

/-- The name of the group, and when it was seen. -/
def displayNameValid (v : LuaValue) : Bool :=
  match field "groupDisplayName" v with
  | some .null => isNull "groupDisplayNameObservedAt" v
  | some (.text name) =>
    decide (name.length ≤ 4096) && !name.any isControl && isTime "groupDisplayNameObservedAt" v
  | _ => false

def holdNames : List Bytes :=
  names ["user_flickr_write_gate_paused", "deployment_flickr_write_gate_paused"]

/-- Each hold is one of the two, and comes once. -/
def holdsValid : List Bytes → List LuaValue → Bool
  | _, [] => true
  | seen, .text hold :: rest =>
    !seen.contains hold && holdNames.contains hold && holdsValid (hold :: seen) rest
  | _, _ :: _ => false

/-- The queue of a row that is still active. -/
def queueValid (state : Bytes) (v q : LuaValue) : Bool :=
  isNull "terminalAt" v &&
    q.exact (names ["isPartitionHead", "activeAheadInPartition", "nextWorkNotBefore", "holds"]) &&
    match field "isPartitionHead" q, integer "activeAheadInPartition" 0 q,
      (field "holds" q).bind (LuaValue.array? 2) with
    | some (.boolean head), some ahead, some holds =>
      head == decide (ahead = 0) && holdsValid [] holds &&
        if head && state != ascii "attempting" then isTime "nextWorkNotBefore" q
        else isNull "nextWorkNotBefore" q
    | _, _, _ => false

/-- The last outcome, or none. -/
def outcomeValid (outcome : LuaValue) : Bool :=
  outcome.isNull ||
    (outcome.exact (names ["reasonCode", "flickrResultCode", "observedAt", "correlationId"]) &&
      ((text "reasonCode" outcome).map reasons.contains).getD false &&
      isTime "observedAt" outcome && isId "correlationId" outcome &&
      (isNull "flickrResultCode" outcome || (integer "flickrResultCode" 0 outcome).isSome))

/-- What a permanent block must say in a state, and the outcome that goes with it. -/
def expectedBlock (state : Bytes) : Option (Bytes × Bytes) :=
  if state = ascii "moderation_submitted" then
    some (ascii "moderation_submission_recorded", ascii "moderation_submission_recorded")
  else if state = ascii "delivery_uncertain" then
    some (ascii "delivery_uncertain", ascii "post_dispatch_result_unavailable")
  else none

def blockValid (state : Bytes) (outcome block : LuaValue) : Bool :=
  match expectedBlock state with
  | none => block.isNull
  | some (reason, cause) =>
    block.exact (names ["reasonCode", "createdAt"]) && isText "reasonCode" reason block &&
      isTime "createdAt" block && !outcome.isNull && isText "reasonCode" cause outcome

/-- The state of an added row has its outcome. -/
def addedValid (state : Bytes) (outcome : LuaValue) : Bool :=
  state != ascii "added" ||
    (!outcome.isNull && (isText "reasonCode" (ascii "added") outcome ||
      isText "reasonCode" (ascii "membership_already_present") outcome))

def expectedAction (state : Bytes) (reason : Option Bytes) : Option Bytes :=
  if state = ascii "delivery_uncertain" then some (ascii "inspect_flickr_no_fga_resubmit")
  else reason.bind attentionAction

def attentionValid (state : Bytes) (v outcome attention : LuaValue) : Bool :=
  if state = ascii "needs_attention" ∨ state = ascii "delivery_uncertain" then
    !outcome.isNull &&
      attention.exact (names ["kind", "reasonCode", "occurredAt", "operatorAction",
        "fgaResubmissionAllowed"]) &&
      isText "kind" state attention &&
      (text "reasonCode" attention).isSome &&
      text "reasonCode" attention == text "reasonCode" outcome &&
      (text "occurredAt" attention).isSome &&
      text "occurredAt" attention == text "terminalAt" v &&
      (match field "fgaResubmissionAllowed" attention with
        | some (.boolean false) => true
        | _ => false) &&
      (text "operatorAction" attention).isSome &&
      text "operatorAction" attention == expectedAction state (text "reasonCode" outcome)
  else attention.isNull

/-- `validateIntent`. -/
def validateIntent (v : LuaValue) (binding : Option Binding) : Bool :=
  v.exact intentFields &&
    ["fgaSubmissionIntentId", "fgaPhotoBindingId", "flickrPhotoId", "flickrGroupId"].all
      (fun name => isId name v) &&
    (match binding with
      | none => true
      | some binding =>
        isText "fgaPhotoBindingId" binding.fgaPhotoBindingId v &&
          isText "flickrPhotoId" binding.flickrPhotoId v) &&
    (integer "stateRevision" 1 v).isSome && (integer "attemptCount" 0 v).isSome &&
    isTime "createdAt" v && isTime "stateChangedAt" v && displayNameValid v &&
    match text "state" v, text "createdAt" v, text "stateChangedAt" v, field "queue" v,
      field "lastOutcome" v, field "permanentSubmissionBlock" v, field "attention" v with
    | some state, some created, some changed, some queue, some outcome, some block,
      some attention =>
      !bytesLess changed created &&
        (if active.contains state then queueValid state v queue
          else terminal.contains state && queue.isNull && isTime "terminalAt" v &&
            isText "terminalAt" changed v) &&
        outcomeValid outcome && blockValid state outcome block && addedValid state outcome &&
        attentionValid state v outcome attention
    | _, _, _, _, _, _, _ => false

/-! ## Gates -/

def gateFields : List Bytes :=
  names ["scope", "state", "revision", "pausedAt", "reasonCode", "affectedActiveIntentCount"]

def gateReasons : List Bytes :=
  names ["operator_review_required", "user_flickr_reauthorization_required",
    "deployment_repair_required"]

/-- One gate, with the number of active intents. -/
def gateValid (count : Nat) (gate : LuaValue) : Bool :=
  gate.exact gateFields && (integer "revision" 1 gate).isSome &&
    match integer "affectedActiveIntentCount" 0 gate with
    | none => false
    | some affected =>
      if isText "state" (ascii "enabled") gate then
        isNull "pausedAt" gate && isNull "reasonCode" gate && affected == 0
      else
        isText "state" (ascii "paused") gate && isTime "pausedAt" gate && affected == count &&
          ((text "reasonCode" gate).map gateReasons.contains).getD false

def scopesValid : List Bytes → List LuaValue → Bool
  | _, [] => true
  | seen, gate :: rest =>
    match text "scope" gate with
    | none => false
    | some scope =>
      (names ["user", "deployment"]).contains scope && !seen.contains scope &&
        scopesValid (scope :: seen) rest

/-- `gatesValid`. -/
def gatesValid (gates : List LuaValue) (count : Nat) : Bool :=
  gates.length == 2 && scopesValid [] gates && gates.all (gateValid count)

def isPaused (gate : LuaValue) : Bool := isText "state" (ascii "paused") gate

/-- The names of the paused gates, sorted. -/
def pausedHolds (gates : List LuaValue) : List Bytes :=
  ((gates.filter isPaused).filterMap fun gate =>
    (text "scope" gate).map (· ++ ascii "_flickr_write_gate_paused")).insertionSort
      fun left right => bytesLess right left = false

/-! ## Traversal -/

/-- The outcomes that are no history. -/
inductive Failure where
  | unavailable
  | authenticationUnconfirmed
  | responseInvalid
  | statusChanged
  | invalidRequest
deriving DecidableEq

/-- What the request for a page ends with. -/
inductive Reply where
  | unreachable
  | refused (status : Nat)
  /-- The body is too long, or is no strict JSON text. -/
  | malformed
  | document (page : LuaValue)

/-- The seconds after which to read again, null where nothing is active. -/
def pollOf (v : LuaValue) : Option (Option Nat) :=
  match field "recommendedPollAfterSeconds" v with
  | some .null => some none
  | some value =>
    match value.integer? 15 60 with
    | some seconds => if seconds = 15 ∨ seconds = 60 then some (some seconds) else none
    | none => none
  | none => none

/-- What a traversal has read so far. -/
structure Traversal where
  intents : List LuaValue
  summary : Option LuaValue
  observedAt : Option Bytes
  poll : Option Nat
  seenIds : List Bytes
  seenGroups : List Bytes
  /-- The creation time and the id of the last row. -/
  previous : Option (Bytes × Bytes)
  cursor : Option (Bytes × Bytes)
  requestCount : Nat

def Traversal.start : Traversal := ⟨[], none, none, none, [], [], none, none, 0⟩

/-- A history. -/
structure History where
  intents : List LuaValue
  summary : LuaValue
  observedAt : Bytes
  poll : Option Nat
  requestCount : Nat

abbrev Answer := Except Failure History

def pageFields : List Bytes :=
  names ["schemaVersion", "observedAt", "view", "pageSize", "photoBindingId", "summary", "intents",
    "nextPage", "recommendedPollAfterSeconds"]

def summaryFields : List Bytes :=
  names ["activeIntentCount", "activePartitionCount", "attentionIntentCount",
    "oldestActiveEnqueuedAt", "writeGates"]

/-- A summary that passed its checks. -/
structure Summary where
  value : LuaValue
  activeIntents : Nat
  attentionIntents : Nat
  gates : List LuaValue

def readSummary (s : LuaValue) : Option Summary :=
  match integer "activeIntentCount" 0 s, integer "activePartitionCount" 0 s,
    integer "attentionIntentCount" 0 s, (field "writeGates" s).bind (LuaValue.array? 2) with
  | some count, some partitions, some attention, some gates =>
    if s.exact summaryFields ∧ partitions ≤ count ∧ gatesValid gates count ∧
        (if count = 0 then isNull "oldestActiveEnqueuedAt" s
          else isTime "oldestActiveEnqueuedAt" s) then
      some ⟨s, count, attention, gates⟩
    else none
  | _, _, _, _ => none

/-- A page that passed its checks, rows and cursor apart. -/
structure Page where
  value : LuaValue
  observedAt : Bytes
  summary : Summary
  intents : List LuaValue

def expectedPoll (summary : Summary) : Option Nat :=
  if summary.activeIntents = 0 then none
  else if summary.gates.any isPaused then some 60 else some 15

def readPage (binding : Binding) (page : LuaValue) : Option Page :=
  match text "observedAt" page, (field "intents" page).bind (LuaValue.array? 100),
    (field "summary" page).bind readSummary with
  | some observed, some intents, some summary =>
    if page.exact pageFields ∧
        ((field "schemaVersion" page).bind (LuaValue.integer? 1 1)).isSome ∧
        isMicroTimestamp observed ∧ isText "view" (ascii "history") page ∧
        ((field "pageSize" page).bind (LuaValue.integer? 100 100)).isSome ∧
        isText "photoBindingId" binding.fgaPhotoBindingId page ∧
        pollOf page = some (expectedPoll summary) then
      some ⟨page, observed, summary, intents⟩
    else none
  | _, _, _ => none

/-- The row comes after the one before: it is older, or as old with a smaller id. -/
def follows (previous : Option (Bytes × Bytes)) (created id : Bytes) : Bool :=
  match previous with
  | none => true
  | some (lastCreated, lastId) =>
    !bytesLess lastCreated created && (created != lastCreated || bytesLess id lastId)

/-- The holds of an active row are those of the paused gates. -/
def holdsAgree (gates : List LuaValue) (v : LuaValue) : Bool :=
  match text "state" v with
  | none => false
  | some state =>
    !active.contains state ||
      (match (field "queue" v).bind (field "holds") with
        | none => false
        | some holds =>
          LuaValue.same (.array ((pausedHolds gates).map LuaValue.text)) holds)

/-- One row. -/
def addRow (binding : Binding) (page : Page) (t : Traversal) (v : LuaValue) : Option Traversal :=
  match text "fgaSubmissionIntentId" v, text "flickrGroupId" v, text "createdAt" v,
    text "stateChangedAt" v with
  | some id, some group, some created, some changed =>
    if validateIntent v (some binding) ∧ id ∉ t.seenIds ∧ group ∉ t.seenGroups ∧
        follows t.previous created id ∧ holdsAgree page.summary.gates v ∧
        ¬ bytesLess page.observedAt changed ∧ t.intents.length < maxIntents then
      some { t with
        intents := t.intents ++ [v]
        seenIds := id :: t.seenIds
        seenGroups := group :: t.seenGroups
        previous := some (created, id) }
    else none
  | _, _, _, _ => none

def addRows (binding : Binding) (page : Page) : Traversal → List LuaValue → Option Traversal
  | t, [] => some t
  | t, v :: rest => (addRow binding page t v).bind fun t => addRows binding page t rest

def isActive (v : LuaValue) : Bool := ((text "state" v).map active.contains).getD false

def isAttention (v : LuaValue) : Bool :=
  ((text "state" v).map (names ["needs_attention", "delivery_uncertain"]).contains).getD false

/-- The earliest creation time of the active rows. -/
def oldestActive (intents : List LuaValue) : Option Bytes :=
  (intents.filter isActive).foldl (fun oldest v =>
    match oldest, text "createdAt" v with
    | none, created => created
    | some earliest, some created =>
      if bytesLess created earliest then some created else some earliest
    | some earliest, none => some earliest) none

/-- The rows agree with the summary. -/
def countsAgree (page : Page) (intents : List LuaValue) : Bool :=
  (intents.filter isActive).length == page.summary.activeIntents &&
    (intents.filter isAttention).length == page.summary.attentionIntents &&
    match oldestActive intents with
    | none => isNull "oldestActiveEnqueuedAt" page.summary.value
    | some oldest => isText "oldestActiveEnqueuedAt" oldest page.summary.value

/-- The cursor of the next page is the last row. -/
def nextCursor (page : Page) (t : Traversal) : Option (Bytes × Bytes) :=
  match field "nextPage" page.value, t.previous with
  | some next, some (created, id) =>
    if page.intents.length = 100 ∧ next.exact (names ["beforeCreatedAt", "beforeIntentId"]) ∧
        isText "beforeCreatedAt" created next ∧ isText "beforeIntentId" id next then
      some (created, id)
    else none
  | _, _ => none

/-- The page agrees with the pages before it. -/
def steady (page : Page) (t : Traversal) : Bool :=
  (match t.summary with
    | none => true
    | some summary =>
      LuaValue.same summary page.summary.value && t.poll == expectedPoll page.summary) &&
    match t.observedAt with
    | none => true
    | some observed => !bytesLess page.observedAt observed

/-- One page of a traversal. -/
def traversalStep (binding : Binding) (t : Traversal) :
    Reply → PagedReader.Next Traversal Answer
  | .unreachable => .done (.error .unavailable)
  | .refused status =>
    .done (.error (if status = 401 then .authenticationUnconfirmed else .unavailable))
  | .malformed => .done (.error .responseInvalid)
  | .document value =>
    match readPage binding value with
    | none => .done (.error .responseInvalid)
    | some page =>
      if steady page t = false then .done (.error .statusChanged)
      else
        match addRows binding page
          { t with summary := some page.summary.value, observedAt := some page.observedAt,
                   poll := expectedPoll page.summary } page.intents with
        | none => .done (.error .responseInvalid)
        | some t =>
          if isNull "nextPage" page.value then
            if countsAgree page t.intents then
              .done (.ok ⟨t.intents, page.summary.value, page.observedAt,
                expectedPoll page.summary, t.requestCount + 1⟩)
            else .done (.error .statusChanged)
          else
            match nextCursor page t with
            | none => .done (.error .responseInvalid)
            | some cursor =>
              .more { t with cursor := some cursor, requestCount := t.requestCount + 1 }

/-- The path of the next page. -/
def traversalPath (binding : Binding) (t : Traversal) : Bytes :=
  ascii "/api/v001/group-submission-intents?view=history&page_size=100&photo_binding_id=" ++
    percentEncode binding.fgaPhotoBindingId ++
    match t.cursor with
    | none => []
    | some (created, id) =>
      ascii "&before_created_at=" ++ percentEncode created ++ ascii "&before_intent_id=" ++
        percentEncode id

/-- `traversal`. -/
def traversal (binding : Binding) : PagedReader.Reader Traversal Reply Answer Bytes where
  ask := traversalPath binding
  step := traversalStep binding

/-- What a traversal ends with. -/
def traverse (binding : Binding) (replies : List Reply) : Option Answer :=
  (traversal binding).result (.error .unavailable) maxPages .start replies

/-! ## History -/

/-- A gate of an earlier history has not gone back. -/
def gateKept (gates : List LuaValue) (prior : LuaValue) : Bool :=
  match gates.find? (fun gate => text "scope" gate == text "scope" prior),
    integer "revision" 1 prior with
  | some current, some revision =>
    match integer "revision" 1 current with
    | none => false
    | some now =>
      decide (revision ≤ now) &&
        (now != revision || ["state", "pausedAt", "reasonCode"].all fun name =>
          match field name current, field name prior with
          | some a, some b => LuaValue.same a b
          | _, _ => false)
  | _, _ => false

/-- A row of an earlier history has not gone back. -/
def rowKept (intents : List LuaValue) (prior : LuaValue) : Bool :=
  match intents.find? (fun v =>
    text "fgaSubmissionIntentId" v == text "fgaSubmissionIntentId" prior) with
  | none => false
  | some current =>
    match integer "stateRevision" 0 current, integer "stateRevision" 0 prior,
      field "permanentSubmissionBlock" current, field "permanentSubmissionBlock" prior with
    | some now, some before, some block, some priorBlock =>
      text "flickrGroupId" current == text "flickrGroupId" prior &&
        text "createdAt" current == text "createdAt" prior && decide (before ≤ now) &&
        (LuaValue.same block priorBlock || priorBlock.isNull) &&
        (now != before || (text "state" current == text "state" prior &&
          text "stateChangedAt" current == text "stateChangedAt" prior))
    | _, _, _, _ => false

/-- The history does not contradict the one shown before. -/
def priorKept (prior : History) (second : History) : Bool :=
  isMicroTimestamp prior.observedAt && !bytesLess second.observedAt prior.observedAt &&
    (match (field "writeGates" prior.summary).bind (LuaValue.array? 2),
        (field "writeGates" second.summary).bind (LuaValue.array? 2) with
      | some gates, some current => gates.all (gateKept current)
      | _, _ => false) &&
    prior.intents.all (rowKept second.intents)

/-- `history`: two traversals that agree, after the history shown before for this binding. -/
def history (binding : Binding) (prior : Option History) (firstReplies secondReplies : List Reply) :
    Option Answer :=
  if isOpaqueId binding.fgaPhotoBindingId = false ∨ isOpaqueId binding.flickrPhotoId = false then
    some (.error .invalidRequest)
  else
    match traverse binding firstReplies with
    | none => none
    | some (.error failure) => some (.error failure)
    | some (.ok first) =>
      match traverse binding secondReplies with
      | none => none
      | some (.error failure) => some (.error failure)
      | some (.ok second) =>
        if LuaValue.same (.array first.intents) (.array second.intents) = false ∨
            LuaValue.same first.summary second.summary = false ∨ first.poll ≠ second.poll ∨
            bytesLess second.observedAt first.observedAt = true then
          some (.error .statusChanged)
        else
          match prior with
          | some prior =>
            if priorKept prior second then
              some (.ok { second with requestCount := first.requestCount + second.requestCount })
            else some (.error .statusChanged)
          | none =>
            some (.ok { second with requestCount := first.requestCount + second.requestCount })

/-- The paths that `history` asks for. -/
def historyPaths (binding : Binding) (firstReplies secondReplies : List Reply) : List Bytes :=
  if isOpaqueId binding.fgaPhotoBindingId = false ∨ isOpaqueId binding.flickrPhotoId = false then []
  else
    (traversal binding).asked maxPages .start firstReplies ++
      match traverse binding firstReplies with
      | some (.ok _) => (traversal binding).asked maxPages .start secondReplies
      | _ => []

end StatusClient

end FlickrGroupAddr

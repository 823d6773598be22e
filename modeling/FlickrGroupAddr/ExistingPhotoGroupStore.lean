import FlickrGroupAddr.GroupSelectionStore
import Mathlib.Data.List.MinMax

/-!
# Group handoffs of existing photos

`ExistingPhotoGroupStore.lua`: the same handoffs for photos that Lightroom does not
hold, in one field of the catalog.  There is no editable entry beside them: the
latest record of a scope is its selection as long as it is prepared.
-/

namespace FlickrGroupAddr

set_option autoImplicit false

/-! ## Documents -/

/-- The scope of a handoff of an existing photo. -/
structure ExistingScope where
  installationId : String
  fgaPhotoBindingId : String
  flickrPhotoId : String
  linkedFlickrRevision : Int
  sourceKind : SourceKind
deriving DecidableEq

/-- `scopeValues`. -/
def ExistingScope.valid (scope : ExistingScope) : Prop :=
  isToken scope.installationId = true ∧ isToken scope.fgaPhotoBindingId = true ∧
    isToken scope.flickrPhotoId = true ∧ luaInteger scope.linkedFlickrRevision 1

instance ExistingScope.decidableValid (scope : ExistingScope) : Decidable scope.valid :=
  inferInstanceAs (Decidable (_ ∧ _ ∧ _ ∧ _))

/-- `matchesBinding`. -/
def matchesBinding (scope : ExistingScope) (binding : HandoffBinding) : Prop :=
  validBinding binding ∧ binding.fgaPhotoBindingId = scope.fgaPhotoBindingId ∧
    binding.flickrPhotoId = scope.flickrPhotoId ∧ binding.sourceKind = scope.sourceKind ∧
    binding.linkRevision = scope.linkedFlickrRevision

instance (scope : ExistingScope) (binding : HandoffBinding) :
    Decidable (matchesBinding scope binding) := inferInstanceAs (Decidable (_ ∧ _))

/-- A record; its choice and its workflow are constants of the document. -/
structure ExistingRecord where
  scope : ExistingScope
  selectionRevision : Int
  flickrGroupIds : List String
  handoffId : String
  outboxRevision : Int
  state : HandoffState
  binding : HandoffBinding
  submissions : Option (List SubmissionRow)
deriving DecidableEq

/-- The order of the records. -/
def ExistingRecord.before (left right : ExistingRecord) : Prop :=
  byteLess left.handoffId right.handoffId

instance (left right : ExistingRecord) : Decidable (left.before right) :=
  inferInstanceAs (Decidable (byteLess _ _))

/-- What `validDocument` asks of one record. -/
def validExistingRecord (record : ExistingRecord) : Prop :=
  record.scope.valid ∧ matchesBinding record.scope record.binding ∧
    luaInteger record.selectionRevision 1 ∧ validGroups record.flickrGroupIds .groups ∧
    isToken record.handoffId = true ∧
    record.outboxRevision = (if record.state = .prepared then 1 else 2) ∧
    (record.state = .prepared → record.submissions = none) ∧
    (record.state = .acknowledged →
      ∃ rows ∈ record.submissions, validSubmissions rows record.flickrGroupIds)

instance (record : ExistingRecord) : Decidable (validExistingRecord record) :=
  inferInstanceAs (Decidable (_ ∧ _ ∧ _ ∧ _ ∧ _ ∧ _ ∧ _ ∧ (_ → ∃ rows ∈ record.submissions, _)))

/-- Distinct records of one scope have distinct revisions. -/
def ExistingRecord.distinct (left right : ExistingRecord) : Prop :=
  ¬ (left.scope = right.scope ∧ left.selectionRevision = right.selectionRevision)

instance (left right : ExistingRecord) : Decidable (left.distinct right) :=
  inferInstanceAs (Decidable (¬ (_ ∧ _)))

/-- `validDocument`. -/
def validExisting (records : List ExistingRecord) : Prop :=
  records.length ≤ maxOutboxEntries ∧ (∀ record ∈ records, validExistingRecord record) ∧
    records.IsChain ExistingRecord.before ∧ records.Pairwise ExistingRecord.distinct

instance (records : List ExistingRecord) : Decidable (validExisting records) :=
  inferInstanceAs (Decidable (_ ∧ (∀ record ∈ records, _) ∧ _ ∧ _))

/-- `strictJson`, dkjson and the exact fields of the document. -/
structure ExistingCodec (ω : Type) where
  bytes : ω → Nat
  decode : ω → Option (List ExistingRecord)
  encode : List ExistingRecord → ω

/-- A valid document reads back as it was written. -/
def ExistingCodec.RoundTrips {ω : Type} (codec : ExistingCodec ω) : Prop :=
  ∀ records, validExisting records → codec.decode (codec.encode records) = some records

/-- `readDocument`. -/
def readExisting {ω : Type} (codec : ExistingCodec ω) (raw : Option ω) :
    Option (List ExistingRecord) :=
  match raw with
  | none => some []
  | some text =>
      if codec.bytes text ≤ maxOutboxBytes then
        (codec.decode text).filter fun records => validExisting records
      else none

local instance revisionOrder : Preorder Int := Int.instLinearOrder.toPreorder

/-- `latestRecord`. -/
def latestRecord (records : List ExistingRecord) (scope : ExistingScope) :
    Option ExistingRecord :=
  (records.filter fun record => record.scope = scope).argmax ExistingRecord.selectionRevision

/-- `findHandoff`. -/
def findExisting (records : List ExistingRecord) (handoffId : String) : Option ExistingRecord :=
  records.find? fun record => record.handoffId = handoffId

/-- What `choice` keeps of a record. -/
structure ExistingSelection where
  scope : ExistingScope
  selectionRevision : Int
  flickrGroupIds : List String
deriving DecidableEq

def ExistingRecord.selection (record : ExistingRecord) : ExistingSelection :=
  ⟨record.scope, record.selectionRevision, record.flickrGroupIds⟩

/-- `choice`: only a prepared record is a selection. -/
def existingChoice (record : Option ExistingRecord) : Option ExistingSelection :=
  (record.filter fun record => record.state = .prepared).map ExistingRecord.selection

/-! ## Operations -/

inductive ExistingAnswer where
  | selection (selection : Option ExistingSelection)
  | saved (selection : Option ExistingSelection) (handoff : ExistingRecord)
  | handoff (handoff : ExistingRecord)
  | handoffs (handoffs : List ExistingRecord)
  | confirmed (selectionConsumed : Bool) (handoff : ExistingRecord)
deriving DecidableEq

/-- What an operation gives back: its answer and the document, if it changed. -/
structure ExistingOutcome where
  answer : ExistingAnswer
  records : Option (List ExistingRecord)

/-- The revision the caller must expect: that of a prepared selection, or zero. -/
def expectedExisting (prior : Option ExistingRecord) : Int :=
  ((existingChoice prior).map ExistingSelection.selectionRevision).getD 0

/-- The record `saveChoice` makes. -/
def newExisting (scope : ExistingScope) (revision : Int) (groups : List String)
    (handoffId : String) (binding : HandoffBinding) : ExistingRecord where
  scope := scope
  selectionRevision := revision
  flickrGroupIds := groups
  handoffId := handoffId
  outboxRevision := 1
  state := .prepared
  binding := binding
  submissions := none

/-- The callback of `saveChoice`. -/
def saveExistingOperation (scope : ExistingScope) (normalized : List String)
    (expectedRevision : Int) (handoffId : String) (binding : HandoffBinding)
    (records : List ExistingRecord) : Except StoreFailure ExistingOutcome :=
  let prior := latestRecord records scope
  if expectedRevision ≠ expectedExisting prior then .error .revisionConflict
  else if findExisting records handoffId ≠ none then .error .handoffExists
  else if maxOutboxEntries ≤ records.length then .error .storageFull
  else
    let revision := (prior.map ExistingRecord.selectionRevision).getD 0
    if revision = maxInteger then .error .revisionExhausted
    else
      let record := newExisting scope (revision + 1) normalized handoffId binding
      .ok ⟨.saved (existingChoice (some record)) record,
        some ((records ++ [record]).insertionSort fun left right => ¬ right.before left)⟩

/-- The acknowledgement a caller passes to `confirm`; its kind is `groups_accepted`. -/
structure ExistingAck where
  selectionRevision : Int
  flickrGroupIds : List String
  binding : Option HandoffBinding
  submissions : List SubmissionRow
deriving DecidableEq

/-- The acknowledgement answers the record. -/
def existingAckMatches (ack : ExistingAck) (record : ExistingRecord) : Prop :=
  ack.selectionRevision = record.selectionRevision ∧ validGroups ack.flickrGroupIds .groups ∧
    ack.flickrGroupIds = record.flickrGroupIds ∧ equalBinding ack.binding (some record.binding) ∧
    validSubmissions ack.submissions record.flickrGroupIds

instance (ack : ExistingAck) (record : ExistingRecord) :
    Decidable (existingAckMatches ack record) :=
  inferInstanceAs (Decidable (_ ∧ _ ∧ _ ∧ _ ∧ _))

/-- The record once it is acknowledged. -/
def ExistingRecord.acknowledge (record : ExistingRecord) (ack : ExistingAck) : ExistingRecord :=
  { record with
    state := .acknowledged
    outboxRevision := record.outboxRevision + 1
    submissions := some ack.submissions }

/-- The callback of `confirm`. -/
def confirmExistingOperation (scope : ExistingScope) (handoffId : String)
    (expectedRevision : Int) (ack : ExistingAck) (records : List ExistingRecord) :
    Except StoreFailure ExistingOutcome :=
  match findExisting records handoffId with
  | none => .error .handoffNotFound
  | some record =>
      if record.scope ≠ scope then .error .handoffNotFound
      else if record.outboxRevision ≠ expectedRevision then .error .revisionConflict
      else if ¬ existingAckMatches ack record then .error .ackInvalid
      else if record.state = .acknowledged then .ok ⟨.confirmed false record, none⟩
      else
        let acknowledged := record.acknowledge ack
        let consumed := (latestRecord records scope).any fun latest =>
          latest.selectionRevision = record.selectionRevision
        .ok ⟨.confirmed consumed acknowledged,
          some (records.map fun other =>
            if other.handoffId = handoffId then acknowledged else other)⟩

/-! ## Calls -/

/-- The methods of a store. -/
inductive ExistingCall where
  | readChoice
  | saveChoice (groups : List String) (expectedRevision : Int) (handoffId : String)
      (binding : Option HandoffBinding)
  | readHandoff (handoffId : String)
  | listPending
  | confirm (handoffId : String) (expectedRevision : Int) (ack : ExistingAck)
deriving DecidableEq

/-- `normalizeGroups`, which here wants a group. -/
def normalizeExistingGroups (groups : List String) : Option (List String) :=
  if 1 ≤ groups.length then normalizeGroups groups else none

/-- The checks of a method before its gate, and its callback. -/
def ExistingCall.operation (scope : ExistingScope) : ExistingCall →
    Except StoreFailure (List ExistingRecord → Except StoreFailure ExistingOutcome)
  | .readChoice =>
      .ok fun records => .ok ⟨.selection (existingChoice (latestRecord records scope)), none⟩
  | .saveChoice groups expectedRevision handoffId binding =>
      match normalizeExistingGroups groups with
      | none => .error .choiceInvalid
      | some normalized =>
          if ¬ luaInteger expectedRevision 0 then .error .choiceInvalid
          else
            match binding.filter fun given => isToken handoffId = true ∧ matchesBinding scope given
            with
            | none => .error .handoffInvalid
            | some given =>
                .ok (saveExistingOperation scope normalized expectedRevision handoffId given)
  | .readHandoff handoffId =>
      if isToken handoffId = true then
        .ok fun records =>
          match (findExisting records handoffId).filter fun record => record.scope = scope with
          | none => .error .handoffNotFound
          | some record => .ok ⟨.handoff record, none⟩
      else .error .handoffInvalid
  | .listPending =>
      .ok fun records =>
        .ok ⟨.handoffs (records.filter fun record =>
          record.state = .prepared ∧ record.scope = scope), none⟩
  | .confirm handoffId expectedRevision ack =>
      if isToken handoffId = true ∧ luaInteger expectedRevision 1 then
        .ok (confirmExistingOperation scope handoffId expectedRevision ack)
      else .error .handoffInvalid

/-- What the callback leaves to be written. -/
structure ExistingWrites (ω : Type) where
  answer : Except StoreFailure ExistingAnswer
  outbox : Option ω

section Run

variable {ω : Type} [DecidableEq ω] (codec : ExistingCodec ω) (host : HostTurn)
  (operation : List ExistingRecord → Except StoreFailure ExistingOutcome) (field : Option ω)

/-- The callback inside the gate up to its setter. -/
def existingCallback : CallbackResult (ExistingWrites ω) :=
  if host.callbackScope = false then .thrown
  else
    match readExisting codec field with
    | none => .stopped .storedInvalid
    | some records =>
        match operation records with
        | .error failure => .completed ⟨.error failure, none⟩
        | .ok outcome =>
            match outcome.records with
            | none => .completed ⟨.ok outcome.answer, none⟩
            | some records' =>
                if ¬ validExisting records' then .thrown
                else if maxOutboxBytes < codec.bytes (codec.encode records') then
                  .stopped .storageFull
                else if host.writeScope then
                  .completed ⟨.ok outcome.answer, some (codec.encode records')⟩
                else .thrown

/-- The field after the setter. -/
def existingAfter (writes : ExistingWrites ω) : Option ω :=
  if host.keptOutbox = true ∧ writes.outbox ≠ none then writes.outbox else field

/-- `run`. -/
def runExisting : Option ω × Except StoreFailure ExistingAnswer :=
  if host.entryScope = false then (field, .error .scopeInvalid)
  else
    match host.gate with
    | .thrown => (field, .error .storageUnavailable)
    | .answered ran =>
        match ran, existingCallback codec host operation field with
        | true, .completed writes => (existingAfter host field writes, .error .writeUnconfirmed)
        | _, _ => (field, .error .writeUnconfirmed)
    | .executed =>
        match existingCallback codec host operation field with
        | .thrown => (field, .error .storageUnavailable)
        | .stopped failure => (field, .error failure)
        | .completed writes =>
            if host.readbackScope = true ∧
                existingAfter host field writes = writes.outbox.or field then
              (existingAfter host field writes, writes.answer)
            else (existingAfter host field writes, .error .writeUnconfirmed)

end Run

/-- One call of a store. -/
def ExistingCall.exec {ω : Type} [DecidableEq ω] (codec : ExistingCodec ω) (host : HostTurn)
    (scope : ExistingScope) (call : ExistingCall) (field : Option ω) :
    Option ω × Except StoreFailure ExistingAnswer :=
  if ¬ scope.valid then (field, .error .scopeInvalid)
  else
    match call.operation scope with
    | .error failure => (field, .error failure)
    | .ok operation => runExisting codec host operation field

end FlickrGroupAddr

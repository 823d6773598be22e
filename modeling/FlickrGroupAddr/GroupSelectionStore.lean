import FlickrGroupAddr.SelectionRecords

/-!
# Group selections of published photos

`GroupSelectionStore.lua`: the chosen groups of a photo in a field of the photo, and
the handoffs prepared from them in a field of the catalog.  Every call reads both
fields, computes and writes inside one gate of the catalog, and reads back.
-/

namespace FlickrGroupAddr

set_option autoImplicit false

/-! ## Documents -/

/-- The scope of a selection. -/
structure PhotoScope where
  publishServiceLocalId : Int
  publishedCollectionLocalId : Int
  photoUuid : String
deriving DecidableEq

def hexDigitOfEitherCase (c : Char) : Bool :=
  c.isDigit || ('a' ≤ c && c ≤ 'f') || ('A' ≤ c && c ≤ 'F')

/-- `uuid`. -/
def photoUuidText (text : String) : Bool :=
  text.toList.length == 36 && text.toList.zipIdx.all fun c =>
    if c.2 = 8 ∨ c.2 = 13 ∨ c.2 = 18 ∨ c.2 = 23 then c.1 == '-' else hexDigitOfEitherCase c.1

/-- `validScope`. -/
def PhotoScope.valid (scope : PhotoScope) : Prop :=
  luaInteger scope.publishServiceLocalId 1 ∧ luaInteger scope.publishedCollectionLocalId 1 ∧
    photoUuidText scope.photoUuid = true

instance PhotoScope.decidableValid (scope : PhotoScope) : Decidable scope.valid := inferInstanceAs (Decidable (_ ∧ _ ∧ _))

/-- `scopeLess`. -/
def scopeLess (left right : PhotoScope) : Prop :=
  left.publishServiceLocalId < right.publishServiceLocalId ∨
    (left.publishServiceLocalId = right.publishServiceLocalId ∧
      left.publishedCollectionLocalId < right.publishedCollectionLocalId)

instance (left right : PhotoScope) : Decidable (scopeLess left right) :=
  inferInstanceAs (Decidable (_ ∨ _ ∧ _))

/-- An editable selection. -/
structure SelectionEntry where
  scope : PhotoScope
  selectionRevision : Int
  choice : GroupChoice
  flickrGroupIds : List String
deriving DecidableEq

inductive HandoffState where
  | prepared
  | acknowledged
deriving DecidableEq

/-- A handoff; it copies the selection it was prepared from. -/
structure HandoffRecord where
  selection : SelectionEntry
  handoffId : String
  outboxRevision : Int
  state : HandoffState
  binding : Option HandoffBinding
  submissions : Option (List SubmissionRow)
deriving DecidableEq

def HandoffRecord.scope (record : HandoffRecord) : PhotoScope := record.selection.scope

/-- `validEntry`. -/
def validEntry (entry : SelectionEntry) (minimum : Int) : Prop :=
  entry.scope.valid ∧ luaInteger entry.selectionRevision minimum ∧
    validGroups entry.flickrGroupIds entry.choice ∧
    (0 < entry.selectionRevision ∨ entry.choice = .none)

instance (entry : SelectionEntry) (minimum : Int) : Decidable (validEntry entry minimum) :=
  inferInstanceAs (Decidable (_ ∧ _ ∧ _ ∧ (_ ∨ _)))

/-- `MAX_SELECTION_ENTRIES`. -/
def maxSelectionEntries : Nat := 64

/-- `MAX_SELECTION_BYTES`. -/
def maxSelectionBytes : Nat := 512 * 1024

/-- `MAX_OUTBOX_ENTRIES`. -/
def maxOutboxEntries : Nat := 128

/-- `MAX_OUTBOX_BYTES`. -/
def maxOutboxBytes : Nat := 1024 * 1024

/-- The order of the selections of a photo. -/
def SelectionEntry.before (left right : SelectionEntry) : Prop := scopeLess left.scope right.scope

instance (left right : SelectionEntry) : Decidable (left.before right) :=
  inferInstanceAs (Decidable (scopeLess _ _))

/-- The order of the handoffs. -/
def HandoffRecord.before (left right : HandoffRecord) : Prop :=
  byteLess left.handoffId right.handoffId

instance (left right : HandoffRecord) : Decidable (left.before right) :=
  inferInstanceAs (Decidable (byteLess _ _))

/-- `validDocument` of the selections of a photo. -/
def validSelections (entries : List SelectionEntry) (photoUuid : String) : Prop :=
  entries.length ≤ maxSelectionEntries ∧
    (∀ entry ∈ entries, validEntry entry 1 ∧ entry.scope.photoUuid = photoUuid) ∧
    entries.IsChain SelectionEntry.before

instance (entries : List SelectionEntry) (photoUuid : String) :
    Decidable (validSelections entries photoUuid) :=
  inferInstanceAs (Decidable (_ ∧ (∀ entry ∈ entries, _) ∧ _))

/-- What a record stores beside its selection. -/
def validHandoff (record : HandoffRecord) : Prop :=
  isToken record.handoffId = true ∧ luaInteger record.outboxRevision 1 ∧
    record.outboxRevision = (if record.state = .prepared then 1 else 2) ∧
    (∀ binding ∈ record.binding, validBinding binding) ∧
    (record.state = .prepared → record.submissions = none) ∧
    (record.state = .acknowledged → record.selection.choice = .groups →
      ∃ rows ∈ record.submissions, validSubmissions rows record.selection.flickrGroupIds) ∧
    (record.selection.choice = .none → record.submissions = none)

instance (record : HandoffRecord) : Decidable (validHandoff record) :=
  inferInstanceAs (Decidable (_ ∧ _ ∧ _ ∧ (∀ binding ∈ record.binding, _) ∧ _ ∧
    (_ → _ → ∃ rows ∈ record.submissions, _) ∧ _))

/-- `validDocument` of the outbox. -/
def validOutbox (records : List HandoffRecord) : Prop :=
  records.length ≤ maxOutboxEntries ∧
    (∀ record ∈ records, validEntry record.selection 0 ∧ validHandoff record) ∧
    records.IsChain HandoffRecord.before

instance (records : List HandoffRecord) : Decidable (validOutbox records) :=
  inferInstanceAs (Decidable (_ ∧ (∀ record ∈ records, _) ∧ _))

/-- `strictJson`, dkjson and the exact fields of the two documents, over the texts that
the fields store. -/
structure SelectionCodec (ω : Type) where
  bytes : ω → Nat
  decodeSelections : ω → Option (List SelectionEntry)
  decodeOutbox : ω → Option (List HandoffRecord)
  encodeSelections : List SelectionEntry → ω
  encodeOutbox : List HandoffRecord → ω

/-- A valid document reads back as it was written. -/
structure SelectionCodec.RoundTrips {ω : Type} (codec : SelectionCodec ω) : Prop where
  selections : ∀ entries photoUuid, validSelections entries photoUuid →
    codec.decodeSelections (codec.encodeSelections entries) = some entries
  outbox : ∀ records, validOutbox records →
    codec.decodeOutbox (codec.encodeOutbox records) = some records

/-- The stored fields: one of each photo and one of the catalog. -/
structure SelectionFields (ω : Type) where
  selections : String → Option ω
  outbox : Option ω

section Codec

variable {ω : Type} (codec : SelectionCodec ω)

/-- `readDocument` of the selections. -/
def readSelections (raw : Option ω) (photoUuid : String) : Option (List SelectionEntry) :=
  match raw with
  | none => some []
  | some text =>
      if codec.bytes text ≤ maxSelectionBytes then
        (codec.decodeSelections text).filter fun entries => validSelections entries photoUuid
      else none

/-- `readDocument` of the outbox. -/
def readOutbox (raw : Option ω) : Option (List HandoffRecord) :=
  match raw with
  | none => some []
  | some text =>
      if codec.bytes text ≤ maxOutboxBytes then
        (codec.decodeOutbox text).filter fun records => validOutbox records
      else none

end Codec

/-- `findSelection`. -/
def findSelection (entries : List SelectionEntry) (scope : PhotoScope) : Option SelectionEntry :=
  entries.find? fun entry => entry.scope = scope

/-- `findHandoff`. -/
def findHandoff (records : List HandoffRecord) (handoffId : String) : Option HandoffRecord :=
  records.find? fun record => record.handoffId = handoffId

/-! ## Operations -/

inductive SelectionAnswer where
  | selection (entry : Option SelectionEntry)
  | saved (entry : SelectionEntry) (handoff : Option HandoffRecord)
  | prepared (handoff : HandoffRecord)
  | handoff (handoff : HandoffRecord)
  | handoffs (handoffs : List HandoffRecord)
  | confirmed (selectionConsumed : Bool) (handoff : HandoffRecord)
deriving DecidableEq

/-- What an operation gives back: its answer and the documents it changed. -/
structure SelectionOutcome where
  answer : SelectionAnswer
  selections : Option (List SelectionEntry)
  outbox : Option (List HandoffRecord)

/-- The revision of the editable selection, zero where there is none. -/
def currentRevision (entries : List SelectionEntry) (scope : PhotoScope) : Int :=
  ((findSelection entries scope).map SelectionEntry.selectionRevision).getD 0

/-- The record `addHandoff` makes. -/
def newHandoff (scope : PhotoScope) (selection : Option SelectionEntry) (handoffId : String)
    (binding : Option HandoffBinding) : HandoffRecord where
  selection := selection.getD ⟨scope, 0, .none, []⟩
  handoffId := handoffId
  outboxRevision := 1
  state := .prepared
  binding := binding
  submissions := none

/-- `addHandoff`: the record and the outbox with it. -/
def addHandoff (scope : PhotoScope) (selection : Option SelectionEntry)
    (records : List HandoffRecord) (handoffId : String) (binding : Option HandoffBinding) :
    Except StoreFailure (HandoffRecord × List HandoffRecord) :=
  if ¬ (isToken handoffId = true ∧ ∀ given ∈ binding, validBinding given) then
    .error .handoffInvalid
  else if binding ≠ none ∧ ∀ entry ∈ selection, entry.choice = .none then .error .choiceInvalid
  else if findHandoff records handoffId ≠ none then .error .handoffExists
  else if maxOutboxEntries ≤ records.length then .error .storageFull
  else
    let record := newHandoff scope selection handoffId binding
    .ok (record, (records ++ [record]).insertionSort fun left right => ¬ right.before left)

/-- The highest revision that the selection or a handoff of the scope has. -/
def highestRevision (prior : Option SelectionEntry) (records : List HandoffRecord)
    (scope : PhotoScope) : Int :=
  records.foldl
    (fun revision record =>
      if record.scope = scope then max revision record.selection.selectionRevision else revision)
    ((prior.map SelectionEntry.selectionRevision).getD 0)

/-- Put the entry in the place of the selection of its scope; a document has at most one. -/
def putSelection (entries : List SelectionEntry) (entry : SelectionEntry) : List SelectionEntry :=
  let placed :=
    if findSelection entries entry.scope = none then entries ++ [entry]
    else entries.map fun other => if other.scope = entry.scope then entry else other
  placed.insertionSort fun left right => ¬ right.before left

/-- The callback of `saveChoice`. -/
def saveChoiceOperation (scope : PhotoScope) (normalized : List String) (expectedRevision : Int)
    (handoffId : Option String) (binding : Option HandoffBinding)
    (entries : List SelectionEntry) (records : List HandoffRecord) :
    Except StoreFailure SelectionOutcome :=
  let prior := findSelection entries scope
  if currentRevision entries scope ≠ expectedRevision then .error .revisionConflict
  else if prior = none ∧ maxSelectionEntries ≤ entries.length then .error .storageFull
  else
    let revision := highestRevision prior records scope
    if revision = maxInteger then .error .revisionExhausted
    else
      let entry : SelectionEntry := ⟨scope, revision + 1, choiceOf normalized, normalized⟩
      match handoffId with
      | none => .ok ⟨.saved entry none, some (putSelection entries entry), none⟩
      | some id =>
          match addHandoff scope (some entry) records id binding with
          | .error failure => .error failure
          | .ok (record, records') =>
              .ok ⟨.saved entry (some record), some (putSelection entries entry), some records'⟩

/-- The callback of `prepare`. -/
def prepareOperation (scope : PhotoScope) (expectedRevision : Int) (handoffId : String)
    (binding : Option HandoffBinding) (entries : List SelectionEntry)
    (records : List HandoffRecord) : Except StoreFailure SelectionOutcome :=
  if currentRevision entries scope ≠ expectedRevision then .error .revisionConflict
  else
    match addHandoff scope (findSelection entries scope) records handoffId binding with
    | .error failure => .error failure
    | .ok (record, records') => .ok ⟨.prepared record, none, some records'⟩

inductive AckKind where
  | groupsAccepted
  | publicationRecorded
deriving DecidableEq

/-- The acknowledgement a caller passes to `confirm`. -/
structure SelectionAck where
  kind : AckKind
  selectionRevision : Int
  flickrGroupIds : List String
  binding : Option HandoffBinding
  submissions : Option (List SubmissionRow)
  publicationRecorded : Option Bool
  albumAttachmentDurable : Option Bool
deriving DecidableEq

/-- The acknowledgement answers the record. -/
def ackMatches (ack : SelectionAck) (record : HandoffRecord) : Prop :=
  ack.selectionRevision = record.selection.selectionRevision ∧
    validGroups ack.flickrGroupIds record.selection.choice ∧
    ack.flickrGroupIds = record.selection.flickrGroupIds ∧
    equalBinding ack.binding record.binding ∧
    if record.selection.choice = .groups then
      ack.kind = .groupsAccepted ∧ ack.publicationRecorded = none ∧
        ack.albumAttachmentDurable = none ∧
        ∃ rows ∈ ack.submissions, validSubmissions rows record.selection.flickrGroupIds
    else
      ack.kind = .publicationRecorded ∧ ack.publicationRecorded = some true ∧
        ack.albumAttachmentDurable = some true ∧ ack.submissions = none

instance (ack : SelectionAck) (record : HandoffRecord) : Decidable (ackMatches ack record) :=
  have : Decidable (∃ rows ∈ ack.submissions,
      validSubmissions rows record.selection.flickrGroupIds) :=
    inferInstanceAs (Decidable (∃ rows ∈ ack.submissions, _))
  inferInstanceAs (Decidable (_ ∧ _ ∧ _ ∧ _ ∧ ite _ (_ ∧ _ ∧ _ ∧ _) (_ ∧ _)))

/-- The record once it is acknowledged. -/
def HandoffRecord.acknowledge (record : HandoffRecord) (ack : SelectionAck) : HandoffRecord :=
  { record with
    state := .acknowledged
    outboxRevision := record.outboxRevision + 1
    submissions := ack.submissions }

/-- The callback of `confirm`. -/
def confirmOperation (scope : PhotoScope) (handoffId : String) (expectedRevision : Int)
    (ack : SelectionAck) (entries : List SelectionEntry) (records : List HandoffRecord) :
    Except StoreFailure SelectionOutcome :=
  match findHandoff records handoffId with
  | none => .error .handoffNotFound
  | some record =>
      if record.scope ≠ scope then .error .handoffNotFound
      else if record.outboxRevision ≠ expectedRevision then .error .revisionConflict
      else if ¬ ackMatches ack record then .error .ackInvalid
      else if record.state = .acknowledged then .ok ⟨.confirmed false record, none, none⟩
      else
        let acknowledged := record.acknowledge ack
        let records' := records.map fun other =>
          if other.handoffId = handoffId then acknowledged else other
        match findSelection entries scope with
        | none => .ok ⟨.confirmed false acknowledged, none, some records'⟩
        | some current =>
            if current.selectionRevision ≠ record.selection.selectionRevision then
              .ok ⟨.confirmed false acknowledged, none, some records'⟩
            else if current.choice ≠ record.selection.choice ∨
                current.flickrGroupIds ≠ record.selection.flickrGroupIds then
              .error .storedInvalid
            else
              .ok ⟨.confirmed true acknowledged,
                some (entries.filter fun entry => entry.scope ≠ scope), some records'⟩

/-- The callbacks of `readChoice`, `readHandoff` and `listPending`. -/
def readChoiceOperation (scope : PhotoScope) (entries : List SelectionEntry)
    (_ : List HandoffRecord) : Except StoreFailure SelectionOutcome :=
  .ok ⟨.selection (findSelection entries scope), none, none⟩

def readHandoffOperation (scope : PhotoScope) (handoffId : String) (_ : List SelectionEntry)
    (records : List HandoffRecord) : Except StoreFailure SelectionOutcome :=
  match (findHandoff records handoffId).filter fun record => record.scope = scope with
  | none => .error .handoffNotFound
  | some record => .ok ⟨.handoff record, none, none⟩

def listPendingOperation (scope : PhotoScope) (_ : List SelectionEntry)
    (records : List HandoffRecord) : Except StoreFailure SelectionOutcome :=
  .ok ⟨.handoffs (records.filter fun record => record.state = .prepared ∧ record.scope = scope),
    none, none⟩

/-! ## The gate -/

/-- What the callback leaves to be written, and what the read-back expects. -/
structure SelectionWrites (ω : Type) where
  answer : Except StoreFailure SelectionAnswer
  selections : Option ω
  outbox : Option ω

section Run

variable {ω : Type} [DecidableEq ω] (codec : SelectionCodec ω) (host : HostTurn)
  (scope : PhotoScope)
  (operation : List SelectionEntry → List HandoffRecord → Except StoreFailure SelectionOutcome)
  (fields : SelectionFields ω)

/-- The encoded document, if one changed. -/
def encodeWithin {δ : Type} (encode : δ → ω) (valid : δ → Bool) (maximum : Nat) :
    Option δ → CallbackResult (Option ω)
  | none => .completed none
  | some document =>
      if valid document then
        if codec.bytes (encode document) ≤ maximum then .completed (some (encode document))
        else .stopped .storageFull
      else .thrown

/-- The callback inside the gate up to its setters. -/
def selectionCallback : CallbackResult (SelectionWrites ω) :=
  if host.callbackScope = false then .thrown
  else
    match readSelections codec (fields.selections scope.photoUuid) scope.photoUuid,
      readOutbox codec fields.outbox with
    | some entries, some records =>
        match operation entries records with
        | .error failure =>
            if host.writeScope then .completed ⟨.error failure, none, none⟩ else .thrown
        | .ok outcome =>
            match encodeWithin codec codec.encodeSelections
              (fun entries => validSelections entries scope.photoUuid) maxSelectionBytes
              outcome.selections with
            | .thrown => .thrown
            | .stopped failure => .stopped failure
            | .completed selections =>
                match encodeWithin codec codec.encodeOutbox (fun records => validOutbox records)
                  maxOutboxBytes outcome.outbox with
                | .thrown => .thrown
                | .stopped failure => .stopped failure
                | .completed outbox =>
                    if host.writeScope then .completed ⟨.ok outcome.answer, selections, outbox⟩
                    else .thrown
    | _, _ => .stopped .storedInvalid

/-- The fields after the setters; a host that does not come back with `executed` may have
kept either value. -/
def SelectionFields.after (writes : SelectionWrites ω) : SelectionFields ω where
  selections := fun photoUuid =>
    if photoUuid = scope.photoUuid ∧ host.keptSelection = true ∧ writes.selections ≠ none then
      writes.selections
    else fields.selections photoUuid
  outbox :=
    if host.keptOutbox = true ∧ writes.outbox ≠ none then writes.outbox else fields.outbox

/-- The read-back finds what was written, or what was there. -/
def SelectionFields.readBack (fields' : SelectionFields ω) (writes : SelectionWrites ω) : Prop :=
  host.readbackScope = true ∧
    fields'.selections scope.photoUuid =
      (writes.selections.or (fields.selections scope.photoUuid)) ∧
    fields'.outbox = writes.outbox.or fields.outbox

instance (fields' : SelectionFields ω) (writes : SelectionWrites ω) :
    Decidable (fields.readBack host scope fields' writes) :=
  inferInstanceAs (Decidable (_ ∧ _ ∧ _))

/-- `run`. -/
def runSelection : SelectionFields ω × Except StoreFailure SelectionAnswer :=
  if ¬ scope.valid ∨ host.entryScope = false then (fields, .error .scopeInvalid)
  else
    match host.gate with
    | .thrown => (fields, .error .storageUnavailable)
    | .answered ran =>
        match ran, selectionCallback codec host scope operation fields with
        | true, .completed writes => (fields.after host scope writes, .error .writeUnconfirmed)
        | _, _ => (fields, .error .writeUnconfirmed)
    | .executed =>
        match selectionCallback codec host scope operation fields with
        | .thrown => (fields, .error .storageUnavailable)
        | .stopped failure => (fields, .error failure)
        | .completed writes =>
            if fields.readBack host scope (fields.after host scope writes) writes then
              (fields.after host scope writes, writes.answer)
            else (fields.after host scope writes, .error .writeUnconfirmed)

end Run

/-! ## Calls -/

/-- The methods of a store. -/
inductive SelectionCall where
  | readChoice
  | saveChoice (groups : List String) (expectedRevision : Int) (handoffId : Option String)
      (binding : Option HandoffBinding)
  | prepare (expectedRevision : Int) (handoffId : String) (binding : Option HandoffBinding)
  | readHandoff (handoffId : String)
  | listPending
  | confirm (handoffId : String) (expectedRevision : Int) (ack : SelectionAck)
deriving DecidableEq

/-- The checks of a method before its gate, and its callback. -/
def SelectionCall.operation (scope : PhotoScope) : SelectionCall →
    Except StoreFailure
      (List SelectionEntry → List HandoffRecord → Except StoreFailure SelectionOutcome)
  | .readChoice => .ok (readChoiceOperation scope)
  | .saveChoice groups expectedRevision handoffId binding =>
      match normalizeGroups groups with
      | none => .error .choiceInvalid
      | some normalized =>
          if ¬ luaInteger expectedRevision 0 then .error .choiceInvalid
          else if binding ≠ none ∧ handoffId = none then .error .handoffInvalid
          else if ∃ given ∈ binding, ¬ validBinding given then .error .handoffInvalid
          else .ok (saveChoiceOperation scope normalized expectedRevision handoffId binding)
  | .prepare expectedRevision handoffId binding =>
      if ¬ luaInteger expectedRevision 0 then .error .choiceInvalid
      else if ∃ given ∈ binding, ¬ validBinding given then .error .handoffInvalid
      else .ok (prepareOperation scope expectedRevision handoffId binding)
  | .readHandoff handoffId =>
      if isToken handoffId = true then .ok (readHandoffOperation scope handoffId)
      else .error .handoffInvalid
  | .listPending => .ok (listPendingOperation scope)
  | .confirm handoffId expectedRevision ack =>
      if isToken handoffId = true ∧ luaInteger expectedRevision 1 then
        .ok (confirmOperation scope handoffId expectedRevision ack)
      else .error .handoffInvalid

/-- One call of a store. -/
def SelectionCall.exec {ω : Type} [DecidableEq ω] (codec : SelectionCodec ω) (host : HostTurn)
    (scope : PhotoScope) (call : SelectionCall) (fields : SelectionFields ω) :
    SelectionFields ω × Except StoreFailure SelectionAnswer :=
  if ¬ scope.valid then (fields, .error .scopeInvalid)
  else
    match call.operation scope with
    | .error failure => (fields, .error failure)
    | .ok operation => runSelection codec host scope operation fields

end FlickrGroupAddr

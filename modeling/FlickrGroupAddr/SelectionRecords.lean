import FlickrGroupAddr.Schema
import FlickrGroupAddr.Lib.Calendar
import Mathlib.Data.List.Chain
import Mathlib.Data.List.Sort

/-!
# Records of chosen groups

What `GroupSelectionStore.lua` and `ExistingPhotoGroupStore.lua` both write with the
same code: lists of groups, bound photos, accepted submissions, and the gate of the
catalog.  A number that passed `integer` is an integer in the safe range.
-/

namespace FlickrGroupAddr

set_option autoImplicit false

/-! ## Values -/

/-- `MAX_INTEGER`. -/
def maxInteger : Int := 9007199254740991

/-- `integer`. -/
def luaInteger (value minimum : Int) : Prop := minimum ≤ value ∧ value ≤ maxInteger

instance (value minimum : Int) : Decidable (luaInteger value minimum) :=
  inferInstanceAs (Decidable (_ ∧ _))

/-- `byteLess`; the order of UTF-8 bytes is the order of code points. -/
def byteLess (left right : String) : Prop := left.toList < right.toList

instance (left right : String) : Decidable (byteLess left right) :=
  inferInstanceAs (Decidable (left.toList < right.toList))

inductive GroupChoice where
  | none
  | groups
deriving DecidableEq

/-- The choice a list of groups stands for. -/
def choiceOf (groups : List String) : GroupChoice := if groups.length = 0 then .none else .groups

/-- `validGroups`. -/
def validGroups (groups : List String) (choice : GroupChoice) : Prop :=
  groups.length ≤ 60 ∧ choice = choiceOf groups ∧ (∀ id ∈ groups, isToken id = true) ∧
    groups.IsChain byteLess

instance (groups : List String) (choice : GroupChoice) : Decidable (validGroups groups choice) :=
  inferInstanceAs (Decidable (_ ∧ _ ∧ (∀ id ∈ groups, _) ∧ _))

/-- `normalizeGroups`. -/
def normalizeGroups (groups : List String) : Option (List String) :=
  let sorted := groups.insertionSort fun left right => ¬ byteLess right left
  if groups.length ≤ 60 ∧ (∀ id ∈ groups, isToken id = true) ∧
      validGroups sorted (choiceOf sorted) then
    some sorted
  else none

/-- A bound photo as a handoff copies it. -/
structure HandoffBinding where
  fgaPhotoBindingId : String
  flickrPhotoId : String
  verificationRevision : Int
  linkRevision : Int
  sourceKind : SourceKind
deriving DecidableEq

/-- `validBinding`. -/
def validBinding (binding : HandoffBinding) : Prop :=
  isToken binding.fgaPhotoBindingId = true ∧ isToken binding.flickrPhotoId = true ∧
    luaInteger binding.verificationRevision 1 ∧ luaInteger binding.linkRevision 1

instance (binding : HandoffBinding) : Decidable (validBinding binding) :=
  inferInstanceAs (Decidable (_ ∧ _))

/-- `equalBinding`. -/
def equalBinding : Option HandoffBinding → Option HandoffBinding → Prop
  | none, none => True
  | some left, some right => validBinding left ∧ validBinding right ∧ left = right
  | _, _ => False

instance : (left right : Option HandoffBinding) → Decidable (equalBinding left right)
  | none, none => isTrue trivial
  | some left, some right =>
      inferInstanceAs (Decidable (validBinding left ∧ validBinding right ∧ left = right))
  | none, some _ => isFalse id
  | some _, none => isFalse id

/-- `timestamp`. -/
def timestamp (value : String) : Bool :=
  let tail := value.toList.drop 19
  decide (value.utf8ByteSize ≤ 40) &&
    (match Calendar.readFields value.toList with
      | none => false
      | some fields => decide fields.Exists) &&
    (tail == ['Z'] ||
      (tail.head? == some '.' && tail.getLast? == some 'Z' &&
        decide (3 ≤ tail.length) && (tail.tail.dropLast).all Char.isDigit))

/-- A row of an acknowledgement; the block is its reason and its time. -/
structure SubmissionRow where
  fgaSubmissionIntentId : String
  flickrGroupId : String
  state : IntentState
  created : Bool
  permanentSubmissionBlock : Option (String × String)
deriving DecidableEq

/-- The block reason a state calls for. -/
def blockReasonOf : IntentState → Option String
  | .moderationSubmitted => some "moderation_submission_recorded"
  | .deliveryUncertain => some "delivery_uncertain"
  | _ => none

/-- The block a row must carry. -/
def validBlock (row : SubmissionRow) : Option String → Prop
  | none => row.permanentSubmissionBlock = none
  | some reason => row.created = false ∧
      ∃ block ∈ row.permanentSubmissionBlock, block.1 = reason ∧ timestamp block.2 = true

instance (row : SubmissionRow) : (reason : Option String) → Decidable (validBlock row reason)
  | none => inferInstanceAs (Decidable (row.permanentSubmissionBlock = none))
  | some reason => inferInstanceAs (Decidable (row.created = false ∧
      ∃ block ∈ row.permanentSubmissionBlock, block.1 = reason ∧ timestamp block.2 = true))

/-- One row of `validSubmissions`. -/
def validSubmission (row : SubmissionRow) (group : String) : Prop :=
  isToken row.fgaSubmissionIntentId = true ∧ row.flickrGroupId = group ∧
    validBlock row (blockReasonOf row.state)

instance (row : SubmissionRow) (group : String) : Decidable (validSubmission row group) :=
  inferInstanceAs (Decidable (_ ∧ _ ∧ _))

/-- `validSubmissions`. -/
def validSubmissions (submissions : List SubmissionRow) (groups : List String) : Prop :=
  submissions.length ≤ 60 ∧ submissions.length = groups.length ∧
    (submissions.map SubmissionRow.fgaSubmissionIntentId).Nodup ∧
    ∀ pair ∈ submissions.zip groups, validSubmission pair.1 pair.2

instance (submissions : List SubmissionRow) (groups : List String) :
    Decidable (validSubmissions submissions groups) :=
  inferInstanceAs (Decidable (_ ∧ _ ∧ _ ∧ ∀ pair ∈ submissions.zip groups, _))

/-! ## The gate of the catalog -/

/-- What a store answers when it refuses. -/
inductive StoreFailure where
  | scopeInvalid
  | choiceInvalid
  | handoffInvalid
  | storedInvalid
  | storageFull
  | revisionConflict
  | revisionExhausted
  | handoffExists
  | handoffNotFound
  | ackInvalid
  | storageUnavailable
  | writeUnconfirmed
deriving DecidableEq

/-- How `withPrivateWriteAccessDo` comes back: it ran the callback, it answered something
else and may have run it, or it threw and rolled back. -/
inductive GateReturn where
  | executed
  | answered (ran : Bool)
  | thrown
deriving DecidableEq

/-- What the host does during one call: whether the guards of the scope hold at the
entry, in the callback, before the setters and at the read-back, how the gate comes
back, and whether a setter's value is there afterwards. -/
structure HostTurn where
  entryScope : Bool
  callbackScope : Bool
  writeScope : Bool
  readbackScope : Bool
  gate : GateReturn
  keptSelection : Bool
  keptOutbox : Bool
deriving DecidableEq

/-- What the callback inside the gate came to. -/
inductive CallbackResult (ω : Type) where
  | thrown
  /-- It returned a failure before it completed. -/
  | stopped (failure : StoreFailure)
  | completed (outcome : ω)

end FlickrGroupAddr

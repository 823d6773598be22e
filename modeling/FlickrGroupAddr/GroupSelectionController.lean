import FlickrGroupAddr.SelectionHandoffs
import FlickrGroupAddr.Lib.LuaJson

/-!
# Commits of a group selection

`GroupSelectionController.lua` prepares a handoff, submits it, checks the answer of the
server with `validate202` and confirms the handoff at the store that prepared it.  The
store checks the same answer again with a validator of its own.
-/

namespace FlickrGroupAddr

set_option autoImplicit false

open LuaJson Outbox Transition

/-! ## The answer of the server -/

/-- `timestamp` of the controller. -/
def acceptedTimestamp (value : String) : Bool :=
  let tail := value.toList.drop 19
  let digits := if tail.head? = some '.' then tail.tail else tail
  decide (value.utf8ByteSize ≤ 40) &&
    (match Calendar.readFields value.toList with
      | none => false
      | some fields => decide fields.Exists) &&
    -- `%.?%d*Z$`, and no dot right before the last letter.
    (digits.getLast? == some 'Z' && digits.dropLast.all Char.isDigit && tail != ['.', 'Z'])

/-- The keys of `states`. -/
def acceptedStates : List (String × IntentState) :=
  [("queued", .queued), ("attempting", .attempting), ("retrying", .retrying),
    ("throttled", .throttled), ("added", .added), ("moderation_submitted", .moderationSubmitted),
    ("delivery_uncertain", .deliveryUncertain), ("needs_attention", .needsAttention),
    ("cancelled", .cancelled)]

/-- The block of a row, or its absence. -/
def acceptedBlock : Value → Option (Option (String × String))
  | .null => some none
  | block => do
      let reason ← (block.field? "reasonCode").bind Value.text?
      let createdAt ← (block.field? "createdAt").bind Value.text?
      if block.exact ["reasonCode", "createdAt"] = true ∧
          (reason = "moderation_submission_recorded" ∨ reason = "delivery_uncertain") ∧
          acceptedTimestamp createdAt = true then
        some (some (reason, createdAt))
      else none

/-- The state and the reason of the block go together. -/
def rowBlockAgrees (state : IntentState) (reason : Option String) : Prop :=
  (state = .moderationSubmitted ↔ reason = some "moderation_submission_recorded") ∧
    (state = .deliveryUncertain ↔ reason = some "delivery_uncertain")

instance (state : IntentState) (reason : Option String) : Decidable (rowBlockAgrees state reason) :=
  inferInstanceAs (Decidable ((_ ↔ _) ∧ (_ ↔ _)))

/-- One row of the answer, for the group at its place. -/
def acceptedRow (row : Value) (group : String) : Option SubmissionRow := do
  let id ← (row.field? "fgaSubmissionIntentId").bind Value.text?
  let given ← (row.field? "flickrGroupId").bind Value.text?
  let state ← ((row.field? "state").bind Value.text?).bind fun text => acceptedStates.lookup text
  let created ← (row.field? "created").bind Value.boolean?
  let block ← (row.field? "permanentSubmissionBlock").bind acceptedBlock
  if row.exact ["fgaSubmissionIntentId", "flickrGroupId", "state", "created",
      "permanentSubmissionBlock"] = true ∧ given = group ∧ isToken id = true ∧
      (block ≠ none → created = false) ∧ rowBlockAgrees state (block.map Prod.fst) then
    some ⟨id, given, state, created, block⟩
  else none

/-- The rows, beside the ids already seen. -/
def acceptedRows : List String → List Value → List String → Option (List SubmissionRow)
  | _, [], [] => some []
  | seen, row :: rows, group :: groups => do
      let accepted ← acceptedRow row group
      if accepted.fgaSubmissionIntentId ∈ seen then none
      else do
        let rest ← acceptedRows (accepted.fgaSubmissionIntentId :: seen) rows groups
        some (accepted :: rest)
  | _, _, _ => none

/-- The binding a controller is composed with. -/
structure ControllerBinding where
  fgaPhotoBindingId : String
  flickrPhotoId : String
  verificationRevision : Int
  linkedFlickrRevision : Int
  sourceKind : SourceKind
deriving DecidableEq

/-- `validate202`. -/
def validate202 (value : Value) (binding : ControllerBinding) (groups : List String) :
    Option (List SubmissionRow) := do
  let version ← (value.field? "schemaVersion").bind Value.number?
  let bindingId ← (value.field? "fgaPhotoBindingId").bind Value.text?
  let photoId ← (value.field? "flickrPhotoId").bind Value.text?
  let rows ← (value.field? "submissions").bind Value.items?
  if 1 ≤ groups.length ∧ groups.length ≤ 60 ∧
      value.exact ["schemaVersion", "fgaPhotoBindingId", "flickrPhotoId", "submissions"] = true ∧
      version = 2 ∧ bindingId = binding.fgaPhotoBindingId ∧ photoId = binding.flickrPhotoId ∧
      rows.length ≤ 60 then
    acceptedRows [] rows groups
  else none

/-- The time of the block of a row, if it has one. -/
def rowBlockTime (row : Value) : Option String :=
  (row.field? "permanentSubmissionBlock").bind fun block =>
    (block.field? "createdAt").bind Value.text?

/-- The times of all blocks in an answer. -/
def blockTimes (value : Value) : List String :=
  (((value.field? "submissions").bind Value.items?).getD []).filterMap rowBlockTime

/-- No digit follows the seconds directly. -/
def secondsEnd (time : String) : Prop := ∀ c ∈ time.toList[19]?, c.isDigit = false

instance (time : String) : Decidable (secondsEnd time) :=
  inferInstanceAs (Decidable (∀ c ∈ time.toList[19]?, c.isDigit = false))

/-! ## Two validators of one answer -/

/-- The stores refuse no time of a block but one with digits right after the seconds. -/
theorem timestamp_iff (value : String) :
    timestamp value = true ↔ acceptedTimestamp value = true ∧ secondsEnd value := by
  have hnext : value.toList[19]? = (value.toList.drop 19).head? := by simp
  unfold timestamp acceptedTimestamp secondsEnd
  rw [hnext]
  generalize value.toList.drop 19 = tail
  simp only [Bool.and_eq_true, and_assoc]
  apply and_congr_right
  intro _
  apply and_congr_right
  intro _
  rcases tail with _ | ⟨c, _ | ⟨d, rest⟩⟩
  · simp
  · by_cases hdot : c = '.'
    · subst hdot
      simp
    · by_cases hz : c = 'Z'
      · subst hz
        simp
      · simp [hdot, hz]
  · by_cases hdot : c = '.'
    · subst hdot
      cases rest with
      | nil => simp
      | cons e rest => simp [and_comm]
    · have hlast : (c :: d :: rest).dropLast = c :: (d :: rest).dropLast := rfl
      simp only [List.head?_cons, Option.some.injEq, hdot, if_false, hlast, List.all_cons]
      simp [hdot]
      tauto

/-- What the controller takes for a block, the stores take if its time ends there. -/
theorem acceptedBlock_some {block : Value} {accepted : Option (String × String)}
    (h : acceptedBlock block = some accepted) :
    ((block.field? "createdAt").bind Value.text? = accepted.map Prod.snd) ∧
      ∀ given ∈ accepted, (given.1 = "moderation_submission_recorded" ∨
        given.1 = "delivery_uncertain") ∧ acceptedTimestamp given.2 = true := by
  unfold acceptedBlock at h
  split at h
  · cases h
    simp [Value.field?]
  · simp only [Option.bind_eq_bind, Option.bind_eq_some_iff] at h
    obtain ⟨reason, _, createdAt, htime, h⟩ := h
    split at h
    · next hchecked =>
        cases h
        simp [Option.bind_eq_some_iff, htime, hchecked.2]
    · cases h

/-- The controller and the stores ask the same of a row, but for the time of its block. -/
theorem acceptedRow_some {row : Value} {group : String} {accepted : SubmissionRow}
    (h : acceptedRow row group = some accepted) :
    validSubmission accepted group ↔ ∀ time ∈ rowBlockTime row, secondsEnd time := by
  unfold acceptedRow at h
  simp only [Option.bind_eq_bind, Option.bind_eq_some_iff] at h
  obtain ⟨id, _, given, _, state, _, created, _, block, ⟨value, hvalue, hblock⟩, h⟩ := h
  split at h
  · next hchecked =>
      cases h
      obtain ⟨htime, hreason⟩ := acceptedBlock_some hblock
      obtain ⟨_, rfl, htoken, hcreated, hagrees⟩ := hchecked
      have htime : rowBlockTime row = block.map Prod.snd := by
        rw [rowBlockTime, hvalue]
        exact htime
      rw [htime]
      cases block with
      | none =>
          obtain ⟨hmoderation, huncertain⟩ := hagrees
          have hfree : blockReasonOf state = none := by
            cases state <;> simp_all [blockReasonOf]
          simp [validSubmission, htoken, hfree, validBlock]
      | some pair =>
          obtain ⟨reason, time⟩ := pair
          obtain ⟨hknown, haccepted⟩ := hreason (reason, time) rfl
          have hrequired : blockReasonOf state = some reason := by
            obtain ⟨hmoderation, huncertain⟩ := hagrees
            rcases hknown with rfl | rfl
            · rw [hmoderation.mpr rfl]
              rfl
            · rw [huncertain.mpr rfl]
              rfl
          simp [validSubmission, htoken, hrequired, validBlock, hcreated, timestamp_iff,
            haccepted]
  · cases h

/-- The accepted rows are one for each group, and none has an id seen before. -/
theorem acceptedRows_some {seen groups : List String} {rows : List Value}
    {accepted : List SubmissionRow} (h : acceptedRows seen rows groups = some accepted) :
    accepted.length = groups.length ∧
      (accepted.map SubmissionRow.fgaSubmissionIntentId).Nodup ∧
      (∀ row ∈ accepted, row.fgaSubmissionIntentId ∉ seen) ∧
      ((∀ pair ∈ accepted.zip groups, validSubmission pair.1 pair.2) ↔
        ∀ time ∈ rows.filterMap rowBlockTime, secondsEnd time) := by
  induction rows generalizing seen groups accepted with
  | nil =>
      cases groups with
      | nil =>
          cases h
          simp
      | cons group groups => cases h
  | cons row rows ih =>
      cases groups with
      | nil => cases h
      | cons group groups =>
          simp only [acceptedRows, Option.bind_eq_bind, Option.bind_eq_some_iff] at h
          obtain ⟨first, hfirst, h⟩ := h
          split at h
          · cases h
          next hnew =>
          obtain ⟨rest, hrest, h⟩ := Option.bind_eq_some_iff.mp h
          cases h
          obtain ⟨hlength, hnodup, hunseen, hvalid⟩ := ih hrest
          have hrow := acceptedRow_some hfirst
          refine ⟨by simp [hlength], ?_, ?_, ?_⟩
          · rw [List.map_cons, List.nodup_cons]
            refine ⟨?_, hnodup⟩
            intro hmem
            obtain ⟨other, hother, hsame⟩ := List.mem_map.mp hmem
            exact hunseen other hother (hsame ▸ List.mem_cons_self)
          · intro other hother
            rcases List.mem_cons.mp hother with rfl | hother
            · exact hnew
            · exact fun hseen => hunseen other hother (List.mem_cons_of_mem _ hseen)
          · rw [List.zip_cons_cons, List.forall_mem_cons, hvalid, hrow]
            cases htime : rowBlockTime row with
            | none => simp [htime]
            | some time => simp [htime]

/-- What the controller accepts, the stores accept exactly if no block time goes on with
digits after its seconds. -/
theorem validate202_some {value : Value} {binding : ControllerBinding} {groups : List String}
    {intents : List SubmissionRow} (h : validate202 value binding groups = some intents) :
    1 ≤ groups.length ∧
      (validSubmissions intents groups ↔ ∀ time ∈ blockTimes value, secondsEnd time) := by
  unfold validate202 at h
  simp only [Option.bind_eq_bind, Option.bind_eq_some_iff] at h
  obtain ⟨version, _, bindingId, _, photoId, _, rows, hrows, h⟩ := h
  split at h
  · next hchecked =>
      obtain ⟨hlength, hnodup, _, hvalid⟩ := acceptedRows_some h
      have htimes : blockTimes value = rows.filterMap rowBlockTime := by
        have hfield : (value.field? "submissions").bind Value.items? = some rows := by
          simpa [Option.bind_eq_some_iff] using hrows
        rw [blockTimes, hfield]
        rfl
      refine ⟨hchecked.1, ?_⟩
      rw [htimes, ← hvalid, validSubmissions, hlength]
      simp [hchecked.2.1, hnodup]
  · cases h

/-! ## The commit -/

/-- What `_commit` works with: the selected groups are the keys of a table. -/
structure Commit where
  binding : ControllerBinding
  selected : List String
  revision : Int
  handoffId : String

/-- `table.sort` of the selected groups. -/
def Commit.groups (commit : Commit) : List String :=
  commit.selected.insertionSort fun left right => ¬ byteLess right left

/-- The binding as the store takes it. -/
def ControllerBinding.handoff (binding : ControllerBinding) : HandoffBinding where
  fgaPhotoBindingId := binding.fgaPhotoBindingId
  flickrPhotoId := binding.flickrPhotoId
  verificationRevision := binding.verificationRevision
  linkRevision := binding.linkedFlickrRevision
  sourceKind := binding.sourceKind

/-- The call that prepares the handoff. -/
def Commit.save (commit : Commit) : SelectionCall :=
  .saveChoice commit.groups commit.revision (some commit.handoffId) (some commit.binding.handoff)

def Commit.saveExisting (commit : Commit) : ExistingCall :=
  .saveChoice commit.groups commit.revision commit.handoffId (some commit.binding.handoff)

/-- The call that records the accepted rows. -/
def Commit.confirm (commit : Commit) (entry : SelectionEntry) (handoff : HandoffRecord)
    (intents : List SubmissionRow) : SelectionCall :=
  .confirm commit.handoffId handoff.outboxRevision
    { kind := .groupsAccepted
      selectionRevision := entry.selectionRevision
      flickrGroupIds := commit.groups
      binding := handoff.binding
      submissions := some intents
      publicationRecorded := none
      albumAttachmentDurable := none }

def Commit.confirmExisting (commit : Commit) (selection : ExistingSelection)
    (handoff : ExistingRecord) (intents : List SubmissionRow) : ExistingCall :=
  .confirm commit.handoffId handoff.outboxRevision
    { selectionRevision := selection.selectionRevision
      flickrGroupIds := commit.groups
      binding := some handoff.binding
      submissions := intents }

end FlickrGroupAddr

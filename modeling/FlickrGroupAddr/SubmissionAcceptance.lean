import FlickrGroupAddr.GroupSelectionController

/-!
# Accepted submissions are recorded

A handoff that a commit prepared, with any calls of the stores in between, is confirmed
with the rows that `validate202` accepted.  A store refuses rows that the controller took
exactly if the time of some block goes on with digits after its seconds.
-/

namespace FlickrGroupAddr

set_option autoImplicit false

open LuaJson Outbox Transition

local instance acceptanceOrder : Preorder Int := Int.instLinearOrder.toPreorder

/-! ## Answers -/

/-- The guards of the host, the size of a field, or an earlier confirmation. -/
def outsideFailures : List StoreFailure :=
  [.scopeInvalid, .storageUnavailable, .writeUnconfirmed, .storageFull, .revisionConflict]

/-- The store took the acknowledgement, or what it refused for is not about it. -/
def Taken {α : Type} (answer : Except StoreFailure α) : Prop :=
  ∀ failure, answer = .error failure → failure ∈ outsideFailures

/-- A host that lets a call through. -/
def openHost : HostTurn := ⟨true, true, true, true, .executed, true, true⟩

/-! ## The selected groups -/

theorem commit_groups_normalized {commit : Commit} {normalized : List String}
    (h : normalizeGroups commit.groups = some normalized) : normalized = commit.groups := by
  have htotal : Std.Total fun left right : String => ¬ byteLess right left := by
    constructor
    intro left right
    by_contra hboth
    simp only [not_or, not_not] at hboth
    exact byteLess_irrefl _ (byteLess_trans hboth.1 hboth.2)
  have htrans : IsTrans String fun left right => ¬ byteLess right left := by
    constructor
    intro left middle right hfirst hsecond
    exact List.le_trans hfirst hsecond
  dsimp only [normalizeGroups] at h
  split at h
  · cases h
    apply List.Pairwise.insertionSort_eq
    exact List.pairwise_insertionSort _ _
  · cases h

/-! ## The store of published photos -/

section Selections

variable {ω : Type} [DecidableEq ω] {codec : SelectionCodec ω} {host : HostTurn}
  {scope : PhotoScope} {call : SelectionCall} {fields fields' : SelectionFields ω}

/-- An answer comes from a completed callback whose writes were read back. -/
theorem SelectionCall.exec_ok {answer : SelectionAnswer}
    (h : call.exec codec host scope fields = (fields', .ok answer)) :
    ∃ operation writes, call.operation scope = .ok operation ∧
      selectionCallback codec host scope operation fields = .completed writes ∧
      writes.answer = .ok answer ∧ fields.readBack host scope fields' writes := by
  unfold SelectionCall.exec at h
  split at h
  · cases h
  split at h
  · cases h
  next operation hoperation =>
  unfold runSelection at h
  split at h
  · cases h
  split at h
  · cases h
  · split at h
    · cases h
    · cases h
  · split at h
    · cases h
    · cases h
    · next writes hwrites =>
        split at h
        · next hread =>
            simp only [Prod.mk.injEq] at h
            obtain ⟨rfl, hanswer⟩ := h
            exact ⟨operation, writes, hoperation, hwrites, hanswer, hread⟩
        · cases h

/-- Both fields of a photo decode. -/
def SelectionFields.Readable (codec : SelectionCodec ω) (fields : SelectionFields ω)
    (photoUuid : String) : Prop :=
  (readSelections codec (fields.selections photoUuid) photoUuid).isSome ∧
    (readOutbox codec fields.outbox).isSome

omit [DecidableEq ω] in
/-- A document that was encoded within its field is read. -/
theorem readSelections_encoded (hcodec : codec.RoundTrips) {document : Option (List SelectionEntry)}
    {text : Option ω} {photoUuid : String}
    (h : encodeWithin codec codec.encodeSelections (fun entries => validSelections entries photoUuid)
      maxSelectionBytes document = .completed text) :
    (document = none ∧ text = none) ∨
      (document ≠ none ∧ text ≠ none ∧ readSelections codec text photoUuid = document) := by
  rcases encodeWithin_completed h with ⟨hdocument, htext⟩ | ⟨entries, rfl, hvalid, hbytes, rfl⟩
  · exact Or.inl ⟨hdocument, htext⟩
  · have hvalid : validSelections entries photoUuid := of_decide_eq_true hvalid
    right
    simp [readSelections, hbytes, hcodec.selections entries _ hvalid, hvalid]

omit [DecidableEq ω] in
theorem readOutbox_encoded (hcodec : codec.RoundTrips) {document : Option (List HandoffRecord)}
    {text : Option ω}
    (h : encodeWithin codec codec.encodeOutbox (fun records => validOutbox records)
      maxOutboxBytes document = .completed text) :
    (document = none ∧ text = none) ∨
      (document ≠ none ∧ text ≠ none ∧ readOutbox codec text = document) := by
  rcases encodeWithin_completed h with ⟨hdocument, htext⟩ | ⟨records, rfl, hvalid, hbytes, rfl⟩
  · exact Or.inl ⟨hdocument, htext⟩
  · have hvalid : validOutbox records := of_decide_eq_true hvalid
    right
    simp [readOutbox, hbytes, hcodec.outbox records hvalid, hvalid]

/-- Readable fields stay readable. -/
theorem SelectionCall.exec_readable (hcodec : codec.RoundTrips)
    {answer : Except StoreFailure SelectionAnswer}
    (h : call.exec codec host scope fields = (fields', answer)) {photoUuid : String}
    (hread : fields.Readable codec photoUuid) : fields'.Readable codec photoUuid := by
  rcases SelectionCall.exec_cases h with rfl | ⟨operation, writes, _, hwrites, rfl, _⟩
  · exact hread
  rcases selectionCallback_completed hwrites with
    ⟨_, hselections, houtbox⟩ | ⟨entries, records, outcome, _, _, _, _, hselections, houtbox⟩
  · rw [SelectionFields.after_of_none hselections houtbox]
    exact hread
  constructor
  · by_cases hkept : photoUuid = scope.photoUuid ∧ host.keptSelection = true ∧
        writes.selections ≠ none
    · obtain ⟨rfl, hkept⟩ := hkept
      rcases readSelections_encoded hcodec hselections with ⟨_, hnone⟩ | ⟨hchanged, _, hwritten⟩
      · exact absurd hnone hkept.2
      · simp [SelectionFields.after, hkept, hwritten, Option.isSome_iff_ne_none, hchanged]
    · simpa [SelectionFields.after, hkept] using hread.1
  · by_cases hkept : host.keptOutbox = true ∧ writes.outbox ≠ none
    · rcases readOutbox_encoded hcodec houtbox with ⟨_, hnone⟩ | ⟨hchanged, _, hwritten⟩
      · exact absurd hnone hkept.2
      · simp [SelectionFields.after, hkept, hwritten, Option.isSome_iff_ne_none, hchanged]
    · simpa [SelectionFields.after, hkept] using hread.2

/-- Where the fields decode, a call is refused by its checks, by the host, for the size of
a field, or by its operation. -/
theorem SelectionCall.exec_error {failure : StoreFailure}
    (hread : fields.Readable codec scope.photoUuid)
    (h : call.exec codec host scope fields = (fields', .error failure)) :
    failure ∈ outsideFailures ∨ call.operation scope = .error failure ∨
      ∃ operation entries records, call.operation scope = .ok operation ∧
        readSelections codec (fields.selections scope.photoUuid) scope.photoUuid = some entries ∧
        readOutbox codec fields.outbox = some records ∧
        operation entries records = .error failure := by
  obtain ⟨entries, hentries⟩ := Option.isSome_iff_exists.mp hread.1
  obtain ⟨records, hrecords⟩ := Option.isSome_iff_exists.mp hread.2
  have hcallback : ∀ operation, (∀ failure, selectionCallback codec host scope operation fields =
        .stopped failure → failure = .storageFull) ∧
      ∀ writes, selectionCallback codec host scope operation fields = .completed writes →
        writes.answer = .error failure → operation entries records = .error failure := by
    intro operation
    unfold selectionCallback
    rw [hentries, hrecords]
    constructor
    · intro failure hstopped
      split at hstopped
      · cases hstopped
      dsimp only at hstopped
      split at hstopped
      · split at hstopped
        · cases hstopped
        · cases hstopped
      · split at hstopped
        · cases hstopped
        · next hfull =>
            cases hstopped
            exact encodeWithin_stopped hfull
        · split at hstopped
          · cases hstopped
          · next hfull =>
              cases hstopped
              exact encodeWithin_stopped hfull
          · split at hstopped
            · cases hstopped
            · cases hstopped
    · intro writes hcompleted hanswer
      split at hcompleted
      · cases hcompleted
      dsimp only at hcompleted
      split at hcompleted
      · next hrefused =>
          split at hcompleted
          · cases hcompleted
            cases hanswer
            exact hrefused
          · cases hcompleted
      · split at hcompleted
        · cases hcompleted
        · cases hcompleted
        · split at hcompleted
          · cases hcompleted
          · cases hcompleted
          · split at hcompleted
            · cases hcompleted
              cases hanswer
            · cases hcompleted
  unfold SelectionCall.exec at h
  split at h
  · cases h
    simp [outsideFailures]
  split at h
  · next hoperation =>
      cases h
      exact Or.inr (Or.inl hoperation)
  next operation hoperation =>
  unfold runSelection at h
  split at h
  · cases h
    simp [outsideFailures]
  split at h
  · cases h
    simp [outsideFailures]
  · split at h
    · cases h
      simp [outsideFailures]
    · cases h
      simp [outsideFailures]
  · split at h
    · cases h
      simp [outsideFailures]
    · next hstopped =>
        cases h
        rw [(hcallback operation).1 _ hstopped]
        simp [outsideFailures]
    · next writes hcompleted =>
        split at h
        · simp only [Prod.mk.injEq] at h
          exact Or.inr (Or.inr ⟨operation, entries, records, hoperation, hentries, hrecords,
            (hcallback operation).2 writes hcompleted h.2⟩)
        · cases h
          simp [outsideFailures]

omit [DecidableEq ω] in
/-- What the operation of a commit saved. -/
theorem commit_operation {commit : Commit}
    {operation : List SelectionEntry → List HandoffRecord → Except StoreFailure SelectionOutcome}
    (hoperation : commit.save.operation scope = .ok operation) {entries : List SelectionEntry}
    {records : List HandoffRecord} {outcome : SelectionOutcome} {entry : SelectionEntry}
    {handoff : HandoffRecord} (houtcome : operation entries records = .ok outcome)
    (hanswer : outcome.answer = .saved entry (some handoff)) :
    outcome.selections = some (putSelection entries entry) ∧ entry.scope = scope ∧
      entry.flickrGroupIds = commit.groups ∧ ∃ records', outcome.outbox = some records' ∧
        addHandoff scope (some entry) records commit.handoffId (some commit.binding.handoff) =
          .ok (handoff, records') := by
  dsimp only [Commit.save, SelectionCall.operation] at hoperation
  split at hoperation
  · cases hoperation
  next normalized hnormalized =>
  split at hoperation
  · cases hoperation
  split at hoperation
  · cases hoperation
  split at hoperation
  · cases hoperation
  cases hoperation
  dsimp only [saveChoiceOperation] at houtcome
  split at houtcome
  · cases houtcome
  split at houtcome
  · cases houtcome
  split at houtcome
  · cases houtcome
  split at houtcome
  · cases houtcome
  · next record records' hadd =>
      cases houtcome
      cases hanswer
      exact ⟨rfl, rfl, commit_groups_normalized hnormalized, records', rfl, hadd⟩

/-- A saved commit left its handoff, and its selection in the place of the one before. -/
theorem commit_saved (hcodec : codec.RoundTrips) {commit : Commit} {entry : SelectionEntry}
    {handoff : HandoffRecord} (h : commit.save.exec codec host scope fields =
      (fields', .ok (.saved entry (some handoff)))) :
    fields'.Readable codec scope.photoUuid ∧
      fields'.handoff codec commit.handoffId = some handoff ∧
      (fields'.view codec).Holds commit.handoffId handoff.toHandoff ∧
      handoff = newHandoff scope (some entry) commit.handoffId (some commit.binding.handoff) ∧
      entry.scope = scope ∧ entry.flickrGroupIds = commit.groups ∧ 0 < entry.selectionRevision := by
  obtain ⟨operation, writes, hoperation, hwrites, hanswer, _, hselections, houtbox⟩ :=
    SelectionCall.exec_ok h
  rcases selectionCallback_completed hwrites with
    ⟨⟨_, herror⟩, _⟩ | ⟨entries, records, outcome, hok, hentries, hrecords, houtcome, hwritten,
      hwritten'⟩
  · rw [hanswer] at herror
    cases herror
  rw [hanswer] at hok
  obtain ⟨hplaced, hscope, hgroups, records', hadded, hadd⟩ :=
    commit_operation hoperation houtcome (Except.ok.inj hok).symm
  obtain ⟨hnew, _, hmem⟩ := addHandoff_ok hadd
  -- Both documents were written, so both read back as they were computed.
  have hread : readSelections codec (fields'.selections scope.photoUuid) scope.photoUuid =
      some (putSelection entries entry) := by
    rcases readSelections_encoded hcodec hwritten with ⟨hnone, _⟩ | ⟨_, hsome, hwritten⟩
    · rw [hplaced] at hnone
      cases hnone
    · obtain ⟨text, htext⟩ := Option.ne_none_iff_exists'.mp hsome
      rw [hselections, htext, Option.some_or, ← htext, hwritten, hplaced]
  have hread' : readOutbox codec fields'.outbox = some records' := by
    rcases readOutbox_encoded hcodec hwritten' with ⟨hnone, _⟩ | ⟨_, hsome, hwritten⟩
    · rw [hadded] at hnone
      cases hnone
    · obtain ⟨text, htext⟩ := Option.ne_none_iff_exists'.mp hsome
      rw [houtbox, htext, Option.some_or, ← htext, hwritten, hadded]
  have hentry : findSelection (putSelection entries entry) scope = some entry := by
    rw [findSelection_replaced (readSelections_valid hentries) (readSelections_valid hread)
      fun _ => mem_putSelection, hscope, if_pos rfl]
  have hhandoff : findHandoff records' commit.handoffId = some handoff := by
    have hfound := findHandoff_of_mem (readOutbox_valid hread') ((hmem handoff).mpr (Or.inl rfl))
    rwa [hnew] at hfound ⊢
  have hpositive := ((readSelections_valid hread).2.1 entry (findSelection_scope hentry).1).1.2.1.1
  have hstored : fields'.handoff codec commit.handoffId = some handoff := by
    simp [SelectionFields.handoff, hread', hhandoff]
  refine ⟨⟨by simp [hread], by simp [hread']⟩, hstored, ⟨?_, ?_⟩, hnew, hscope, hgroups,
    hpositive⟩
  · refine ⟨handoff.toHandoff, ?_, Handoff.Advances.refl _⟩
    simp [SelectionFields.view, hstored]
  · intro chosen hchosen _
    have hcopied : handoff.selection = entry := by simp [hnew, newHandoff]
    have hhere : (HandoffRecord.toHandoff handoff).scope = scope := by
      simp [HandoffRecord.toHandoff, HandoffRecord.scope, hcopied, hscope]
    rw [hhere] at hchosen
    have hchosen : some entry.toSelection = some chosen := by
      simpa [SelectionFields.view, SelectionFields.chosen, hread, hentry] using hchosen
    rw [← Option.some.inj hchosen, HandoffRecord.toHandoff, hcopied]

omit [DecidableEq ω] in
/-- The record that a kept handoff is by now. -/
theorem held_record {entries : List SelectionEntry} {records : List HandoffRecord}
    (hentries : readSelections codec (fields.selections scope.photoUuid) scope.photoUuid =
      some entries)
    (hrecords : readOutbox codec fields.outbox = some records) {id : String}
    {handoff : HandoffRecord} (hscope : handoff.scope = scope)
    (hholds : (fields.view codec).Holds id handoff.toHandoff) :
    (∃ record, findHandoff records id = some record ∧ record.scope = scope ∧
      record.selection.toSelection = handoff.selection.toSelection ∧
      record.binding = handoff.binding) ∧
      ∀ current, findSelection entries scope = some current →
        current.selectionRevision = handoff.selection.selectionRevision →
        current.toSelection = handoff.selection.toSelection := by
  obtain ⟨⟨kept, hkept, hadvances⟩, hcopied⟩ := hholds
  constructor
  · have hfind : (findHandoff records id).map HandoffRecord.toHandoff = some kept := by
      simpa [SelectionFields.view, SelectionFields.handoff, hrecords] using hkept
    obtain ⟨record, hrecord, rfl⟩ := Option.map_eq_some_iff.mp hfind
    exact ⟨record, hrecord, hadvances.scope.trans hscope, hadvances.selection, hadvances.attached⟩
  · intro current hcurrent hrevision
    subst hscope
    apply hcopied current.toSelection _ hrevision
    show (fields.chosen codec handoff.scope).map SelectionEntry.toSelection =
      some current.toSelection
    simp [SelectionFields.chosen, hentries, hcurrent]

omit [DecidableEq ω] in
/-- The acknowledgement of a commit answers a record of its selection exactly if the rows
are valid. -/
theorem commit_ackMatches {commit : Commit} {entry : SelectionEntry} {handoff record : HandoffRecord}
    {intents : List SubmissionRow} {expected : Int} {ack : SelectionAck}
    (hcall : commit.confirm entry handoff intents = .confirm commit.handoffId expected ack)
    (hgroups : entry.flickrGroupIds = commit.groups) (hsome : 1 ≤ commit.groups.length)
    (hselection : record.selection.toSelection = entry.toSelection)
    (hbinding : handoff.binding = some commit.binding.handoff)
    (hsame : record.binding = handoff.binding)
    (hvalid : validEntry record.selection 0 ∧ validHandoff record) :
    ackMatches ack record ↔ validSubmissions intents commit.groups := by
  cases hcall
  simp only [SelectionEntry.toSelection, Selection.mk.injEq, Prod.mk.injEq] at hselection
  obtain ⟨hrevision, -, hids⟩ := hselection
  rw [hgroups] at hids
  obtain ⟨⟨_, _, hvalidGroups, _⟩, _, _, _, hbound, _⟩ := hvalid
  have hchoice : record.selection.choice = .groups := by
    rw [hvalidGroups.2.1, choiceOf, if_neg (by rw [hids]; omega)]
  have hbinding' : record.binding = some commit.binding.handoff := hsame.trans hbinding
  have hequal : equalBinding (some commit.binding.handoff) (some commit.binding.handoff) :=
    ⟨hbound _ hbinding', hbound _ hbinding', rfl⟩
  rw [hids, hchoice] at hvalidGroups
  simp [ackMatches, hrevision, hchoice, hvalidGroups, hids, hbinding, hbinding', hequal]

omit [DecidableEq ω] in
/-- The record of a saved commit, in fields that still hold its handoff. -/
theorem commit_record {commit : Commit} {entry : SelectionEntry} {handoff : HandoffRecord}
    (hnew : handoff = newHandoff scope (some entry) commit.handoffId (some commit.binding.handoff))
    (hscope : entry.scope = scope) (hgroups : entry.flickrGroupIds = commit.groups)
    (hsome : 1 ≤ commit.groups.length) (intents : List SubmissionRow)
    (hread : fields.Readable codec scope.photoUuid)
    (hholds : (fields.view codec).Holds commit.handoffId handoff.toHandoff) :
    ∃ entries records record ack,
      readSelections codec (fields.selections scope.photoUuid) scope.photoUuid = some entries ∧
      readOutbox codec fields.outbox = some records ∧
      findHandoff records commit.handoffId = some record ∧ record.scope = scope ∧
      (commit.confirm entry handoff intents).operation scope =
        .ok (confirmOperation scope commit.handoffId handoff.outboxRevision ack) ∧
      (ackMatches ack record ↔ validSubmissions intents commit.groups) ∧
      ∀ current, findSelection entries scope = some current →
        current.selectionRevision = record.selection.selectionRevision →
        current.toSelection = record.selection.toSelection := by
  obtain ⟨entries, hentries⟩ := Option.isSome_iff_exists.mp hread.1
  obtain ⟨records, hrecords⟩ := Option.isSome_iff_exists.mp hread.2
  have hcopy : handoff.selection = entry := by simp [hnew, newHandoff]
  have hhere : handoff.scope = scope := by rw [HandoffRecord.scope, hcopy, hscope]
  obtain ⟨⟨record, hfind, hsame, hselection, hbinding⟩, hcopied⟩ :=
    held_record hentries hrecords hhere hholds
  obtain ⟨hmem, hid⟩ := findHandoff_id hfind
  have hvalid := (readOutbox_valid hrecords).2.1 record hmem
  have htoken : isToken commit.handoffId = true := by
    rw [← hid]
    exact hvalid.2.1
  have hrevision : handoff.outboxRevision = 1 := by simp [hnew, newHandoff]
  rw [← hselection] at hcopied
  have hsameRevision : handoff.selection.selectionRevision = record.selection.selectionRevision :=
    congrArg Selection.revision hselection.symm
  rw [hsameRevision] at hcopied
  rw [hcopy] at hselection
  refine ⟨entries, records, record, _, hentries, hrecords, hfind, hsame, ?_,
    commit_ackMatches rfl hgroups hsome hselection (by simp [hnew, newHandoff]) hbinding hvalid,
    hcopied⟩
  have hinteger : luaInteger 1 1 := by decide
  simp [Commit.confirm, SelectionCall.operation, htoken, hrevision, hinteger]

/-- Whatever calls come in between, rows that are valid are taken. -/
theorem commit_taken (hcodec : codec.RoundTrips) {commit : Commit} {entry : SelectionEntry}
    {handoff : HandoffRecord} (h : commit.save.exec codec host scope fields =
      (fields', .ok (.saved entry (some handoff)))) (hsome : 1 ≤ commit.groups.length)
    {intents : List SubmissionRow} (hintents : validSubmissions intents commit.groups)
    {trace : List (Move (SelectionFields ω) SelectionTurn)} {last : SelectionFields ω}
    (hrun : Run (selectionStep codec) fields' trace last) (turn : HostTurn) :
    Taken ((commit.confirm entry handoff intents).exec codec turn scope last).2 := by
  obtain ⟨hread, -, hholds, hnew, hscope, hgroups, hpositive⟩ := commit_saved hcodec h
  have hselection : handoff.selection = entry := by simp [hnew, newHandoff]
  have heffect : StepEffect (selectionStep codec) (SelectionFields.view codec)
      SelectionTurn.intent := by
    intro before turn after hstep
    exact ⟨turn.scope, SelectionCall.exec_effect hcodec hstep⟩
  have hlast : last.Readable codec scope.photoUuid := by
    clear h hholds
    induction hrun with
    | nil => exact hread
    | snoc _ hstep ih => exact SelectionCall.exec_readable hcodec hstep ih
  have hheld : (last.view codec).Holds commit.handoffId handoff.toHandoff := by
    apply heffect.holds hrun _ hholds
    simpa [HandoffRecord.toHandoff, hselection, SelectionEntry.toSelection] using hpositive
  obtain ⟨entries, records, record, ack, hentries, hrecords, hfind, hsame, hoperation, hmatches,
    hcopied⟩ := commit_record hnew hscope hgroups hsome intents hlast hheld
  intro failure hfailure
  rcases SelectionCall.exec_error hlast (Prod.ext rfl hfailure) with
    houtside | hrefused | ⟨_, _, _, hran, hentries', hrecords', hrefused⟩
  · exact houtside
  · rw [hoperation] at hrefused
    cases hrefused
  · rw [hoperation] at hran
    cases hran
    cases hentries.symm.trans hentries'
    cases hrecords.symm.trans hrecords'
    simp only [confirmOperation, hfind, hsame, hmatches.mpr hintents, ne_eq, not_true_eq_false,
      if_false] at hrefused
    split at hrefused
    · cases hrefused
      simp [outsideFailures]
    split at hrefused
    · cases hrefused
    split at hrefused
    · cases hrefused
    next current hcurrent =>
    split at hrefused
    · cases hrefused
    next hrevision =>
    split at hrefused
    · next hdiffers =>
        have hequal := hcopied current hcurrent (not_not.mp hrevision)
        simp only [SelectionEntry.toSelection, Selection.mk.injEq, Prod.mk.injEq] at hequal
        simp [hequal] at hdiffers
    · cases hrefused

/-- Rows that are not valid are refused right after the save. -/
theorem commit_refused (hcodec : codec.RoundTrips) {commit : Commit} {entry : SelectionEntry}
    {handoff : HandoffRecord} (h : commit.save.exec codec host scope fields =
      (fields', .ok (.saved entry (some handoff)))) (hsome : 1 ≤ commit.groups.length)
    {intents : List SubmissionRow} (hintents : ¬ validSubmissions intents commit.groups) :
    ((commit.confirm entry handoff intents).exec codec openHost scope fields').2 =
      .error .ackInvalid := by
  obtain ⟨hread, hstored, hholds, hnew, hscope, hgroups, -⟩ := commit_saved hcodec h
  obtain ⟨entries, records, record, ack, hentries, hrecords, hfind, hsame, hoperation, hmatches,
    -⟩ := commit_record hnew hscope hgroups hsome intents hread hholds
  obtain rfl : record = handoff := by
    simpa [SelectionFields.handoff, hrecords, hfind] using hstored
  have hvalid : scope.valid := by
    rw [← hsame]
    exact ((readOutbox_valid hrecords).2.1 record (findHandoff_id hfind).1).1.1
  have hrefused : confirmOperation scope commit.handoffId record.outboxRevision ack entries
      records = .error .ackInvalid := by
    simp [confirmOperation, hfind, hsame, hmatches, hintents]
  simp [SelectionCall.exec, hvalid, hoperation, runSelection, openHost, selectionCallback,
    hentries, hrecords, hrefused, SelectionFields.after, SelectionFields.readBack]

end Selections

/-! ## The store of existing photos -/

section Existing

variable {ω : Type} [DecidableEq ω] {codec : ExistingCodec ω} {host : HostTurn}
  {scope : ExistingScope} {call : ExistingCall} {field field' : Option ω}

/-- An answer comes from a completed callback whose write was read back. -/
theorem ExistingCall.exec_ok {answer : ExistingAnswer}
    (h : call.exec codec host scope field = (field', .ok answer)) :
    ∃ operation writes, call.operation scope = .ok operation ∧
      existingCallback codec host operation field = .completed writes ∧
      writes.answer = .ok answer ∧ field' = writes.outbox.or field := by
  unfold ExistingCall.exec at h
  split at h
  · cases h
  split at h
  · cases h
  next operation hoperation =>
  unfold runExisting at h
  split at h
  · cases h
  split at h
  · cases h
  · split at h
    · cases h
    · cases h
  · split at h
    · cases h
    · cases h
    · next writes hwrites =>
        split at h
        · next hread =>
            simp only [Prod.mk.injEq] at h
            obtain ⟨rfl, hanswer⟩ := h
            exact ⟨operation, writes, hoperation, hwrites, hanswer, hread.2⟩
        · cases h

/-- A readable field stays readable. -/
theorem ExistingCall.exec_readable (hcodec : codec.RoundTrips)
    {answer : Except StoreFailure ExistingAnswer}
    (h : call.exec codec host scope field = (field', answer))
    (hread : (readExisting codec field).isSome) : (readExisting codec field').isSome := by
  rcases ExistingCall.exec_cases h with rfl | ⟨operation, writes, _, hwrites, rfl, _⟩
  · exact hread
  by_cases hkept : host.keptOutbox = true ∧ writes.outbox ≠ none
  · rcases existingCallback_completed hwrites with
      hnone | ⟨_, records', _, _, _, _, _, hvalid, hwritten⟩
    · exact absurd hnone hkept.2
    · rw [existingAfter, if_pos hkept, hwritten, hcodec records' hvalid]
      simp [hvalid]
  · rw [existingAfter, if_neg hkept]
    exact hread

/-- Where the field decodes, a call is refused by its checks, by the host, for the size of
the field, or by its operation. -/
theorem ExistingCall.exec_error {failure : StoreFailure} {records : List ExistingRecord}
    (hread : readExisting codec field = some records)
    (h : call.exec codec host scope field = (field', .error failure)) :
    failure ∈ outsideFailures ∨ call.operation scope = .error failure ∨
      ∃ operation, call.operation scope = .ok operation ∧ operation records = .error failure := by
  have hcallback : ∀ operation, (∀ failure, existingCallback codec host operation field =
        .stopped failure → failure = .storageFull) ∧
      ∀ writes, existingCallback codec host operation field = .completed writes →
        writes.answer = .error failure → operation records = .error failure := by
    intro operation
    unfold existingCallback
    rw [hread]
    constructor
    · intro failure hstopped
      split at hstopped
      · cases hstopped
      dsimp only at hstopped
      split at hstopped
      · cases hstopped
      split at hstopped
      · cases hstopped
      split at hstopped
      · cases hstopped
      split at hstopped
      · cases hstopped
        rfl
      split at hstopped
      · cases hstopped
      · cases hstopped
    · intro writes hcompleted hanswer
      split at hcompleted
      · cases hcompleted
      dsimp only at hcompleted
      split at hcompleted
      · next hrefused =>
          cases hcompleted
          cases hanswer
          exact hrefused
      split at hcompleted
      · cases hcompleted
        cases hanswer
      split at hcompleted
      · cases hcompleted
      split at hcompleted
      · cases hcompleted
      split at hcompleted
      · cases hcompleted
        cases hanswer
      · cases hcompleted
  unfold ExistingCall.exec at h
  split at h
  · cases h
    simp [outsideFailures]
  split at h
  · next hoperation =>
      cases h
      exact Or.inr (Or.inl hoperation)
  next operation hoperation =>
  unfold runExisting at h
  split at h
  · cases h
    simp [outsideFailures]
  split at h
  · cases h
    simp [outsideFailures]
  · split at h
    · cases h
      simp [outsideFailures]
    · cases h
      simp [outsideFailures]
  · split at h
    · cases h
      simp [outsideFailures]
    · next hstopped =>
        cases h
        rw [(hcallback operation).1 _ hstopped]
        simp [outsideFailures]
    · next writes hcompleted =>
        split at h
        · simp only [Prod.mk.injEq] at h
          exact Or.inr (Or.inr ⟨operation, hoperation,
            (hcallback operation).2 writes hcompleted h.2⟩)
        · cases h
          simp [outsideFailures]

omit [DecidableEq ω] in
/-- An answer of a completed callback is that of its operation, whose records it encoded. -/
theorem existingCallback_answer (hcodec : codec.RoundTrips)
    {operation : List ExistingRecord → Except StoreFailure ExistingOutcome}
    {writes : ExistingWrites ω} {answer : ExistingAnswer}
    (h : existingCallback codec host operation field = .completed writes)
    (hanswer : writes.answer = .ok answer) :
    ∃ records outcome, readExisting codec field = some records ∧
      operation records = .ok outcome ∧ outcome.answer = answer ∧
      ∀ records', outcome.records = some records' →
        writes.outbox ≠ none ∧ readExisting codec writes.outbox = some records' := by
  unfold existingCallback at h
  split at h
  · cases h
  split at h
  · cases h
  next records hrecords =>
  split at h
  · cases h
    cases hanswer
  next outcome houtcome =>
  split at h
  · next hnone =>
      cases h
      exact ⟨records, outcome, hrecords, houtcome, Except.ok.inj hanswer, by simp [hnone]⟩
  next records' hchanged =>
  split at h
  · cases h
  next hvalid =>
  split at h
  · cases h
  next hbytes =>
  split at h
  · cases h
    refine ⟨records, outcome, hrecords, houtcome, Except.ok.inj hanswer, ?_⟩
    intro written hwritten
    obtain rfl := Option.some.inj (hchanged.symm.trans hwritten)
    have hvalid := not_not.mp hvalid
    simp [readExisting, not_lt.mp hbytes, hcodec records' hvalid, hvalid]
  · cases h

omit [DecidableEq ω] in
/-- What the operation of a commit saved. -/
theorem commitExisting_operation {commit : Commit}
    {operation : List ExistingRecord → Except StoreFailure ExistingOutcome}
    (hoperation : commit.saveExisting.operation scope = .ok operation)
    {records : List ExistingRecord} {outcome : ExistingOutcome} {selection : ExistingSelection}
    {handoff : ExistingRecord} (houtcome : operation records = .ok outcome)
    (hanswer : outcome.answer = .saved (some selection) handoff) :
    selection = handoff.selection ∧
      (∃ revision, handoff = newExisting scope revision commit.groups commit.handoffId
        commit.binding.handoff) ∧
      ∃ records', outcome.records = some records' ∧ handoff ∈ records' := by
  dsimp only [Commit.saveExisting, ExistingCall.operation] at hoperation
  split at hoperation
  · cases hoperation
  next normalized hnormalized =>
  split at hoperation
  · cases hoperation
  split at hoperation
  · cases hoperation
  next given hgiven =>
  cases hoperation
  obtain rfl : commit.binding.handoff = given :=
    Option.some.inj (Option.filter_eq_some_iff.mp hgiven).1
  obtain rfl : normalized = commit.groups :=
    commit_groups_normalized (Option.ite_none_right_eq_some.mp hnormalized).2
  dsimp only [saveExistingOperation] at houtcome
  split at houtcome
  · cases houtcome
  split at houtcome
  · cases houtcome
  split at houtcome
  · cases houtcome
  split at houtcome
  · cases houtcome
  cases houtcome
  simp only [ExistingAnswer.saved.injEq] at hanswer
  obtain ⟨hselection, rfl⟩ := hanswer
  refine ⟨?_, ⟨_, rfl⟩, _, rfl, by simp⟩
  symm
  simpa [existingChoice, newExisting] using hselection

/-- A saved commit left its record. -/
theorem commitExisting_saved (hcodec : codec.RoundTrips) {commit : Commit}
    {selection : ExistingSelection} {handoff : ExistingRecord}
    (h : commit.saveExisting.exec codec host scope field =
      (field', .ok (.saved (some selection) handoff))) :
    selection = handoff.selection ∧
      (∃ revision, handoff = newExisting scope revision commit.groups commit.handoffId
        commit.binding.handoff) ∧
      ∃ records, readExisting codec field' = some records ∧
        findExisting records commit.handoffId = some handoff := by
  obtain ⟨operation, writes, hoperation, hwrites, hanswer, hfield⟩ := ExistingCall.exec_ok h
  obtain ⟨records, outcome, hrecords, houtcome, hsaved, hwritten⟩ :=
    existingCallback_answer hcodec hwrites hanswer
  obtain ⟨hselection, ⟨revision, hnew⟩, records', hchanged, hmem⟩ :=
    commitExisting_operation hoperation houtcome hsaved
  obtain ⟨hsome, hread⟩ := hwritten records' hchanged
  obtain ⟨text, htext⟩ := Option.ne_none_iff_exists'.mp hsome
  rw [htext, Option.some_or, ← htext] at hfield
  rw [← hfield] at hread
  have hfind : findExisting records' handoff.handoffId = some handoff :=
    @KeyedTable.Table.find?_of_mem _ _ ExistingRecord.handoffId _
      ⟨records', (readExisting_valid hread).nodup⟩ handoff hmem
  refine ⟨hselection, ⟨revision, hnew⟩, records', hread, ?_⟩
  rwa [hnew] at hfind ⊢

omit [DecidableEq ω] in
/-- The acknowledgement of a commit answers its record exactly if the rows are valid. -/
theorem commitExisting_ackMatches {commit : Commit} {selection : ExistingSelection}
    {handoff record : ExistingRecord} {intents : List SubmissionRow} {expected : Int}
    {ack : ExistingAck}
    (hcall : commit.confirmExisting selection handoff intents =
      .confirm commit.handoffId expected ack)
    (hselection : selection = handoff.selection)
    (hgroups : handoff.flickrGroupIds = commit.groups)
    (hsame : record.selection.toSelection = handoff.selection.toSelection)
    (hbinding : record.binding = handoff.binding) (hvalid : validExistingRecord record) :
    existingAckMatches ack record ↔ validSubmissions intents commit.groups := by
  cases hcall
  simp only [ExistingSelection.toSelection, ExistingRecord.selection, Selection.mk.injEq] at hsame
  obtain ⟨hrevision, hids⟩ := hsame
  rw [hgroups] at hids
  obtain ⟨_, ⟨hbound, _⟩, _, hvalidGroups, _⟩ := hvalid
  have hequal : equalBinding (some handoff.binding) (some handoff.binding) :=
    ⟨hbinding ▸ hbound, hbinding ▸ hbound, rfl⟩
  rw [hids] at hvalidGroups
  simp [existingAckMatches, hselection, ExistingRecord.selection, hrevision, hvalidGroups, hids,
    hbinding, hequal]

omit [DecidableEq ω] in
/-- The record of a saved commit, in a field that still holds its handoff. -/
theorem commitExisting_record {commit : Commit} {selection : ExistingSelection}
    {handoff : ExistingRecord} {revision : Int} (hselection : selection = handoff.selection)
    (hnew : handoff = newExisting scope revision commit.groups commit.handoffId
      commit.binding.handoff)
    (intents : List SubmissionRow) {records : List ExistingRecord} {record : ExistingRecord}
    (hread : readExisting codec field = some records)
    (hfind : findExisting records commit.handoffId = some record)
    (hadvances : handoff.toHandoff.Advances record.toHandoff) :
    ∃ ack, record.scope = scope ∧
      (commit.confirmExisting selection handoff intents).operation scope =
        .ok (confirmExistingOperation scope commit.handoffId handoff.outboxRevision ack) ∧
      (existingAckMatches ack record ↔ validSubmissions intents commit.groups) := by
  obtain ⟨hmem, hid⟩ := findExisting_id hfind
  have hvalid := (readExisting_valid hread).2.1 record hmem
  have htoken : isToken commit.handoffId = true := by
    rw [← hid]
    exact hvalid.2.2.2.2.1
  have hrevision : handoff.outboxRevision = 1 := by simp [hnew, newExisting]
  have hhere : handoff.scope = scope := by simp [hnew, newExisting]
  refine ⟨_, hadvances.scope.trans hhere, ?_,
    commitExisting_ackMatches rfl hselection (by simp [hnew, newExisting]) hadvances.selection
      hadvances.attached hvalid⟩
  have hinteger : luaInteger 1 1 := by decide
  simp [Commit.confirmExisting, ExistingCall.operation, htoken, hrevision, hinteger]

/-- Whatever calls come in between, rows that are valid are taken. -/
theorem commitExisting_taken (hcodec : codec.RoundTrips) {commit : Commit}
    {selection : ExistingSelection} {handoff : ExistingRecord}
    (h : commit.saveExisting.exec codec host scope field =
      (field', .ok (.saved (some selection) handoff)))
    {intents : List SubmissionRow} (hintents : validSubmissions intents commit.groups)
    {trace : List (Move (Option ω) ExistingTurn)} {last : Option ω}
    (hrun : Run (existingStep codec) field' trace last) (turn : HostTurn) :
    Taken ((commit.confirmExisting selection handoff intents).exec codec turn scope last).2 := by
  obtain ⟨hselection, ⟨revision, hnew⟩, records, hread, hfind⟩ := commitExisting_saved hcodec h
  have heffect : StepEffect (existingStep codec) (existingFieldView codec)
      ExistingTurn.intent := by
    intro before turn after hstep
    exact ⟨turn.scope, ExistingCall.exec_effect hcodec hstep⟩
  have hstored : (existingFieldView codec field').handoffs commit.handoffId =
      some handoff.toHandoff := by
    simp [existingFieldView, existingView, hread, hfind]
  obtain ⟨kept, hkept, hadvances⟩ := heffect.advances hrun hstored
  have hlast : (readExisting codec last).isSome := by
    clear h hstored hkept
    induction hrun with
    | nil => simp [hread]
    | snoc _ hstep ih => exact ExistingCall.exec_readable hcodec hstep ih
  obtain ⟨records', hread'⟩ := Option.isSome_iff_exists.mp hlast
  obtain ⟨record, hfind', rfl⟩ : ∃ record, findExisting records' commit.handoffId = some record ∧
      record.toHandoff = kept := by
    simpa [existingFieldView, existingView, hread'] using hkept
  obtain ⟨ack, hsame, hoperation, hmatches⟩ :=
    commitExisting_record hselection hnew intents hread' hfind' hadvances
  intro failure hfailure
  rcases ExistingCall.exec_error hread' (Prod.ext rfl hfailure) with
    houtside | hrefused | ⟨_, hran, hrefused⟩
  · exact houtside
  · rw [hoperation] at hrefused
    cases hrefused
  · rw [hoperation] at hran
    cases hran
    simp only [confirmExistingOperation, hfind', hsame, hmatches.mpr hintents, ne_eq,
      not_true_eq_false, if_false] at hrefused
    split at hrefused
    · cases hrefused
      simp [outsideFailures]
    split at hrefused
    · cases hrefused
    · cases hrefused

/-- Rows that are not valid are refused right after the save. -/
theorem commitExisting_refused (hcodec : codec.RoundTrips) {commit : Commit}
    {selection : ExistingSelection} {handoff : ExistingRecord}
    (h : commit.saveExisting.exec codec host scope field =
      (field', .ok (.saved (some selection) handoff)))
    {intents : List SubmissionRow} (hintents : ¬ validSubmissions intents commit.groups) :
    ((commit.confirmExisting selection handoff intents).exec codec openHost scope field').2 =
      .error .ackInvalid := by
  obtain ⟨hselection, ⟨revision, hnew⟩, records, hread, hfind⟩ := commitExisting_saved hcodec h
  obtain ⟨ack, hsame, hoperation, hmatches⟩ :=
    commitExisting_record hselection hnew intents hread hfind (Handoff.Advances.refl _)
  have hvalid : scope.valid := by
    rw [← hsame]
    exact ((readExisting_valid hread).2.1 handoff (findExisting_id hfind).1).1
  have hrefused : confirmExistingOperation scope commit.handoffId handoff.outboxRevision ack
      records = .error .ackInvalid := by
    simp [confirmExistingOperation, hfind, hsame, hmatches, hintents]
  simp [ExistingCall.exec, hvalid, hoperation, runExisting, openHost, existingCallback, hread,
    hrefused, existingAfter]

end Existing

/-! ## Agreement -/

namespace AcceptanceSample

def commit : Commit where
  binding := ⟨"binding-1", "photo-1", 1, 1, .existingPublic⟩
  selected := ["12345@N00"]
  revision := 0
  handoffId := "handoff-1"

/-- An answer for the one group, whose delivery is uncertain since a time. -/
def answer (time : String) : Value :=
  .object [("schemaVersion", .number 2), ("fgaPhotoBindingId", .text "binding-1"),
    ("flickrPhotoId", .text "photo-1"),
    ("submissions", .array [.object [("fgaSubmissionIntentId", .text "intent-1"),
      ("flickrGroupId", .text "12345@N00"), ("state", .text "delivery_uncertain"),
      ("created", .boolean false),
      ("permanentSubmissionBlock", .object [("reasonCode", .text "delivery_uncertain"),
        ("createdAt", .text time)])]])]

/-- The rows of that answer. -/
def intents (time : String) : List SubmissionRow :=
  [⟨"intent-1", "12345@N00", .deliveryUncertain, false, some ("delivery_uncertain", time)⟩]

def scope : PhotoScope := ⟨1, 1, "00000000-0000-4000-8000-000000000001"⟩

def entry : SelectionEntry := ⟨scope, 1, .groups, ["12345@N00"]⟩

def handoff : HandoffRecord :=
  newHandoff scope (some entry) "handoff-1" (some commit.binding.handoff)

/-- The fields once the handoff is saved over empty ones. -/
def saved : SelectionFields StoredDocument :=
  (commit.save.exec documentCodec openHost scope ⟨fun _ => none, none⟩).1

def existingScope : ExistingScope := ⟨"installation-1", "binding-1", "photo-1", 1, .existingPublic⟩

def existingHandoff : ExistingRecord :=
  newExisting existingScope 1 ["12345@N00"] "handoff-1" commit.binding.handoff

def existingSaved : Option StoredDocument :=
  (commit.saveExisting.exec existingDocumentCodec openHost existingScope none).1

end AcceptanceSample

end FlickrGroupAddr

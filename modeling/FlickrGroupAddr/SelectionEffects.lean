import FlickrGroupAddr.GroupSelectionStore
import FlickrGroupAddr.Lib.Outbox
import FlickrGroupAddr.Lib.Table

/-!
# What a call of the selection store does

A call leaves both fields as they are, or each of them takes its write or not.  The
selections may take an edit or lose what a handoff consumed; the outbox may take a
new handoff or an acknowledgement.
-/

namespace FlickrGroupAddr

set_option autoImplicit false

open KeyedTable Outbox

local instance effectOrder : Preorder Int := Int.instLinearOrder.toPreorder

/-! ## Valid documents -/

theorem scopeLess_trans {first second third : PhotoScope} (h : scopeLess first second)
    (h' : scopeLess second third) : scopeLess first third := by
  unfold scopeLess at *
  omega

theorem byteLess_trans {first second third : String} (h : byteLess first second)
    (h' : byteLess second third) : byteLess first third := by
  unfold byteLess at *
  exact List.lt_trans h h'

theorem byteLess_irrefl (text : String) : ¬ byteLess text text := by
  unfold byteLess
  exact List.lt_irrefl _

/-- A photo has at most one selection in a scope. -/
theorem validSelections.nodup {entries : List SelectionEntry} {photoUuid : String}
    (h : validSelections entries photoUuid) : (entries.map SelectionEntry.scope).Nodup := by
  have htrans : Trans SelectionEntry.before SelectionEntry.before SelectionEntry.before :=
    ⟨scopeLess_trans⟩
  have hpairwise := List.isChain_iff_pairwise.mp h.2.2
  apply List.pairwise_map.mpr
  apply hpairwise.imp
  intro left right hless heq
  unfold SelectionEntry.before at hless
  rw [heq] at hless
  unfold scopeLess at hless
  omega

/-- Handoff ids are unique. -/
theorem validOutbox.nodup {records : List HandoffRecord} (h : validOutbox records) :
    (records.map HandoffRecord.handoffId).Nodup := by
  have htrans : Trans HandoffRecord.before HandoffRecord.before HandoffRecord.before :=
    ⟨byteLess_trans⟩
  have hpairwise := List.isChain_iff_pairwise.mp h.2.2
  apply List.pairwise_map.mpr
  apply hpairwise.imp
  intro left right hless heq
  unfold HandoffRecord.before at hless
  rw [heq] at hless
  exact byteLess_irrefl _ hless

theorem validSelections_nil (photoUuid : String) : validSelections [] photoUuid :=
  ⟨Nat.zero_le _, by simp, List.isChain_nil⟩

theorem validOutbox_nil : validOutbox [] := ⟨Nat.zero_le _, by simp, List.isChain_nil⟩

section Read

variable {ω : Type} {codec : SelectionCodec ω}

theorem readSelections_valid {raw : Option ω} {photoUuid : String}
    {entries : List SelectionEntry} (h : readSelections codec raw photoUuid = some entries) :
    validSelections entries photoUuid := by
  cases raw with
  | none =>
      cases h
      exact validSelections_nil photoUuid
  | some text =>
      obtain ⟨_, h⟩ := Option.ite_none_right_eq_some.mp h
      simpa using (Option.filter_eq_some_iff.mp h).2

theorem readOutbox_valid {raw : Option ω} {records : List HandoffRecord}
    (h : readOutbox codec raw = some records) : validOutbox records := by
  cases raw with
  | none =>
      cases h
      exact validOutbox_nil
  | some text =>
      obtain ⟨_, h⟩ := Option.ite_none_right_eq_some.mp h
      simpa using (Option.filter_eq_some_iff.mp h).2

end Read

/-! ## Documents after an operation -/

section Documents

variable {entries entries' : List SelectionEntry} {records records' : List HandoffRecord}
  {photoUuid : String}

theorem findSelection_replaced (h : validSelections entries photoUuid)
    (h' : validSelections entries' photoUuid) {entry : SelectionEntry}
    (hmem : ∀ other, other ∈ entries' ↔
      other = entry ∨ (other ∈ entries ∧ other.scope ≠ entry.scope)) (scope : PhotoScope) :
    findSelection entries' scope =
      if scope = entry.scope then some entry else findSelection entries scope :=
  @Table.find?_of_replaced _ _ SelectionEntry.scope _ ⟨entries, h.nodup⟩ ⟨entries', h'.nodup⟩
    entry hmem scope

theorem findSelection_erased (h : validSelections entries photoUuid)
    (h' : validSelections entries' photoUuid) {gone : PhotoScope}
    (hmem : ∀ other, other ∈ entries' ↔ other ∈ entries ∧ other.scope ≠ gone)
    (scope : PhotoScope) :
    findSelection entries' scope =
      if scope = gone then none else findSelection entries scope :=
  @Table.find?_of_erased _ _ SelectionEntry.scope _ ⟨entries, h.nodup⟩ ⟨entries', h'.nodup⟩
    gone hmem scope

theorem findHandoff_replaced (h : validOutbox records) (h' : validOutbox records')
    {record : HandoffRecord}
    (hmem : ∀ other, other ∈ records' ↔
      other = record ∨ (other ∈ records ∧ other.handoffId ≠ record.handoffId))
    (handoffId : String) :
    findHandoff records' handoffId =
      if handoffId = record.handoffId then some record else findHandoff records handoffId :=
  @Table.find?_of_replaced _ _ HandoffRecord.handoffId _ ⟨records, h.nodup⟩ ⟨records', h'.nodup⟩
    record hmem handoffId

theorem findSelection_eq_none {scope : PhotoScope} :
    findSelection entries scope = none ↔ ∀ entry ∈ entries, entry.scope ≠ scope := by
  simp [findSelection]

theorem findHandoff_eq_none {handoffId : String} :
    findHandoff records handoffId = none ↔ ∀ record ∈ records, record.handoffId ≠ handoffId := by
  simp [findHandoff]

theorem findSelection_scope {scope : PhotoScope} {entry : SelectionEntry}
    (h : findSelection entries scope = some entry) : entry ∈ entries ∧ entry.scope = scope :=
  ⟨List.mem_of_find?_eq_some h, by simpa using List.find?_some h⟩

theorem findHandoff_id {handoffId : String} {record : HandoffRecord}
    (h : findHandoff records handoffId = some record) :
    record ∈ records ∧ record.handoffId = handoffId :=
  ⟨List.mem_of_find?_eq_some h, by simpa using List.find?_some h⟩

theorem findHandoff_of_mem (h : validOutbox records) {record : HandoffRecord}
    (hmem : record ∈ records) : findHandoff records record.handoffId = some record :=
  @Table.find?_of_mem _ _ HandoffRecord.handoffId _ ⟨records, h.nodup⟩ record hmem

/-- The entry takes the place of the one of its scope. -/
theorem mem_putSelection {entry other : SelectionEntry} :
    other ∈ putSelection entries entry ↔
      other = entry ∨ (other ∈ entries ∧ other.scope ≠ entry.scope) := by
  unfold putSelection
  simp only [List.mem_insertionSort]
  split
  · next hnone =>
      have hall := findSelection_eq_none.mp hnone
      simp only [List.mem_append, List.mem_singleton]
      constructor
      · rintro (hmem | rfl)
        · exact Or.inr ⟨hmem, hall other hmem⟩
        · exact Or.inl rfl
      · rintro (rfl | ⟨hmem, _⟩)
        · exact Or.inr rfl
        · exact Or.inl hmem
  · next hsome =>
      obtain ⟨found, hfound⟩ := Option.ne_none_iff_exists'.mp hsome
      simp only [List.mem_map]
      constructor
      · rintro ⟨old, hold, rfl⟩
        split
        · exact Or.inl rfl
        · next hne => exact Or.inr ⟨hold, hne⟩
      · rintro (rfl | ⟨hmem, hne⟩)
        · exact ⟨found, (findSelection_scope hfound).1, if_pos (findSelection_scope hfound).2⟩
        · exact ⟨other, hmem, if_neg hne⟩

/-- No revision of the scope is above the highest. -/
theorem le_highestRevision (prior : Option SelectionEntry) (scope : PhotoScope) :
    ((prior.map SelectionEntry.selectionRevision).getD 0 ≤
        highestRevision prior records scope) ∧
      ∀ record ∈ records, record.scope = scope →
        record.selection.selectionRevision ≤ highestRevision prior records scope := by
  unfold highestRevision
  generalize (prior.map SelectionEntry.selectionRevision).getD 0 = start
  induction records generalizing start with
  | nil => simp
  | cons first rest ih =>
      simp only [List.foldl_cons, List.mem_cons]
      split
      · next hscope =>
          obtain ⟨hstart, hrest⟩ := ih (max start first.selection.selectionRevision)
          refine ⟨(le_max_left _ _).trans hstart, ?_⟩
          rintro record (rfl | hmem) hrecord
          · exact (le_max_right _ _).trans hstart
          · exact hrest record hmem hrecord
      · next hscope =>
          obtain ⟨hstart, hrest⟩ := ih start
          refine ⟨hstart, ?_⟩
          rintro record (rfl | hmem) hrecord
          · exact absurd hrecord hscope
          · exact hrest record hmem hrecord

/-- What `addHandoff` adds. -/
theorem addHandoff_ok {scope : PhotoScope} {selection : Option SelectionEntry}
    {handoffId : String} {binding : Option HandoffBinding} {record : HandoffRecord}
    (h : addHandoff scope selection records handoffId binding = .ok (record, records')) :
    record = newHandoff scope selection handoffId binding ∧
      findHandoff records handoffId = none ∧
      ∀ other, other ∈ records' ↔
        other = record ∨ (other ∈ records ∧ other.handoffId ≠ record.handoffId) := by
  unfold addHandoff at h
  split at h
  · cases h
  split at h
  · cases h
  split at h
  · cases h
  next hnew =>
  split at h
  · cases h
  cases h
  have hnone : findHandoff records handoffId = none := not_not.mp hnew
  refine ⟨rfl, hnone, ?_⟩
  intro other
  simp only [List.mem_insertionSort, List.mem_append, List.mem_singleton]
  constructor
  · rintro (hmem | rfl)
    · exact Or.inr ⟨hmem, findHandoff_eq_none.mp hnone other hmem⟩
    · exact Or.inl rfl
  · rintro (rfl | ⟨hmem, _⟩)
    · exact Or.inr rfl
    · exact Or.inl hmem

end Documents

/-! ## The outbox a store is -/

/-- What a call sets out to do. -/
def SelectionCall.intent (call : SelectionCall) : Intent String (GroupChoice × List String) where
  saves := fun content => ∃ groups expectedRevision handoffId binding,
    call = .saveChoice groups expectedRevision handoffId binding ∧
      normalizeGroups groups = some content.2 ∧ content.1 = choiceOf content.2
  confirms := fun id => ∃ expectedRevision ack, call = .confirm id expectedRevision ack

def SelectionEntry.toSelection (entry : SelectionEntry) :
    Selection Int (GroupChoice × List String) :=
  ⟨entry.selectionRevision, entry.choice, entry.flickrGroupIds⟩

def HandoffRecord.toHandoff (record : HandoffRecord) :
    Handoff PhotoScope Int (GroupChoice × List String) (Option HandoffBinding) :=
  ⟨record.scope, record.selection.toSelection, record.binding, record.state = .acknowledged⟩

/-- Selections and handoffs over photo scopes. -/
abbrev SelectionView :=
  View PhotoScope String Int (GroupChoice × List String) (Option HandoffBinding)

/-- The selections of one photo and the handoffs of the catalog. -/
def documentView (entries : List SelectionEntry) (records : List HandoffRecord) :
    SelectionView where
  chosen := fun scope => (findSelection entries scope).map SelectionEntry.toSelection
  handoffs := fun id => (findHandoff records id).map HandoffRecord.toHandoff

/-! ## Operations -/

section Operations

variable {entries : List SelectionEntry} {records : List HandoffRecord} {scope : PhotoScope}
  {outcome : SelectionOutcome}

/-- The next revision is above all that the documents use in the scope. -/
theorem above_highestRevision :
    (documentView entries records).Above scope
      (highestRevision (findSelection entries scope) records scope + 1) := by
  obtain ⟨hprior, hall⟩ := @le_highestRevision records (findSelection entries scope) scope
  rintro _ ⟨_, ⟨_, hchosen, rfl⟩ | ⟨id, _, hhandoff, hscope, rfl⟩⟩
  · obtain ⟨entry, hentry, rfl⟩ := Option.map_eq_some_iff.mp hchosen
    simp only [hentry, Option.map_some, Option.getD_some] at hprior
    rw [hentry]
    exact Int.lt_add_one_of_le hprior
  · obtain ⟨record, hrecord, rfl⟩ := Option.map_eq_some_iff.mp hhandoff
    exact Int.lt_add_one_of_le (hall record (findHandoff_id hrecord).1 hscope)

/-- The highest revision of valid documents is not negative. -/
theorem highestRevision_nonneg (hentries : validSelections entries scope.photoUuid) :
    0 ≤ highestRevision (findSelection entries scope) records scope := by
  have hprior := (@le_highestRevision records (findSelection entries scope) scope).1
  cases hfind : findSelection entries scope with
  | none =>
      rw [hfind] at hprior
      exact hprior
  | some entry =>
      rw [hfind] at hprior
      have hvalid := (hentries.2.1 entry (findSelection_scope hfind).1).1.2.1.1
      simp only [Option.map_some, Option.getD_some] at hprior
      omega

/-- What an operation may have changed, where the new documents are valid. -/
structure OutcomeEffect (entries : List SelectionEntry) (records : List HandoffRecord)
    (scope : PhotoScope) (call : SelectionCall) (outcome : SelectionOutcome) : Prop where
  selections : ∀ entries', outcome.selections = some entries' →
    validSelections entries' scope.photoUuid →
    (documentView entries records).Selects scope call.intent (documentView entries' records).chosen
  outbox : ∀ records', outcome.outbox = some records' → validOutbox records' →
    (documentView entries records).Records scope call.intent
      (documentView entries records').handoffs

/-- An operation that changes nothing. -/
theorem OutcomeEffect.unchanged {call : SelectionCall} (hselections : outcome.selections = none)
    (houtbox : outcome.outbox = none) : OutcomeEffect entries records scope call outcome := by
  constructor
  · intro entries' heq
    rw [hselections] at heq
    cases heq
  · intro records' heq
    rw [houtbox] at heq
    cases heq

/-- A selection put in its place, seen from the lookup. -/
theorem chosen_replaced {entries' : List SelectionEntry} (value : Option SelectionEntry)
    (h : ∀ s, findSelection entries' s = if s = scope then value else findSelection entries s) :
    (documentView entries' records).chosen =
      Function.update (documentView entries records).chosen scope
        (value.map SelectionEntry.toSelection) := by
  funext s
  simp only [documentView, h s, Function.update_apply]
  split <;> rfl

/-- A record put in its place, seen from the lookup. -/
theorem handoffs_replaced {records' : List HandoffRecord} {id : String} (record : HandoffRecord)
    (h : ∀ other, findHandoff records' other =
      if other = id then some record else findHandoff records other) :
    (documentView entries records').handoffs =
      Function.update (documentView entries records).handoffs id (some record.toHandoff) := by
  funext other
  simp only [documentView, h other, Function.update_apply]
  split <;> rfl

/-- An added handoff copies the selection it was made from. -/
theorem addHandoff_records {call : SelectionCall} {selection : Option SelectionEntry}
    {handoffId : String} {binding : Option HandoffBinding} {record : HandoffRecord}
    {records' : List HandoffRecord} (hrecords : validOutbox records)
    (hrecords' : validOutbox records')
    (h : addHandoff scope selection records handoffId binding = .ok (record, records'))
    (hscope : ∀ entry, selection = some entry → entry.scope = scope)
    (hsource : ∀ entry, selection = some entry → findSelection entries scope = some entry ∨
      call.intent.saves entry.toSelection.content ∧
        (documentView entries records).Above scope entry.selectionRevision) :
    (documentView entries records).Records scope call.intent
      (documentView entries records').handoffs := by
  obtain ⟨hrecord, hnone, hmem⟩ := addHandoff_ok h
  have hid : record.handoffId = handoffId := by rw [hrecord]; rfl
  have hnew : (documentView entries records).handoffs record.handoffId = none := by
    simp [documentView, hid, hnone]
  apply View.Records.prepared hnew _ _ _
    (handoffs_replaced record (findHandoff_replaced hrecords hrecords' hmem))
  · rw [hrecord]
    cases selection with
    | none => rfl
    | some entry => exact hscope entry rfl
  · rw [hrecord]
    rfl
  · rw [hrecord]
    cases selection with
    | none => exact Or.inr (Or.inl rfl)
    | some entry =>
        rcases hsource entry rfl with hcurrent | hsaved
        · exact Or.inl (by simp [documentView, hcurrent, HandoffRecord.toHandoff, newHandoff])
        · exact Or.inr (Or.inr hsaved)

theorem saveChoice_effect (hentries : validSelections entries scope.photoUuid)
    (hrecords : validOutbox records) {given normalized : List String} {expectedRevision : Int}
    {handoffId : Option String} {binding : Option HandoffBinding}
    (hnormalized : normalizeGroups given = some normalized)
    (h : saveChoiceOperation scope normalized expectedRevision handoffId binding entries records =
      .ok outcome) :
    OutcomeEffect entries records scope
      (.saveChoice given expectedRevision handoffId binding) outcome := by
  unfold saveChoiceOperation at h
  dsimp only at h
  split at h
  · cases h
  split at h
  · cases h
  split at h
  · cases h
  have habove := @above_highestRevision entries records scope
  have hnonneg := @highestRevision_nonneg entries records scope hentries
  have hpos : 0 < highestRevision (findSelection entries scope) records scope + 1 := by omega
  generalize highestRevision (findSelection entries scope) records scope + 1 = revision at *
  have hsaves : (SelectionCall.saveChoice given expectedRevision handoffId binding).intent.saves
      (choiceOf normalized, normalized) :=
    ⟨given, expectedRevision, handoffId, binding, rfl, hnormalized, rfl⟩
  have hselects : validSelections
        (putSelection entries ⟨scope, revision, choiceOf normalized, normalized⟩)
        scope.photoUuid →
      (documentView entries records).Selects scope
        (SelectionCall.saveChoice given expectedRevision handoffId binding).intent
        (documentView (putSelection entries ⟨scope, revision, choiceOf normalized, normalized⟩)
          records).chosen := by
    intro hvalid
    exact View.Selects.saved hsaves hpos habove
      (chosen_replaced (some _) (findSelection_replaced hentries hvalid fun _ => mem_putSelection))
  split at h
  · cases h
    constructor
    · intro entries' heq hvalid
      cases heq
      exact hselects hvalid
    · intro records' heq
      cases heq
  · split at h
    · cases h
    · next record records' hadd =>
        cases h
        constructor
        · intro entries' heq hvalid
          cases heq
          exact hselects hvalid
        · intro records' heq hvalid
          cases heq
          apply addHandoff_records hrecords hvalid hadd
          · intro entry hentry
            cases hentry
            rfl
          · intro entry hentry
            cases hentry
            exact Or.inr ⟨hsaves, habove⟩

theorem prepare_effect (hrecords : validOutbox records) {expectedRevision : Int}
    {handoffId : String} {binding : Option HandoffBinding}
    (h : prepareOperation scope expectedRevision handoffId binding entries records =
      .ok outcome) :
    OutcomeEffect entries records scope (.prepare expectedRevision handoffId binding)
      outcome := by
  unfold prepareOperation at h
  split at h
  · cases h
  split at h
  · cases h
  · next record records' hadd =>
      cases h
      constructor
      · intro entries' heq
        cases heq
      · intro records' heq hvalid
        cases heq
        apply addHandoff_records hrecords hvalid hadd
        · intro entry hentry
          exact (findSelection_scope hentry).2
        · intro entry hentry
          exact Or.inl hentry

/-- Acknowledging replaces the record of that handoff. -/
theorem mem_acknowledged {record other : HandoffRecord} {handoffId : String}
    {ack : SelectionAck} (hrecord : findHandoff records handoffId = some record) :
    (other ∈ records.map fun other =>
        if other.handoffId = handoffId then record.acknowledge ack else other) ↔
      other = record.acknowledge ack ∨
        (other ∈ records ∧ other.handoffId ≠ (record.acknowledge ack).handoffId) := by
  obtain ⟨hmem, hid⟩ := findHandoff_id hrecord
  have hid' : (record.acknowledge ack).handoffId = handoffId := hid
  simp only [hid', List.mem_map]
  constructor
  · rintro ⟨old, hold, rfl⟩
    split
    · exact Or.inl rfl
    · next hne => exact Or.inr ⟨hold, hne⟩
  · rintro (rfl | ⟨hother, hne⟩)
    · exact ⟨record, hmem, if_pos hid⟩
    · exact ⟨other, hother, if_neg hne⟩

theorem confirm_effect (hentries : validSelections entries scope.photoUuid)
    (hrecords : validOutbox records) {expectedRevision : Int} {handoffId : String}
    {ack : SelectionAck}
    (h : confirmOperation scope handoffId expectedRevision ack entries records = .ok outcome) :
    OutcomeEffect entries records scope (.confirm handoffId expectedRevision ack) outcome := by
  unfold confirmOperation at h
  split at h
  · cases h
  next record hrecord =>
  split at h
  · cases h
  next hscope =>
  have hscope : record.scope = scope := not_not.mp hscope
  split at h
  · cases h
  split at h
  · cases h
  split at h
  · cases h
    exact OutcomeEffect.unchanged rfl rfl
  next hprepared =>
  have hconfirms : (SelectionCall.confirm handoffId expectedRevision ack).intent.confirms
      handoffId := ⟨expectedRevision, ack, rfl⟩
  have hhandoff : (documentView entries records).handoffs handoffId = some record.toHandoff := by
    simp [documentView, hrecord]
  have hacknowledged : ∀ records', validOutbox records' →
      records' = (records.map fun other =>
        if other.handoffId = handoffId then record.acknowledge ack else other) →
      (documentView entries records).Records scope
        (SelectionCall.confirm handoffId expectedRevision ack).intent
        (documentView entries records').handoffs := by
    rintro _ hvalid rfl
    apply View.Records.acknowledged hconfirms hhandoff hscope
    · simpa [HandoffRecord.toHandoff] using hprepared
    · apply handoffs_replaced (record.acknowledge ack)
      have hid : (record.acknowledge ack).handoffId = handoffId := (findHandoff_id hrecord).2
      have hfind := findHandoff_replaced hrecords hvalid fun other => mem_acknowledged hrecord
      rw [hid] at hfind
      exact hfind
  dsimp only at h
  split at h
  · cases h
    constructor
    · intro entries' heq
      cases heq
    · intro records' heq hvalid
      exact hacknowledged records' hvalid (Option.some.inj heq).symm
  · next current hcurrent =>
      split at h
      · cases h
        constructor
        · intro entries' heq
          cases heq
        · intro records' heq hvalid
          exact hacknowledged records' hvalid (Option.some.inj heq).symm
      · next hrevision =>
          split at h
          · cases h
          · next hsame =>
              cases h
              rw [not_or, not_not, not_not] at hsame
              constructor
              · intro entries' heq hvalid
                cases heq
                apply View.Selects.consumed hconfirms hhandoff hscope
                · have hsame : current.toSelection = record.selection.toSelection := by
                    simp [SelectionEntry.toSelection, not_not.mp hrevision, hsame.1, hsame.2]
                  simp [documentView, hcurrent, hsame, HandoffRecord.toHandoff]
                · apply chosen_replaced none
                  apply findSelection_erased hentries hvalid
                  simp
              · intro records' heq hvalid
                exact hacknowledged records' hvalid (Option.some.inj heq).symm

/-- What the callback of any method may have changed. -/
theorem operation_effect (hentries : validSelections entries scope.photoUuid)
    (hrecords : validOutbox records) {call : SelectionCall}
    {operation : List SelectionEntry → List HandoffRecord → Except StoreFailure SelectionOutcome}
    (hoperation : call.operation scope = .ok operation)
    (h : operation entries records = .ok outcome) :
    OutcomeEffect entries records scope call outcome := by
  cases call with
  | readChoice =>
      cases hoperation
      cases h
      exact OutcomeEffect.unchanged rfl rfl
  | saveChoice =>
      dsimp only [SelectionCall.operation] at hoperation
      split at hoperation
      · cases hoperation
      next hnormalized =>
      split at hoperation
      · cases hoperation
      split at hoperation
      · cases hoperation
      split at hoperation
      · cases hoperation
      cases hoperation
      exact saveChoice_effect hentries hrecords hnormalized h
  | prepare =>
      dsimp only [SelectionCall.operation] at hoperation
      split at hoperation
      · cases hoperation
      split at hoperation
      · cases hoperation
      cases hoperation
      exact prepare_effect hrecords h
  | readHandoff =>
      dsimp only [SelectionCall.operation] at hoperation
      split at hoperation
      · cases hoperation
        unfold readHandoffOperation at h
        split at h
        · cases h
        · cases h
          exact OutcomeEffect.unchanged rfl rfl
      · cases hoperation
  | listPending =>
      cases hoperation
      cases h
      exact OutcomeEffect.unchanged rfl rfl
  | confirm =>
      dsimp only [SelectionCall.operation] at hoperation
      split at hoperation
      · cases hoperation
        exact confirm_effect hentries hrecords h
      · cases hoperation

end Operations

/-! ## Calls -/

section Calls

variable {ω : Type}

/-- The editable selection of a scope, as the stored field has it. -/
def SelectionFields.chosen (codec : SelectionCodec ω) (fields : SelectionFields ω)
    (scope : PhotoScope) : Option SelectionEntry :=
  (readSelections codec (fields.selections scope.photoUuid) scope.photoUuid).bind fun entries =>
    findSelection entries scope

/-- The handoff of an id, as the stored field has it. -/
def SelectionFields.handoff (codec : SelectionCodec ω) (fields : SelectionFields ω)
    (handoffId : String) : Option HandoffRecord :=
  (readOutbox codec fields.outbox).bind fun records => findHandoff records handoffId

variable {codec : SelectionCodec ω} {host : HostTurn} {scope : PhotoScope}
  {operation : List SelectionEntry → List HandoffRecord → Except StoreFailure SelectionOutcome}
  {fields fields' : SelectionFields ω}

/-- An encoded document that fits its field. -/
theorem encodeWithin_completed {δ : Type} {encode : δ → ω} {valid : δ → Bool} {maximum : Nat}
    {document : Option δ} {text : Option ω}
    (h : encodeWithin codec encode valid maximum document = .completed text) :
    (document = none ∧ text = none) ∨
      ∃ written, document = some written ∧ valid written = true ∧
        codec.bytes (encode written) ≤ maximum ∧ text = some (encode written) := by
  cases document with
  | none =>
      cases h
      exact Or.inl ⟨rfl, rfl⟩
  | some written =>
      dsimp only [encodeWithin] at h
      split at h
      · next hvalid =>
          split at h
          · next hbytes =>
              cases h
              exact Or.inr ⟨written, rfl, hvalid, hbytes, rfl⟩
          · cases h
      · cases h

/-- A document stops its call for its size alone. -/
theorem encodeWithin_stopped {δ : Type} {encode : δ → ω} {valid : δ → Bool} {maximum : Nat}
    {document : Option δ} {failure : StoreFailure}
    (h : encodeWithin codec encode valid maximum document = .stopped failure) :
    failure = .storageFull := by
  cases document with
  | none => cases h
  | some written =>
      dsimp only [encodeWithin] at h
      split at h
      · split at h
        · cases h
        · cases h
          rfl
      · cases h

/-- A completed callback read both fields and encoded what its operation changed. -/
theorem selectionCallback_completed {writes : SelectionWrites ω}
    (h : selectionCallback codec host scope operation fields = .completed writes) :
    ((∃ failure, writes.answer = .error failure) ∧ writes.selections = none ∧
        writes.outbox = none) ∨
      ∃ entries records outcome,
        writes.answer = .ok outcome.answer ∧
        readSelections codec (fields.selections scope.photoUuid) scope.photoUuid = some entries ∧
        readOutbox codec fields.outbox = some records ∧
        operation entries records = .ok outcome ∧
        encodeWithin codec codec.encodeSelections
          (fun entries => validSelections entries scope.photoUuid) maxSelectionBytes
          outcome.selections = .completed writes.selections ∧
        encodeWithin codec codec.encodeOutbox (fun records => validOutbox records)
          maxOutboxBytes outcome.outbox = .completed writes.outbox := by
  unfold selectionCallback at h
  split at h
  · cases h
  split at h
  · next entries records hentries hrecords =>
      split at h
      · next failure _ =>
          split at h
          · cases h
            exact Or.inl ⟨⟨failure, rfl⟩, rfl, rfl⟩
          · cases h
      · next outcome houtcome =>
          split at h
          · cases h
          · cases h
          next selections hselections =>
          split at h
          · cases h
          · cases h
          next outbox houtbox =>
          split at h
          · cases h
            exact Or.inr
              ⟨entries, records, outcome, rfl, hentries, hrecords, houtcome, hselections, houtbox⟩
          · cases h
  · cases h

variable [DecidableEq ω]

/-- A call leaves the fields alone or stores what its callback completed with. -/
theorem SelectionCall.exec_cases {call : SelectionCall} {answer : Except StoreFailure SelectionAnswer}
    (h : call.exec codec host scope fields = (fields', answer)) :
    fields' = fields ∨
      ∃ operation writes, call.operation scope = .ok operation ∧
        selectionCallback codec host scope operation fields = .completed writes ∧
        fields' = fields.after host scope writes ∧
        (answer = .error .writeUnconfirmed ∨
          answer = writes.answer ∧ fields.readBack host scope fields' writes) := by
  unfold SelectionCall.exec at h
  split at h
  · cases h
    exact Or.inl rfl
  split at h
  · cases h
    exact Or.inl rfl
  next operation hoperation =>
  unfold runSelection at h
  split at h
  · cases h
    exact Or.inl rfl
  split at h
  · cases h
    exact Or.inl rfl
  · split at h
    · next writes hwrites _ =>
        cases h
        exact Or.inr ⟨operation, writes, hoperation, hwrites, rfl, Or.inl rfl⟩
    · cases h
      exact Or.inl rfl
  · split at h
    · cases h
      exact Or.inl rfl
    · cases h
      exact Or.inl rfl
    · next writes hwrites =>
        split at h
        · next hread =>
            cases h
            exact Or.inr ⟨operation, writes, hoperation, hwrites, rfl, Or.inr ⟨rfl, hread⟩⟩
        · cases h
          exact Or.inr ⟨operation, writes, hoperation, hwrites, rfl, Or.inl rfl⟩

omit [DecidableEq ω] in
/-- Without a write both fields stay. -/
theorem SelectionFields.after_of_none {writes : SelectionWrites ω}
    (hselections : writes.selections = none) (houtbox : writes.outbox = none) :
    fields.after host scope writes = fields := by
  simp [SelectionFields.after, hselections, houtbox]

/-- A refusal other than an unconfirmed write changes neither field. -/
theorem SelectionCall.exec_refused {call : SelectionCall} {failure : StoreFailure}
    (h : call.exec codec host scope fields = (fields', .error failure))
    (hfailure : failure ≠ .writeUnconfirmed) : fields' = fields := by
  rcases SelectionCall.exec_cases h with hsame | ⟨operation, writes, _, hwrites, rfl, hanswer⟩
  · exact hsame
  rcases hanswer with hunconfirmed | ⟨hanswer, _⟩
  · exact absurd (Except.error.inj hunconfirmed) hfailure
  rcases selectionCallback_completed hwrites with
    ⟨_, hselections, houtbox⟩ | ⟨_, _, _, hok, _⟩
  · exact SelectionFields.after_of_none hselections houtbox
  · rw [hok] at hanswer
    cases hanswer

/-- What the two fields hold. -/
def SelectionFields.view (codec : SelectionCodec ω) (fields : SelectionFields ω) :
    SelectionView where
  chosen := fun scope => (fields.chosen codec scope).map SelectionEntry.toSelection
  handoffs := fun id => (fields.handoff codec id).map HandoffRecord.toHandoff

omit [DecidableEq ω] in
/-- A stored selection has a positive revision. -/
theorem SelectionFields.view_positive {s : PhotoScope}
    {selection : Selection Int (GroupChoice × List String)}
    (h : (fields.view codec).chosen s = some selection) : 0 < selection.revision := by
  obtain ⟨entry, hentry, rfl⟩ := Option.map_eq_some_iff.mp h
  obtain ⟨entries, hentries, hfind⟩ := Option.bind_eq_some_iff.mp hentry
  have hvalid := (readSelections_valid hentries).2.1 entry (findSelection_scope hfind).1
  exact hvalid.1.2.1.1

/-- What a call does to the two fields. -/
theorem SelectionCall.exec_effect (hcodec : codec.RoundTrips) {call : SelectionCall}
    {answer : Except StoreFailure SelectionAnswer}
    (h : call.exec codec host scope fields = (fields', answer)) :
    (fields.view codec).Selects scope call.intent (fields'.view codec).chosen ∧
      (fields.view codec).Records scope call.intent (fields'.view codec).handoffs := by
  have hunchanged : fields' = fields →
      (fields.view codec).Selects scope call.intent (fields'.view codec).chosen ∧
        (fields.view codec).Records scope call.intent (fields'.view codec).handoffs := by
    rintro rfl
    exact ⟨View.Selects.same rfl, View.Records.same rfl⟩
  rcases SelectionCall.exec_cases h with hsame | ⟨operation, writes, hoperation, hwrites, rfl, _⟩
  · exact hunchanged hsame
  rcases selectionCallback_completed hwrites with
    ⟨_, hselections, houtbox⟩ |
      ⟨entries, records, outcome, _, hentries, hrecords, houtcome, hselections, houtbox⟩
  · exact hunchanged (SelectionFields.after_of_none hselections houtbox)
  have heffect := operation_effect (readSelections_valid hentries) (readOutbox_valid hrecords)
    hoperation houtcome
  have hhandoffs : (fields.view codec).handoffs = (documentView entries records).handoffs := by
    funext id
    simp [SelectionFields.view, SelectionFields.handoff, documentView, hrecords]
  have hchosen : ∀ s, s.photoUuid = scope.photoUuid →
      (fields.view codec).chosen s = (documentView entries records).chosen s := by
    intro s hphoto
    simp [SelectionFields.view, SelectionFields.chosen, documentView, hphoto, hentries]
  constructor
  · rcases encodeWithin_completed hselections with
      ⟨_, hnone⟩ | ⟨entries', hsome, hvalid, hbytes, htext⟩
    · apply View.Selects.same
      funext s
      simp [SelectionFields.view, SelectionFields.chosen, SelectionFields.after, hnone]
    · have hvalid : validSelections entries' scope.photoUuid := of_decide_eq_true hvalid
      by_cases hkept : host.keptSelection = true
      · apply View.Selects.widen (fun s => s.photoUuid = scope.photoUuid) rfl hchosen
          hhandoffs _ (heffect.selections entries' hsome hvalid)
        intro s
        by_cases hphoto : s.photoUuid = scope.photoUuid
        · have hread : readSelections codec (some (codec.encodeSelections entries'))
              scope.photoUuid = some entries' := by
            simp [readSelections, hbytes, hcodec.selections entries' _ hvalid, hvalid]
          simp [SelectionFields.view, SelectionFields.chosen, SelectionFields.after,
            documentView, htext, hkept, hphoto, hread]
        · simp [SelectionFields.view, SelectionFields.chosen, SelectionFields.after, hphoto]
      · apply View.Selects.same
        funext s
        simp [SelectionFields.view, SelectionFields.chosen, SelectionFields.after, hkept]
  · rcases encodeWithin_completed houtbox with
      ⟨_, hnone⟩ | ⟨records', hsome, hvalid, hbytes, htext⟩
    · apply View.Records.same
      funext id
      simp [SelectionFields.view, SelectionFields.handoff, SelectionFields.after, hnone]
    · have hvalid : validOutbox records' := of_decide_eq_true hvalid
      by_cases hkept : host.keptOutbox = true
      · have hread : readOutbox codec (some (codec.encodeOutbox records')) = some records' := by
          simp [readOutbox, hbytes, hcodec.outbox records' hvalid, hvalid]
        have hhandoffs' : ((fields.after host scope writes).view codec).handoffs =
            (documentView entries records').handoffs := by
          funext id
          simp [SelectionFields.view, SelectionFields.handoff, SelectionFields.after,
            documentView, htext, hkept, hread]
        rw [hhandoffs']
        exact (heffect.outbox records' hsome hvalid).widen (hchosen scope rfl) hhandoffs
      · apply View.Records.same
        funext id
        simp [SelectionFields.view, SelectionFields.handoff, SelectionFields.after, hkept]

end Calls

end FlickrGroupAddr

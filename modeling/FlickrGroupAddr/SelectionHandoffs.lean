import FlickrGroupAddr.ExistingPhotoGroupStore
import FlickrGroupAddr.SelectionEffects

/-!
# Selections are kept until they are handed over

What a call of the store of existing photos does, and what both stores keep over any
calls of any instances, also where a write stays unconfirmed.
-/

namespace FlickrGroupAddr

set_option autoImplicit false

open KeyedTable Outbox Transition

local instance handoffOrder : Preorder Int := Int.instLinearOrder.toPreorder

/-! ## Valid records -/

/-- Handoff ids are unique. -/
theorem validExisting.nodup {records : List ExistingRecord} (h : validExisting records) :
    (records.map ExistingRecord.handoffId).Nodup := by
  have htrans : Trans ExistingRecord.before ExistingRecord.before ExistingRecord.before :=
    ⟨byteLess_trans⟩
  have hpairwise := List.isChain_iff_pairwise.mp h.2.2.1
  apply List.pairwise_map.mpr
  apply hpairwise.imp
  intro left right hless heq
  unfold ExistingRecord.before at hless
  rw [heq] at hless
  exact byteLess_irrefl _ hless

/-- Records of one scope and one revision are one record. -/
theorem validExisting.eq_of_revision {records : List ExistingRecord} (h : validExisting records)
    {left right : ExistingRecord} (hleft : left ∈ records) (hright : right ∈ records)
    (hscope : left.scope = right.scope)
    (hrevision : left.selectionRevision = right.selectionRevision) : left = right := by
  have hsymm : Std.Symm ExistingRecord.distinct := by
    constructor
    intro left right hdistinct heq
    exact hdistinct ⟨heq.1.symm, heq.2.symm⟩
  by_contra hne
  exact h.2.2.2.forall hleft hright hne ⟨hscope, hrevision⟩

theorem validExisting_nil : validExisting [] :=
  ⟨Nat.zero_le _, by simp, List.isChain_nil, List.Pairwise.nil⟩

theorem readExisting_valid {ω : Type} {codec : ExistingCodec ω} {raw : Option ω}
    {records : List ExistingRecord} (h : readExisting codec raw = some records) :
    validExisting records := by
  cases raw with
  | none =>
      cases h
      exact validExisting_nil
  | some text =>
      obtain ⟨_, h⟩ := Option.ite_none_right_eq_some.mp h
      simpa using (Option.filter_eq_some_iff.mp h).2

/-! ## Lookups -/

section Lookups

variable {records records' : List ExistingRecord} {scope : ExistingScope}

theorem findExisting_id {handoffId : String} {record : ExistingRecord}
    (h : findExisting records handoffId = some record) :
    record ∈ records ∧ record.handoffId = handoffId :=
  ⟨List.mem_of_find?_eq_some h, by simpa using List.find?_some h⟩

theorem findExisting_eq_none {handoffId : String} :
    findExisting records handoffId = none ↔
      ∀ record ∈ records, record.handoffId ≠ handoffId := by
  simp [findExisting]

theorem findExisting_replaced (h : validExisting records) (h' : validExisting records')
    {record : ExistingRecord}
    (hmem : ∀ other, other ∈ records' ↔
      other = record ∨ (other ∈ records ∧ other.handoffId ≠ record.handoffId))
    (handoffId : String) :
    findExisting records' handoffId =
      if handoffId = record.handoffId then some record else findExisting records handoffId :=
  @Table.find?_of_replaced _ _ ExistingRecord.handoffId _ ⟨records, h.nodup⟩
    ⟨records', h'.nodup⟩ record hmem handoffId

/-- The latest record of a scope is the one with its highest revision. -/
theorem latestRecord_eq_some (h : validExisting records) {record : ExistingRecord} :
    latestRecord records scope = some record ↔
      record ∈ records ∧ record.scope = scope ∧
        ∀ other ∈ records, other.scope = scope →
          other.selectionRevision ≤ record.selectionRevision := by
  unfold latestRecord
  rw [List.argmax_eq_some_iff]
  simp only [List.mem_filter, decide_eq_true_eq]
  constructor
  · rintro ⟨⟨hmem, hscope⟩, hhighest, _⟩
    refine ⟨hmem, hscope, ?_⟩
    intro other hother hsame
    exact hhighest other ⟨hother, hsame⟩
  · rintro ⟨hmem, hscope, hhighest⟩
    refine ⟨⟨hmem, hscope⟩, ?_, ?_⟩
    · intro other hother
      exact hhighest other hother.1 hother.2
    · intro other hother hle
      have heq : other = record :=
        h.eq_of_revision hother.1 hmem (hother.2.trans hscope.symm)
          (le_antisymm (hhighest other hother.1 hother.2) hle)
      rw [heq]

theorem latestRecord_eq_none :
    latestRecord records scope = none ↔ ∀ record ∈ records, record.scope ≠ scope := by
  unfold latestRecord
  rw [List.argmax_eq_none]
  simp

/-- The latest record depends on the records of the scope alone. -/
theorem latestRecord_congr (h : validExisting records) (h' : validExisting records')
    (hmem : ∀ record, record.scope = scope → (record ∈ records' ↔ record ∈ records)) :
    latestRecord records' scope = latestRecord records scope := by
  apply Option.ext
  intro record
  rw [latestRecord_eq_some h, latestRecord_eq_some h']
  constructor
  · rintro ⟨hrecord, hscope, hhighest⟩
    refine ⟨(hmem record hscope).mp hrecord, hscope, ?_⟩
    intro other hother hsame
    exact hhighest other ((hmem other hsame).mpr hother) hsame
  · rintro ⟨hrecord, hscope, hhighest⟩
    refine ⟨(hmem record hscope).mpr hrecord, hscope, ?_⟩
    intro other hother hsame
    exact hhighest other ((hmem other hsame).mp hother) hsame

end Lookups

/-! ## The outbox this store is -/

/-- What a call sets out to do. -/
def ExistingCall.intent (call : ExistingCall) : Intent String (List String) where
  saves := fun content => ∃ groups expectedRevision handoffId binding,
    call = .saveChoice groups expectedRevision handoffId binding ∧
      normalizeExistingGroups groups = some content
  confirms := fun id => ∃ expectedRevision ack, call = .confirm id expectedRevision ack

def ExistingSelection.toSelection (selection : ExistingSelection) :
    Selection Int (List String) :=
  ⟨selection.selectionRevision, selection.flickrGroupIds⟩

def ExistingRecord.toHandoff (record : ExistingRecord) :
    Handoff ExistingScope Int (List String) HandoffBinding :=
  ⟨record.scope, record.selection.toSelection, record.binding, record.state = .acknowledged⟩

/-- Selections and handoffs over scopes of existing photos. -/
abbrev ExistingView := View ExistingScope String Int (List String) HandoffBinding

/-- The latest records that are prepared, and the handoffs. -/
def existingView (records : List ExistingRecord) : ExistingView where
  chosen := fun scope =>
    (existingChoice (latestRecord records scope)).map ExistingSelection.toSelection
  handoffs := fun id => (findExisting records id).map ExistingRecord.toHandoff

section Operations

variable {records records' : List ExistingRecord} {scope : ExistingScope}

theorem existingView_handoffs_replaced (h : validExisting records) (h' : validExisting records')
    {record : ExistingRecord}
    (hmem : ∀ other, other ∈ records' ↔
      other = record ∨ (other ∈ records ∧ other.handoffId ≠ record.handoffId)) :
    (existingView records').handoffs =
      Function.update (existingView records).handoffs record.handoffId
        (some record.toHandoff) := by
  funext other
  simp only [existingView, findExisting_replaced h h' hmem, Function.update_apply]
  split <;> rfl

/-- A chosen selection is the latest record, still prepared. -/
theorem existingView_chosen {selection : Selection Int (List String)}
    (h : (existingView records).chosen scope = some selection) :
    ∃ record, latestRecord records scope = some record ∧ record.state = .prepared ∧
      selection = record.selection.toSelection := by
  obtain ⟨_, hchoice, rfl⟩ := Option.map_eq_some_iff.mp h
  obtain ⟨record, hrecord, rfl⟩ := Option.map_eq_some_iff.mp hchoice
  obtain ⟨hlatest, hprepared⟩ := Option.filter_eq_some_iff.mp hrecord
  exact ⟨record, hlatest, by simpa using hprepared, rfl⟩

/-- A revision above those of the records of a scope is above all in use. -/
theorem existingView_above (h : validExisting records) {revision : Int}
    (hall : ∀ record ∈ records, record.scope = scope → record.selectionRevision < revision) :
    (existingView records).Above scope revision := by
  rintro _ ⟨_, ⟨_, hchosen, rfl⟩ | ⟨id, _, hhandoff, hscope, rfl⟩⟩
  · obtain ⟨record, hlatest, _, rfl⟩ := existingView_chosen hchosen
    obtain ⟨hmem, hscope, _⟩ := (latestRecord_eq_some h).mp hlatest
    exact hall record hmem hscope
  · obtain ⟨record, hrecord, rfl⟩ := Option.map_eq_some_iff.mp hhandoff
    exact hall record (findExisting_id hrecord).1 hscope

/-- What a change of the records may do. -/
def ExistingEffect (records : List ExistingRecord) (scope : ExistingScope) (call : ExistingCall)
    (records' : List ExistingRecord) : Prop :=
  (existingView records).Selects scope call.intent (existingView records').chosen ∧
    (existingView records).Records scope call.intent (existingView records').handoffs

/-- A record under a revision above all becomes the selection of its scope. -/
theorem existing_added (h : validExisting records) (h' : validExisting records')
    {call : ExistingCall} (record : ExistingRecord)
    (hmem : ∀ other, other ∈ records' ↔
      other = record ∨ (other ∈ records ∧ other.handoffId ≠ record.handoffId))
    (hnew : findExisting records record.handoffId = none) (hprepared : record.state = .prepared)
    (hsaves : call.intent.saves record.flickrGroupIds) (hpositive : 0 < record.selectionRevision)
    (hall : ∀ other ∈ records, other.scope = record.scope →
      other.selectionRevision < record.selectionRevision) :
    ExistingEffect records record.scope call records' := by
  have habove : (existingView records).Above record.scope record.selectionRevision :=
    existingView_above h hall
  have hlatest : latestRecord records' record.scope = some record := by
    rw [latestRecord_eq_some h']
    refine ⟨(hmem record).mpr (Or.inl rfl), rfl, ?_⟩
    intro other hother hscope
    rcases (hmem other).mp hother with rfl | ⟨hold, _⟩
    · exact le_rfl
    · exact (hall other hold hscope).le
  constructor
  · have hsaves : call.intent.saves record.selection.toSelection.content := hsaves
    apply View.Selects.saved hsaves hpositive habove
    funext s
    rw [Function.update_apply]
    split
    · next hs =>
        rw [hs]
        simp [existingView, hlatest, existingChoice, hprepared]
    · next hs =>
        simp only [existingView]
        rw [latestRecord_congr h h']
        intro other hother
        rw [hmem other]
        constructor
        · rintro (rfl | ⟨hold, _⟩)
          · exact absurd hother.symm hs
          · exact hold
        · intro hold
          exact Or.inr ⟨hold, findExisting_eq_none.mp hnew other hold⟩
  · apply View.Records.prepared _ rfl _ (Or.inr (Or.inr ⟨hsaves, habove⟩))
      (existingView_handoffs_replaced h h' hmem)
    · simp [existingView, hnew]
    · simp [ExistingRecord.toHandoff, hprepared]

/-- The revision of the latest record bounds those of its scope. -/
theorem le_latestRevision (h : validExisting records) :
    0 ≤ ((latestRecord records scope).map ExistingRecord.selectionRevision).getD 0 ∧
      ∀ record ∈ records, record.scope = scope → record.selectionRevision ≤
        ((latestRecord records scope).map ExistingRecord.selectionRevision).getD 0 := by
  cases hlatest : latestRecord records scope with
  | none =>
      refine ⟨le_rfl, ?_⟩
      intro record hmem hscope
      exact absurd hscope (latestRecord_eq_none.mp hlatest record hmem)
  | some latest =>
      obtain ⟨hmem, _, hhighest⟩ := (latestRecord_eq_some h).mp hlatest
      have hpositive := (h.2.1 latest hmem).2.2.1.1
      exact ⟨le_trans (by decide) hpositive, hhighest⟩

theorem saveExisting_effect (hrecords : validExisting records) {given normalized : List String}
    {expectedRevision : Int} {handoffId : String} {passed : Option HandoffBinding}
    {binding : HandoffBinding} {outcome : ExistingOutcome}
    (hnormalized : normalizeExistingGroups given = some normalized)
    (h : saveExistingOperation scope normalized expectedRevision handoffId binding records =
      .ok outcome) (houtcome : outcome.records = some records')
    (hrecords' : validExisting records') :
    ExistingEffect records scope (.saveChoice given expectedRevision handoffId passed)
      records' := by
  dsimp only [saveExistingOperation] at h
  split at h
  · cases h
  split at h
  · cases h
  next hnew =>
  split at h
  · cases h
  split at h
  · cases h
  cases h
  cases houtcome
  obtain ⟨hnonneg, hhighest⟩ := @le_latestRevision records scope hrecords
  have hnone := not_not.mp hnew
  apply existing_added hrecords hrecords' (newExisting scope _ normalized handoffId binding) _
    hnone rfl
  · exact ⟨given, expectedRevision, handoffId, passed, rfl, hnormalized⟩
  · exact Int.lt_add_one_of_le hnonneg
  · intro other hother hscope
    exact Int.lt_add_one_of_le (hhighest other hother hscope)
  · intro other
    simp only [List.mem_insertionSort, List.mem_append, List.mem_singleton]
    constructor
    · rintro (hother | rfl)
      · exact Or.inr ⟨hother, findExisting_eq_none.mp hnone other hother⟩
      · exact Or.inl rfl
    · rintro (rfl | ⟨hother, _⟩)
      · exact Or.inr rfl
      · exact Or.inl hother

/-- Acknowledging a record consumes the selection it is, and no other. -/
theorem existing_acknowledged (h : validExisting records) (h' : validExisting records')
    {call : ExistingCall} {record : ExistingRecord} (acknowledged : ExistingRecord)
    (hrecord : record ∈ records)
    (hfind : findExisting records record.handoffId = some record)
    (hconfirms : call.intent.confirms record.handoffId) (hopen : record.state ≠ .acknowledged)
    (hacknowledged : acknowledged.toHandoff = record.toHandoff.acknowledge)
    (hstate : acknowledged.state = .acknowledged)
    (hid : acknowledged.handoffId = record.handoffId)
    (hmem : ∀ other, other ∈ records' ↔
      other = acknowledged ∨ (other ∈ records ∧ other.handoffId ≠ acknowledged.handoffId)) :
    ExistingEffect records record.scope call records' := by
  have hscope : acknowledged.scope = record.scope := congrArg Handoff.scope hacknowledged
  have hrevision : acknowledged.selectionRevision = record.selectionRevision :=
    congrArg (fun handoff => handoff.selection.revision) hacknowledged
  have hhandoff : (existingView records).handoffs record.handoffId = some record.toHandoff := by
    simp [existingView, hfind]
  have hprepared : record.state = .prepared := by
    cases hstate' : record.state with
    | prepared => rfl
    | acknowledged => exact absurd hstate' hopen
  have helsewhere : ∀ s, s ≠ record.scope →
      (existingView records').chosen s = (existingView records).chosen s := by
    intro s hs
    simp only [existingView]
    rw [latestRecord_congr h h']
    intro other hother
    rw [hmem other]
    constructor
    · rintro (rfl | ⟨hold, _⟩)
      · exact absurd (hother.symm.trans hscope) hs
      · exact hold
    · intro hold
      refine Or.inr ⟨hold, ?_⟩
      intro hsame
      have heq : record = other := by
        have hother' : findExisting records other.handoffId = some other :=
          @Table.find?_of_mem _ _ ExistingRecord.handoffId _ ⟨records, h.nodup⟩ other hold
        rw [hsame, hid, hfind] at hother'
        exact Option.some.inj hother'
      rw [← heq] at hother
      exact hs hother.symm
  have hbelow : ∀ latest, latestRecord records record.scope = some latest → ∀ other ∈ records',
      other.scope = record.scope → other.selectionRevision ≤ latest.selectionRevision := by
    intro latest hlatest other hother hsame
    have hhighest := ((latestRecord_eq_some h).mp hlatest).2.2
    rcases (hmem other).mp hother with rfl | ⟨hold, _⟩
    · rw [hrevision]
      exact hhighest record hrecord rfl
    · exact hhighest other hold hsame
  constructor
  · by_cases hlatest : latestRecord records record.scope = some record
    · have hlatest' : latestRecord records' record.scope = some acknowledged := by
        rw [latestRecord_eq_some h']
        refine ⟨(hmem acknowledged).mpr (Or.inl rfl), hscope, ?_⟩
        intro other hother hsame
        rw [hrevision]
        exact hbelow record hlatest other hother hsame
      apply View.Selects.consumed hconfirms hhandoff rfl
      · simp [existingView, hlatest, existingChoice, hprepared, ExistingRecord.toHandoff]
      · funext s
        rw [Function.update_apply]
        split
        · next hs =>
            have hs : s = record.scope := hs
            simp [existingView, hs, hlatest', existingChoice, Option.filter, hstate]
        · next hs => exact helsewhere s hs
    · apply View.Selects.same
      funext s
      by_cases hs : s = record.scope
      · rw [hs]
        cases hfound : latestRecord records record.scope with
        | none => exact absurd rfl (latestRecord_eq_none.mp hfound record hrecord)
        | some latest =>
            obtain ⟨hmember, hsame, _⟩ := (latestRecord_eq_some h).mp hfound
            have hne : latest.handoffId ≠ acknowledged.handoffId := by
              intro heq
              have hlatest' : findExisting records latest.handoffId = some latest :=
                @Table.find?_of_mem _ _ ExistingRecord.handoffId _ ⟨records, h.nodup⟩ latest
                  hmember
              rw [heq, hid, hfind] at hlatest'
              rw [hfound, hlatest'] at hlatest
              exact hlatest rfl
            have hlatest' : latestRecord records' record.scope = some latest := by
              rw [latestRecord_eq_some h']
              exact ⟨(hmem latest).mpr (Or.inr ⟨hmember, hne⟩), hsame, hbelow latest hfound⟩
            simp only [existingView, hfound, hlatest']
      · exact helsewhere s hs
  · apply View.Records.acknowledged hconfirms hhandoff rfl
    · simpa [ExistingRecord.toHandoff] using hopen
    · rw [existingView_handoffs_replaced h h' hmem, hid, hacknowledged]

theorem confirmExisting_effect (hrecords : validExisting records) {expectedRevision : Int}
    {handoffId : String} {ack : ExistingAck} {outcome : ExistingOutcome}
    (h : confirmExistingOperation scope handoffId expectedRevision ack records = .ok outcome)
    (houtcome : outcome.records = some records') (hrecords' : validExisting records') :
    ExistingEffect records scope (.confirm handoffId expectedRevision ack) records' := by
  dsimp only [confirmExistingOperation] at h
  split at h
  · cases h
  next record hfind =>
  split at h
  · cases h
  next hscope =>
  split at h
  · cases h
  split at h
  · cases h
  split at h
  · cases h
    cases houtcome
  next hopen =>
  cases h
  cases houtcome
  obtain ⟨hmember, rfl⟩ := findExisting_id hfind
  obtain rfl : record.scope = scope := not_not.mp hscope
  apply existing_acknowledged hrecords hrecords' (record.acknowledge ack) hmember hfind
    ⟨expectedRevision, ack, rfl⟩ hopen rfl rfl rfl
  intro other
  simp only [List.mem_map]
  constructor
  · rintro ⟨old, hold, rfl⟩
    split
    · exact Or.inl rfl
    · next hne => exact Or.inr ⟨hold, hne⟩
  · rintro (rfl | ⟨hother, hne⟩)
    · exact ⟨record, hmember, if_pos rfl⟩
    · exact ⟨other, hother, if_neg hne⟩

/-- What the callback of any method may have changed. -/
theorem existingOperation_effect (hrecords : validExisting records) {call : ExistingCall}
    {operation : List ExistingRecord → Except StoreFailure ExistingOutcome}
    {outcome : ExistingOutcome} (hoperation : call.operation scope = .ok operation)
    (h : operation records = .ok outcome) (houtcome : outcome.records = some records')
    (hrecords' : validExisting records') : ExistingEffect records scope call records' := by
  cases call with
  | readChoice =>
      cases hoperation
      cases h
      cases houtcome
  | saveChoice =>
      dsimp only [ExistingCall.operation] at hoperation
      split at hoperation
      · cases hoperation
      next hnormalized =>
      split at hoperation
      · cases hoperation
      split at hoperation
      · cases hoperation
      cases hoperation
      exact saveExisting_effect hrecords hnormalized h houtcome hrecords'
  | readHandoff =>
      dsimp only [ExistingCall.operation] at hoperation
      split at hoperation
      · cases hoperation
        dsimp only at h
        split at h
        · cases h
        · cases h
          cases houtcome
      · cases hoperation
  | listPending =>
      cases hoperation
      cases h
      cases houtcome
  | confirm =>
      dsimp only [ExistingCall.operation] at hoperation
      split at hoperation
      · cases hoperation
        exact confirmExisting_effect hrecords h houtcome hrecords'
      · cases hoperation

end Operations

/-! ## Calls -/

section Calls

variable {ω : Type} {codec : ExistingCodec ω} {host : HostTurn} {scope : ExistingScope}
  {operation : List ExistingRecord → Except StoreFailure ExistingOutcome} {field field' : Option ω}

/-- What the field holds. -/
def existingFieldView (codec : ExistingCodec ω) (field : Option ω) : ExistingView :=
  existingView ((readExisting codec field).getD [])

theorem existingFieldView_positive {s : ExistingScope} {selection : Selection Int (List String)}
    (h : (existingFieldView codec field).chosen s = some selection) : 0 < selection.revision := by
  unfold existingFieldView at h
  cases hread : readExisting codec field with
  | none =>
      rw [hread] at h
      cases h
  | some records =>
      rw [hread] at h
      obtain ⟨record, hlatest, _, rfl⟩ := existingView_chosen h
      have hvalid := readExisting_valid hread
      have hmem := ((latestRecord_eq_some hvalid).mp hlatest).1
      exact (hvalid.2.1 record hmem).2.2.1.1

/-- A completed callback read the field and encoded what its operation changed. -/
theorem existingCallback_completed {writes : ExistingWrites ω}
    (h : existingCallback codec host operation field = .completed writes) :
    writes.outbox = none ∨
      ∃ records records' outcome, writes.answer = .ok outcome.answer ∧
        readExisting codec field = some records ∧ operation records = .ok outcome ∧
        outcome.records = some records' ∧ validExisting records' ∧
        readExisting codec writes.outbox = (codec.decode (codec.encode records')).filter
          (fun records => validExisting records) := by
  unfold existingCallback at h
  split at h
  · cases h
  split at h
  · cases h
  next records hrecords =>
  split at h
  · cases h
    exact Or.inl rfl
  next outcome houtcome =>
  split at h
  · cases h
    exact Or.inl rfl
  next records' hrecords' =>
  split at h
  · cases h
  next hvalid =>
  split at h
  · cases h
  next hbytes =>
  split at h
  · cases h
    refine Or.inr ⟨records, records', outcome, rfl, hrecords, houtcome, hrecords',
      not_not.mp hvalid, ?_⟩
    simp [readExisting, not_lt.mp hbytes]
  · cases h

variable [DecidableEq ω]

/-- A call leaves the field alone or stores what its callback completed with. -/
theorem ExistingCall.exec_cases {call : ExistingCall} {answer : Except StoreFailure ExistingAnswer}
    (h : call.exec codec host scope field = (field', answer)) :
    field' = field ∨
      ∃ operation writes, call.operation scope = .ok operation ∧
        existingCallback codec host operation field = .completed writes ∧
        field' = existingAfter host field writes ∧
        (answer = .error .writeUnconfirmed ∨ answer = writes.answer) := by
  unfold ExistingCall.exec at h
  split at h
  · cases h
    exact Or.inl rfl
  split at h
  · cases h
    exact Or.inl rfl
  next operation hoperation =>
  unfold runExisting at h
  split at h
  · cases h
    exact Or.inl rfl
  split at h
  · cases h
    exact Or.inl rfl
  · split at h
    · next writes hwrites _ =>
        cases h
        exact Or.inr ⟨operation, writes, hoperation, hwrites, rfl, Or.inl rfl⟩
    · cases h
      exact Or.inl rfl
  · split at h
    · cases h
      exact Or.inl rfl
    · cases h
      exact Or.inl rfl
    · next writes hwrites =>
        split at h
        · cases h
          exact Or.inr ⟨operation, writes, hoperation, hwrites, rfl, Or.inr rfl⟩
        · cases h
          exact Or.inr ⟨operation, writes, hoperation, hwrites, rfl, Or.inl rfl⟩

omit [DecidableEq ω] in
/-- Without a write the field stays. -/
theorem existingAfter_of_none {writes : ExistingWrites ω} (h : writes.outbox = none) :
    existingAfter host field writes = field := by
  simp [existingAfter, h]

/-- A refusal other than an unconfirmed write leaves the field. -/
theorem ExistingCall.exec_refused {call : ExistingCall} {failure : StoreFailure}
    (h : call.exec codec host scope field = (field', .error failure))
    (hfailure : failure ≠ .writeUnconfirmed) : field' = field := by
  rcases ExistingCall.exec_cases h with hsame | ⟨operation, writes, _, hwrites, rfl, hanswer⟩
  · exact hsame
  rcases hanswer with hunconfirmed | hanswer
  · exact absurd (Except.error.inj hunconfirmed) hfailure
  rcases existingCallback_completed hwrites with hnone | ⟨_, _, _, hok, _⟩
  · exact existingAfter_of_none hnone
  · rw [hok] at hanswer
    cases hanswer

/-- What a call does to the field. -/
theorem ExistingCall.exec_effect (hcodec : codec.RoundTrips) {call : ExistingCall}
    {answer : Except StoreFailure ExistingAnswer}
    (h : call.exec codec host scope field = (field', answer)) :
    (existingFieldView codec field).Selects scope call.intent
        (existingFieldView codec field').chosen ∧
      (existingFieldView codec field).Records scope call.intent
        (existingFieldView codec field').handoffs := by
  have hunchanged : field' = field →
      (existingFieldView codec field).Selects scope call.intent
          (existingFieldView codec field').chosen ∧
        (existingFieldView codec field).Records scope call.intent
          (existingFieldView codec field').handoffs := by
    rintro rfl
    exact ⟨View.Selects.same rfl, View.Records.same rfl⟩
  rcases ExistingCall.exec_cases h with hsame | ⟨operation, writes, hoperation, hwrites, rfl, _⟩
  · exact hunchanged hsame
  rcases existingCallback_completed hwrites with
    hnone | ⟨records, records', outcome, _, hread, houtcome, hchanged, hvalid, hwritten⟩
  · exact hunchanged (existingAfter_of_none hnone)
  by_cases hkept : host.keptOutbox = true ∧ writes.outbox ≠ none
  · have hafter : existingAfter host field writes = writes.outbox := if_pos hkept
    have hread' : readExisting codec writes.outbox = some records' := by
      rw [hwritten, hcodec records' hvalid]
      simp [hvalid]
    have heffect := existingOperation_effect (readExisting_valid hread) hoperation houtcome hchanged
      hvalid
    simp only [existingFieldView, hafter, hread, hread', Option.getD_some]
    exact heffect
  · exact hunchanged (if_neg hkept)

end Calls

/-! ## Runs -/

section Runs

variable {ω : Type} [DecidableEq ω]

/-- A call of some instance: the host during it, the scope, the call and its answer. -/
structure SelectionTurn where
  host : HostTurn
  scope : PhotoScope
  call : SelectionCall
  answer : Except StoreFailure SelectionAnswer

/-- The call turns the fields into these and gives that answer. -/
def selectionStep (codec : SelectionCodec ω) (fields : SelectionFields ω) (turn : SelectionTurn)
    (fields' : SelectionFields ω) : Prop :=
  turn.call.exec codec turn.host turn.scope fields = (fields', turn.answer)

def SelectionTurn.intent (turn : SelectionTurn) : Intent String (GroupChoice × List String) :=
  turn.call.intent

/-- Refused, and not because a write stayed unconfirmed. -/
def SelectionTurn.refused (turn : SelectionTurn) : Prop :=
  ∃ failure, turn.answer = .error failure ∧ failure ≠ .writeUnconfirmed

/-- The same for the store of existing photos. -/
structure ExistingTurn where
  host : HostTurn
  scope : ExistingScope
  call : ExistingCall
  answer : Except StoreFailure ExistingAnswer

def existingStep (codec : ExistingCodec ω) (field : Option ω) (turn : ExistingTurn)
    (field' : Option ω) : Prop :=
  turn.call.exec codec turn.host turn.scope field = (field', turn.answer)

def ExistingTurn.intent (turn : ExistingTurn) : Intent String (List String) := turn.call.intent

def ExistingTurn.refused (turn : ExistingTurn) : Prop :=
  ∃ failure, turn.answer = .error failure ∧ failure ≠ .writeUnconfirmed

/-- Group selections are not lost, resurrected or confused, in either store. -/
theorem group_selections_kept {codec : SelectionCodec ω} {existing : ExistingCodec ω}
    (hcodec : codec.RoundTrips) (hexisting : existing.RoundTrips) :
    Keeps (selectionStep codec) (SelectionFields.view codec) SelectionTurn.intent
        SelectionTurn.refused ∧
      Keeps (existingStep existing) (existingFieldView existing) ExistingTurn.intent
        ExistingTurn.refused := by
  constructor
  · apply Keeps.of_effect
    · intro fields turn fields' hstep
      exact ⟨turn.scope, SelectionCall.exec_effect hcodec hstep⟩
    · intro fields scope selection hchosen
      exact SelectionFields.view_positive hchosen
    · rintro turn id ⟨expectedRevision, ack, hcall⟩
      constructor
      · rintro content ⟨_, _, _, _, hsave, _⟩
        rw [hcall] at hsave
        cases hsave
      · rintro id' ⟨_, _, hcall'⟩
        rw [hcall] at hcall'
        cases hcall'
        rfl
    · rintro fields turn fields' hstep ⟨failure, hanswer, hfailure⟩
      unfold selectionStep at hstep
      rw [hanswer] at hstep
      exact SelectionCall.exec_refused hstep hfailure
  · apply Keeps.of_effect
    · intro field turn field' hstep
      exact ⟨turn.scope, ExistingCall.exec_effect hexisting hstep⟩
    · intro field scope selection hchosen
      exact existingFieldView_positive hchosen
    · rintro turn id ⟨expectedRevision, ack, hcall⟩
      constructor
      · rintro content ⟨_, _, _, _, hsave, _⟩
        rw [hcall] at hsave
        cases hsave
      · rintro id' ⟨_, _, hcall'⟩
        rw [hcall] at hcall'
        cases hcall'
        rfl
    · rintro field turn field' hstep ⟨failure, hanswer, hfailure⟩
      unfold existingStep at hstep
      rw [hanswer] at hstep
      exact ExistingCall.exec_refused hstep hfailure

end Runs

/-! ## Texts that read back -/

/-- The decoded documents in the place of their texts. -/
inductive StoredDocument where
  | selections (entries : List SelectionEntry)
  | outbox (records : List HandoffRecord)
  | existing (records : List ExistingRecord)
deriving DecidableEq

def documentCodec : SelectionCodec StoredDocument where
  bytes := fun _ => 2
  decodeSelections
    | .selections entries => some entries
    | _ => none
  decodeOutbox
    | .outbox records => some records
    | _ => none
  encodeSelections := .selections
  encodeOutbox := .outbox

def existingDocumentCodec : ExistingCodec StoredDocument where
  bytes := fun _ => 2
  decode
    | .existing records => some records
    | _ => none
  encode := .existing

theorem group_selections_kept_documents :
    Keeps (selectionStep documentCodec) (SelectionFields.view documentCodec)
        SelectionTurn.intent SelectionTurn.refused ∧
      Keeps (existingStep existingDocumentCodec) (existingFieldView existingDocumentCodec)
        ExistingTurn.intent ExistingTurn.refused :=
  group_selections_kept
    ⟨fun _ _ _ => rfl, fun _ _ => rfl⟩
    (fun _ _ => rfl)

end FlickrGroupAddr

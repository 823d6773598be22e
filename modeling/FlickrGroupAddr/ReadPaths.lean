import FlickrGroupAddr.ClientChecks
import FlickrGroupAddr.Lib.PercentCoding
import FlickrGroupAddr.Lib.QueryText

/-!
# The paths of the read transport

`SharedReadTransport.allowedPath` lets a path through where it is the path of the current
installation or reads as a request of the finite read surface.  The requests are given as
a type whose fields are in range, with their canonical spellings; the gate accepts exactly
these spellings, in every order of the parameters.
-/

namespace FlickrGroupAddr

set_option autoImplicit false

open Spelling QueryText

/-! ## The gate -/

def maxPathBytes : Nat := 2048

def installationPath : Bytes := ascii "/api/v001/installations/current"
def photosPath : Bytes := ascii "/api/v001/existing-public-photos"
def groupsPath : Bytes := ascii "/api/v001/groups"
def intentsPath : Bytes := ascii "/api/v001/group-submission-intents"
def bindingsPath : Bytes := ascii "/api/v001/photo-bindings/"
def membershipsPath : Bytes := ascii "/group-memberships"

def questionMark : UInt8 := 63
def slash : UInt8 := 47

/-- `component`: the bytes of a canonical spelling. -/
def component (value : Bytes) : Option Bytes :=
  if value.length ≤ 384 ∧ percentEncode (percentDecode value) = value then
    some (percentDecode value)
  else none

/-- `opaque(component(value))`. -/
def opaqueComponent (value : Option Bytes) : Bool :=
  match value.bind component with
  | none => false
  | some decoded => isOpaqueId decoded

/-- `^[1-9]%d*$`. -/
def isPositiveDecimal : Bytes → Bool
  | [] => false
  | first :: rest => isDigitByte first && first != '0'.toUInt8 && rest.all isDigitByte

/-- `number`: the spelling is the one that the number has. -/
def pathNumber (value : Option Bytes) (maximum : Nat) : Bool :=
  match value with
  | none => false
  | some value =>
    isPositiveDecimal value && decide (value.length ≤ 16) &&
      match (Binary64.ofMagnitude false (Spelling.decimalValue value)).toInt? with
      | none => false
      | some n => decide (1 ≤ n ∧ n ≤ maximum) && decimal n.toNat == value

/-- `^%d%d%d%d%-%d%d%-%d%dT%d%d:%d%d:%d%d[%.%d]*Z$`. -/
def isTimeShape (value : Bytes) : Bool :=
  decide (value.length ≤ 40) &&
    match takeStamp value with
    | none => false
    | some (_, rest) =>
      (rest.dropWhile fun byte => byte == '.'.toUInt8 || StrictJson.isDigit byte) == ['Z'.toUInt8]

/-- The time of a spelling has the shape. -/
def timeComponent (value : Option Bytes) : Bool :=
  match value.bind component with
  | none => false
  | some decoded => isTimeShape decoded

/-- `^([^?]+)%?([^?]+)$`. -/
def splitPath (path : Bytes) : Option (Bytes × Bytes) :=
  match path.dropWhile (· != questionMark) with
  | [] => none
  | _ :: query =>
    if path.takeWhile (· != questionMark) ≠ [] ∧ query ≠ [] ∧ questionMark ∉ query then
      some (path.takeWhile (· != questionMark), query)
    else none

/-- `[a-z_]`. -/
def isKeyByte (byte : UInt8) : Bool :=
  decide ((97 ≤ byte.toNat ∧ byte.toNat ≤ 122) ∨ byte.toNat = 95)

/-- `^/api/v001/photo%-bindings/([^/]+)/group%-memberships$`. -/
def bindingOfPath (base : Bytes) : Option Bytes :=
  if bindingsPath.isPrefixOf base then
    let rest := base.drop bindingsPath.length
    if rest.takeWhile (· != slash) ≠ [] ∧ rest.dropWhile (· != slash) = membershipsPath then
      some (rest.takeWhile (· != slash))
    else none
  else none

/-- `only`. -/
def only (names : List Bytes) (fields : List Field) : Bool :=
  fields.all fun field => names.contains field.1

def pageField : Bytes := ascii "page"
def pageSizeField : Bytes := ascii "page_size"
def snapshotField : Bytes := ascii "snapshot_revision"
def observationField : Bytes := ascii "observation_revision"
def afterGroupField : Bytes := ascii "after_group_id"
def viewField : Bytes := ascii "view"
def bindingField : Bytes := ascii "photo_binding_id"
def beforeCreatedField : Bytes := ascii "before_created_at"
def beforeIntentField : Bytes := ascii "before_intent_id"

/-- The parameters of a page of groups, with a cursor or without one. -/
def allowedGroupPage (revisionField : Bytes) (fields : List Field) : Bool :=
  only [pageSizeField, revisionField, afterGroupField] fields &&
    pathNumber (fields.lookup pageSizeField) 100 &&
    (((fields.lookup revisionField).isNone && (fields.lookup afterGroupField).isNone) ||
      (pathNumber (fields.lookup revisionField) Binary64.Number.maxSafeInteger &&
        opaqueComponent (fields.lookup afterGroupField)))

/-- The parameters of a page of the history. -/
def allowedHistory (fields : List Field) : Bool :=
  only [viewField, pageSizeField, bindingField, beforeCreatedField, beforeIntentField] fields &&
    fields.lookup viewField == some (ascii "history") &&
    fields.lookup pageSizeField == some (ascii "100") &&
    opaqueComponent (fields.lookup bindingField) &&
    (((fields.lookup beforeCreatedField).isNone && (fields.lookup beforeIntentField).isNone) ||
      (timeComponent (fields.lookup beforeCreatedField) &&
        opaqueComponent (fields.lookup beforeIntentField)))

def allowedFields (base : Bytes) (fields : List Field) : Bool :=
  if base = photosPath then
    only [pageField, pageSizeField] fields && pathNumber (fields.lookup pageField) 1000000 &&
      pathNumber (fields.lookup pageSizeField) 100
  else if base = groupsPath then allowedGroupPage snapshotField fields
  else
    match bindingOfPath base with
    | some binding =>
      opaqueComponent (some binding) && allowedGroupPage observationField fields
    | none => if base = intentsPath then allowedHistory fields else false

/-- `allowedPath`: the limit of the response, none where the path is refused. -/
def allowedPath (path : Bytes) : Option Nat :=
  if maxPathBytes < path.length then none
  else if path = installationPath then some 65536
  else
    match splitPath path with
    | none => none
    | some (base, query) =>
      match readQuery isKeyByte query with
      | none => none
      | some fields => if allowedFields base fields then some maxResponseBytes else none

/-! ## The read surface -/

abbrev OpaqueId := { value : Bytes // isOpaqueId value = true }

abbrev Bounded (maximum : Nat) := { n : Nat // 1 ≤ n ∧ n ≤ maximum }

abbrev ShapedTime := { value : Bytes // isTimeShape value = true }

/-- Where a page of groups goes on. -/
structure PageCursor where
  revision : Bounded Binary64.Number.maxSafeInteger
  after : OpaqueId

/-- A request of the finite read surface. -/
inductive ReadRequest where
  | installation
  | photos (page : Bounded 1000000) (pageSize : Bounded 100)
  | groups (pageSize : Bounded 100) (cursor : Option PageCursor)
  | memberships (binding : OpaqueId) (pageSize : Bounded 100) (cursor : Option PageCursor)
  | history (binding : OpaqueId) (before : Option (ShapedTime × OpaqueId))

def groupPageParameters (revisionField : Bytes) (pageSize : Bounded 100) :
    Option PageCursor → List Field
  | none => [(pageSizeField, decimal pageSize)]
  | some cursor =>
    [(pageSizeField, decimal pageSize), (revisionField, decimal cursor.revision),
      (afterGroupField, percentEncode cursor.after)]

namespace ReadRequest

/-- The path up to the question mark. -/
def base : ReadRequest → Bytes
  | installation => installationPath
  | photos .. => photosPath
  | groups .. => groupsPath
  | memberships binding .. => bindingsPath ++ percentEncode binding ++ membershipsPath
  | history .. => intentsPath

def parameters : ReadRequest → List Field
  | installation => []
  | photos page pageSize => [(pageField, decimal page), (pageSizeField, decimal pageSize)]
  | groups pageSize cursor => groupPageParameters snapshotField pageSize cursor
  | memberships _ pageSize cursor => groupPageParameters observationField pageSize cursor
  | history binding before =>
    [(viewField, ascii "history"), (pageSizeField, ascii "100"),
      (bindingField, percentEncode binding)] ++
      match before with
      | none => []
      | some (time, intent) =>
        [(beforeCreatedField, percentEncode time), (beforeIntentField, percentEncode intent)]

/-- A canonical spelling: the parameters come in some order, each once. -/
def Spelled (request : ReadRequest) (path : Bytes) : Prop :=
  match request with
  | installation => path = installationPath
  | _ => ∃ fields : List Field, fields.Perm request.parameters ∧
      path = request.base ++ questionMark :: queryText fields

end ReadRequest

/-! ## Spellings of values -/

theorem component_eq_some {value decoded : Bytes} :
    component value = some decoded ↔ value = percentEncode decoded ∧ value.length ≤ 384 := by
  unfold component
  constructor
  · intro h
    obtain ⟨⟨hlength, hcanonical⟩, h⟩ := Option.ite_none_right_eq_some.mp h
    obtain rfl := Option.some.inj h
    exact ⟨hcanonical.symm, hlength⟩
  · rintro ⟨rfl, hlength⟩
    rw [percentDecode_encode, if_pos ⟨hlength, rfl⟩]

theorem isOpaqueId_length {value : Bytes} (h : isOpaqueId value = true) : value.length ≤ 128 := by
  unfold isOpaqueId at h
  exact of_decide_eq_true (Bool.and_eq_true_iff.mp h).1

theorem isTimeShape_length {value : Bytes} (h : isTimeShape value = true) : value.length ≤ 40 := by
  unfold isTimeShape at h
  exact of_decide_eq_true (Bool.and_eq_true_iff.mp h).1

/-- An identifier is accepted in its canonical spelling. -/
theorem opaqueComponent_iff {value : Option Bytes} :
    opaqueComponent value = true ↔ ∃ id : OpaqueId, value = some (percentEncode id) := by
  unfold opaqueComponent
  constructor
  · intro h
    split at h
    · cases h
    · next decoded hdecoded =>
        obtain ⟨spelled, rfl, hspelled⟩ := Option.bind_eq_some_iff.mp hdecoded
        exact ⟨⟨decoded, h⟩, congrArg some (component_eq_some.mp hspelled).1⟩
  · rintro ⟨id, rfl⟩
    have hlength := length_percentEncode_le id.val
    have hid := isOpaqueId_length id.property
    have hcomponent : component (percentEncode id) = some id.val :=
      component_eq_some.mpr ⟨rfl, by omega⟩
    rw [Option.bind_some, hcomponent]
    exact id.property

/-- So is a time. -/
theorem timeComponent_iff {value : Option Bytes} :
    timeComponent value = true ↔ ∃ time : ShapedTime, value = some (percentEncode time) := by
  unfold timeComponent
  constructor
  · intro h
    split at h
    · cases h
    · next decoded hdecoded =>
        obtain ⟨spelled, rfl, hspelled⟩ := Option.bind_eq_some_iff.mp hdecoded
        exact ⟨⟨decoded, h⟩, congrArg some (component_eq_some.mp hspelled).1⟩
  · rintro ⟨time, rfl⟩
    have hlength := length_percentEncode_le time.val
    have htime := isTimeShape_length time.property
    have hcomponent : component (percentEncode time) = some time.val :=
      component_eq_some.mpr ⟨rfl, by omega⟩
    rw [Option.bind_some, hcomponent]
    exact time.property

theorem isPositiveDecimal_iff {value : Bytes} :
    isPositiveDecimal value = true ↔ IsDecimal value := by
  have hzero : ('0'.toUInt8).toNat = 48 := rfl
  cases value with
  | nil => simp [isPositiveDecimal, IsDecimal]
  | cons first rest =>
      have hne : first ≠ '0'.toUInt8 ↔ first.toNat ≠ 48 := by
        rw [Ne, ← UInt8.toNat_inj, hzero]
      simp only [isPositiveDecimal, IsDecimal, Bool.and_eq_true, bne_iff_ne, hne, List.all_eq_true,
        List.forall_mem_cons, List.head?_cons, Option.mem_def, Option.some.injEq, exists_eq_left']
      tauto

theorem length_decimal_le {n : Nat} (h : n ≤ Binary64.Number.maxSafeInteger) :
    (decimal n).length ≤ 16 := by
  rw [decimal, List.length_reverse, List.length_map, Nat.digits_length_le_iff (by decide)]
  exact lt_of_le_of_lt h (by decide)

/-- A number is accepted in its decimal spelling. -/
theorem pathNumber_iff {value : Option Bytes} {maximum : Nat}
    (hmaximum : maximum ≤ Binary64.Number.maxSafeInteger) :
    pathNumber value maximum = true ↔ ∃ n : Bounded maximum, value = some (decimal n) := by
  unfold pathNumber
  constructor
  · intro h
    split at h
    · cases h
    · rw [Bool.and_eq_true] at h
      obtain ⟨_, h⟩ := h
      split at h
      · cases h
      · next n hn =>
          rw [Bool.and_eq_true, decide_eq_true_eq, beq_iff_eq] at h
          obtain ⟨hbounds, htext⟩ := h
          exact ⟨⟨n.toNat, by omega⟩, congrArg some htext.symm⟩
  · rintro ⟨⟨n, hpos, hle⟩, rfl⟩
    have hsafe : n ≤ Binary64.Number.maxSafeInteger := hle.trans hmaximum
    have hvalue : (Binary64.ofMagnitude false (Spelling.decimalValue (decimal n))).toInt? =
        some (n : Int) := by
      rw [decimalValue_decimal, Binary64.toInt?_eq_some,
        Binary64.ofMagnitude_natCast false hsafe]
      rfl
    dsimp only
    rw [hvalue, isPositiveDecimal_iff.mpr (isDecimal_decimal hpos),
      decide_eq_true (length_decimal_le hsafe)]
    simp
    omega

/-! ## Parameters -/

/-- Fields among the names that give each name the value of the parameters are the parameters
in some order. -/
theorem perm_of_only {names : List Bytes} {fields parameters : List Field}
    (hfields : (fields.map Prod.fst).Nodup) (hparameters : (parameters.map Prod.fst).Nodup)
    (honly : only names fields = true) (hnames : only names parameters = true)
    (h : ∀ name ∈ names, fields.lookup name = parameters.lookup name) :
    fields.Perm parameters := by
  have hout : ∀ {list : List Field}, only names list = true → ∀ {key : Bytes}, key ∉ names →
      list.lookup key = none := by
    intro list hlist key hkey
    rw [List.lookup_eq_none_iff]
    intro field hfield
    rw [only, List.all_eq_true] at hlist
    have hmem := hlist field hfield
    rw [List.contains_iff_mem] at hmem
    rw [bne_iff_ne]
    rintro rfl
    exact hkey hmem
  refine perm_of_lookup hfields hparameters fun key => ?_
  by_cases hkey : key ∈ names
  · exact h key hkey
  · rw [hout honly hkey, hout hnames hkey]

theorem only_perm {names : List Bytes} {fields parameters : List Field}
    (h : fields.Perm parameters) (hnames : only names parameters = true) :
    only names fields = true := by
  rw [only, List.all_eq_true] at hnames ⊢
  intro field hfield
  exact hnames field (h.mem_iff.mp hfield)

theorem allowedGroupPage_iff {revisionField : Bytes} {fields : List Field}
    (hsize : revisionField ≠ pageSizeField) (hafter : revisionField ≠ afterGroupField)
    (hnodup : (fields.map Prod.fst).Nodup) :
    allowedGroupPage revisionField fields = true ↔
      ∃ pageSize cursor, fields.Perm (groupPageParameters revisionField pageSize cursor) := by
  have hother : afterGroupField ≠ pageSizeField := by decide
  have hkeys : ∀ pageSize cursor,
      ((groupPageParameters revisionField pageSize cursor).map Prod.fst).Nodup ∧
        only [pageSizeField, revisionField, afterGroupField]
          (groupPageParameters revisionField pageSize cursor) = true := by
    intro pageSize cursor
    cases cursor <;> simp [groupPageParameters, only, hother.symm, hsize.symm, hafter]
  unfold allowedGroupPage
  simp only [Bool.and_eq_true, Bool.or_eq_true, Option.isNone_iff_eq_none,
    pathNumber_iff (show 100 ≤ Binary64.Number.maxSafeInteger by decide), pathNumber_iff le_rfl,
    opaqueComponent_iff]
  constructor
  · rintro ⟨⟨honly, pageSize, hpageSize⟩, ⟨hrevision, hgroup⟩ | ⟨⟨revision, hrevision⟩, after, hgroup⟩⟩
    · refine ⟨pageSize, none, perm_of_only hnodup (hkeys _ _).1 honly (hkeys _ _).2 ?_⟩
      simp [groupPageParameters, hpageSize, hrevision, hgroup, hsize, hother]
    · refine ⟨pageSize, some ⟨revision, after⟩,
        perm_of_only hnodup (hkeys _ _).1 honly (hkeys _ _).2 ?_⟩
      simp [groupPageParameters, hpageSize, hrevision, hgroup, lookup_cons_ne hsize,
        lookup_cons_ne hother, lookup_cons_ne hafter.symm]
  · rintro ⟨pageSize, cursor, hperm⟩
    have hlookup := lookup_perm hnodup hperm
    refine ⟨⟨only_perm hperm (hkeys _ _).2, pageSize, ?_⟩, ?_⟩
    · rw [hlookup]
      cases cursor <;> simp [groupPageParameters]
    · rw [hlookup, hlookup]
      cases cursor with
      | none =>
          left
          simp [groupPageParameters, lookup_cons_ne hsize, lookup_cons_ne hother]
      | some cursor =>
          right
          refine ⟨⟨cursor.revision, ?_⟩, cursor.after, ?_⟩
          · simp [groupPageParameters, lookup_cons_ne hsize]
          · simp [groupPageParameters, lookup_cons_ne hother, lookup_cons_ne hafter.symm]

theorem allowedHistory_iff {fields : List Field} (hnodup : (fields.map Prod.fst).Nodup) :
    allowedHistory fields = true ↔
      ∃ binding before, fields.Perm (ReadRequest.history binding before).parameters := by
  have hkeys : ∀ binding before,
      (((ReadRequest.history binding before).parameters).map Prod.fst).Nodup ∧
        only [viewField, pageSizeField, bindingField, beforeCreatedField, beforeIntentField]
          (ReadRequest.history binding before).parameters = true := by
    intro binding before
    rcases before with _ | ⟨time, intent⟩
    · exact ⟨by simp [ReadRequest.parameters]; decide, by simp [ReadRequest.parameters, only]⟩
    · exact ⟨by simp [ReadRequest.parameters]; decide, by simp [ReadRequest.parameters, only]⟩
  have hsize : pageSizeField ≠ viewField := by decide
  have hbinding : bindingField ≠ viewField ∧ bindingField ≠ pageSizeField := by decide
  have hcreated : beforeCreatedField ≠ viewField ∧ beforeCreatedField ≠ pageSizeField ∧
      beforeCreatedField ≠ bindingField := by decide
  have hintent : beforeIntentField ≠ viewField ∧ beforeIntentField ≠ pageSizeField ∧
      beforeIntentField ≠ bindingField ∧ beforeIntentField ≠ beforeCreatedField := by decide
  unfold allowedHistory
  simp only [Bool.and_eq_true, Bool.or_eq_true, Option.isNone_iff_eq_none, beq_iff_eq,
    opaqueComponent_iff, timeComponent_iff]
  constructor
  · rintro ⟨⟨⟨⟨honly, hview⟩, hpageSize⟩, binding, hid⟩,
      ⟨htime, hbefore⟩ | ⟨⟨time, htime⟩, intent, hbefore⟩⟩
    · refine ⟨binding, none, perm_of_only hnodup (hkeys _ _).1 honly (hkeys _ _).2 ?_⟩
      simp [ReadRequest.parameters, hview, hpageSize, hid, htime, hbefore, lookup_cons_ne, hsize,
        hbinding, hcreated, hintent]
    · refine ⟨binding, some (time, intent),
        perm_of_only hnodup (hkeys _ _).1 honly (hkeys _ _).2 ?_⟩
      simp [ReadRequest.parameters, hview, hpageSize, hid, htime, hbefore, lookup_cons_ne, hsize,
        hbinding, hcreated, hintent]
  · rintro ⟨binding, before, hperm⟩
    have hlookup := lookup_perm hnodup hperm
    simp only [hlookup]
    refine ⟨⟨⟨⟨only_perm hperm (hkeys _ _).2, ?_⟩, ?_⟩, binding, ?_⟩, ?_⟩
    · simp [ReadRequest.parameters]
    · simp [ReadRequest.parameters, lookup_cons_ne, hsize]
    · simp [ReadRequest.parameters, lookup_cons_ne, hbinding]
    · rcases before with _ | ⟨time, intent⟩
      · left
        simp [ReadRequest.parameters, lookup_cons_ne, hcreated, hintent]
      · right
        refine ⟨⟨time, ?_⟩, intent, ?_⟩
        · simp [ReadRequest.parameters, lookup_cons_ne, hcreated]
        · simp [ReadRequest.parameters, lookup_cons_ne, hintent]

theorem allowedPhotos_iff {fields : List Field} (hnodup : (fields.map Prod.fst).Nodup) :
    (only [pageField, pageSizeField] fields && pathNumber (fields.lookup pageField) 1000000 &&
      pathNumber (fields.lookup pageSizeField) 100) = true ↔
      ∃ page pageSize, fields.Perm (ReadRequest.photos page pageSize).parameters := by
  have hother : pageSizeField ≠ pageField := by decide
  have hkeys : ∀ page pageSize,
      (((ReadRequest.photos page pageSize).parameters).map Prod.fst).Nodup ∧
        only [pageField, pageSizeField] (ReadRequest.photos page pageSize).parameters = true := by
    intro page pageSize
    simp [ReadRequest.parameters, only, hother.symm]
  simp only [Bool.and_eq_true,
    pathNumber_iff (show 1000000 ≤ Binary64.Number.maxSafeInteger by decide),
    pathNumber_iff (show 100 ≤ Binary64.Number.maxSafeInteger by decide)]
  constructor
  · rintro ⟨⟨honly, page, hpage⟩, pageSize, hsize⟩
    refine ⟨page, pageSize, perm_of_only hnodup (hkeys _ _).1 honly (hkeys _ _).2 ?_⟩
    simp [ReadRequest.parameters, hpage, hsize, lookup_cons_ne hother]
  · rintro ⟨page, pageSize, hperm⟩
    have hlookup := lookup_perm hnodup hperm
    simp only [hlookup]
    refine ⟨⟨only_perm hperm (hkeys _ _).2, page, ?_⟩, pageSize, ?_⟩
    · simp [ReadRequest.parameters]
    · simp [ReadRequest.parameters, lookup_cons_ne hother]

/-! ## Paths -/

theorem splitPath_eq_some {path base query : Bytes} : splitPath path = some (base, query) ↔
    base ≠ [] ∧ questionMark ∉ base ∧ query ≠ [] ∧ questionMark ∉ query ∧
      path = base ++ questionMark :: query := by
  unfold splitPath
  constructor
  · intro h
    split at h
    · cases h
    · next mark rest hdrop =>
        obtain ⟨⟨hbase, hquery, hmarks⟩, h⟩ := Option.ite_none_right_eq_some.mp h
        obtain ⟨rfl, rfl⟩ := Prod.mk.inj (Option.some.inj h)
        have hmark : mark = questionMark := by
          have hhead := List.head?_dropWhile_not (· != questionMark) path
          rw [hdrop] at hhead
          simpa using hhead
        refine ⟨hbase, ?_, hquery, hmarks, ?_⟩
        · intro hmem
          have hout := List.all_eq_true.mp List.all_takeWhile _ hmem
          simp at hout
        · rw [hmark] at hdrop
          rw [← hdrop, List.takeWhile_append_dropWhile]
  · rintro ⟨hbase, hout, hquery, hmarks, rfl⟩
    have hplain : ∀ byte ∈ base, (byte != questionMark) = true := by
      intro byte hmem
      rw [bne_iff_ne]
      rintro rfl
      exact hout hmem
    rw [List.dropWhile_append_of_pos hplain, List.takeWhile_append_of_pos hplain,
      List.dropWhile_cons_of_neg (by simp), List.takeWhile_cons_of_neg (by simp), List.append_nil]
    dsimp only
    rw [if_pos ⟨hbase, hquery, hmarks⟩]

theorem bindingOfPath_eq_some {base binding : Bytes} : bindingOfPath base = some binding ↔
    binding ≠ [] ∧ slash ∉ binding ∧ base = bindingsPath ++ (binding ++ membershipsPath) := by
  unfold bindingOfPath
  constructor
  · intro h
    obtain ⟨hstart, h⟩ := Option.ite_none_right_eq_some.mp h
    obtain ⟨rest, rfl⟩ := List.isPrefixOf_iff_prefix.mp hstart
    rw [List.drop_left] at h
    obtain ⟨⟨hne, htail⟩, h⟩ := Option.ite_none_right_eq_some.mp h
    obtain rfl := Option.some.inj h
    refine ⟨hne, ?_, ?_⟩
    · intro hmem
      have hout := List.all_eq_true.mp List.all_takeWhile _ hmem
      simp at hout
    · rw [← htail, List.takeWhile_append_dropWhile]
  · rintro ⟨hne, hout, rfl⟩
    have hplain : ∀ byte ∈ binding, (byte != slash) = true := by
      intro byte hmem
      rw [bne_iff_ne]
      rintro rfl
      exact hout hmem
    have htake : (binding ++ membershipsPath).takeWhile (· != slash) = binding := by
      rw [List.takeWhile_append_of_pos hplain, show membershipsPath.takeWhile (· != slash) = [] by
        decide, List.append_nil]
    have hdrop : (binding ++ membershipsPath).dropWhile (· != slash) = membershipsPath := by
      rw [List.dropWhile_append_of_pos hplain]
      decide
    rw [if_pos (List.isPrefixOf_iff_prefix.mpr (List.prefix_append _ _)), List.drop_left]
    dsimp only
    rw [htake, hdrop, if_pos ⟨hne, rfl⟩]

/-- A spelling holds no mark that ends a part of a path. -/
theorem percentEncode_out {bytes : Bytes} {mark : UInt8} (hmark : isUnreserved mark = false)
    (hpercent : mark ≠ percent) : mark ∉ percentEncode bytes := by
  intro hmem
  rcases mem_percentEncode hmem with hplain | hsign
  · rw [hmark] at hplain
    cases hplain
  · exact hpercent hsign

theorem decimal_out {n : Nat} {mark : UInt8} (hmark : isDigitByte mark = false) (hn : 0 < n) :
    mark ∉ decimal n := by
  intro hmem
  rw [(isDecimal_decimal hn).1 mark hmem] at hmark
  cases hmark

theorem percentEncode_ne_nil (id : OpaqueId) : percentEncode id ≠ [] := by
  intro h
  have hnil := percentEncode_eq_nil.mp h
  have hid := id.property
  rw [hnil] at hid
  exact absurd hid (by decide)

/-- A request other than the first has fields. -/
def ReadRequest.HasQuery : ReadRequest → Prop
  | .installation => False
  | _ => True

theorem allowedFields_iff {base : Bytes} {fields : List Field}
    (hnodup : (fields.map Prod.fst).Nodup) :
    allowedFields base fields = true ↔
      ∃ request : ReadRequest, request.HasQuery ∧ base = request.base ∧
        fields.Perm request.parameters := by
  have hbases : photosPath ≠ groupsPath ∧ photosPath ≠ intentsPath ∧ groupsPath ≠ intentsPath ∧
      bindingOfPath photosPath = none ∧ bindingOfPath groupsPath = none ∧
        bindingOfPath intentsPath = none := by decide
  obtain ⟨hgroups, hintents, hother, hphotosBinding, hgroupsBinding, hintentsBinding⟩ := hbases
  have hbinding : ∀ binding : OpaqueId,
      bindingOfPath (bindingsPath ++ percentEncode binding ++ membershipsPath) =
        some (percentEncode binding) := by
    intro binding
    rw [bindingOfPath_eq_some]
    exact ⟨percentEncode_ne_nil binding, percentEncode_out (by decide) (by decide),
      List.append_assoc _ _ _⟩
  have hphotos : ∀ binding : OpaqueId,
      bindingsPath ++ percentEncode binding ++ membershipsPath ≠ photosPath := by
    intro binding heq
    rw [← heq, hbinding] at hphotosBinding
    cases hphotosBinding
  have hgroups' : ∀ binding : OpaqueId,
      bindingsPath ++ percentEncode binding ++ membershipsPath ≠ groupsPath := by
    intro binding heq
    rw [← heq, hbinding] at hgroupsBinding
    cases hgroupsBinding
  unfold allowedFields
  constructor
  · intro h
    split at h
    · next hbase =>
        obtain ⟨page, pageSize, hperm⟩ := (allowedPhotos_iff hnodup).mp h
        exact ⟨.photos page pageSize, trivial, hbase, hperm⟩
    · split at h
      · next hbase =>
          obtain ⟨pageSize, cursor, hperm⟩ :=
            (allowedGroupPage_iff (by decide) (by decide) hnodup).mp h
          exact ⟨.groups pageSize cursor, trivial, hbase, hperm⟩
      · split at h
        · next binding hfound =>
            rw [Bool.and_eq_true, opaqueComponent_iff] at h
            obtain ⟨⟨id, hid⟩, hpage⟩ := h
            obtain ⟨pageSize, cursor, hperm⟩ :=
              (allowedGroupPage_iff (by decide) (by decide) hnodup).mp hpage
            obtain ⟨_, _, hbase⟩ := bindingOfPath_eq_some.mp hfound
            refine ⟨.memberships id pageSize cursor, trivial, ?_, hperm⟩
            rw [hbase, Option.some.inj hid, ReadRequest.base, List.append_assoc]
        · split at h
          · next hbase =>
              obtain ⟨binding, before, hperm⟩ := (allowedHistory_iff hnodup).mp h
              exact ⟨.history binding before, trivial, hbase, hperm⟩
          · cases h
  · rintro ⟨request, hquery, rfl, hperm⟩
    cases request with
    | installation => exact hquery.elim
    | photos page pageSize =>
        rw [ReadRequest.base, if_pos rfl]
        exact (allowedPhotos_iff hnodup).mpr ⟨page, pageSize, hperm⟩
    | groups pageSize cursor =>
        rw [ReadRequest.base, if_neg hgroups.symm, if_pos rfl]
        exact (allowedGroupPage_iff (by decide) (by decide) hnodup).mpr ⟨pageSize, cursor, hperm⟩
    | memberships binding pageSize cursor =>
        rw [ReadRequest.base, if_neg (hphotos binding), if_neg (hgroups' binding), hbinding]
        dsimp only
        rw [Bool.and_eq_true]
        exact ⟨opaqueComponent_iff.mpr ⟨binding, rfl⟩,
          (allowedGroupPage_iff (by decide) (by decide) hnodup).mpr ⟨pageSize, cursor, hperm⟩⟩
    | history binding before =>
        rw [ReadRequest.base, if_neg hintents.symm, if_neg hother.symm, hintentsBinding]
        dsimp only
        rw [if_pos rfl]
        exact (allowedHistory_iff hnodup).mpr ⟨binding, before, hperm⟩

/-- A field whose value is made of digits or is percent encoded. -/
inductive PlainField : Field → Prop
  | number {key : Bytes} (n : Nat) : 0 < n → PlainField (key, decimal n)
  | encoded {key : Bytes} (value : Bytes) : value ≠ [] → PlainField (key, percentEncode value)
  | history {key : Bytes} : PlainField (key, ascii "history")
  | hundred {key : Bytes} : PlainField (key, ascii "100")

theorem PlainField.out {field : Field} (h : PlainField field) {mark : UInt8}
    (hmark : mark = equals ∨ mark = ampersand ∨ mark = questionMark) : mark ∉ field.2 := by
  have hfacts : isUnreserved mark = false ∧ mark ≠ percent ∧ isDigitByte mark = false ∧
      mark ∉ ascii "history" ∧ mark ∉ ascii "100" := by
    rcases hmark with rfl | rfl | rfl <;> decide
  obtain ⟨hplain, hpercent, hdigit, hhistory, hhundred⟩ := hfacts
  cases h with
  | number n hn => exact decimal_out hdigit hn
  | encoded value => exact percentEncode_out hplain hpercent
  | history => exact hhistory
  | hundred => exact hhundred

theorem PlainField.value_ne_nil {field : Field} (h : PlainField field) : field.2 ≠ [] := by
  cases h with
  | number n hn =>
      intro hnil
      obtain ⟨_, first, hfirst, _⟩ := isDecimal_decimal hn
      rw [show decimal n = [] from hnil] at hfirst
      cases hfirst
  | encoded value hne => exact fun hnil => hne (percentEncode_eq_nil.mp hnil)
  | history => simp [ascii]
  | hundred => simp [ascii]

theorem OpaqueId.plain (id : OpaqueId) (key : Bytes) : PlainField (key, percentEncode id) := by
  refine PlainField.encoded id.val ?_
  intro hnil
  exact percentEncode_ne_nil id (percentEncode_eq_nil.mpr hnil)

theorem Bounded.plain {maximum : Nat} (n : Bounded maximum) (key : Bytes) :
    PlainField (key, decimal n) :=
  PlainField.number n.val n.property.1

theorem ShapedTime.plain (time : ShapedTime) (key : Bytes) : PlainField (key, percentEncode time) := by
  refine PlainField.encoded time.val ?_
  intro hnil
  have htime := time.property
  rw [hnil] at htime
  exact absurd htime (by decide)

/-- The keys of the parameters. -/
def parameterKeys : List Bytes :=
  [pageField, pageSizeField, snapshotField, observationField, afterGroupField, viewField,
    bindingField, beforeCreatedField, beforeIntentField]

theorem groupPageParameters_plain {revisionField : Bytes} (hkey : revisionField ∈ parameterKeys)
    (pageSize : Bounded 100) (cursor : Option PageCursor) :
    ∀ field ∈ groupPageParameters revisionField pageSize cursor,
      field.1 ∈ parameterKeys ∧ PlainField field := by
  have hsize : pageSizeField ∈ parameterKeys ∧ afterGroupField ∈ parameterKeys := by decide
  cases cursor with
  | none =>
      simp only [groupPageParameters, List.forall_mem_cons]
      exact ⟨⟨hsize.1, pageSize.plain _⟩, List.forall_mem_nil _⟩
  | some cursor =>
      simp only [groupPageParameters, List.forall_mem_cons]
      exact ⟨⟨hsize.1, pageSize.plain _⟩, ⟨hkey, cursor.revision.plain _⟩,
        ⟨hsize.2, cursor.after.plain _⟩, List.forall_mem_nil _⟩

theorem ReadRequest.parameters_plain (request : ReadRequest) :
    ∀ field ∈ request.parameters, field.1 ∈ parameterKeys ∧ PlainField field := by
  cases request with
  | installation => simp [ReadRequest.parameters]
  | photos page pageSize =>
      simp only [ReadRequest.parameters, List.forall_mem_cons]
      exact ⟨⟨by decide, page.plain _⟩, ⟨by decide, pageSize.plain _⟩,
        List.forall_mem_nil _⟩
  | groups pageSize cursor => exact groupPageParameters_plain (by decide) pageSize cursor
  | memberships binding pageSize cursor =>
      exact groupPageParameters_plain (by decide) pageSize cursor
  | history binding before =>
      have hfixed : ∀ field ∈ [(viewField, ascii "history"), (pageSizeField, ascii "100"),
          (bindingField, percentEncode binding.val)], field.1 ∈ parameterKeys ∧ PlainField field := by
        simp only [List.forall_mem_cons]
        exact ⟨⟨by decide, PlainField.history⟩, ⟨by decide, PlainField.hundred⟩,
          ⟨by decide, binding.plain _⟩, List.forall_mem_nil _⟩
      rcases before with _ | ⟨time, intent⟩
      · simpa [ReadRequest.parameters] using hfixed
      · rw [ReadRequest.parameters, List.forall_mem_append]
        refine ⟨hfixed, ?_⟩
        simp only [List.forall_mem_cons]
        exact ⟨⟨by decide, time.plain _⟩, ⟨by decide, intent.plain _⟩, List.forall_mem_nil _⟩

theorem ReadRequest.parameters_nodup (request : ReadRequest) :
    (request.parameters.map Prod.fst).Nodup := by
  have hgroups : ∀ {revisionField : Bytes}, [pageSizeField, revisionField, afterGroupField].Nodup →
      ∀ pageSize cursor,
        ((groupPageParameters revisionField pageSize cursor).map Prod.fst).Nodup := by
    intro revisionField hnodup pageSize cursor
    cases cursor with
    | none => simp [groupPageParameters]
    | some cursor => exact hnodup
  cases request with
  | installation => simp [ReadRequest.parameters]
  | photos page pageSize => exact show [pageField, pageSizeField].Nodup by decide
  | groups pageSize cursor => exact hgroups (by decide) pageSize cursor
  | memberships binding pageSize cursor => exact hgroups (by decide) pageSize cursor
  | history binding before =>
      rcases before with _ | ⟨time, intent⟩
      · exact show [viewField, pageSizeField, bindingField].Nodup by decide
      · exact show [viewField, pageSizeField, bindingField, beforeCreatedField,
          beforeIntentField].Nodup by decide

theorem ReadRequest.parameters_ne_nil {request : ReadRequest} (h : request.HasQuery) :
    request.parameters ≠ [] := by
  cases request with
  | installation => exact h.elim
  | photos => simp [ReadRequest.parameters]
  | groups pageSize cursor => cases cursor <;> simp [ReadRequest.parameters, groupPageParameters]
  | memberships _ pageSize cursor =>
      cases cursor <;> simp [ReadRequest.parameters, groupPageParameters]
  | history => simp [ReadRequest.parameters]

theorem ReadRequest.base_facts (request : ReadRequest) :
    request.base ≠ [] ∧ questionMark ∉ request.base := by
  cases request with
  | installation => exact show installationPath ≠ [] ∧ questionMark ∉ installationPath by decide
  | photos => exact show photosPath ≠ [] ∧ questionMark ∉ photosPath by decide
  | groups => exact show groupsPath ≠ [] ∧ questionMark ∉ groupsPath by decide
  | history => exact show intentsPath ≠ [] ∧ questionMark ∉ intentsPath by decide
  | memberships binding =>
      have hmarks : questionMark ∉ bindingsPath ∧ questionMark ∉ membershipsPath := by decide
      constructor
      · simp [ReadRequest.base, percentEncode_ne_nil]
      · rw [ReadRequest.base, List.mem_append, List.mem_append]
        rintro ((hmem | hmem) | hmem)
        · exact hmarks.1 hmem
        · exact percentEncode_out (by decide) (by decide) hmem
        · exact hmarks.2 hmem

theorem OpaqueId.length_spelled_le (id : OpaqueId) : (percentEncode id).length ≤ 384 := by
  have hid := isOpaqueId_length id.property
  have hlength := length_percentEncode_le id.val
  omega

theorem Bounded.length_spelled_le {maximum : Nat} (n : Bounded maximum)
    (h : maximum ≤ Binary64.Number.maxSafeInteger) : (decimal n).length ≤ 16 :=
  length_decimal_le (n.property.2.trans h)

/-- The bytes of fields, with their equals signs and ampersands. -/
def fieldsLength (fields : List Field) : Nat :=
  (fields.map fun field => field.1.length + field.2.length + 2).sum

theorem fieldsLength_groupPage {revisionField : Bytes} (hkey : revisionField.length ≤ 20)
    (pageSize : Bounded 100) (cursor : Option PageCursor) :
    fieldsLength (groupPageParameters revisionField pageSize cursor) ≤ 480 := by
  have hsize := pageSize.length_spelled_le (by decide)
  have hkeys : pageSizeField.length = 9 ∧ afterGroupField.length = 14 := by decide
  cases cursor with
  | none =>
      simp only [fieldsLength, groupPageParameters, List.map_cons, List.map_nil, List.sum_cons,
        List.sum_nil]
      omega
  | some cursor =>
      have hrevision := cursor.revision.length_spelled_le le_rfl
      have hafter := OpaqueId.length_spelled_le cursor.after
      simp only [fieldsLength, groupPageParameters, List.map_cons, List.map_nil, List.sum_cons,
        List.sum_nil]
      omega

theorem ReadRequest.length_le (request : ReadRequest) :
    request.base.length + fieldsLength request.parameters < maxPathBytes := by
  rw [maxPathBytes]
  cases request with
  | installation => exact show installationPath.length + 0 < 2048 by decide
  | photos page pageSize =>
      have hpage := page.length_spelled_le (by decide)
      have hsize := pageSize.length_spelled_le (by decide)
      have hfixed : photosPath.length = 32 ∧ pageField.length = 4 ∧ pageSizeField.length = 9 := by
        decide
      simp only [ReadRequest.base, fieldsLength, ReadRequest.parameters, List.map_cons,
        List.map_nil, List.sum_cons, List.sum_nil]
      omega
  | groups pageSize cursor =>
      have hfields := fieldsLength_groupPage (show snapshotField.length ≤ 20 by decide) pageSize cursor
      have hfixed : groupsPath.length = 16 := by decide
      rw [ReadRequest.base, ReadRequest.parameters]
      omega
  | memberships binding pageSize cursor =>
      have hfields :=
        fieldsLength_groupPage (show observationField.length ≤ 20 by decide) pageSize cursor
      have hbinding := OpaqueId.length_spelled_le binding
      have hfixed : bindingsPath.length = 25 ∧ membershipsPath.length = 18 := by decide
      rw [ReadRequest.base, ReadRequest.parameters, List.length_append, List.length_append]
      omega
  | history binding before =>
      have hbinding := OpaqueId.length_spelled_le binding
      have hfixed : intentsPath.length = 34 ∧ viewField.length = 4 ∧ pageSizeField.length = 9 ∧
          bindingField.length = 16 ∧ beforeCreatedField.length = 17 ∧
          beforeIntentField.length = 16 ∧ (ascii "history").length = 7 ∧
          (ascii "100").length = 3 := by decide
      rcases before with _ | ⟨time, intent⟩
      · simp only [ReadRequest.base, fieldsLength, ReadRequest.parameters, List.map_cons,
          List.map_nil, List.append_nil, List.sum_cons, List.sum_nil]
        omega
      · have hintent := OpaqueId.length_spelled_le intent
        have htime := isTimeShape_length time.property
        have hspelled := length_percentEncode_le time.val
        simp only [ReadRequest.base, fieldsLength, ReadRequest.parameters, List.map_cons,
          List.map_nil, List.cons_append, List.nil_append, List.sum_cons, List.sum_nil]
        omega

theorem parameterKeys_readable {key : Bytes} (hkey : key ∈ parameterKeys) :
    key ≠ [] ∧ (∀ byte ∈ key, isKeyByte byte = true) ∧ questionMark ∉ key := by
  have hbytes : (parameterKeys.all fun key => key.all isKeyByte) = true := by decide +kernel
  have hmark : ∀ key ∈ parameterKeys, key ≠ [] ∧ questionMark ∉ key := by decide +kernel
  exact ⟨(hmark key hkey).1, List.all_eq_true.mp (List.all_eq_true.mp hbytes key hkey),
    (hmark key hkey).2⟩

/-- A spelling is short enough, and reads as its fields. -/
theorem spelled_reads {request : ReadRequest} (hquery : request.HasQuery) {fields : List Field}
    (h : fields.Perm request.parameters) :
    splitPath (request.base ++ questionMark :: queryText fields) =
        some (request.base, queryText fields) ∧
      readQuery isKeyByte (queryText fields) = some fields ∧
      (request.base ++ questionMark :: queryText fields).length ≤ maxPathBytes := by
  obtain ⟨hbase, hmark⟩ := request.base_facts
  have hfields : ∀ field ∈ fields, field.1 ∈ parameterKeys ∧ PlainField field := by
    intro field hfield
    exact request.parameters_plain field (h.mem_iff.mp hfield)
  have hne : fields ≠ [] := by
    intro hnil
    subst hnil
    exact ReadRequest.parameters_ne_nil hquery h.nil_eq.symm
  have hread : readQuery isKeyByte (queryText fields) = some fields := by
    refine (readQuery_eq_some (by decide) (by decide)).mpr ⟨hne, ?_, ?_, rfl⟩
    · intro field hfield
      obtain ⟨hkey, hplain⟩ := hfields field hfield
      obtain ⟨hkeyNe, hkeyBytes, _⟩ := parameterKeys_readable hkey
      exact ⟨hkeyNe, hkeyBytes, hplain.value_ne_nil, hplain.out (Or.inl rfl),
        hplain.out (Or.inr (Or.inl rfl))⟩
    · exact (h.map Prod.fst).nodup_iff.mpr request.parameters_nodup
  have hout : questionMark ∉ queryText fields := by
    intro hmem
    rcases mem_queryText hmem with hsign | hsign | ⟨field, hfield, hkey | hvalue⟩
    · exact absurd hsign (by decide)
    · exact absurd hsign (by decide)
    · exact (parameterKeys_readable (hfields field hfield).1).2.2 hkey
    · exact (hfields field hfield).2.out (Or.inr (Or.inr rfl)) hvalue
  have hquery' : queryText fields ≠ [] := by
    intro hnil
    rw [hnil] at hread
    exact absurd hread (by simp [readQuery, readFields, readField])
  refine ⟨splitPath_eq_some.mpr ⟨hbase, hmark, hquery', hout, rfl⟩, hread, ?_⟩
  have htext := length_queryText_le fields
  have hsum : (fields.map fun field => field.1.length + field.2.length + 2).sum =
      fieldsLength request.parameters := (h.map _).sum_nat
  have hlength := request.length_le
  rw [List.length_append, List.length_cons]
  omega

/-- A spelling with a query string is accepted. -/
theorem allowedPath_spelled (request : ReadRequest) (hquery : request.HasQuery) {fields : List Field}
    (h : fields.Perm request.parameters) :
    (allowedPath (request.base ++ questionMark :: queryText fields)).isSome = true := by
  obtain ⟨hsplit, hread, hlength⟩ := spelled_reads hquery h
  have hnodup : (fields.map Prod.fst).Nodup :=
    (h.map Prod.fst).nodup_iff.mpr request.parameters_nodup
  have hne : request.base ++ questionMark :: queryText fields ≠ installationPath := by
    intro heq
    rw [heq, show splitPath installationPath = none by decide] at hsplit
    cases hsplit
  unfold allowedPath
  rw [if_neg (by omega), if_neg hne, hsplit]
  dsimp only
  rw [hread]
  dsimp only
  rw [if_pos ((allowedFields_iff hnodup).mpr ⟨request, hquery, rfl, h⟩)]
  rfl

/-- The gate accepts the canonical spellings of the requests, and no other path. -/
theorem allowedPath_iff {path : Bytes} :
    (allowedPath path).isSome = true ↔ ∃ request : ReadRequest, request.Spelled path := by
  constructor
  · intro h
    unfold allowedPath at h
    split at h
    · cases h
    split at h
    · next hpath => exact ⟨.installation, hpath⟩
    split at h
    · cases h
    next base query hsplit =>
    split at h
    · cases h
    next fields hread =>
    split at h
    · next hallowed =>
        obtain ⟨_, _, hnodup, rfl⟩ := (readQuery_eq_some (by decide) (by decide)).mp hread
        obtain ⟨_, _, _, _, rfl⟩ := splitPath_eq_some.mp hsplit
        obtain ⟨request, hquery, rfl, hperm⟩ := (allowedFields_iff hnodup).mp hallowed
        refine ⟨request, ?_⟩
        cases request with
        | installation => exact hquery.elim
        | _ => exact ⟨fields, hperm, rfl⟩
    · cases h
  · rintro ⟨request, hspelled⟩
    cases request with
    | installation =>
        obtain rfl : path = installationPath := hspelled
        decide
    | photos page pageSize =>
        obtain ⟨fields, hperm, rfl⟩ := hspelled
        exact allowedPath_spelled (.photos page pageSize) trivial hperm
    | groups pageSize cursor =>
        obtain ⟨fields, hperm, rfl⟩ := hspelled
        exact allowedPath_spelled (.groups pageSize cursor) trivial hperm
    | memberships binding pageSize cursor =>
        obtain ⟨fields, hperm, rfl⟩ := hspelled
        exact allowedPath_spelled (.memberships binding pageSize cursor) trivial hperm
    | history binding before =>
        obtain ⟨fields, hperm, rfl⟩ := hspelled
        exact allowedPath_spelled (.history binding before) trivial hperm

end FlickrGroupAddr

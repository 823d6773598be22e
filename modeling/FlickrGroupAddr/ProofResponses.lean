import FlickrGroupAddr.ExistingPhotoClient
import FlickrGroupAddr.Lib.Timestamps
import FlickrGroupAddr.UploadBindings

/-!
# Photo proofs as the plug-in reads them

The body that the proof of an existing photo and the two upload requests answer with, and the
two Lua checks of it: `ExistingPhotoClient.validateBinding` and the projection of
`PhotoProofRecovery`.
-/

namespace FlickrGroupAddr

set_option autoImplicit false

open Calendar JsonText

/-! ## Bodies -/

/-- `sourceKind` of a body. -/
def BindingSource.kindText : BindingSource → String
  | .upload => "fga_direct_upload"
  | .existingPublic => "existing_public_flickr_photo"
  | .reconciledUpload => "photographer_reconciled_ambiguous_upload"

/-- `strftime` of the minute and `printf` of the seconds of a verification. -/
def verifiedAtText (us : Us) : String := String.ofList ((microText us).getD [])

/-- The body of `commitBinding`, and of `success`. -/
def bindingBody (row : BindingRow) : JsonValue :=
  .object
    [("schemaVersion", .number 1), ("fgaPhotoBindingId", .text row.bindingId.text),
      ("flickrPhotoId", .text row.photoId.text), ("linkedFlickrRevision", .number row.linkRevision),
      ("verificationRevision", .number row.verificationRevision),
      ("verifiedAt", .text (verifiedAtText row.verifiedAtUs)),
      ("sourceKind", .text row.source.kindText)]

namespace JsonValue

mutual

/-- What a Lua decoder makes of the text of a document. -/
def decoded : JsonValue → LuaValue
  | .null => .null
  | .boolean value => .boolean value
  | .number value => .number (Binary64.ofRat value)
  | .text value => .text (utf8 value.toList)
  | .array items => .array (decodedItems items)
  | .object fields => .object (decodedFields fields)

def decodedItems : List JsonValue → List LuaValue
  | [] => []
  | item :: items => item.decoded :: decodedItems items

def decodedFields : List (String × JsonValue) → List (Bytes × LuaValue)
  | [] => []
  | (name, value) :: fields => (utf8 name.toList, value.decoded) :: decodedFields fields

end

end JsonValue

/-! ## The checks -/

/-- The keys of a body, for both checks. -/
def bindingKeys : List Bytes :=
  ["schemaVersion", "fgaPhotoBindingId", "sourceKind", "flickrPhotoId", "linkedFlickrRevision",
    "verificationRevision", "verifiedAt"].map ascii

namespace LuaValue

/-- The member is this string. -/
def holdsText (name : String) (expected : Bytes) (v : LuaValue) : Bool :=
  (v.field? (ascii name)).bind text? == some expected

/-- The member is this number. -/
def holdsNumber (name : String) (expected : Nat) (v : LuaValue) : Bool :=
  ((v.field? (ascii name)).bind (integer? expected expected)).isSome

/-- The member is a string that passes a check. -/
def holds (name : String) (check : Bytes → Bool) (v : LuaValue) : Bool :=
  ((v.field? (ascii name)).bind text?).any check

end LuaValue

/-- `validateBinding`. -/
def PhotoClient.validateBinding (value : LuaValue) (photoId : Bytes) (linkRevision : Nat) : Bool :=
  value.exact bindingKeys && value.holdsNumber "schemaVersion" 1 &&
    value.holds "fgaPhotoBindingId" isOpaqueId && value.holdsText "flickrPhotoId" photoId &&
    (value.holdsText "sourceKind" (ascii "existing_public_flickr_photo") ||
      value.holdsText "sourceKind" (ascii "fga_direct_upload")) &&
    value.holdsNumber "linkedFlickrRevision" linkRevision &&
    ((value.field? (ascii "verificationRevision")).bind
      (LuaValue.integer? 1 Binary64.Number.maxSafeInteger)).isSome &&
    value.holds "verifiedAt" isTimestamp

namespace PhotoProofRecovery

/-- `time` of `UploadAttemptCodec`. -/
def isTime (value : Bytes) : Bool :=
  decide (value.length ≤ 32) &&
    match takeStamp value with
    | none => false
    | some (fields, rest) => decide (1 ≤ fields.year) && fields.isTime && isTail rest

def sources : List Bytes :=
  ["fga_direct_upload", "existing_public_flickr_photo",
    "photographer_reconciled_ambiguous_upload"].map ascii

/-- What `projection` keeps of a body. -/
structure PhotoProof where
  fgaPhotoBindingId : Bytes
  flickrPhotoId : Bytes
  linkedFlickrRevision : Nat
  verificationRevision : Nat
deriving DecidableEq

/-- `projection`; whether the response is `framed` is told, with the table of its body. -/
def projection (framed : Bool) (v : LuaValue) (photoId : Bytes) (revision : Nat) :
    Option PhotoProof :=
  if framed = false then none
  else
    match (v.field? (ascii "fgaPhotoBindingId")).bind LuaValue.opaque?,
      (v.field? (ascii "linkedFlickrRevision")).bind
        (LuaValue.integer? 1 Binary64.Number.maxSafeInteger),
      (v.field? (ascii "verificationRevision")).bind
        (LuaValue.integer? 1 Binary64.Number.maxSafeInteger) with
    | some bindingId, some linked, some verification =>
        if v.exact bindingKeys ∧ v.holdsNumber "schemaVersion" 1 ∧
            v.holds "sourceKind" (sources.contains ·) ∧ v.holdsText "flickrPhotoId" photoId ∧
            linked = revision ∧ v.holds "verifiedAt" isTime then
          some ⟨bindingId, photoId, linked, verification⟩
        else none
    | _, _, _ => none

end PhotoProofRecovery

/-! ## Texts as bytes -/

theorem utf8_ascii {chars : List Char} (h : ∀ c ∈ chars, c.toNat < 128) :
    utf8 chars = chars.map Char.toUInt8 := by
  induction chars with
  | nil => rfl
  | cons c chars ih =>
      obtain ⟨hc, hchars⟩ := List.forall_mem_cons.mp h
      rw [utf8_cons, utf8EncodeChar_ascii hc, ih hchars]
      rfl

theorem utf8_toList {text : String} (h : ∀ c ∈ text.toList, c.toNat < 128) :
    utf8 text.toList = ascii text := utf8_ascii h

/-! ### Identifiers -/

/-- The byte of a letter or a digit is one of a letter or a digit. -/
theorem isAlphanumeric_toUInt8 {c : Char} (h : c.isAlphanum = true) :
    c.toNat < 128 ∧ isAlphanumeric c.toUInt8 = true := by
  have hrange : (65 ≤ c.toNat ∧ c.toNat ≤ 90) ∨ (97 ≤ c.toNat ∧ c.toNat ≤ 122) ∨
      (48 ≤ c.toNat ∧ c.toNat ≤ 57) := by
    change ((decide (65 ≤ c.toNat ∧ c.toNat ≤ 90) ||
      (decide (97 ≤ c.toNat) && decide (c.toNat ≤ 122))) ||
      (decide (48 ≤ c.toNat) && decide (c.toNat ≤ 57))) = true at h
    simpa [or_assoc] using h
  have hbyte : c.toUInt8.toNat = c.toNat := by
    show c.toNat % 256 = c.toNat
    omega
  refine ⟨by omega, ?_⟩
  unfold isAlphanumeric
  rw [hbyte]
  exact decide_eq_true hrange

theorem isOpaqueByte_toUInt8 {c : Char} (h : tokenChar c = true) :
    c.toNat < 128 ∧ isOpaqueByte c.toUInt8 = true := by
  unfold tokenChar at h
  simp only [Bool.or_eq_true, beq_iff_eq] at h
  rcases h with ((((h | rfl) | rfl) | rfl) | rfl) | rfl
  · obtain ⟨hascii, hbyte⟩ := isAlphanumeric_toUInt8 h
    exact ⟨hascii, by simp [isOpaqueByte, hbyte]⟩
  all_goals exact ⟨by decide, by decide⟩

/-- A token is ASCII and an identifier of the clients. -/
theorem Token.isOpaqueId (id : Token) :
    utf8 id.text.toList = ascii id.text ∧ FlickrGroupAddr.isOpaqueId (ascii id.text) = true := by
  have hvalid := id.valid
  unfold isToken at hvalid
  unfold ascii
  generalize id.text.toList = chars at hvalid ⊢
  cases chars with
  | nil => cases hvalid
  | cons first rest =>
      simp only [Bool.and_eq_true, decide_eq_true_eq, List.all_eq_true] at hvalid
      obtain ⟨⟨hfirst, hlength⟩, hrest⟩ := hvalid
      constructor
      · apply utf8_ascii
        rw [List.forall_mem_cons]
        exact ⟨(isAlphanumeric_toUInt8 hfirst).1, fun c hc => (isOpaqueByte_toUInt8 (hrest c hc)).1⟩
      · have hall : (rest.map Char.toUInt8).all isOpaqueByte = true := by
          simp only [List.all_map, List.all_eq_true, Function.comp_apply]
          exact fun c hc => (isOpaqueByte_toUInt8 (hrest c hc)).2
        simp [FlickrGroupAddr.isOpaqueId, (isAlphanumeric_toUInt8 hfirst).2, hall]
        omega

/-! ### Times -/

/-- One digit more is read. -/
theorem takeNumber_last {width found n : Nat} {text rest : Bytes} {current : UInt8}
    (h : takeNumber width found text = some (n, current :: rest))
    (hdigit : StrictJson.isDigit current = true) :
    takeNumber (width + 1) found text = some (n * 10 + (current.toNat - 48), rest) := by
  induction width generalizing found text with
  | zero =>
      cases h
      simp [takeNumber, hdigit]
  | succ width ih =>
      cases text with
      | nil => cases h
      | cons first text =>
          rw [takeNumber] at h
          obtain ⟨hfirst, h⟩ := Option.ite_none_right_eq_some.mp h
          rw [takeNumber, if_pos hfirst]
          exact ih h

theorem digitChar_toUInt8 {n : Nat} (h : n < 10) :
    StrictJson.isDigit (Nat.digitChar n).toUInt8 = true ∧
      (Nat.digitChar n).toUInt8.toNat - 48 = n := by
  revert n
  decide

/-- A block of digits is read as the number it was printed from. -/
theorem takeNumber_padded (width n : Nat) (rest : Bytes) :
    takeNumber width 0 ((padded width n).map Char.toUInt8 ++ rest) =
      some (n % 10 ^ width, rest) := by
  induction width generalizing n rest with
  | zero => simp [padded, takeNumber, Nat.mod_one]
  | succ width ih =>
      obtain ⟨hdigit, hvalue⟩ := digitChar_toUInt8 (Nat.mod_lt n (by decide : 0 < 10))
      have hfront := ih (n / 10) ((Nat.digitChar (n % 10)).toUInt8 :: rest)
      have hlast := takeNumber_last hfront hdigit
      rw [hvalue] at hlast
      rw [padded, List.map_append, List.append_assoc]
      rw [show ((n / 10) % 10 ^ width) * 10 + n % 10 = n % 10 ^ (width + 1) by
        rw [pow_succ, Nat.mul_comm (10 ^ width), Nat.mod_mul]
        omega] at hlast
      exact hlast

/-- A time is read from its text. -/
theorem takeStamp_fieldsText {f : Fields} (hyear : f.year ≤ 9999) (hexists : f.Exists)
    (rest : Bytes) : takeStamp ((fieldsText f).map Char.toUInt8 ++ rest) =
      some (⟨f.year, f.month, f.day, f.hour, f.minute, f.second⟩, rest) := by
  obtain ⟨hmonth, hday⟩ := hexists.month_le
  obtain ⟨_, _, _, hhour, hminute, hsecond⟩ := hexists
  have hmark : ∀ (mark : Char) (text : Bytes), takeMark mark (mark.toUInt8 :: text) = some text := by
    intro mark text
    simp [takeMark]
  simp only [fieldsText, List.map_append, List.append_assoc, List.map_cons,
    List.cons_append, List.nil_append]
  simp only [takeStamp, takeNumber_padded, hmark, Option.bind_eq_bind, Option.bind_some]
  rw [Nat.mod_eq_of_lt (by omega), Nat.mod_eq_of_lt (by omega), Nat.mod_eq_of_lt (by omega),
    Nat.mod_eq_of_lt (by omega), Nat.mod_eq_of_lt (by omega), Nat.mod_eq_of_lt (by omega)]
  rfl

theorem daysOfMonth_eq {year month : Nat} (h : 1 ≤ month) (h' : month ≤ 12) :
    daysOfMonth year month = (monthLengths year).getD (month - 1) 0 := by
  have hleap : (isLeap year = true) ↔ year % 400 = 0 ∨ (year % 4 = 0 ∧ year % 100 ≠ 0) := by
    simp only [isLeap, Bool.and_eq_true, Bool.or_eq_true, beq_iff_eq, bne_iff_ne, ne_eq]
    omega
  by_cases hyear : isLeap year = true
  · interval_cases month <;> simp [daysOfMonth, monthLengths, hyear, hleap.mp hyear]
  · have hnot := mt hleap.mpr hyear
    interval_cases month <;> simp [daysOfMonth, monthLengths, hyear, hnot]

theorem isTime_of_exists {f : Fields} (h : f.Exists) :
    StampFields.isTime ⟨f.year, f.month, f.day, f.hour, f.minute, f.second⟩ = true := by
  have hmonth := h.month_le.1
  obtain ⟨hfirst, hday, hlength, hhour, hminute, hsecond⟩ := h
  rw [← daysOfMonth_eq hfirst hmonth] at hlength
  simp only [StampFields.isTime, decide_eq_true_eq]
  exact ⟨⟨hfirst, hmonth⟩, ⟨hday, hlength⟩, hhour, hminute, hsecond⟩

theorem isDigit_padded {width n : Nat} {byte : UInt8}
    (h : byte ∈ (padded width n).map Char.toUInt8) : StrictJson.isDigit byte = true := by
  induction width generalizing n with
  | zero => cases h
  | succ width ih =>
      rw [padded, List.map_append] at h
      rcases List.mem_append.mp h with hfront | hlast
      · exact ih hfront
      · obtain rfl := List.mem_singleton.mp hlast
        exact (digitChar_toUInt8 (Nat.mod_lt n (by decide))).1

/-- A fraction of the second and `Z`. -/
theorem isTail_fraction {digits : Bytes} (hsome : digits ≠ [])
    (hdigits : ∀ byte ∈ digits, StrictJson.isDigit byte = true) :
    isTail ('.'.toUInt8 :: digits ++ ['Z'.toUInt8]) = true := by
  have hZ : StrictJson.isDigit 'Z'.toUInt8 = false := by decide
  have htake : (digits ++ ['Z'.toUInt8]).takeWhile StrictJson.isDigit = digits := by
    rw [List.takeWhile_append_of_pos hdigits]
    simp [hZ]
  have hdrop : (digits ++ ['Z'.toUInt8]).dropWhile StrictJson.isDigit = ['Z'.toUInt8] := by
    rw [List.dropWhile_append_of_pos hdigits]
    simp [hZ]
  have hmark : ('.'.toUInt8 = 'Z'.toUInt8) = False := by decide
  simp only [List.cons_append, isTail, hmark, if_false, if_true, htake, hdrop]
  cases digits with
  | nil => exact absurd rfl hsome
  | cons => rfl

/-- The years of the clock. -/
theorem ClockReading.year (now : ClockReading) :
    1970 ≤ yearOfDay (now.us / 1000 / 86400000) ∧
      yearOfDay (now.us / 1000 / 86400000) ≤ 9999 := by
  have hfirst : dayFromYear 1970 = 0 := by decide
  have hlast : dayFromYear 10000 = 2932897 := by decide
  have hnonneg : (0 : Int) ≤ now.us := now.nonneg
  have hmax : (253402300799999000 : Int) ≥ now.us := now.le_max
  obtain ⟨hle, hlt⟩ := yearOfDay_spec (now.us / 1000 / 86400000)
  constructor
  · by_contra hearly
    have := dayFromYear_le (show yearOfDay (now.us / 1000 / 86400000) + 1 ≤ 1970 by omega)
    omega
  · by_contra hlate
    have := dayFromYear_le (show 10000 ≤ yearOfDay (now.us / 1000 / 86400000) by omega)
    omega

/-- The text of a reading of the clock: its date, its time, and six digits of the second. -/
theorem verifiedAtText_eq (now : ClockReading) :
    ∃ (f : Fields) (millis micros : Nat), 1 ≤ f.year ∧ f.year ≤ 9999 ∧ f.Exists ∧
      verifiedAtText now.us =
        String.ofList (fieldsText f ++ '.' :: (padded 3 millis ++ padded 3 micros) ++ ['Z']) := by
  obtain ⟨hfirst, hlast⟩ := now.year
  have hnonneg : 0 ≤ yearOfDay (now.us / 1000 / 86400000) := by omega
  obtain ⟨hyear, hexists⟩ := fieldsOf_bounds hnonneg hlast
  refine ⟨fieldsOf (now.us / 1000), (now.us / 1000 % 86400000).toNat % 1000,
    (now.us % 1000).toNat, ?_, hyear, hexists, ?_⟩
  · simp only [fieldsOf]
    omega
  · rw [verifiedAtText, microText, isoText_eq hnonneg hlast]
    simp [fieldsText]

theorem toNat_padded_lt {width n : Nat} {c : Char} (h : c ∈ padded width n) : c.toNat < 128 := by
  have hascii : ∀ digit < 10, (Nat.digitChar digit).toNat < 128 := by decide
  induction width generalizing n with
  | zero => cases h
  | succ width ih =>
      rcases List.mem_append.mp h with hfront | hlast
      · exact ih hfront
      · obtain rfl := List.mem_singleton.mp hlast
        exact hascii _ (Nat.mod_lt n (by decide))

/-- What is printed for a reading of the clock is a time for both checks. -/
theorem verifiedAtText_passes (now : ClockReading) :
    utf8 (verifiedAtText now.us).toList = ascii (verifiedAtText now.us) ∧
      isTimestamp (ascii (verifiedAtText now.us)) = true ∧
      PhotoProofRecovery.isTime (ascii (verifiedAtText now.us)) = true := by
  obtain ⟨f, millis, micros, hmodern, hyear, hexists, htext⟩ := verifiedAtText_eq now
  have hascii : ∀ c ∈ (verifiedAtText now.us).toList, c.toNat < 128 := by
    have hpadded : ∀ width n, ∀ c ∈ padded width n, c.toNat < 128 :=
      fun _ _ _ hc => toNat_padded_lt hc
    rw [htext, String.toList_ofList]
    simp [fieldsText, or_imp, forall_and]
    exact ⟨hpadded _ _, hpadded _ _, hpadded _ _, hpadded _ _, hpadded _ _, hpadded _ _,
      hpadded _ _, hpadded _ _⟩
  have hlength : (ascii (verifiedAtText now.us)).length = 27 := by simp [htext, ascii]
  have hstamp : takeStamp (ascii (verifiedAtText now.us)) = some
      (⟨f.year, f.month, f.day, f.hour, f.minute, f.second⟩,
        '.'.toUInt8 :: (padded 3 millis ++ padded 3 micros).map Char.toUInt8 ++
          ['Z'.toUInt8]) := by
    rw [htext, ascii, String.toList_ofList, List.append_assoc, List.map_append,
      takeStamp_fieldsText hyear hexists]
    simp
  have htail : isTail ('.'.toUInt8 :: (padded 3 millis ++ padded 3 micros).map Char.toUInt8 ++
      ['Z'.toUInt8]) = true := by
    apply isTail_fraction
    · simp [padded]
    · intro byte hbyte
      rw [List.map_append] at hbyte
      rcases List.mem_append.mp hbyte with hfront | hback
      · exact isDigit_padded hfront
      · exact isDigit_padded hback
  refine ⟨utf8_toList hascii, ?_, ?_⟩
  · simp only [isTimestamp, hlength, hstamp, isTime_of_exists hexists, htail]
    rfl
  · simp only [PhotoProofRecovery.isTime, hlength, hstamp, isTime_of_exists hexists, htail,
      decide_eq_true hmodern]
    rfl

/-! ## What passes -/

/-- The revisions of a row are numbers of JavaScript, and its time is a reading of the
clock. -/
structure BindingRow.Printable (row : BindingRow) : Prop where
  link : 1 ≤ row.linkRevision ∧ row.linkRevision ≤ Binary64.Number.maxSafeInteger
  verification : 1 ≤ row.verificationRevision ∧
    row.verificationRevision ≤ Binary64.Number.maxSafeInteger
  verified : ∃ now : ClockReading, row.verifiedAtUs = now.us

theorem BindingSource.utf8_kindText (source : BindingSource) :
    utf8 source.kindText.toList = ascii source.kindText := by
  cases source <;> decide

/-- The table that a decoder makes of a body. -/
theorem BindingRow.Printable.decoded {row : BindingRow} (h : row.Printable) :
    (bindingBody row).decoded = .object
      [(ascii "schemaVersion", .number (.finite false 1)),
        (ascii "fgaPhotoBindingId", .text (ascii row.bindingId.text)),
        (ascii "flickrPhotoId", .text (ascii row.photoId.text)),
        (ascii "linkedFlickrRevision", .number (.finite false row.linkRevision)),
        (ascii "verificationRevision", .number (.finite false row.verificationRevision)),
        (ascii "verifiedAt", .text (ascii (verifiedAtText row.verifiedAtUs))),
        (ascii "sourceKind", .text (ascii row.source.kindText))] := by
  obtain ⟨hlink, hverification, now, htime⟩ := h
  have hone : Binary64.ofRat (1 : Rat) = .finite false 1 := by
    have h := Binary64.ofRat_natCast (n := 1) (by decide)
    simpa using h
  have hnames : ∀ name ∈ ["schemaVersion", "fgaPhotoBindingId", "flickrPhotoId",
      "linkedFlickrRevision", "verificationRevision", "verifiedAt", "sourceKind"],
      utf8 name.toList = ascii name := by decide
  simp only [List.forall_mem_cons] at hnames
  obtain ⟨h1, h2, h3, h4, h5, h6, h7, _⟩ := hnames
  simp only [bindingBody, JsonValue.decoded, JsonValue.decodedFields, h1, h2, h3, h4, h5, h6, h7,
    hone, row.bindingId.isOpaqueId.1, row.photoId.isOpaqueId.1, htime,
    (verifiedAtText_passes now).1, row.source.utf8_kindText,
    Binary64.ofRat_natCast hlink.2, Binary64.ofRat_natCast hverification.2]

theorem integer?_natCast {minimum maximum n : Nat} :
    (LuaValue.number (.finite false n)).integer? minimum maximum =
      if minimum ≤ n ∧ n ≤ maximum then some n else none := by
  have hint : (Binary64.Number.finite false (n : Rat)).toInt? = some (n : Int) := by
    rw [Binary64.toInt?_eq_some]
    simp [Binary64.Number.toRat?]
  unfold LuaValue.integer?
  simp only [hint]
  norm_cast

/-- The members of a body that a decoder made a table of. -/
structure BodyTable (v : LuaValue) (row : BindingRow) : Prop where
  keys : v.exact bindingKeys = true
  schemaVersion : v.holdsNumber "schemaVersion" 1 = true
  bindingId : v.field? (ascii "fgaPhotoBindingId") = some (.text (ascii row.bindingId.text))
  photoId : v.field? (ascii "flickrPhotoId") = some (.text (ascii row.photoId.text))
  linked : v.field? (ascii "linkedFlickrRevision") = some (.number (.finite false row.linkRevision))
  verification : v.field? (ascii "verificationRevision") =
    some (.number (.finite false row.verificationRevision))
  verified : v.field? (ascii "verifiedAt") =
    some (.text (ascii (verifiedAtText row.verifiedAtUs)))
  source : v.field? (ascii "sourceKind") = some (.text (ascii row.source.kindText))

theorem BindingRow.Printable.table {row : BindingRow} (h : row.Printable) :
    BodyTable (bindingBody row).decoded row := by
  rw [h.decoded]
  refine ⟨rfl, ?_, rfl, rfl, rfl, rfl, rfl, rfl⟩
  have hone := @integer?_natCast 1 1 1
  rw [if_pos ⟨le_refl 1, le_refl 1⟩, Nat.cast_one] at hone
  have hfield : ∀ fields : List (Bytes × LuaValue),
      (LuaValue.object ((ascii "schemaVersion", .number (.finite false 1)) :: fields)).field?
        (ascii "schemaVersion") = some (.number (.finite false 1)) := by
    intro fields
    rfl
  simp only [LuaValue.holdsNumber, hfield, Option.bind_some, hone, Option.isSome_some]

/-- The proof client accepts a printed row of the photo and the revision, unless a resolution
was the origin of its binding. -/
theorem validateBinding_body {row : BindingRow} (h : row.Printable) :
    PhotoClient.validateBinding (bindingBody row).decoded (ascii row.photoId.text)
      row.linkRevision = true ↔ row.source ≠ .reconciledUpload := by
  have htable := h.table
  obtain ⟨hlink, hverification, now, htime⟩ := h
  have hopaque := row.bindingId.isOpaqueId.2
  have hstamp := (verifiedAtText_passes now).2.1
  rw [← htime] at hstamp
  simp only [PhotoClient.validateBinding, LuaValue.holdsText, LuaValue.holds, htable.keys,
    htable.schemaVersion, htable.bindingId, htable.photoId, htable.verification, htable.verified,
    htable.source, Option.bind_some, LuaValue.text?, Option.any_some, hopaque, hstamp,
    integer?_natCast, if_pos hverification, Option.isSome_some, Bool.true_and, Bool.and_true,
    beq_self_eq_true]
  have hlinked : LuaValue.holdsNumber "linkedFlickrRevision" row.linkRevision
      (bindingBody row).decoded = true := by
    simp [LuaValue.holdsNumber, htable.linked, integer?_natCast]
  rw [hlinked, Bool.and_true]
  cases row.source <;> decide

/-- The recovery keeps every printed row of the photo and the revision. -/
theorem projection_body {row : BindingRow} (h : row.Printable) :
    PhotoProofRecovery.projection true (bindingBody row).decoded (ascii row.photoId.text)
      row.linkRevision = some ⟨ascii row.bindingId.text, ascii row.photoId.text, row.linkRevision,
        row.verificationRevision⟩ := by
  have htable := h.table
  obtain ⟨hlink, hverification, now, htime⟩ := h
  have hopaque := row.bindingId.isOpaqueId.2
  have hstamp := (verifiedAtText_passes now).2.2
  rw [← htime] at hstamp
  have hsource : ascii row.source.kindText ∈ PhotoProofRecovery.sources := by
    cases row.source <;> decide
  simp [PhotoProofRecovery.projection, LuaValue.holdsText, LuaValue.holds, htable.keys,
    htable.schemaVersion, htable.bindingId, htable.photoId, htable.linked, htable.verification,
    htable.verified, htable.source, LuaValue.text?, LuaValue.opaque?, hopaque, hstamp,
    integer?_natCast, hlink, hverification, hsource]

end FlickrGroupAddr

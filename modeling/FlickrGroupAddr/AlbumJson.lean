import FlickrGroupAddr.Lib.Binary64
import FlickrGroupAddr.Lib.JsonReader
import FlickrGroupAddr.Lib.Utf16

/-!
# The JSON of album requests

The two readers of request bodies: the strict reader of `album_bindings.ts`, which keeps
decoded names before duplicates can be lost and evaluates numbers exactly, and the reader
of removal requests in `album_local_removal.ts`, which scans one flat object itself and
passes each number to the strict reader.
-/

namespace FlickrGroupAddr

set_option autoImplicit false

open JsonText Binary64

/-! ### The strict reader -/

/-- The largest exponent of a number in a request. -/
def maxAlbumExponent : ℕ := 4096

/-- The digits of a token shifted by an exponent, as exact integers. -/
def shiftedNumber (token : NumberToken) (exponent : ℤ) : Option Number :=
  let digits : ℤ := digitsValue token.digits
  let divisor : ℤ := 10 ^ exponent.natAbs
  if exponent < 0 ∧ digits % divisor ≠ 0 then none
  else
    let integer := (if exponent < 0 then digits / divisor else digits * divisor) *
      (if token.negative then -1 else 1)
    if integer < 0 ∨ (Number.maxSafeInteger : ℤ) < integer then none else some (ofRat integer)

/-- The number of a token.  Its exponent is a difference of numbers, so it may round. -/
def albumNumber (token : NumberToken) : Option Number :=
  match (difference token.exponentValue token.fractionDigits.length).toSafeInteger? with
  | none => none
  | some exponent =>
    if maxAlbumExponent < exponent.natAbs then none else shiftedNumber token exponent

def albumDialect : Dialect Number where
  maxDepth := some 3
  maxNodes := none
  compound := false
  distinct := true
  acceptsText := fun _ => true
  number := albumNumber

def parseStrictAlbumJson (raw : Text) : Option (JsonTree Number .value) := albumDialect.read raw

/-! ### The reader of removal requests -/

/-- What ends a value that is neither a string nor null. -/
def endsRemovalValue (unit : UInt16) : Bool := unit == comma || unit == closeBrace || isSpace unit

def removalValue (text : Text) : Option (JsonTree Number .value × Text) :=
  match text with
  | [] => (parseStrictAlbumJson []).map fun value => (value, [])
  | unit :: rest =>
    if unit = quote then (albumDialect.readText rest).map fun (content, rest) => (.text content, rest)
    else if text.take 4 = nullName then some (.null, text.drop 4)
    else
      (parseStrictAlbumJson (text.takeWhile fun u => !endsRemovalValue u)).map fun value =>
        (value, text.dropWhile fun u => !endsRemovalValue u)

def removalMembers : ℕ → List Text → Text → Option (JsonTree Number .members × Text)
  | 0, _, _ => none
  | fuel + 1, seen, text => do
    let rest ← expect quote text
    let (name, rest) ← albumDialect.readText rest
    if name ∈ seen then none
    else do
      let rest ← expect colon rest
      let (head, rest) ← removalValue (skipSpace rest)
      match expect closeBrace rest with
      | some rest => some (.member name head .noMembers, rest)
      | none => do
        let rest ← expect comma rest
        let (tail, rest) ← removalMembers fuel (name :: seen) rest
        some (.member name head tail, rest)

/-- The members after an opening brace, up to the brace that closes the object. -/
def removalBody (fuel : ℕ) (text : Text) : Option (JsonTree Number .members × Text) :=
  match expect closeBrace text with
  | some rest => some (.noMembers, rest)
  | none => removalMembers fuel [] text

/-- The members of the one flat object that the text is. -/
def removalJson (raw : Text) : Option (JsonTree Number .members) :=
  if 4096 < utf8Length raw then none
  else do
    let rest ← expect openBrace raw
    let (members, rest) ← removalBody raw.length rest
    if skipSpace rest = [] then some members else none

/-! ### The number of a token -/

theorem shiftedNumber_eq_some {token : NumberToken} {x : Number} :
    shiftedNumber token token.scale = some x ↔
      ∃ n : ℕ, n ≤ Number.maxSafeInteger ∧ token.value = n ∧ x = .finite false n := by
  simp only [shiftedNumber, Option.ite_none_left_eq_some, Option.some.injEq, not_and, not_not, not_or,
    not_lt, NumberToken.value_eq_natCast, NumberToken.magnitude_eq_natCast]
  generalize hshift : (if token.scale < 0 then
    (digitsValue token.digits : ℤ) / 10 ^ token.scale.natAbs
    else digitsValue token.digits * 10 ^ token.scale.natAbs) = shift
  have hpos : 0 ≤ shift := by
    rw [← hshift]
    split <;> positivity
  obtain ⟨m, rfl⟩ := Int.eq_ofNat_of_zero_le hpos
  constructor
  · rintro ⟨hmod, ⟨hlow, hhigh⟩, rfl⟩
    cases hneg : token.negative with
    | true =>
      simp only [hneg, if_true, mul_neg, mul_one] at hlow
      obtain rfl : m = 0 := by omega
      refine ⟨0, Nat.zero_le _, ⟨⟨hmod, rfl⟩, by simp⟩, ?_⟩
      simpa [hneg] using ofRat_natCast (n := 0) (Nat.zero_le _)
    | false =>
      simp only [hneg, Bool.false_eq_true, if_false, mul_one] at hhigh
      refine ⟨m, by exact_mod_cast hhigh, ⟨⟨hmod, rfl⟩, by simp⟩, ?_⟩
      simpa [hneg] using ofRat_natCast (n := m) (by exact_mod_cast hhigh)
  · rintro ⟨n, hn, ⟨⟨hmod, hshifted⟩, hzero⟩, rfl⟩
    obtain rfl : m = n := by exact_mod_cast hshifted
    refine ⟨hmod, ?_⟩
    cases hneg : token.negative with
    | true =>
      obtain rfl := hzero hneg
      simpa [hneg] using ofRat_natCast (n := 0) (Nat.zero_le _)
    | false =>
      simp only [Bool.false_eq_true, if_false, mul_one]
      exact ⟨⟨hpos, by exact_mod_cast hn⟩, by exact_mod_cast ofRat_natCast hn⟩

/-- A token whose fraction fits a text becomes a number exactly when it denotes a nonnegative
    safe integer and its last digit counts a power of ten within the bound. -/
theorem albumNumber_eq_some {token : NumberToken} (hlength : token.fractionDigits.length ≤ 2 ^ 30)
    {x : Number} :
    albumNumber token = some x ↔
      token.scale.natAbs ≤ maxAlbumExponent ∧
        ∃ n : ℕ, n ≤ Number.maxSafeInteger ∧ token.value = n ∧ x = .finite false n := by
  rw [← shiftedNumber_eq_some, albumNumber]
  constructor
  · intro h
    split at h
    · simp at h
    · next exponent hexponent =>
      rw [Option.ite_none_left_eq_some, not_lt] at h
      obtain ⟨hbound, h⟩ := h
      rw [toSafeInteger?_eq_some, difference_eq_some hlength (hbound.trans (by decide))] at hexponent
      obtain rfl : token.scale = exponent := hexponent.1
      exact ⟨hbound, h⟩
  · rintro ⟨hbound, h⟩
    have hscale : (difference token.exponentValue token.fractionDigits.length).toSafeInteger? =
        some token.scale := by
      rw [toSafeInteger?_eq_some, difference_eq_some hlength (hbound.trans (by decide))]
      exact ⟨rfl, hbound.trans (by decide)⟩
    rw [hscale]
    simp only [not_lt.mpr hbound, if_false]
    exact h

/-! ### What the strict reader accepts -/

/-- The token denotes a nonnegative safe integer and its exponent is within the bound. -/
def AlbumNumeral (token : NumberToken) : Prop :=
  token.scale.natAbs ≤ maxAlbumExponent ∧
    ∃ n : ℕ, n ≤ Number.maxSafeInteger ∧ token.value = n

/-- The number that a token denotes, without a sign. -/
def exactNumber (token : NumberToken) : Number := .finite false token.value

theorem parseStrictAlbumJson_eq_some {raw : Text} (hraw : raw.length ≤ 2 ^ 30)
    {tree : JsonTree Number .value} :
    parseStrictAlbumJson raw = some tree ↔
      ∃ source, Document source raw ∧ source.Plain ∧ source.Distinct ∧ source.depth ≤ 3 ∧
        (∀ token ∈ source.numbers, AlbumNumeral token) ∧ source.map exactNumber = tree := by
  classical
  have hconvert : ∀ source, Document source raw →
      source.traverse albumNumber =
        source.traverse fun token => if AlbumNumeral token then some (exactNumber token) else none := by
    intro source hsource
    refine JsonTree.traverse_congr fun token htoken => ?_
    have hlength := (token.length_fractionDigits_le.trans
      (hsource.length_number_le token htoken)).trans hraw
    apply Option.ext
    intro x
    rw [albumNumber_eq_some hlength, Option.ite_none_right_eq_some, Option.some.injEq]
    constructor
    · rintro ⟨hbound, n, hn, hvalue, rfl⟩
      exact ⟨⟨hbound, n, hn, hvalue⟩, by rw [exactNumber, hvalue]⟩
    · rintro ⟨⟨hbound, n, hn, hvalue⟩, rfl⟩
      exact ⟨hbound, n, hn, hvalue, by rw [exactNumber, hvalue]⟩
  rw [parseStrictAlbumJson, Dialect.read_eq_some]
  constructor
  · rintro ⟨source, hsource, hread, hallows, hdeep, -⟩
    rw [show albumDialect.number = albumNumber from rfl, hconvert source hsource,
      JsonTree.traverse_guard] at hread
    exact ⟨source, hsource, hallows.plain rfl, hallows.distinct rfl, hdeep 3 rfl, hread⟩
  · rintro ⟨source, hsource, hplain, hdistinct, hdeep, hread⟩
    refine ⟨source, hsource, ?_, ⟨fun _ _ => rfl, fun _ => hdistinct, fun _ => hplain⟩, ?_, ?_⟩
    · rw [show albumDialect.number = albumNumber from rfl, hconvert source hsource,
        JsonTree.traverse_guard]
      exact hread
    · simpa [Within, albumDialect] using hdeep
    · simp [Within, albumDialect]

/-! ### What the reader of removal requests accepts -/

/-- A value of a flat object: a string, a number or null. -/
def IsFlatValue {ν : Type} : JsonTree ν .value → Prop
  | .null => True
  | .number _ => True
  | .text _ => True
  | _ => False

/-- Every member has a value of the given kind. -/
def AllMembers {ν : Type} (p : JsonTree ν .value → Prop) : JsonTree ν .members → Prop
  | .noMembers => True
  | .member _ head tail => p head ∧ AllMembers p tail

/-- The text starts with what ends a value. -/
def RemovalEnds (text : Text) : Prop := ∀ unit ∈ text.head?, endsRemovalValue unit = true

theorem digit_unit (digit : Digit) :
    endsRemovalValue (digitUnit digit) = false ∧ digitUnit digit ≠ quote ∧
      digitUnit digit ≠ 0x6E := by
  revert digit
  decide

theorem number_unit {token : NumberToken} {unit : UInt16} (h : unit ∈ token.text) :
    endsRemovalValue unit = false ∧ unit ≠ quote ∧ unit ≠ 0x6E := by
  rcases NumberToken.mem_text h with ⟨digit, rfl⟩ | h
  · exact digit_unit digit
  · simp only [List.mem_cons, List.not_mem_nil, or_false] at h
    rcases h with rfl | rfl | rfl | rfl | rfl <;> decide

/-- A number token is cut out of the text as a whole. -/
theorem cut_number (token : NumberToken) {rest : Text} (h : RemovalEnds rest) :
    ((token.text ++ rest).takeWhile fun u => !endsRemovalValue u) = token.text ∧
      ((token.text ++ rest).dropWhile fun u => !endsRemovalValue u) = rest := by
  have hall : ∀ unit ∈ token.text, (!endsRemovalValue unit) = true := by
    intro unit hunit
    simp [(number_unit hunit).1]
  rw [List.takeWhile_append_of_pos hall, List.dropWhile_append_of_pos hall]
  cases rest with
  | nil => simp
  | cons unit rest =>
    have hunit : endsRemovalValue unit = true := h unit (by simp)
    simp [hunit]

/-- What the strict reader accepts in a text without an end of a value is a number. -/
theorem number_of_slice {slice : Text} {value : JsonTree Number .value}
    (hslice : ∀ unit ∈ slice, endsRemovalValue unit = false) (hquote : quote ∉ slice.head?)
    (h : parseStrictAlbumJson slice = some value) :
    ∃ token n, token.text = slice ∧ albumNumber token = some n ∧ value = .number n := by
  rw [parseStrictAlbumJson, Dialect.read_eq_some] at h
  obtain ⟨source, ⟨before, spelled, after, hb, hspelled, ha, rfl⟩, hread, hallows, -⟩ := h
  have hnone : ∀ blank : Text, Blank blank → (∀ unit ∈ blank, endsRemovalValue unit = false) →
      blank = [] := by
    intro blank hblank hnot
    apply List.eq_nil_iff_forall_not_mem.mpr
    intro unit hunit
    have hspace := hblank unit hunit
    have hends := hnot unit hunit
    simp [endsRemovalValue, hspace] at hends
  obtain rfl := hnone before hb fun u hu => hslice u (by simp [hu])
  obtain rfl := hnone after ha fun u hu => hslice u (by simp [hu])
  simp only [List.nil_append, List.append_nil] at hslice hquote ⊢
  have hbrace : closeBrace ∉ spelled := by
    intro hmem
    have hends := hslice _ hmem
    simp [endsRemovalValue] at hends
  cases hspelled with
  | null => exact absurd (hallows.plain rfl) (by simp [JsonTree.Plain])
  | boolean b => exact absurd (hallows.plain rfl) (by simp [JsonTree.Plain])
  | number token =>
    simp only [JsonTree.traverse, Option.map_eq_some_iff] at hread
    obtain ⟨n, hn, rfl⟩ := hread
    exact ⟨token, n, rfl, hn, rfl⟩
  | text h => simp at hquote
  | emptyArray => exact absurd (hallows.plain rfl) (by simp [JsonTree.Plain])
  | array => exact absurd (hallows.plain rfl) (by simp [JsonTree.Plain])
  | emptyObject => simp at hbrace
  | object => simp at hbrace

theorem parse_number {token : NumberToken} {n : Number} (h : albumNumber token = some n) :
    parseStrictAlbumJson token.text = some (.number n) := by
  rw [parseStrictAlbumJson, Dialect.read_eq_some]
  refine ⟨.number token, ⟨[], token.text, [], by simp [Blank], .number token, by simp [Blank],
    by simp⟩, by simp [JsonTree.traverse, albumDialect, h], ?_, ?_, ?_⟩
  · exact ⟨fun _ _ => rfl, fun _ => trivial, fun _ => trivial⟩
  · simp [Within, JsonTree.depth]
  · simp [Within, albumDialect]

theorem take_null {text : Text} (h : text.take 4 = nullName) : text = nullName ++ text.drop 4 := by
  rw [← h, List.take_append_drop]

theorem removalValue_sound {text rest : Text} {value : JsonTree Number .value}
    (h : removalValue text = some (value, rest)) :
    ∃ source spelled, Spells source spelled ∧ text = spelled ++ rest ∧
      source.traverse albumNumber = some value ∧ IsFlatValue source := by
  have hcut : ∀ {slice tail : Text} {found : JsonTree Number .value},
      text = slice ++ tail → (∀ unit ∈ slice, endsRemovalValue unit = false) →
      quote ∉ slice.head? → parseStrictAlbumJson slice = some found →
      ∃ source spelled, Spells source spelled ∧ text = spelled ++ tail ∧
        source.traverse albumNumber = some found ∧ IsFlatValue source := by
    intro slice tail found htext hslice hquote hparse
    obtain ⟨token, n, rfl, hn, rfl⟩ := number_of_slice hslice hquote hparse
    exact ⟨.number token, _, .number token, htext, by simp [JsonTree.traverse, hn], trivial⟩
  cases text with
  | nil =>
    simp only [removalValue, Option.map_eq_some_iff, Prod.mk.injEq] at h
    obtain ⟨found, hparse, rfl, rfl⟩ := h
    exact hcut rfl (by simp) (by simp) hparse
  | cons unit tail =>
    simp only [removalValue] at h
    split at h
    · next hunit =>
      subst hunit
      simp only [Option.map_eq_some_iff, Prod.mk.injEq] at h
      obtain ⟨⟨content, after⟩, hread, rfl, rfl⟩ := h
      obtain ⟨-, spelled, hspelled, rfl⟩ := Dialect.readText_eq_some.mp hread
      exact ⟨.text content, _, .text hspelled, by simp, rfl, trivial⟩
    · next hunit =>
      split at h
      · next hnull =>
        simp only [Option.some.injEq, Prod.mk.injEq] at h
        obtain ⟨rfl, rfl⟩ := h
        exact ⟨.null, _, .null, take_null hnull, rfl, trivial⟩
      · simp only [Option.map_eq_some_iff, Prod.mk.injEq] at h
        obtain ⟨found, hparse, rfl, rfl⟩ := h
        refine hcut List.takeWhile_append_dropWhile.symm ?_ ?_ hparse
        · intro u hu
          simpa using List.mem_takeWhile_imp hu
        · rw [List.head?_takeWhile]
          intro hmem
          simp only [List.head?_cons, Option.mem_def, Option.filter_eq_some_iff, Option.some.injEq] at hmem
          exact hunit hmem.1

theorem removalValue_complete {source : JsonTree NumberToken .value} {spelled rest : Text}
    {value : JsonTree Number .value} (h : Spells source spelled) (hflat : IsFlatValue source)
    (hvalue : source.traverse albumNumber = some value) (hrest : RemovalEnds rest) :
    removalValue (spelled ++ rest) = some (value, rest) := by
  cases h with
  | null =>
    simp only [JsonTree.traverse, Option.some.injEq] at hvalue
    subst hvalue
    rfl
  | number token =>
    simp only [JsonTree.traverse, Option.map_eq_some_iff] at hvalue
    obtain ⟨n, hn, rfl⟩ := hvalue
    obtain ⟨htake, hdrop⟩ := cut_number token hrest
    obtain ⟨unit, tail, htext, -⟩ := token.text_eq_cons
    have hmem : unit ∈ token.text := by simp [htext]
    obtain ⟨-, hquote, hnull⟩ := number_unit hmem
    have hname : (unit :: (tail ++ rest)).take 4 ≠ nullName := by
      intro h
      rw [List.take_succ_cons] at h
      exact hnull (List.cons.inj h).1
    have hparse := parse_number hn
    rw [htext, List.cons_append] at htake hdrop ⊢
    rw [htext] at hparse
    rw [removalValue, if_neg hquote, if_neg hname, htake, hdrop, hparse]
    rfl
  | text hcontent =>
    simp only [JsonTree.traverse, Option.some.injEq] at hvalue
    subst hvalue
    rename_i content written
    have hread : albumDialect.readText (written ++ quote :: rest) = some (content, rest) :=
      Dialect.readText_eq_some.mpr ⟨rfl, written, hcontent, rfl⟩
    simp [removalValue, hread]
  | boolean b => exact absurd hflat (by simp [IsFlatValue])
  | emptyArray => exact absurd hflat (by simp [IsFlatValue])
  | array => exact absurd hflat (by simp [IsFlatValue])
  | emptyObject => exact absurd hflat (by simp [IsFlatValue])
  | object => exact absurd hflat (by simp [IsFlatValue])

theorem removalMembers_sound {fuel : ℕ} : ∀ {seen : List Text} {text rest : Text}
    {members : JsonTree Number .members},
    removalMembers fuel seen text = some (members, rest) →
      ∃ source body, Spells source body ∧ text = body ++ closeBrace :: rest ∧
        source.traverse albumNumber = some members ∧ AllMembers IsFlatValue source ∧
        source.names.Nodup ∧ ∀ name ∈ source.names, name ∉ seen := by
  induction fuel with
  | zero => simp [removalMembers]
  | succ fuel ih =>
    intro seen text rest members h
    simp only [removalMembers, Option.bind_eq_bind, Option.bind_eq_some_iff] at h
    obtain ⟨quoted, hquote, ⟨name, named⟩, hname, h⟩ := h
    rw [Option.ite_none_left_eq_some] at h
    obtain ⟨hseen, h⟩ := h
    simp only [Option.bind_eq_some_iff] at h
    obtain ⟨colonRest, hcolon, ⟨head, after⟩, hhead, h⟩ := h
    obtain ⟨start, hstart, rfl⟩ := expect_eq_some hquote
    obtain ⟨-, written, hwritten, rfl⟩ := Dialect.readText_eq_some.mp hname
    obtain ⟨between, hbetween, rfl⟩ := expect_eq_some hcolon
    obtain ⟨before, hb, htext, -⟩ := exists_blank colonRest
    obtain ⟨source, spelled, hspelled, hskip, hvalue, hflat⟩ := removalValue_sound hhead
    rw [hskip] at htext
    subst htext
    dsimp only at h
    split at h
    · next tail hclose =>
      simp only [Option.some.injEq, Prod.mk.injEq] at h
      obtain ⟨rfl, rfl⟩ := h
      obtain ⟨blank, hblank, rfl⟩ := expect_eq_some hclose
      refine ⟨.member name source .noMembers, _,
        .lastMember hstart hwritten hbetween hb hspelled hblank, by simp, ?_,
        by simp [AllMembers, hflat], ?_, ?_⟩
      · simp [JsonTree.traverse, hvalue]
      · simp [JsonTree.names]
      · simpa [JsonTree.names] using hseen
    · simp only [Option.bind_eq_some_iff, Option.some.injEq, Prod.mk.injEq] at h
      obtain ⟨tail, hcomma, ⟨others, last⟩, hothers, rfl, rfl⟩ := h
      obtain ⟨blank, hblank, rfl⟩ := expect_eq_some hcomma
      obtain ⟨remaining, body, hbody, rfl, hremaining, hflats, hnodup, hfresh⟩ := ih hothers
      refine ⟨.member name source remaining, _,
        .member hstart hwritten hbetween hb hspelled hblank hbody, by simp, ?_,
        by simp [AllMembers, hflat, hflats], ?_, ?_⟩
      · simp [JsonTree.traverse, hvalue, hremaining]
      · simp only [JsonTree.names, List.nodup_cons]
        refine ⟨fun hmem => ?_, hnodup⟩
        exact hfresh name hmem (by simp)
      · simp only [JsonTree.names, List.forall_mem_cons]
        refine ⟨hseen, fun other hother hmem => ?_⟩
        exact hfresh other hother (by simp [hmem])

theorem removalEnds_append {blank : Text} {unit : UInt16} (rest : Text) (hb : Blank blank)
    (hunit : endsRemovalValue unit = true) : RemovalEnds (blank ++ unit :: rest) := by
  cases blank with
  | nil =>
    intro first hfirst
    simp only [List.nil_append, List.head?_cons, Option.mem_def, Option.some.injEq] at hfirst
    exact hfirst ▸ hunit
  | cons space blank =>
    intro first hfirst
    simp only [List.cons_append, List.head?_cons, Option.mem_def, Option.some.injEq] at hfirst
    have hspace : isSpace space = true := hb space (by simp)
    simp [endsRemovalValue, ← hfirst, hspace]

/-- White space before a value is skipped and the value is left. -/
theorem skipSpace_value {source : JsonTree NumberToken .value} {before spelled rest : Text}
    (hb : Blank before) (h : Spells source spelled) :
    skipSpace (before ++ (spelled ++ rest)) = spelled ++ rest := by
  obtain ⟨unit, tail, rfl, hunit, -⟩ := Dialect.value_starts h rfl
  rw [skipSpace_append hb]
  apply skipSpace_of_inked
  simp [Inked, hunit]

theorem removalMembers_complete {fuel : ℕ} : ∀ {source : JsonTree NumberToken .members}
    {body : Text} {seen : List Text} {rest : Text} {members : JsonTree Number .members},
    Spells source body → body.length ≤ fuel → source.traverse albumNumber = some members →
      AllMembers IsFlatValue source → source.names.Nodup → (∀ name ∈ source.names, name ∉ seen) →
        removalMembers fuel seen (body ++ closeBrace :: rest) = some (members, rest) := by
  induction fuel with
  | zero =>
    intro source body seen rest members h hfuel
    cases h <;> simp at hfuel
  | succ fuel ih =>
    intro source body seen rest members h hfuel hmembers hflat hnodup hfresh
    have hq : isSpace quote = false := by decide
    have hc : isSpace colon = false := by decide
    cases h with
    | lastMember hs hn hm hb h ha =>
      rename_i name head start written between before spelled after
      simp only [JsonTree.traverse, Option.bind_eq_bind, Option.bind_eq_some_iff, Option.some.injEq]
        at hmembers
      obtain ⟨value, hvalue, _, rfl, rfl⟩ := hmembers
      have hflathead : IsFlatValue head := by simpa [AllMembers] using hflat
      have hseen : name ∉ seen := hfresh name (by simp [JsonTree.names])
      have hname : albumDialect.readText (written ++ quote :: (between ++ colon ::
          (before ++ (spelled ++ (after ++ closeBrace :: rest))))) = some (name, _) :=
        Dialect.readText_eq_some.mpr ⟨rfl, written, hn, rfl⟩
      have hhead := removalValue_complete h hflathead hvalue
        (removalEnds_append rest ha (by decide : endsRemovalValue closeBrace = true))
      have hclose : expect closeBrace (after ++ closeBrace :: rest) = some rest :=
        expect_append ha (by decide)
      simp [removalMembers, expect_append hs, expect_append hm, hq, hc, hname, hseen,
        skipSpace_value hb h, hhead, hclose]
    | member hs hn hm hb h ha ht =>
      rename_i name head tail start written between before spelled after body
      simp only [JsonTree.traverse, Option.bind_eq_bind, Option.bind_eq_some_iff, Option.some.injEq]
        at hmembers
      obtain ⟨value, hvalue, others, hothers, rfl⟩ := hmembers
      simp only [AllMembers] at hflat
      simp only [JsonTree.names, List.nodup_cons, List.forall_mem_cons] at hnodup hfresh
      have hname : albumDialect.readText (written ++ quote :: (between ++ colon ::
          (before ++ (spelled ++ (after ++ comma :: (body ++ closeBrace :: rest)))))) = some (name, _) :=
        Dialect.readText_eq_some.mpr ⟨rfl, written, hn, rfl⟩
      have hhead := removalValue_complete h hflat.1 hvalue
        (removalEnds_append (body ++ closeBrace :: rest) ha
          (by decide : endsRemovalValue comma = true))
      have hclose : expect closeBrace (after ++ comma :: (body ++ closeBrace :: rest)) = none :=
        expect_eq_none ha (by decide) (by decide)
      have hcomma : expect comma (after ++ comma :: (body ++ closeBrace :: rest)) =
          some (body ++ closeBrace :: rest) := expect_append ha (by decide)
      have htail : removalMembers fuel (name :: seen) (body ++ closeBrace :: rest) =
          some (others, rest) := by
        refine ih ht ?_ hothers hflat.2 hnodup.2 ?_
        · simp only [List.length_append, List.length_cons] at hfuel
          omega
        · intro other hother hmem
          rcases List.mem_cons.mp hmem with rfl | hmem
          · exact hnodup.1 hother
          · exact hfresh.2 other hother hmem
      simp [removalMembers, expect_append hs, expect_append hm, hq, hc, hname, hfresh.1,
        skipSpace_value hb h, hhead, hclose, hcomma, htail]

/-- A removal request is read exactly when it is one flat object of at most 4096 bytes whose
    names differ and whose numbers the strict reader accepts. -/
theorem removalJson_eq_some {raw : Text} {members : JsonTree Number .members} :
    removalJson raw = some members ↔
      utf8Length raw ≤ 4096 ∧ ∃ source, Document (.object source) raw ∧
        source.traverse albumNumber = some members ∧ AllMembers IsFlatValue source ∧
        source.names.Nodup := by
  rw [removalJson, Option.ite_none_left_eq_some, not_lt]
  refine and_congr_right fun hbytes => ?_
  simp only [Option.bind_eq_bind, Option.bind_eq_some_iff, Option.ite_none_right_eq_some,
    Option.some.injEq]
  constructor
  · rintro ⟨opened, hopen, ⟨found, rest⟩, hread, hblank, rfl⟩
    obtain ⟨before, hb, rfl⟩ := expect_eq_some hopen
    have ha := skipSpace_eq_nil.mp hblank
    simp only [removalBody] at hread
    split at hread
    · next tail hclose =>
      simp only [Option.some.injEq, Prod.mk.injEq] at hread
      obtain ⟨rfl, rfl⟩ := hread
      obtain ⟨space, hspace, rfl⟩ := expect_eq_some hclose
      exact ⟨.noMembers, ⟨before, _, tail, hb, .emptyObject hspace, ha, by simp⟩, rfl,
        by simp [AllMembers], by simp [JsonTree.names]⟩
    · obtain ⟨source, body, hbody, rfl, hvalue, hflat, hnodup, -⟩ := removalMembers_sound hread
      exact ⟨source, ⟨before, _, rest, hb, .object hbody, ha, by simp⟩, hvalue, hflat, hnodup⟩
  · rintro ⟨source, ⟨before, spelled, after, hb, hspelled, ha, rfl⟩, hvalue, hflat, hnodup⟩
    cases hspelled with
    | emptyObject hspace =>
      rename_i blank
      simp only [JsonTree.traverse, Option.some.injEq] at hvalue
      subst hvalue
      have hclose : expect closeBrace (blank ++ closeBrace :: after) = some after :=
        expect_append hspace (by decide)
      refine ⟨blank ++ closeBrace :: after, ?_, (.noMembers, after), by simp [removalBody, hclose],
        skipSpace_eq_nil.mpr ha, rfl⟩
      have hopen : expect openBrace (before ++ openBrace :: (blank ++ closeBrace :: after)) =
          some (blank ++ closeBrace :: after) := expect_append hb (by decide)
      simpa using hopen
    | object hbody =>
      rename_i body
      have hclose : expect closeBrace (body ++ closeBrace :: after) = none := by
        obtain ⟨start, tail, hstart, rfl⟩ := Dialect.members_start hbody rfl
        simpa using expect_eq_none hstart (by decide) (by decide)
      refine ⟨body ++ closeBrace :: after, ?_, (members, after), ?_, skipSpace_eq_nil.mpr ha, rfl⟩
      · have hopen : expect openBrace (before ++ openBrace :: (body ++ closeBrace :: after)) =
            some (body ++ closeBrace :: after) := expect_append hb (by decide)
        simpa using hopen
      · rw [removalBody, hclose]
        refine removalMembers_complete hbody ?_ hvalue hflat hnodup (by simp)
        simp only [List.length_append, List.length_cons]
        omega

/-! ### Both readers -/

/-- A string of the engine: its length is bounded. -/
structure JsString where
  units : Text
  bounded : units.length ≤ 536870888

/-- A value of a flat object without null. -/
def IsFlatNonnull {ν : Type} : JsonTree ν .value → Prop
  | .number _ => True
  | .text _ => True
  | _ => False

/-- A conversion keeps the kinds of the members. -/
theorem allMembers_traverse {source : JsonTree NumberToken .members} :
    ∀ {members : JsonTree Number .members}, source.traverse albumNumber = some members →
      (AllMembers IsFlatNonnull members ↔ AllMembers IsFlatNonnull source) := by
  cases source with
  | noMembers =>
    intro members h
    simp only [JsonTree.traverse, Option.some.injEq] at h
    subst h
    simp [AllMembers]
  | member name head tail =>
    intro members h
    simp only [JsonTree.traverse, Option.bind_eq_bind, Option.bind_eq_some_iff, Option.some.injEq] at h
    obtain ⟨value, hvalue, others, hothers, rfl⟩ := h
    have htail := allMembers_traverse hothers
    have hhead : IsFlatNonnull value ↔ IsFlatNonnull head := by
      cases head <;> simp only [JsonTree.traverse, Option.some.injEq, Option.map_eq_some_iff] at hvalue
      case number =>
        obtain ⟨n, -, rfl⟩ := hvalue
        simp [IsFlatNonnull]
      case array =>
        obtain ⟨items, -, rfl⟩ := hvalue
        simp [IsFlatNonnull]
      case object =>
        obtain ⟨members, -, rfl⟩ := hvalue
        simp [IsFlatNonnull]
      all_goals
        subst hvalue
        simp [IsFlatNonnull]
    simp [AllMembers, hhead, htail]

/-- A flat object without null is within what the strict reader accepts. -/
theorem flat_facts {source : JsonTree NumberToken .members} (h : AllMembers IsFlatNonnull source) :
    AllMembers IsFlatValue source ∧ source.Plain ∧ source.Distinct ∧ source.depth ≤ 1 := by
  cases source with
  | noMembers => simp [AllMembers, JsonTree.Plain, JsonTree.Distinct, JsonTree.depth]
  | member name head tail =>
    simp only [AllMembers] at h
    obtain ⟨hflat, hplain, hdistinct, hdepth⟩ := flat_facts h.2
    cases head with
    | number n => simp [AllMembers, IsFlatValue, JsonTree.Plain, JsonTree.Distinct, JsonTree.depth, *]
    | text content =>
      simp [AllMembers, IsFlatValue, JsonTree.Plain, JsonTree.Distinct, JsonTree.depth, *]
    | null => exact absurd h.1 (by simp [IsFlatNonnull])
    | boolean => exact absurd h.1 (by simp [IsFlatNonnull])
    | array => exact absurd h.1 (by simp [IsFlatNonnull])
    | object => exact absurd h.1 (by simp [IsFlatNonnull])

/-- The strict reader accepts a text exactly when it is a value of objects, strings and
    numbers with a nesting of at most three, no repeated name, and only numbers that denote a
    nonnegative safe integer with an exponent within the bound, and then returns these
    integers; on the texts of at most 4096 bytes the reader of removal requests returns the
    same flat objects without null. -/
theorem album_json_readers (raw : JsString) :
    (∀ tree, parseStrictAlbumJson raw.units = some tree ↔
      ∃ source, Document source raw.units ∧ source.Plain ∧ source.Distinct ∧ source.depth ≤ 3 ∧
        (∀ token ∈ source.numbers, AlbumNumeral token) ∧ source.map exactNumber = tree) ∧
    ∀ fields, removalJson raw.units = some fields ∧ AllMembers IsFlatNonnull fields ↔
      utf8Length raw.units ≤ 4096 ∧ parseStrictAlbumJson raw.units = some (.object fields) ∧
        AllMembers IsFlatNonnull fields := by
  constructor
  · intro tree
    exact parseStrictAlbumJson_eq_some (raw.bounded.trans (by decide))
  · intro fields
    rw [removalJson_eq_some, and_assoc]
    refine and_congr_right fun hbytes => and_congr_left fun hfields => ?_
    rw [parseStrictAlbumJson, Dialect.read_eq_some]
    constructor
    · rintro ⟨source, hsource, hvalue, hflat, hnodup⟩
      obtain ⟨-, hplain, hdistinct, hdepth⟩ := flat_facts ((allMembers_traverse hvalue).mp hfields)
      refine ⟨.object source, hsource, by simp [JsonTree.traverse, albumDialect, hvalue],
        ⟨fun _ _ => rfl, fun _ => ⟨hnodup, hdistinct⟩, fun _ => hplain⟩, ?_, ?_⟩
      · simp only [Within, albumDialect, Option.mem_def, Option.some.injEq, forall_eq', JsonTree.depth]
        omega
      · simp [Within, albumDialect]
    · rintro ⟨source, hsource, hvalue, hallows, -, -⟩
      cases source with
      | object members =>
        simp only [JsonTree.traverse, Option.map_eq_some_iff, JsonTree.object.injEq,
          exists_eq_right] at hvalue
        have hvalue' : members.traverse albumNumber = some fields := hvalue
        exact ⟨members, hsource, hvalue',
          (flat_facts ((allMembers_traverse hvalue').mp hfields)).1, (hallows.distinct rfl).1⟩
      | _ => simp [JsonTree.traverse] at hvalue

/-- A number on its own and a string with half of a surrogate pair are accepted, and a short
    object in a long text is refused by the reader of removal requests only. -/
theorem album_json_readers_broader :
    parseStrictAlbumJson (units ['7']) = some (.number (.finite false 7)) ∧
    (∀ members, ¬Document (.object members) (units ['7'])) ∧
    parseStrictAlbumJson ([openBrace, quote, 0x61, quote, colon, quote, backslash] ++
        units ['u', 'd', '8', '0', '0'] ++ [quote, closeBrace]) =
      some (.object (.member (units ['a']) (.text [0xD800]) .noMembers)) ∧
    hasLoneSurrogate [0xD800] = true ∧
    parseStrictAlbumJson (List.replicate 4096 0x20 ++ units ['{', '}']) =
      some (.object .noMembers) ∧
    removalJson (List.replicate 4096 0x20 ++ units ['{', '}']) = none := by
  have hseven : Document (.number (digitToken 7)) (units ['7']) :=
    ⟨[], _, [], by simp [Blank], .number _, by simp [Blank], by decide⟩
  have hspaces : Blank (List.replicate 4096 0x20) := by
    intro unit hunit
    rw [List.eq_of_mem_replicate hunit]
    decide
  refine ⟨?_, ?_, by decide +kernel, by decide, ?_, ?_⟩
  · rw [parseStrictAlbumJson_eq_some (by decide)]
    refine ⟨_, hseven, trivial, trivial, by simp [JsonTree.depth], ?_, ?_⟩
    · have hvalue : (digitToken 7).value = (7 : ℕ) := digitToken_value 7
      simp only [JsonTree.numbers, List.forall_mem_singleton]
      exact ⟨by decide, 7, by decide, hvalue⟩
    · rw [JsonTree.map, exactNumber, digitToken_value]
      rfl
  · intro members h
    exact absurd (h.unique hseven) (by simp)
  · have hlength : (List.replicate 4096 0x20 ++ units ['{', '}']).length ≤ 2 ^ 30 := by
      rw [List.length_append, List.length_replicate]
      decide
    rw [parseStrictAlbumJson_eq_some hlength]
    exact ⟨.object .noMembers, ⟨_, _, [], hspaces, .emptyObject (by simp [Blank] : Blank []),
      by simp [Blank], by rfl⟩, trivial,
      by simp [JsonTree.Distinct, JsonTree.names], by simp [JsonTree.depth],
      by simp [JsonTree.numbers], rfl⟩
  · rw [removalJson, if_pos]
    rw [utf8Length_blank hspaces, List.length_replicate]
    decide

end FlickrGroupAddr

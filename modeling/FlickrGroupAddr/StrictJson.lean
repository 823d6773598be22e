import FlickrGroupAddr.Lib.Binary64
import FlickrGroupAddr.Lib.JsonReader
import FlickrGroupAddr.Lib.Utf8

/-!
# Strict JSON

`SharedReadTransport.decode`: a check of the bytes, a scan by the strict grammar, the
bundled `dkjson` decoder, and a walk over what it returns.  `GroupDiscoveryClient` and
`SubmissionStatusClient` hold copies of the scanner.  A position is the text after it.
-/

namespace FlickrGroupAddr

set_option autoImplicit false

open JsonText

/-- A Lua string. -/
abbrev Bytes := List UInt8

instance lawfulBytes : LawfulBEq Bytes := inferInstance

/-! ## The check of the bytes -/

/-- `utf8`. -/
def utf8Valid : Bytes → Bool
  | [] => true
  | a :: rest =>
    if a.toNat < 128 then utf8Valid rest
    else if 194 ≤ a.toNat ∧ a.toNat ≤ 223 then
      match rest with
      | b :: rest => decide (128 ≤ b.toNat ∧ b.toNat ≤ 191) && utf8Valid rest
      | [] => false
    else if 224 ≤ a.toNat ∧ a.toNat ≤ 239 then
      match rest with
      | b :: c :: rest =>
        decide ((128 ≤ b.toNat ∧ b.toNat ≤ 191) ∧ 128 ≤ c.toNat ∧ c.toNat ≤ 191 ∧
          ¬ ((a.toNat = 224 ∧ b.toNat < 160) ∨ (a.toNat = 237 ∧ 159 < b.toNat))) && utf8Valid rest
      | _ => false
    else if 240 ≤ a.toNat ∧ a.toNat ≤ 244 then
      match rest with
      | b :: c :: d :: rest =>
        decide ((128 ≤ b.toNat ∧ b.toNat ≤ 191) ∧ (128 ≤ c.toNat ∧ c.toNat ≤ 191) ∧
          128 ≤ d.toNat ∧ d.toNat ≤ 191 ∧
          ¬ ((a.toNat = 240 ∧ b.toNat < 144) ∨ (a.toNat = 244 ∧ 143 < b.toNat))) && utf8Valid rest
      | _ => false
    else false

/-- The check takes one character at a time. -/
theorem utf8Valid_append {front rest : Bytes} (h : CharBytes front) :
    utf8Valid (front ++ rest) = utf8Valid rest := by
  cases h with
  | one ha =>
      rw [List.singleton_append, utf8Valid.eq_def]
      dsimp only
      rw [if_pos ha]
  | two ha ha' hb =>
      unfold Tail at hb
      rw [List.cons_append, List.singleton_append, utf8Valid.eq_def]
      dsimp only
      rw [if_neg (by omega), if_pos ⟨ha, ha'⟩, decide_eq_true (by omega), Bool.true_and]
  | three ha ha' hb hc hlow hhigh =>
      unfold Tail at hb hc
      rw [List.cons_append, List.cons_append, List.singleton_append, utf8Valid.eq_def]
      dsimp only
      rw [if_neg (by omega), if_neg (by omega), if_pos ⟨ha, ha'⟩, decide_eq_true (by omega),
        Bool.true_and]
  | four ha ha' hb hc hd hlow hhigh =>
      unfold Tail at hb hc hd
      rw [List.cons_append, List.cons_append, List.cons_append, List.singleton_append,
        utf8Valid.eq_def]
      dsimp only
      rw [if_neg (by omega), if_neg (by omega), if_neg (by omega), if_pos ⟨ha, ha'⟩,
        decide_eq_true (by omega), Bool.true_and]

/-- What passes the check is empty, or starts with the bytes of a character. -/
theorem exists_charBytes {bytes : Bytes} (h : utf8Valid bytes = true) (hne : bytes ≠ []) :
    ∃ front rest, bytes = front ++ rest ∧ CharBytes front ∧ utf8Valid rest = true := by
  obtain ⟨a, rest, rfl⟩ := List.exists_cons_of_ne_nil hne
  rw [utf8Valid.eq_def] at h
  dsimp only at h
  split at h
  · next ha => exact ⟨[a], rest, rfl, CharBytes.one ha, h⟩
  · split at h
    · next ha =>
        split at h
        · next b rest =>
            rw [Bool.and_eq_true, decide_eq_true_eq] at h
            exact ⟨[a, b], rest, rfl, CharBytes.two ha.1 ha.2 h.1, h.2⟩
        · cases h
    · split at h
      · next ha =>
          split at h
          · next b c rest =>
              rw [Bool.and_eq_true, decide_eq_true_eq] at h
              obtain ⟨⟨hb, hc, hc', hextra⟩, h⟩ := h
              exact ⟨[a, b, c], rest, rfl,
                CharBytes.three ha.1 ha.2 hb ⟨hc, hc'⟩ (by omega) (by omega), h⟩
          · cases h
      · split at h
        · next ha =>
            split at h
            · next b c d rest =>
                rw [Bool.and_eq_true, decide_eq_true_eq] at h
                obtain ⟨⟨hb, hc, hd, hd', hextra⟩, h⟩ := h
                exact ⟨[a, b, c, d], rest, rfl,
                  CharBytes.four ha.1 ha.2 hb hc ⟨hd, hd'⟩ (by omega) (by omega), h⟩
            · cases h
        · cases h

/-- The bytes that pass the check are the bytes of texts. -/
theorem utf8Valid_iff {bytes : Bytes} : utf8Valid bytes = true ↔ ∃ chars, bytes = utf8 chars := by
  constructor
  · intro h
    induction hlength : bytes.length using Nat.strong_induction_on generalizing bytes with
    | _ n ih =>
      by_cases hne : bytes = []
      · exact ⟨[], hne⟩
      · obtain ⟨front, rest, rfl, hfront, hrest⟩ := exists_charBytes h hne
        obtain ⟨c, rfl⟩ := hfront.exists_char
        have hpos := List.length_pos_of_ne_nil (String.utf8EncodeChar_ne_nil (c := c))
        rw [List.length_append] at hlength
        obtain ⟨chars, rfl⟩ := ih _ (by omega) hrest rfl
        exact ⟨c :: chars, (utf8_cons c chars).symm⟩
  · rintro ⟨chars, rfl⟩
    induction chars with
    | nil => rfl
    | cons c chars ih => rw [utf8_cons, utf8Valid_append (charBytes c), ih]

/-! ## The decoder -/

/-- `unichar` of dkjson. -/
def unichar (value : Nat) : Bytes :=
  if value ≤ 0x7F then [.ofNat value]
  else if value ≤ 0x7FF then [.ofNat (0xC0 + value / 0x40), .ofNat (0x80 + value % 0x40)]
  else if value ≤ 0xFFFF then
    [.ofNat (0xE0 + value / 0x1000), .ofNat (0x80 + value / 0x40 % 0x40),
      .ofNat (0x80 + value % 0x40)]
  else
    [.ofNat (0xF0 + value / 0x40000), .ofNat (0x80 + value / 0x1000 % 0x40),
      .ofNat (0x80 + value / 0x40 % 0x40), .ofNat (0x80 + value % 0x40)]

/-- The Lua string of a content: pairs of surrogates are combined, a half alone is kept. -/
def luaString : Text → Bytes
  | [] => []
  | unit :: rest =>
    if isHighSurrogate unit then
      match rest with
      | [] => unichar unit.toNat
      | next :: after =>
        if isLowSurrogate next then
          unichar ((unit.toNat - 0xD800) * 0x400 + (next.toNat - 0xDC00) + 0x10000) ++
            luaString after
        else unichar unit.toNat ++ luaString (next :: after)
    else unichar unit.toNat ++ luaString rest

/-- What the decoder returns: `json.null`, a plain value, or a table of one of two types. -/
inductive LuaValue where
  | null
  | boolean (value : Bool)
  | number (value : Binary64.Number)
  | text (value : Bytes)
  | array (items : List LuaValue)
  | object (members : List (Bytes × LuaValue))

/-- The number of a token is the nearest one. -/
def luaNumber (token : NumberToken) : Binary64.Number :=
  Binary64.ofMagnitude token.negative token.magnitude

mutual

/-- The value that a tree stands for. -/
def denote : JsonTree NumberToken .value → LuaValue
  | .null => .null
  | .boolean b => .boolean b
  | .number token => .number (luaNumber token)
  | .text content => .text (luaString content)
  | .array items => .array (denoteItems items)
  | .object members => .object (denoteMembers members)

def denoteItems : JsonTree NumberToken .items → List LuaValue
  | .noItems => []
  | .item head tail => denote head :: denoteItems tail

def denoteMembers : JsonTree NumberToken .members → List (Bytes × LuaValue)
  | .noMembers => []
  | .member name head tail => (luaString name, denote head) :: denoteMembers tail

end

/-- `json.decode` on a text: the value and the position after it, none where it reports an
error. -/
abbrev Decoder := Bytes → Option (LuaValue × Nat)

/-- White space of the grammar. -/
def isWhite (byte : UInt8) : Bool :=
  byte == ' '.toUInt8 || byte == '\t'.toUInt8 || byte == '\r'.toUInt8 || byte == '\n'.toUInt8

/-- The decoder decodes the texts of the grammar correctly. -/
def Decoder.Correct (json : Decoder) : Prop :=
  ∀ bytes text tree, SameText bytes text → Document tree text → tree.depth < 32 → tree.Distinct →
    ∃ position, json bytes = some (denote tree, position) ∧
      ∀ byte ∈ bytes.drop (position - 1), isWhite byte = true

/-! ## The scanner -/

/-- `MAX_RESPONSE_BYTES`. -/
def maxResponseBytes : Nat := 2097152

namespace StrictJson

/-- `white`. -/
def white (text : Bytes) : Bytes := text.dropWhile isWhite

def isHex (byte : UInt8) : Bool :=
  ('0'.toUInt8 ≤ byte && byte ≤ '9'.toUInt8) || ('a'.toUInt8 ≤ byte && byte ≤ 'f'.toUInt8) ||
    ('A'.toUInt8 ≤ byte && byte ≤ 'F'.toUInt8)

def isDigit (byte : UInt8) : Bool := '0'.toUInt8 ≤ byte && byte ≤ '9'.toUInt8

/-- The letters after a backslash, other than `u`. -/
def letters : Bytes := ['"', '\\', '/', 'b', 'f', 'n', 'r', 't'].map Char.toUInt8

/-- The rest of a string with its closing quote, and the text after it. -/
def stringTail : Bytes → Option (Bytes × Bytes)
  | [] => none
  | current :: rest =>
    if current = '"'.toUInt8 then some ([current], rest)
    else if current.toNat < 32 then none
    else if current = '\\'.toUInt8 then
      match rest with
      | [] => none
      | letter :: rest =>
        if letter = 'u'.toUInt8 then
          match rest with
          | a :: b :: c :: d :: rest =>
            if isHex a && isHex b && isHex c && isHex d then
              (stringTail rest).map fun found =>
                (current :: letter :: a :: b :: c :: d :: found.1, found.2)
            else none
          | _ => none
        else if letter ∈ letters then
          (stringTail rest).map fun found => (current :: letter :: found.1, found.2)
        else none
    else (stringTail rest).map fun found => (current :: found.1, found.2)

/-- `jsonString`: the string literal at the start, and the text after it. -/
def jsonString : Bytes → Option (Bytes × Bytes)
  | [] => none
  | current :: rest =>
    if current = '"'.toUInt8 then (stringTail rest).map fun found => (current :: found.1, found.2)
    else none

/-- `digits`. -/
def digits : Bytes → Option Bytes
  | [] => none
  | current :: rest => if isDigit current then some (rest.dropWhile isDigit) else none

def dropMinus : Bytes → Bytes
  | [] => []
  | current :: rest => if current = '-'.toUInt8 then rest else current :: rest

def whole : Bytes → Option Bytes
  | [] => none
  | current :: rest =>
    if current = '0'.toUInt8 then some rest
    else if isDigit current then some (rest.dropWhile isDigit)
    else none

def fraction : Bytes → Option Bytes
  | [] => some []
  | current :: rest => if current = '.'.toUInt8 then digits rest else some (current :: rest)

def dropSign : Bytes → Bytes
  | [] => []
  | current :: rest =>
    if current = '+'.toUInt8 ∨ current = '-'.toUInt8 then rest else current :: rest

def exponent : Bytes → Option Bytes
  | [] => some []
  | current :: rest =>
    if current = 'e'.toUInt8 ∨ current = 'E'.toUInt8 then digits (dropSign rest)
    else some (current :: rest)

/-- The text after the number at the start. -/
def number (text : Bytes) : Option Bytes :=
  (whole (dropMinus text)).bind fun text => (fraction text).bind exponent

def literals : List Bytes :=
  [['t', 'r', 'u', 'e'], ['f', 'a', 'l', 's', 'e'], ['n', 'u', 'l', 'l']].map fun name =>
    name.map Char.toUInt8

/-- The text after the literal name at the start. -/
def literal (text : Bytes) : Option Bytes :=
  literals.findSome? fun name =>
    if name.isPrefixOf text then some (text.drop name.length) else none

/-- The loop of an array; one round for each item. -/
def items (value : Bytes → Option Bytes) : Nat → Bytes → Option Bytes
  | 0, _ => none
  | rounds + 1, text =>
    (value text).bind fun text =>
      match white text with
      | [] => none
      | current :: rest =>
        if current = ']'.toUInt8 then some rest
        else if current = ','.toUInt8 then items value rounds (white rest)
        else none

/-- The key that a string literal decodes to. -/
def decodedKey (json : Decoder) (rawKey : Bytes) : Option Bytes :=
  match json rawKey with
  | some (.text key, _) => some key
  | _ => none

/-- The loop of an object; the keys met so far must not come again. -/
def members (json : Decoder) (value : Bytes → Option Bytes) :
    Nat → List Bytes → Bytes → Option Bytes
  | 0, _, _ => none
  | rounds + 1, keys, text =>
    (jsonString text).bind fun (rawKey, text) =>
      (decodedKey json rawKey).bind fun key =>
        if key ∈ keys then none
        else
          match white text with
          | [] => none
          | current :: rest =>
            if current ≠ ':'.toUInt8 then none
            else
              (value rest).bind fun text =>
                match white text with
                | [] => none
                | current :: rest =>
                  if current = '}'.toUInt8 then some rest
                  else if current = ','.toUInt8 then
                    members json value rounds (key :: keys) (white rest)
                  else none

/-- `value`: the text after the value at the start, which may have this many levels. -/
def value (json : Decoder) : Nat → Bytes → Option Bytes
  | 0, _ => none
  | levels + 1, text =>
    match white text with
    | [] => none
    | current :: rest =>
      if current = '"'.toUInt8 then (stringTail rest).map Prod.snd
      else if current = '{'.toUInt8 then
        match white rest with
        | [] => none
        | next :: after =>
          if next = '}'.toUInt8 then some after
          else members json (value json levels) (after.length + 1) [] (next :: after)
      else if current = '['.toUInt8 then
        match white rest with
        | [] => none
        | next :: after =>
          if next = ']'.toUInt8 then some after
          else items (value json levels) (after.length + 1) (next :: after)
      else
        match literal (current :: rest) with
        | some text => some text
        | none => number (current :: rest)

end StrictJson

/-- `strictJson`. -/
def strictJson (json : Decoder) (body : Bytes) : Bool :=
  match StrictJson.value json 32 body with
  | none => false
  | some text => (StrictJson.white text).isEmpty

/-! ## `decode` -/

mutual

/-- `valid`: the walk over the decoded value. -/
def LuaValue.valid : Nat → LuaValue → Bool
  | depth, .null => decide (depth ≤ 32)
  | depth, .boolean _ => decide (depth ≤ 32)
  | depth, .number x => decide (depth ≤ 32) && decide x.IsFinite
  | depth, .text value => decide (depth ≤ 32) && utf8Valid value
  | depth, .array items => decide (depth ≤ 32) && validItems (depth + 1) items
  | depth, .object members => decide (depth ≤ 32) && validMembers (depth + 1) members

def LuaValue.validItems : Nat → List LuaValue → Bool
  | _, [] => true
  | depth, item :: rest => LuaValue.valid depth item && validItems depth rest

def LuaValue.validMembers : Nat → List (Bytes × LuaValue) → Bool
  | _, [] => true
  | depth, (key, item) :: rest =>
    utf8Valid key && LuaValue.valid depth item && validMembers depth rest

end

/-- `Module.decode`. -/
def decode (json : Decoder) (bytes : Bytes) : Option LuaValue :=
  if maxResponseBytes < bytes.length ∨ utf8Valid bytes = false ∨ strictJson json bytes = false then
    none
  else
    match json bytes with
    | none => none
    | some (value, position) =>
        if position ≠ bytes.length + 1 ∧
            (bytes.drop (position - 1)).any (fun byte => !isWhite byte) = true then none
        else if value.valid 1 then some value
        else none

/-! ## Decoded strings -/

/-- The bytes of a code point are those of its character. -/
theorem unichar_eq {n : Nat} (h : n < 0xD800 ∨ 0xDFFF < n ∧ n < 0x110000) :
    unichar n = String.utf8EncodeChar (Char.ofNat n) := by
  have hmod : ∀ m : Nat, m % 0x40 + 0x80 = 0x80 + m % 0x40 := fun m => Nat.add_comm _ _
  rw [utf8EncodeChar_ofNat h]
  unfold unichar
  simp only [hmod]
  split
  · rfl
  · split
    · next hsmall =>
        have hlead : n / 64 % 0x20 + 0xC0 = 0xC0 + n / 0x40 := by omega
        rw [hlead]
    · split
      · next hsmall =>
          have hlead : n / 4096 % 0x10 + 0xE0 = 0xE0 + n / 0x1000 := by omega
          rw [hlead]
      · have hlead : n / 262144 % 0x08 + 0xF0 = 0xF0 + n / 0x40000 := by omega
        rw [hlead]

theorem charBytes_unichar {n : Nat} (h : n < 0xD800 ∨ 0xDFFF < n ∧ n < 0x110000) :
    CharBytes (unichar n) := by
  rw [unichar_eq h]
  exact charBytes _

/-- The code point of a pair. -/
theorem pair_range {high low : UInt16} (hhigh : isHighSurrogate high = true)
    (hlow : isLowSurrogate low = true) :
    0x10000 ≤ (high.toNat - 0xD800) * 0x400 + (low.toNat - 0xDC00) + 0x10000 ∧
      (high.toNat - 0xD800) * 0x400 + (low.toNat - 0xDC00) + 0x10000 < 0x110000 := by
  rw [isHighSurrogate_iff] at hhigh
  rw [isLowSurrogate_iff] at hlow
  omega

theorem luaString_single {unit : UInt16} (h : isHighSurrogate unit = false) (rest : Text) :
    luaString (unit :: rest) = unichar unit.toNat ++ luaString rest := by
  rw [luaString.eq_def]
  simp [h]

theorem luaString_pair {high low : UInt16} (hhigh : isHighSurrogate high = true)
    (hlow : isLowSurrogate low = true) (rest : Text) :
    luaString (high :: low :: rest) =
      unichar ((high.toNat - 0xD800) * 0x400 + (low.toNat - 0xDC00) + 0x10000) ++
        luaString rest := by
  rw [luaString.eq_def]
  simp [hhigh, hlow]

/-- The string of a text of characters is its bytes. -/
theorem luaString_utf16 (chars : List Char) : luaString (utf16 chars) = utf8 chars := by
  induction chars with
  | nil => rfl
  | cons c chars ih =>
      have hrange := toNat_lt c
      rw [utf16_cons, utf8_cons, ← ih, encodeChar]
      split
      · next hsmall =>
          have hunit : (UInt16.ofNat c.toNat).toNat = c.toNat := by
            rw [UInt16.toNat_ofNat']
            omega
          have hhigh : isHighSurrogate (UInt16.ofNat c.toNat) = false := by
            rw [Bool.eq_false_iff, Ne, isHighSurrogate_iff, hunit]
            omega
          rw [List.singleton_append, luaString_single hhigh, hunit, unichar_eq (by omega),
            Char.ofNat_toNat]
      · next hlarge =>
          have hunit : (UInt16.ofNat (0xD800 + (c.toNat - 0x10000) / 0x400)).toNat =
              0xD800 + (c.toNat - 0x10000) / 0x400 := by
            rw [UInt16.toNat_ofNat']
            omega
          have hunit' : (UInt16.ofNat (0xDC00 + (c.toNat - 0x10000) % 0x400)).toNat =
              0xDC00 + (c.toNat - 0x10000) % 0x400 := by
            rw [UInt16.toNat_ofNat']
            omega
          have hhigh : isHighSurrogate (UInt16.ofNat (0xD800 + (c.toNat - 0x10000) / 0x400)) =
              true := by
            rw [isHighSurrogate_iff, hunit]
            omega
          have hlow : isLowSurrogate (UInt16.ofNat (0xDC00 + (c.toNat - 0x10000) % 0x400)) =
              true := by
            rw [isLowSurrogate_iff, hunit']
            omega
          rw [List.cons_append, List.singleton_append, luaString_pair hhigh hlow, hunit, hunit']
          have hvalue : (0xD800 + (c.toNat - 0x10000) / 0x400 - 0xD800) * 0x400 +
              (0xDC00 + (c.toNat - 0x10000) % 0x400 - 0xDC00) + 0x10000 = c.toNat := by omega
          rw [hvalue, unichar_eq (by omega), Char.ofNat_toNat]

/-- A half of a pair by itself is no character. -/
theorem utf8Valid_surrogate {unit : UInt16}
    (h : isHighSurrogate unit = true ∨ isLowSurrogate unit = true) (rest : Bytes) :
    utf8Valid (unichar unit.toNat ++ rest) = false := by
  rw [isHighSurrogate_iff, isLowSurrogate_iff] at h
  have hlead : 0xE0 + unit.toNat / 0x1000 = 0xED := by omega
  have hsecond : 0x80 + unit.toNat / 0x40 % 0x40 < 256 := by omega
  unfold unichar
  rw [if_neg (by omega), if_neg (by omega), if_pos (by omega), hlead, List.cons_append,
    List.cons_append, List.singleton_append, utf8Valid.eq_def]
  have hcode : (UInt8.ofNat 0xED).toNat = 0xED := by decide
  have hcode' : (UInt8.ofNat (0x80 + unit.toNat / 0x40 % 0x40)).toNat =
      0x80 + unit.toNat / 0x40 % 0x40 := by
    rw [UInt8.toNat_ofNat']
    omega
  dsimp only
  rw [hcode, hcode', if_neg (by omega), if_neg (by omega), if_pos (by omega),
    decide_eq_false (by omega), Bool.false_and]

/-- A decoded string is valid exactly when no half of a pair stands alone. -/
theorem utf8Valid_luaString (text : Text) :
    utf8Valid (luaString text) = !hasLoneSurrogate text := by
  fun_induction hasLoneSurrogate text with
  | case1 => rfl
  | case2 unit hhigh =>
      rw [luaString.eq_def]
      have hinvalid := utf8Valid_surrogate (Or.inl hhigh) []
      rw [List.append_nil] at hinvalid
      simp [hhigh, hinvalid]
  | case3 unit hhigh next after hlow ih =>
      obtain ⟨hlower, hupper⟩ := pair_range hhigh hlow
      rw [luaString_pair hhigh hlow, utf8Valid_append (charBytes_unichar (by omega)), ih]
  | case4 unit hhigh next after hlow =>
      rw [luaString.eq_def]
      simp [hhigh, hlow, utf8Valid_surrogate (Or.inl hhigh)]
  | case5 unit rest hhigh hlow =>
      rw [luaString_single (by simpa using hhigh), utf8Valid_surrogate (Or.inr hlow)]
      rfl
  | case6 unit rest hhigh hlow ih =>
      have hbound := unit.toNat_lt
      have hsingle : isHighSurrogate unit = false := by simpa using hhigh
      rw [isHighSurrogate_iff] at hhigh
      rw [isLowSurrogate_iff] at hlow
      rw [luaString_single hsingle, utf8Valid_append (charBytes_unichar (by omega)), ih]

/-- Contents without such halves are told apart by their strings. -/
theorem luaString_injective {content content' : Text} (h : hasLoneSurrogate content = false)
    (h' : hasLoneSurrogate content' = false) (heq : luaString content = luaString content') :
    content = content' := by
  obtain ⟨chars, rfl⟩ := exists_utf16 h
  obtain ⟨chars', rfl⟩ := exists_utf16 h'
  rw [luaString_utf16, luaString_utf16] at heq
  rw [utf8_injective heq]

end FlickrGroupAddr

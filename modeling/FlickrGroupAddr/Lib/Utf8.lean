import FlickrGroupAddr.Lib.Utf16

/-!
# UTF-8

The bytes of a text: which first bytes and which later bytes a character has, and a text
as bytes next to the same text as code units.
-/

namespace JsonText

set_option autoImplicit false

/-- The bytes of a text. -/
def utf8 (chars : List Char) : List UInt8 := chars.flatMap String.utf8EncodeChar

/-- The code units of a text. -/
def utf16 (chars : List Char) : Text := chars.flatMap encodeChar

@[simp] theorem utf8_nil : utf8 [] = [] := rfl

@[simp] theorem utf8_cons (c : Char) (chars : List Char) :
    utf8 (c :: chars) = String.utf8EncodeChar c ++ utf8 chars := List.flatMap_cons

@[simp] theorem utf16_nil : utf16 [] = [] := rfl

@[simp] theorem utf16_cons (c : Char) (chars : List Char) :
    utf16 (c :: chars) = encodeChar c ++ utf16 chars := List.flatMap_cons

/-! ### The bytes of a character -/

/-- A byte that is not the first of its character. -/
def Tail (byte : UInt8) : Prop := 0x80 ≤ byte.toNat ∧ byte.toNat ≤ 0xBF

/-- The bytes of one character: no longer than they need be, no surrogate, nothing beyond the
last code point. -/
inductive CharBytes : List UInt8 → Prop
  | one {a : UInt8} : a.toNat < 0x80 → CharBytes [a]
  | two {a b : UInt8} : 0xC2 ≤ a.toNat → a.toNat ≤ 0xDF → Tail b → CharBytes [a, b]
  | three {a b c : UInt8} : 0xE0 ≤ a.toNat → a.toNat ≤ 0xEF → Tail b → Tail c →
      (a.toNat = 0xE0 → 0xA0 ≤ b.toNat) → (a.toNat = 0xED → b.toNat ≤ 0x9F) → CharBytes [a, b, c]
  | four {a b c d : UInt8} : 0xF0 ≤ a.toNat → a.toNat ≤ 0xF4 → Tail b → Tail c → Tail d →
      (a.toNat = 0xF0 → 0x90 ≤ b.toNat) → (a.toNat = 0xF4 → b.toNat ≤ 0x8F) →
      CharBytes [a, b, c, d]

/-- Every character has such bytes. -/
theorem charBytes (c : Char) : CharBytes (String.utf8EncodeChar c) := by
  have hrange := toNat_lt c
  have hval : c.val.toNat = c.toNat := rfl
  unfold String.utf8EncodeChar
  dsimp only
  rw [hval]
  generalize c.toNat = v at hrange
  split
  · apply CharBytes.one
    simp
    omega
  · split
    · apply CharBytes.two
      all_goals
        simp [Tail]
        omega
    · split
      · apply CharBytes.three
        all_goals
          simp [Tail]
          omega
      · apply CharBytes.four
        all_goals
          simp [Tail]
          omega

theorem ofNat_toNat_of_valid {n : ℕ} (h : n < 0xD800 ∨ 0xDFFF < n ∧ n < 0x110000) :
    (Char.ofNat n).toNat = n := by
  have hvalid : n.isValidChar := h
  rw [Char.ofNat, dif_pos hvalid]
  rfl

theorem byte_eq {n : ℕ} (byte : UInt8) (h : n = byte.toNat) : UInt8.ofNat n = byte := by
  rw [h, UInt8.ofNat_toNat]

/-- The bytes of a code point. -/
theorem utf8EncodeChar_ofNat {n : ℕ} (h : n < 0xD800 ∨ 0xDFFF < n ∧ n < 0x110000) :
    String.utf8EncodeChar (Char.ofNat n) =
      if n ≤ 0x7F then [.ofNat n]
      else if n ≤ 0x7FF then [.ofNat (n / 64 % 0x20 + 0xC0), .ofNat (n % 0x40 + 0x80)]
      else if n ≤ 0xFFFF then
        [.ofNat (n / 4096 % 0x10 + 0xE0), .ofNat (n / 64 % 0x40 + 0x80), .ofNat (n % 0x40 + 0x80)]
      else
        [.ofNat (n / 262144 % 0x08 + 0xF0), .ofNat (n / 4096 % 0x40 + 0x80),
          .ofNat (n / 64 % 0x40 + 0x80), .ofNat (n % 0x40 + 0x80)] := by
  have hval : (Char.ofNat n).val.toNat = n := ofNat_toNat_of_valid h
  unfold String.utf8EncodeChar
  rw [hval]

/-- Such bytes are those of a character. -/
theorem CharBytes.exists_char {bytes : List UInt8} (h : CharBytes bytes) :
    ∃ c, String.utf8EncodeChar c = bytes := by
  cases h with
  | @one a ha =>
      refine ⟨Char.ofNat a.toNat, ?_⟩
      rw [utf8EncodeChar_ofNat (by omega), if_pos (by omega), byte_eq _ rfl]
  | @two a b ha ha' hb =>
      obtain ⟨hb, hb'⟩ := hb
      refine ⟨Char.ofNat ((a.toNat - 0xC0) * 64 + (b.toNat - 0x80)), ?_⟩
      rw [utf8EncodeChar_ofNat (by omega), if_neg (by omega), if_pos (by omega),
        byte_eq a (by omega), byte_eq b (by omega)]
  | @three a b c ha ha' hb hc hlow hhigh =>
      obtain ⟨hb, hb'⟩ := hb
      obtain ⟨hc, hc'⟩ := hc
      refine ⟨Char.ofNat ((a.toNat - 0xE0) * 4096 + (b.toNat - 0x80) * 64 + (c.toNat - 0x80)), ?_⟩
      rw [utf8EncodeChar_ofNat (by omega), if_neg (by omega), if_neg (by omega),
        if_pos (by omega), byte_eq a (by omega), byte_eq b (by omega),
        byte_eq c (by omega)]
  | @four a b c d ha ha' hb hc hd hlow hhigh =>
      obtain ⟨hb, hb'⟩ := hb
      obtain ⟨hc, hc'⟩ := hc
      obtain ⟨hd, hd'⟩ := hd
      refine ⟨Char.ofNat ((a.toNat - 0xF0) * 262144 + (b.toNat - 0x80) * 4096 +
        (c.toNat - 0x80) * 64 + (d.toNat - 0x80)), ?_⟩
      rw [utf8EncodeChar_ofNat (by omega), if_neg (by omega), if_neg (by omega),
        if_neg (by omega), byte_eq a (by omega), byte_eq b (by omega),
        byte_eq c (by omega), byte_eq d (by omega)]

/-! ### Bytes next to code units -/

/-- The bytes of a character and its code units: the same single number for an ASCII
character, no ASCII number in either otherwise. -/
inductive CharCode : List UInt8 → Text → Prop
  | ascii {byte : UInt8} {unit : UInt16} : byte.toNat < 0x80 → unit.toNat = byte.toNat →
      CharCode [byte] [unit]
  | single {bytes : List UInt8} {unit : UInt16} : bytes ≠ [] →
      (∀ byte ∈ bytes, 0x80 ≤ byte.toNat) → 0x80 ≤ unit.toNat →
      isHighSurrogate unit = false → isLowSurrogate unit = false → CharCode bytes [unit]
  | pair {bytes : List UInt8} {high low : UInt16} : bytes ≠ [] →
      (∀ byte ∈ bytes, 0x80 ≤ byte.toNat) → isHighSurrogate high = true →
      isLowSurrogate low = true → CharCode bytes [high, low]

theorem isHighSurrogate_iff {unit : UInt16} :
    isHighSurrogate unit = true ↔ 0xD800 ≤ unit.toNat ∧ unit.toNat ≤ 0xDBFF := by
  simp [isHighSurrogate, UInt16.le_iff_toNat_le]

theorem isLowSurrogate_iff {unit : UInt16} :
    isLowSurrogate unit = true ↔ 0xDC00 ≤ unit.toNat ∧ unit.toNat ≤ 0xDFFF := by
  simp [isLowSurrogate, UInt16.le_iff_toNat_le]

theorem utf8EncodeChar_ascii {c : Char} (h : c.toNat < 0x80) :
    String.utf8EncodeChar c = [.ofNat c.toNat] := by
  have hval : c.val.toNat = c.toNat := rfl
  unfold String.utf8EncodeChar
  dsimp only
  rw [hval, if_pos (by omega)]

/-- No byte of another character is an ASCII one. -/
theorem utf8EncodeChar_high {c : Char} (h : 0x80 ≤ c.toNat) :
    ∀ byte ∈ String.utf8EncodeChar c, 0x80 ≤ byte.toNat := by
  have hrange := toNat_lt c
  have hval : c.val.toNat = c.toNat := rfl
  unfold String.utf8EncodeChar
  dsimp only
  rw [hval]
  split
  · omega
  · split
    · simp
      omega
    · split
      · simp
        omega
      · simp
        omega

theorem charCode (c : Char) : CharCode (String.utf8EncodeChar c) (encodeChar c) := by
  have hrange := toNat_lt c
  unfold encodeChar
  by_cases hascii : c.toNat < 0x80
  · rw [utf8EncodeChar_ascii hascii, if_pos (by omega)]
    apply CharCode.ascii
    · simp
      omega
    · simp
      omega
  · have hhigh := utf8EncodeChar_high (not_lt.mp hascii)
    by_cases hsmall : c.toNat < 0x10000
    · rw [if_pos hsmall]
      refine CharCode.single String.utf8EncodeChar_ne_nil hhigh ?_ ?_ ?_
      · simp
        omega
      · rw [Bool.eq_false_iff, Ne, isHighSurrogate_iff]
        simp
        omega
      · rw [Bool.eq_false_iff, Ne, isLowSurrogate_iff]
        simp
        omega
    · rw [if_neg hsmall]
      refine CharCode.pair String.utf8EncodeChar_ne_nil hhigh ?_ ?_
      · rw [isHighSurrogate_iff]
        simp
        omega
      · rw [isLowSurrogate_iff]
        simp
        omega

/-- The bytes and the code units are those of one text. -/
def SameText (bytes : List UInt8) (text : Text) : Prop :=
  ∃ chars, bytes = utf8 chars ∧ text = utf16 chars

namespace SameText

variable {bytes : List UInt8} {text : Text}

theorem nil : SameText [] [] := ⟨[], rfl, rfl⟩

theorem append {bytes' : List UInt8} {text' : Text} (h : SameText bytes text)
    (h' : SameText bytes' text') : SameText (bytes ++ bytes') (text ++ text') := by
  obtain ⟨chars, rfl, rfl⟩ := h
  obtain ⟨chars', rfl, rfl⟩ := h'
  exact ⟨chars ++ chars', List.flatMap_append.symm, List.flatMap_append.symm⟩

/-- An ASCII character by itself. -/
theorem ascii {byte : UInt8} {unit : UInt16} (h : byte.toNat < 0x80)
    (hu : unit.toNat = byte.toNat) : SameText [byte] [unit] := by
  have hval : (Char.ofNat byte.toNat).toNat = byte.toNat := ofNat_toNat_of_valid (by omega)
  refine ⟨[Char.ofNat byte.toNat], ?_, ?_⟩
  · rw [utf8_cons, utf8_nil, List.append_nil, utf8EncodeChar_ascii (by omega), hval, byte_eq byte rfl]
  · rw [utf16_cons, utf16_nil, List.append_nil, encodeChar, if_pos (by omega), hval, ← hu,
      UInt16.ofNat_toNat]

/-- A text is empty, or one character and a text. -/
theorem eq_or (h : SameText bytes text) :
    (bytes = [] ∧ text = []) ∨ ∃ front units bytes' text', CharCode front units ∧
      SameText front units ∧ SameText bytes' text' ∧ bytes = front ++ bytes' ∧
      text = units ++ text' := by
  obtain ⟨chars, rfl, rfl⟩ := h
  cases chars with
  | nil => exact Or.inl ⟨rfl, rfl⟩
  | cons c chars =>
      refine Or.inr ⟨_, _, _, _, charCode c, ⟨[c], ?_, ?_⟩, ⟨chars, rfl, rfl⟩, utf8_cons c chars,
        utf16_cons c chars⟩
      · simp
      · simp

theorem bytes_nil (h : SameText [] text) : text = [] := by
  rcases h.eq_or with ⟨_, htext⟩ | ⟨front, units, bytes', text', hcode, _, _, hbytes, _⟩
  · exact htext
  · cases hcode with
    | ascii => cases hbytes
    | single hne => exact absurd (List.append_eq_nil_iff.mp hbytes.symm).1 hne
    | pair hne => exact absurd (List.append_eq_nil_iff.mp hbytes.symm).1 hne

theorem text_nil (h : SameText bytes []) : bytes = [] := by
  rcases h.eq_or with ⟨hbytes, _⟩ | ⟨front, units, bytes', text', hcode, _, _, _, htext⟩
  · exact hbytes
  · cases hcode <;> simp at htext

/-- Where the bytes start with an ASCII character, the code units start with it. -/
theorem of_ascii {byte : UInt8} (h : SameText (byte :: bytes) text) (hascii : byte.toNat < 0x80) :
    ∃ unit text', unit.toNat = byte.toNat ∧ text = unit :: text' ∧ SameText bytes text' := by
  rcases h.eq_or with ⟨hbytes, _⟩ | ⟨front, units, bytes', text', hcode, _, hrest, hbytes, htext⟩
  · cases hbytes
  · cases hcode with
    | @ascii byte' unit hlt hunit =>
        cases hbytes
        exact ⟨unit, text', hunit, htext, hrest⟩
    | single hne hhigh =>
        obtain ⟨first, others, rfl⟩ := List.exists_cons_of_ne_nil hne
        cases hbytes
        exact absurd (hhigh byte List.mem_cons_self) (by omega)
    | pair hne hhigh =>
        obtain ⟨first, others, rfl⟩ := List.exists_cons_of_ne_nil hne
        cases hbytes
        exact absurd (hhigh byte List.mem_cons_self) (by omega)

/-- Where the code units start with an ASCII character, the bytes start with it. -/
theorem to_ascii {unit : UInt16} (h : SameText bytes (unit :: text)) (hascii : unit.toNat < 0x80) :
    ∃ byte bytes', byte.toNat = unit.toNat ∧ bytes = byte :: bytes' ∧ SameText bytes' text := by
  rcases h.eq_or with ⟨_, htext⟩ | ⟨front, units, bytes', text', hcode, _, hrest, hbytes, htext⟩
  · cases htext
  · cases hcode with
    | @ascii byte unit' hlt hunit =>
        cases htext
        exact ⟨byte, bytes', hunit.symm, hbytes, hrest⟩
    | single _ _ hlarge =>
        cases htext
        omega
    | pair _ _ hhigh =>
        cases htext
        rw [isHighSurrogate_iff] at hhigh
        omega

end SameText

/-! ### Well-formed texts -/

theorem utf8_injective {chars chars' : List Char} (h : utf8 chars = utf8 chars') :
    chars = chars' := by
  have harray : (String.ofList chars).toByteArray = (String.ofList chars').toByteArray := by
    rw [← String.utf8Encode_toList, ← String.utf8Encode_toList, String.toList_ofList,
      String.toList_ofList]
    exact congrArg List.toByteArray h
  have hstring := String.toByteArray_inj.mp harray
  rw [← String.toList_ofList (l := chars), hstring, String.toList_ofList]

theorem encodeChar_ofNat {n : ℕ} (h : n < 0xD800 ∨ 0xDFFF < n ∧ n < 0x110000) :
    encodeChar (Char.ofNat n) =
      if n < 0x10000 then [UInt16.ofNat n]
      else
        [UInt16.ofNat (0xD800 + (n - 0x10000) / 0x400),
          UInt16.ofNat (0xDC00 + (n - 0x10000) % 0x400)] := by
  rw [encodeChar, ofNat_toNat_of_valid h]

theorem unit_eq {n : ℕ} (unit : UInt16) (h : n = unit.toNat) : UInt16.ofNat n = unit := by
  rw [h, UInt16.ofNat_toNat]

/-- A text without such a half is a text of characters. -/
theorem exists_utf16 {text : Text} (h : hasLoneSurrogate text = false) :
    ∃ chars, text = utf16 chars := by
  fun_induction hasLoneSurrogate text with
  | case1 => exact ⟨[], rfl⟩
  | case2 => cases h
  | case3 unit hhigh next after hlow ih =>
      obtain ⟨chars, rfl⟩ := ih h
      rw [isHighSurrogate_iff] at hhigh
      rw [isLowSurrogate_iff] at hlow
      refine ⟨Char.ofNat (0x10000 + (unit.toNat - 0xD800) * 0x400 + (next.toNat - 0xDC00)) :: chars,
        ?_⟩
      rw [utf16_cons, encodeChar_ofNat (by omega), if_neg (by omega),
        unit_eq unit (by omega), unit_eq next (by omega)]
      rfl
  | case4 => cases h
  | case5 => cases h
  | case6 unit rest hhigh hlow ih =>
      obtain ⟨chars, rfl⟩ := ih h
      have hbound := unit.toNat_lt
      rw [isHighSurrogate_iff] at hhigh
      rw [isLowSurrogate_iff] at hlow
      refine ⟨Char.ofNat unit.toNat :: chars, ?_⟩
      rw [utf16_cons, encodeChar_ofNat (by omega), if_pos (by omega), unit_eq unit rfl]
      rfl

end JsonText

import FlickrGroupAddr.Lib.Json

/-!
# Code units and bytes

A text as its 16-bit code units against the same text as bytes: the units of a string,
how many bytes a text takes, and which units are halves of a pair without the other half.
-/

namespace JsonText

set_option autoImplicit false

def isHighSurrogate (unit : UInt16) : Bool := decide (0xD800 ≤ unit ∧ unit ≤ 0xDBFF)

def isLowSurrogate (unit : UInt16) : Bool := decide (0xDC00 ≤ unit ∧ unit ≤ 0xDFFF)

/-- Some half of a surrogate pair stands without its other half. -/
def hasLoneSurrogate : Text → Bool
  | [] => false
  | unit :: rest =>
    if isHighSurrogate unit then
      match rest with
      | [] => true
      | next :: after => if isLowSurrogate next then hasLoneSurrogate after else true
    else if isLowSurrogate unit then true
    else hasLoneSurrogate rest

/-- The bytes that a text takes; a lone half of a pair is replaced by a character of three. -/
def utf8Length : Text → ℕ
  | [] => 0
  | unit :: rest =>
    if unit < 0x80 then utf8Length rest + 1
    else if unit < 0x800 then utf8Length rest + 2
    else
      match rest with
      | [] => 3
      | next :: after =>
        if isHighSurrogate unit && isLowSurrogate next then utf8Length after + 4
        else utf8Length (next :: after) + 3

/-- A blank text takes one byte for each unit. -/
theorem utf8Length_blank {blank : Text} (hb : Blank blank) (rest : Text) :
    utf8Length (blank ++ rest) = blank.length + utf8Length rest := by
  induction blank with
  | nil => simp
  | cons unit blank ih =>
    have hunit : isSpace unit = true := hb unit (by simp)
    have hrest := ih fun u hu => hb u (by simp [hu])
    have hsmall : unit < 0x80 := by
      simp only [isSpace, Bool.or_eq_true, beq_iff_eq] at hunit
      rcases hunit with ((rfl | rfl) | rfl) | rfl <;> decide
    rw [List.cons_append, utf8Length.eq_def]
    simp only [hsmall, if_true, hrest, List.length_cons]
    omega

/-! ### Strings as code units -/

/-- The code units of a character: one, or a surrogate pair. -/
def encodeChar (c : Char) : Text :=
  if c.toNat < 0x10000 then [UInt16.ofNat c.toNat]
  else
    [UInt16.ofNat (0xD800 + (c.toNat - 0x10000) / 0x400),
      UInt16.ofNat (0xDC00 + (c.toNat - 0x10000) % 0x400)]

def encode (s : String) : Text := s.toList.flatMap encodeChar

/-- The code units of a text of bytes that is well formed; a mark of byte order is kept. -/
def decodeUtf8 (bytes : ByteArray) : Option Text := (String.fromUTF8? bytes).map encode

theorem decodeUtf8_eq_some {bytes : ByteArray} {text : Text} :
    decodeUtf8 bytes = some text ↔ ∃ s : String, s.toByteArray = bytes ∧ encode s = text := by
  simp only [decodeUtf8, Option.map_eq_some_iff, String.fromUTF8?]
  constructor
  · rintro ⟨s, hs, rfl⟩
    split at hs
    · simp only [Option.some.injEq] at hs
      exact ⟨s, by simp [← hs, String.fromUTF8], rfl⟩
    · simp at hs
  · rintro ⟨s, rfl, rfl⟩
    refine ⟨s, ?_, rfl⟩
    simp [s.isValidUTF8, String.fromUTF8]

theorem toNat_lt (c : Char) : c.toNat < 0xD800 ∨ 0xDFFF < c.toNat ∧ c.toNat < 0x110000 := by
  have hvalid := c.valid
  simpa [UInt32.isValidChar, Nat.isValidChar] using hvalid

theorem utf8Length_three {unit : UInt16} (h : ¬unit < 0x800) (hs : isHighSurrogate unit = false)
    (rest : Text) : utf8Length (unit :: rest) = utf8Length rest + 3 := by
  have hlarge : ¬unit < 0x80 := by
    simp only [UInt16.lt_iff_toNat_lt] at h ⊢
    exact fun hlt => h (hlt.trans (by decide))
  rw [utf8Length.eq_def]
  cases rest with
  | nil => simp [hlarge, h, utf8Length]
  | cons next after => simp [hlarge, h, hs]

theorem utf8Length_pair {high low : UInt16} (hh : isHighSurrogate high = true)
    (hl : isLowSurrogate low = true) (rest : Text) :
    utf8Length (high :: low :: rest) = utf8Length rest + 4 := by
  have hlarge : ¬high < 0x80 ∧ ¬high < 0x800 := by
    simp only [isHighSurrogate, decide_eq_true_eq, UInt16.le_iff_toNat_le] at hh
    simp only [UInt16.lt_iff_toNat_lt]
    exact ⟨fun hlt => absurd (hh.1.trans_lt hlt) (by decide),
      fun hlt => absurd (hh.1.trans_lt hlt) (by decide)⟩
  rw [utf8Length.eq_def]
  simp [hlarge, hh, hl]

theorem utf8Size_eq (c : Char) : c.utf8Size =
    if c.toNat < 0x80 then 1 else if c.toNat < 0x800 then 2 else if c.toNat < 0x10000 then 3 else 4 := by
  have hval : c.val.toNat = c.toNat := rfl
  split
  · rw [Char.utf8Size_eq_one_iff, UInt32.le_iff_toNat_le, hval]
    exact Nat.le_of_lt_succ ‹_›
  · split
    · rw [Char.utf8Size_eq_two_iff, UInt32.le_iff_toNat_le, UInt32.lt_iff_toNat_lt, hval]
      exact ⟨Nat.lt_of_succ_le (not_lt.mp ‹_›), Nat.le_of_lt_succ ‹_›⟩
    · split
      · rw [Char.utf8Size_eq_three_iff, UInt32.le_iff_toNat_le, UInt32.lt_iff_toNat_lt, hval]
        exact ⟨Nat.lt_of_succ_le (not_lt.mp ‹_›), Nat.le_of_lt_succ ‹_›⟩
      · rw [Char.utf8Size_eq_four_iff, UInt32.lt_iff_toNat_lt, hval]
        exact Nat.lt_of_succ_le (not_lt.mp ‹_›)

theorem utf8Length_encodeChar (c : Char) (rest : Text) :
    utf8Length (encodeChar c ++ rest) = c.utf8Size + utf8Length rest := by
  have hrange := toNat_lt c
  rw [utf8Size_eq, encodeChar]
  by_cases hsmall : c.toNat < 0x10000
  · have hunit : (UInt16.ofNat c.toNat).toNat = c.toNat := by
      rw [UInt16.toNat_ofNat']
      exact Nat.mod_eq_of_lt hsmall
    rw [if_pos hsmall, if_pos hsmall, List.singleton_append]
    by_cases hone : c.toNat < 0x80
    · have hlt : UInt16.ofNat c.toNat < 0x80 := by
        rw [UInt16.lt_iff_toNat_lt, hunit]
        exact hone
      rw [utf8Length.eq_def]
      simp only [hlt, hone, if_true]
      omega
    · have hlt : ¬UInt16.ofNat c.toNat < 0x80 := by
        rw [UInt16.lt_iff_toNat_lt, hunit]
        exact hone
      by_cases htwo : c.toNat < 0x800
      · have hlt' : UInt16.ofNat c.toNat < 0x800 := by
          rw [UInt16.lt_iff_toNat_lt, hunit]
          exact htwo
        rw [utf8Length.eq_def]
        simp only [hlt, hlt', hone, htwo, if_true, if_false]
        omega
      · have hlt' : ¬UInt16.ofNat c.toNat < 0x800 := by
          rw [UInt16.lt_iff_toNat_lt, hunit]
          exact htwo
        have hhigh : isHighSurrogate (UInt16.ofNat c.toNat) = false := by
          simp only [isHighSurrogate, decide_eq_false_iff_not, UInt16.le_iff_toNat_le, hunit]
          rintro ⟨hlow, hup⟩
          have h1 : 0xD800 ≤ c.toNat := hlow
          have h2 : c.toNat ≤ 0xDBFF := hup
          omega
        rw [utf8Length_three hlt' hhigh, if_neg hone, if_neg htwo]
        omega
  · have hquot : (c.toNat - 0x10000) / 0x400 < 0x400 := by omega
    have hrem : (c.toNat - 0x10000) % 0x400 < 0x400 := Nat.mod_lt _ (by decide)
    have hhigh : isHighSurrogate (UInt16.ofNat (0xD800 + (c.toNat - 0x10000) / 0x400)) = true := by
      simp only [isHighSurrogate, decide_eq_true_eq, UInt16.le_iff_toNat_le, UInt16.toNat_ofNat']
      rw [Nat.mod_eq_of_lt (by omega)]
      exact ⟨Nat.le_add_right _ _, show _ ≤ 0xDBFF by omega⟩
    have hlow : isLowSurrogate (UInt16.ofNat (0xDC00 + (c.toNat - 0x10000) % 0x400)) = true := by
      simp only [isLowSurrogate, decide_eq_true_eq, UInt16.le_iff_toNat_le, UInt16.toNat_ofNat']
      rw [Nat.mod_eq_of_lt (by omega)]
      exact ⟨Nat.le_add_right _ _, show _ ≤ 0xDFFF by omega⟩
    rw [if_neg hsmall, if_neg (show ¬c.toNat < 0x80 by omega), if_neg (show ¬c.toNat < 0x800 by omega),
      if_neg hsmall]
    rw [show ∀ a b : UInt16, [a, b] ++ rest = a :: b :: rest from fun _ _ => rfl,
      utf8Length_pair hhigh hlow]
    omega

theorem length_encodeChar_le (c : Char) : (encodeChar c).length ≤ c.utf8Size := by
  rw [utf8Size_eq, encodeChar]
  by_cases hsmall : c.toNat < 0x10000
  · rw [if_pos hsmall]
    split
    · simp
    · split <;> simp
  · rw [if_neg hsmall, if_neg (show ¬c.toNat < 0x80 by omega), if_neg (show ¬c.toNat < 0x800 by omega)]
    simp [hsmall]

theorem size_toByteArray (s : String) : s.toByteArray.size = (s.toList.map Char.utf8Size).sum := by
  rw [← String.utf8Encode_toList]
  induction s.toList with
  | nil => simp
  | cons c chars ih =>
    rw [List.utf8Encode_cons, ByteArray.size_append, ih, List.utf8Encode_singleton]
    simp

/-- A text that was decoded takes as many bytes as it had. -/
theorem utf8Length_encode (s : String) : utf8Length (encode s) = s.toByteArray.size := by
  rw [size_toByteArray, encode]
  induction s.toList with
  | nil => simp [utf8Length]
  | cons c chars ih => rw [List.flatMap_cons, utf8Length_encodeChar, ih, List.map_cons, List.sum_cons]

/-- A text has no more code units than bytes. -/
theorem length_encode_le (s : String) : (encode s).length ≤ s.toByteArray.size := by
  rw [size_toByteArray, encode]
  induction s.toList with
  | nil => simp
  | cons c chars ih =>
    have hchar := length_encodeChar_le c
    rw [List.flatMap_cons, List.length_append, List.map_cons, List.sum_cons]
    omega

end JsonText

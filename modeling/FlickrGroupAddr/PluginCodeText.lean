import FlickrGroupAddr.ClientChecks
import FlickrGroupAddr.Lib.BitGroups

/-!
# The text of a plugin code

`encodePluginCode`, the pattern `CREDENTIAL` of `installations.ts`, and
`Core.isCanonicalCredential` of the plug-in.
-/

namespace FlickrGroupAddr

set_option autoImplicit false

open JsonText BitGroups

namespace PluginCode

/-! ## The encoder -/

/-- `alphabet`. -/
def alphabet : Text :=
  units ['0', '1', '2', '3', '4', '5', '6', '7', '8', '9', 'A', 'B', 'C', 'D', 'E', 'F', 'G', 'H', 'J',
    'K', 'M', 'N', 'P', 'Q', 'R', 'S', 'T', 'V', 'W', 'X', 'Y', 'Z']

/-- The character of a five-bit value. -/
def character (value : ℕ) : UInt16 := alphabet.getD value 0

def dash : UInt16 := 0x2D

/-- The inner `while`: the bits that are left, and the text. -/
def emit (accumulator : ℕ) : ℕ → Text → ℕ × Text
  | bits + 5, text => emit accumulator bits (text ++ [character (accumulator >>> bits &&& 31)])
  | bits, text => (bits, text)

structure EncodeState where
  bits : ℕ
  accumulator : ℕ
  text : Text

/-- One round of the `for`. -/
def encodeByte (s : EncodeState) (byte : UInt8) : EncodeState :=
  let accumulator := s.accumulator <<< 8 ||| byte.toNat
  let emitted := emit accumulator (s.bits + 8) s.text
  ⟨emitted.1, accumulator &&& (1 <<< emitted.1) - 1, emitted.2⟩

/-- `text.match(/.{4}/g)`. -/
def groups : Text → List Text
  | a :: b :: c :: d :: rest => [a, b, c, d] :: groups rest
  | _ => []

end PluginCode

open PluginCode in
/-- `encodePluginCode`; the accumulator has at most twelve bits, so the 32-bit shifts lose none. -/
def encodePluginCode (bytes : List UInt8) : Option Text :=
  if bytes.length ≠ 32 then none
  else
    let s := bytes.foldl encodeByte ⟨0, 0, []⟩
    let text :=
      if s.bits ≠ 0 then s.text ++ [character (s.accumulator <<< (5 - s.bits) &&& 31)] else s.text
    some ([dash].intercalate (groups text))

namespace PluginCode

/-! ## The pattern -/

/-- `[0-9A-HJKMNP-TV-Z]`. -/
def inClass (code : ℕ) : Bool :=
  decide ((48 ≤ code ∧ code ≤ 57) ∨ (65 ≤ code ∧ code ≤ 72) ∨ code = 74 ∨ code = 75 ∨ code = 77 ∨
    code = 78 ∨ (80 ≤ code ∧ code ≤ 84) ∨ (86 ≤ code ∧ code ≤ 90))

/-- `[0G]`. -/
def inTailClass (code : ℕ) : Bool := decide (code = 48 ∨ code = 71)

/-- So many characters of the class at the start, and what follows them. -/
def takeClass : ℕ → List ℕ → Option (List ℕ)
  | 0, codes => some codes
  | _ + 1, [] => none
  | count + 1, code :: rest => if inClass code = true then takeClass count rest else none

def takeDash : List ℕ → Option (List ℕ)
  | [] => none
  | code :: rest => if code = 45 then some rest else none

/-- `(?:-[0-9A-HJKMNP-TV-Z]{4}){count}`. -/
def takeGroups : ℕ → List ℕ → Option (List ℕ)
  | 0, codes => some codes
  | count + 1, codes => ((takeDash codes).bind (takeClass 4)).bind (takeGroups count)

/-- `CREDENTIAL`, on the codes of the characters. -/
def matchesCredential (codes : List ℕ) : Bool :=
  match (((takeClass 4 codes).bind (takeGroups 11)).bind takeDash).bind (takeClass 3) with
  | some [last] => inTailClass last
  | _ => false

end PluginCode

/-- `CREDENTIAL.test`. -/
def credentialTest (text : Text) : Bool := PluginCode.matchesCredential (text.map UInt16.toNat)

/-! ## The plug-in -/

namespace PluginCode

/-- `string.sub`, of places counted from one. -/
def sub (codes : List ℕ) (first last : ℕ) : List ℕ :=
  (codes.drop (first - 1)).take (last + 1 - first)

/-- `^[0-9A-HJKMNP-TV-Z]+$`. -/
def matchesClass (codes : List ℕ) : Bool := !codes.isEmpty && codes.all inClass

/-- The pattern of the last group: three characters of the class, and one of `[0G]`. -/
def matchesTail : List ℕ → Bool
  | [a, b, c, d] => inClass a && inClass b && inClass c && inTailClass d
  | _ => false

/-- The round of the `for` at an index. -/
def groupAt (codes : List ℕ) (index : ℕ) : Bool :=
  let start := index * 5 + 1
  matchesClass (sub codes start (start + 3)) && sub codes (start + 4) (start + 4) == [45]

/-- The checks of `isCanonicalCredential`, on the bytes of a string. -/
def canonicalCodes (codes : List ℕ) : Bool :=
  decide (codes.length = 64) && (List.range 12).all (groupAt codes) && matchesTail (sub codes 61 64)

end PluginCode

/-- `Core.isCanonicalCredential`. -/
def isCanonicalCredential : LuaValue → Bool
  | .text value => PluginCode.canonicalCodes (value.map UInt8.toNat)
  | _ => false

namespace PluginCode

/-! ## What the encoder writes -/

/-- The characters of some five-bit digits, in groups of four. -/
def spelled (digits : List ℕ) : Text := [dash].intercalate (groups (digits.map character))

/-- The digits of 256 bits: 52 of them, the last four bits zero. -/
structure Canonical (digits : List ℕ) : Prop where
  length : digits.length = 52
  small : ∀ digit ∈ digits, digit < 32
  padded : 16 ∣ number 32 digits

/-- The text and the accumulator hold the bytes that were read. -/
structure Encoded (s : EncodeState) (bytes : List UInt8) (digits : List ℕ) : Prop where
  text : s.text = digits.map character
  holds : Holds 5 digits s.bits s.accumulator (8 * bytes.length)
    (number 256 (bytes.map UInt8.toNat))
  masked : s.accumulator < 2 ^ s.bits
  left : s.bits < 5

theorem emit_holds {accumulator read n : ℕ} (bits : ℕ) (digits : List ℕ)
    (h : Holds 5 digits bits accumulator read n) :
    ∃ digits', (emit accumulator bits (digits.map character)).2 = digits'.map character ∧
      Holds 5 digits' (emit accumulator bits (digits.map character)).1 accumulator read n ∧
      (emit accumulator bits (digits.map character)).1 < 5 := by
  induction bits using Nat.strongRecOn generalizing digits with
  | ind bits ih =>
      by_cases hbits : bits < 5
      · refine ⟨digits, ?_⟩
        rw [emit]
        · exact ⟨rfl, h, hbits⟩
        · intro fewer
          omega
      · obtain ⟨fewer, rfl⟩ := Nat.exists_eq_add_of_le' (Nat.le_of_not_lt hbits)
        rw [emit, ← List.map_singleton, ← List.map_append]
        exact ih fewer (by omega) _ h.emit

theorem encodeByte_encoded {s : EncodeState} {bytes : List UInt8} {digits : List ℕ}
    (h : Encoded s bytes digits) (byte : UInt8) :
    ∃ digits', Encoded (encodeByte s byte) (bytes ++ [byte]) digits' := by
  have hread := h.holds.push h.masked 8 byte.toNat_lt
  obtain ⟨digits', htext, hholds, hleft⟩ := emit_holds _ _ hread
  rw [← h.text] at htext hholds hleft
  refine ⟨digits', htext, ?_, ?_, hleft⟩
  · have hmask := hholds.mask
    rw [List.length_append, List.length_singleton, List.map_append, List.map_singleton, number_snoc,
      mul_add, mul_one]
    rw [← Nat.one_shiftLeft] at hmask
    exact hmask
  · simp only [encodeByte, Nat.one_shiftLeft]
    rw [Nat.and_two_pow_sub_one_eq_mod]
    exact Nat.mod_lt _ (Nat.two_pow_pos _)

theorem foldl_encoded (bytes : List UInt8) :
    ∃ digits, Encoded (bytes.foldl encodeByte ⟨0, 0, []⟩) bytes digits := by
  induction bytes using List.reverseRecOn with
  | nil => exact ⟨[], rfl, Holds.start 5, by decide, by decide⟩
  | append_singleton bytes byte ih =>
      obtain ⟨digits, h⟩ := ih
      rw [List.foldl_append]
      exact encodeByte_encoded h byte

/-- Thirty-two bytes are written with their 52 digits. -/
theorem encodePluginCode_eq {bytes : List UInt8} (hlength : bytes.length = 32) :
    ∃ digits, Canonical digits ∧ encodePluginCode bytes = some (spelled digits) ∧
      number 32 digits = number 256 (bytes.map UInt8.toNat) * 16 := by
  obtain ⟨digits, h⟩ := foldl_encoded bytes
  have hread := h.holds.length
  have hleft := h.left
  have hbits : (bytes.foldl encodeByte ⟨0, 0, []⟩).bits = 1 := by omega
  have hholds := h.holds
  rw [hbits] at hholds
  have hpad := Holds.pad (show Holds (1 + 4) _ _ _ _ _ from hholds)
  refine ⟨_, ⟨?_, hpad.small, ?_⟩, ?_, ?_⟩
  · have := hpad.length
    omega
  · have := hpad.value
    simp only [Nat.pow_zero, Nat.mod_one, mul_one, add_zero] at this
    exact ⟨_, this.trans (mul_comm _ _)⟩
  · rw [encodePluginCode, if_neg (not_not_intro hlength)]
    simp only [hbits, if_pos one_ne_zero, h.text]
    rw [spelled, List.map_append, List.map_singleton]
    rfl
  · have := hpad.value
    simpa using this

end PluginCode

end FlickrGroupAddr

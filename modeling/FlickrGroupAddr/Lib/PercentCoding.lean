import Mathlib.Data.Nat.Digits.Lemmas
import Mathlib.Data.List.Basic

/-!
# Spellings of bytes

Percent encoding: an unreserved byte stands for itself, and every other byte is written
with two hexadecimal digits in capitals.  Reading is lax, so the canonical spellings are
those that encoding gives back.  Decimal numbers are treated the same way.
-/

namespace Spelling

set_option autoImplicit false

/-! ## Percent encoding -/

/-- `A-Z a-z 0-9 _ . ~ -`. -/
def isUnreserved (byte : UInt8) : Bool :=
  decide ((65 ≤ byte.toNat ∧ byte.toNat ≤ 90) ∨ (97 ≤ byte.toNat ∧ byte.toNat ≤ 122) ∨
    (48 ≤ byte.toNat ∧ byte.toNat ≤ 57) ∨ byte.toNat = 95 ∨ byte.toNat = 46 ∨ byte.toNat = 126 ∨
    byte.toNat = 45)

/-- The percent sign. -/
def percent : UInt8 := 37

/-- A hexadecimal digit in capitals. -/
def hexByte (n : ℕ) : UInt8 := .ofNat (if n < 10 then 48 + n else 55 + n)

/-- The value of a hexadecimal digit. -/
def hexValue (byte : UInt8) : Option ℕ :=
  if 48 ≤ byte.toNat ∧ byte.toNat ≤ 57 then some (byte.toNat - 48)
  else if 65 ≤ byte.toNat ∧ byte.toNat ≤ 70 then some (byte.toNat - 55)
  else if 97 ≤ byte.toNat ∧ byte.toNat ≤ 102 then some (byte.toNat - 87)
  else none

def escapeByte (byte : UInt8) : List UInt8 :=
  if isUnreserved byte then [byte]
  else [percent, hexByte (byte.toNat / 16), hexByte (byte.toNat % 16)]

def percentEncode (bytes : List UInt8) : List UInt8 := bytes.flatMap escapeByte

/-- Every percent sign with two hexadecimal digits is replaced, from the left. -/
def percentDecode : List UInt8 → List UInt8
  | [] => []
  | [a] => [a]
  | [a, b] => [a, b]
  | a :: b :: c :: rest =>
    if a = percent then
      match hexValue b, hexValue c with
      | some high, some low => .ofNat (high * 16 + low) :: percentDecode rest
      | _, _ => a :: percentDecode (b :: c :: rest)
    else a :: percentDecode (b :: c :: rest)

theorem isUnreserved_iff {byte : UInt8} : isUnreserved byte = true ↔
    (65 ≤ byte.toNat ∧ byte.toNat ≤ 90) ∨ (97 ≤ byte.toNat ∧ byte.toNat ≤ 122) ∨
      (48 ≤ byte.toNat ∧ byte.toNat ≤ 57) ∨ byte.toNat = 95 ∨ byte.toNat = 46 ∨
      byte.toNat = 126 ∨ byte.toNat = 45 := by
  simp [isUnreserved]

theorem toNat_hexByte {n : ℕ} (h : n < 16) :
    (hexByte n).toNat = if n < 10 then 48 + n else 55 + n := by
  unfold hexByte
  rw [UInt8.toNat_ofNat']
  split <;> omega

theorem hexValue_hexByte {n : ℕ} (h : n < 16) : hexValue (hexByte n) = some n := by
  unfold hexValue
  rw [toNat_hexByte h]
  by_cases hsmall : n < 10
  · rw [if_pos hsmall, if_pos (by omega), Nat.add_sub_cancel_left]
  · rw [if_neg hsmall, if_neg (by omega), if_pos (by omega), Nat.add_sub_cancel_left]

theorem percentDecode_cons {byte : UInt8} (h : byte ≠ percent) (rest : List UInt8) :
    percentDecode (byte :: rest) = byte :: percentDecode rest := by
  match rest with
  | [] => rfl
  | [_] => rfl
  | _ :: _ :: _ => rw [percentDecode, if_neg h]

theorem percentDecode_escape (byte : UInt8) (rest : List UInt8) :
    percentDecode (escapeByte byte ++ rest) = byte :: percentDecode rest := by
  unfold escapeByte
  split
  · next hplain =>
      have hne : byte ≠ percent := by
        rintro rfl
        exact absurd hplain (by decide)
      exact percentDecode_cons hne rest
  · have hhigh : byte.toNat / 16 < 16 := by
      have := byte.toNat_lt
      omega
    have hbyte : byte.toNat / 16 * 16 + byte.toNat % 16 = byte.toNat := by omega
    simp only [List.cons_append, List.nil_append]
    rw [percentDecode, if_pos rfl, hexValue_hexByte hhigh,
      hexValue_hexByte (Nat.mod_lt _ (by decide))]
    dsimp only
    rw [hbyte, UInt8.ofNat_toNat]

/-- What is encoded is read back. -/
@[simp] theorem percentDecode_encode (bytes : List UInt8) :
    percentDecode (percentEncode bytes) = bytes := by
  induction bytes with
  | nil => rfl
  | cons byte bytes ih =>
      rw [percentEncode, List.flatMap_cons, percentDecode_escape]
      exact congrArg (byte :: ·) ih

theorem percentEncode_injective : Function.Injective percentEncode :=
  Function.LeftInverse.injective percentDecode_encode

theorem length_escapeByte_le (byte : UInt8) : (escapeByte byte).length ≤ 3 := by
  unfold escapeByte
  split <;> simp

theorem length_percentEncode_le (bytes : List UInt8) :
    (percentEncode bytes).length ≤ 3 * bytes.length := by
  induction bytes with
  | nil => simp [percentEncode]
  | cons byte bytes ih =>
      have hle := length_escapeByte_le byte
      rw [percentEncode, List.flatMap_cons, List.length_append, List.length_cons]
      rw [percentEncode] at ih
      omega

theorem percentEncode_eq_nil {bytes : List UInt8} : percentEncode bytes = [] ↔ bytes = [] := by
  constructor
  · intro h
    exact percentEncode_injective h
  · rintro rfl
    rfl

/-- An encoding holds unreserved bytes, percent signs and hexadecimal digits. -/
theorem mem_percentEncode {byte : UInt8} {bytes : List UInt8} (h : byte ∈ percentEncode bytes) :
    isUnreserved byte = true ∨ byte = percent := by
  obtain ⟨source, _, hmem⟩ := List.mem_flatMap.mp h
  have hhex : ∀ n, n < 16 → isUnreserved (hexByte n) = true := by
    intro n hn
    rw [isUnreserved_iff, toNat_hexByte hn]
    split <;> omega
  unfold escapeByte at hmem
  split at hmem
  · next hplain =>
      rw [List.mem_singleton.mp hmem]
      exact Or.inl hplain
  · have hbound := source.toNat_lt
    simp only [List.mem_cons, List.not_mem_nil, or_false] at hmem
    rcases hmem with rfl | rfl | rfl
    · exact Or.inr rfl
    · exact Or.inl (hhex _ (by omega))
    · exact Or.inl (hhex _ (by omega))

/-! ## Decimal numbers -/

def isDigitByte (byte : UInt8) : Bool := decide (48 ≤ byte.toNat ∧ byte.toNat ≤ 57)

/-- A positive number without leading zeros. -/
def decimal (n : ℕ) : List UInt8 := ((Nat.digits 10 n).map fun d => UInt8.ofNat (48 + d)).reverse

/-- The value of decimal digits. -/
def decimalValue (bytes : List UInt8) : ℕ :=
  Nat.ofDigits 10 (bytes.reverse.map fun byte => byte.toNat - 48)

/-- Digits that do not start with a zero. -/
def IsDecimal (bytes : List UInt8) : Prop :=
  (∀ byte ∈ bytes, isDigitByte byte = true) ∧ ∃ byte ∈ bytes.head?, byte.toNat ≠ 48

theorem isDigitByte_iff {byte : UInt8} :
    isDigitByte byte = true ↔ 48 ≤ byte.toNat ∧ byte.toNat ≤ 57 := by
  simp [isDigitByte]

theorem toNat_digit {d : ℕ} (h : d < 10) : (UInt8.ofNat (48 + d)).toNat = 48 + d := by
  rw [UInt8.toNat_ofNat']
  omega

theorem decimalValue_decimal (n : ℕ) : decimalValue (decimal n) = n := by
  have hdigits : ((Nat.digits 10 n).map fun d => UInt8.ofNat (48 + d)).map
      (fun byte => byte.toNat - 48) = Nat.digits 10 n := by
    rw [List.map_map]
    refine (List.map_congr_left ?_).trans (List.map_id _)
    intro d hd
    have hlt := Nat.digits_lt_base (by decide) hd
    rw [Function.comp_apply, toNat_digit hlt, Nat.add_sub_cancel_left, id]
  rw [decimalValue, decimal, List.reverse_reverse, hdigits, Nat.ofDigits_digits]

theorem isDecimal_decimal {n : ℕ} (h : 0 < n) : IsDecimal (decimal n) := by
  constructor
  · intro byte hmem
    rw [decimal, List.mem_reverse, List.mem_map] at hmem
    obtain ⟨d, hd, rfl⟩ := hmem
    have hlt := Nat.digits_lt_base (by decide) hd
    rw [isDigitByte_iff, toNat_digit hlt]
    omega
  · have hne : Nat.digits 10 n ≠ [] := Nat.digits_ne_nil_iff_ne_zero.mpr h.ne'
    have hlt := Nat.digits_lt_base (by decide) (List.getLast_mem hne)
    have hlast := Nat.getLast_digit_ne_zero 10 h.ne'
    refine ⟨UInt8.ofNat (48 + (Nat.digits 10 n).getLast hne), ?_, ?_⟩
    · rw [decimal, List.head?_reverse, List.getLast?_map, List.getLast?_eq_some_getLast hne]
      rfl
    · rw [toNat_digit hlt]
      omega

end Spelling

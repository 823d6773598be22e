import Mathlib.Data.Nat.Digits.Lemmas

/-!
# Regrouping bits

Digits of one width are read from the highest on, and the same bits are written as digits
of another width.  What is held between the two is a few bits of an accumulator; the digits
written and the bits held are one number, the one that was read.
-/

namespace BitGroups

set_option autoImplicit false

/-- The number of some digits, the highest first. -/
def number (base : ℕ) (digits : List ℕ) : ℕ := Nat.ofDigits base digits.reverse

@[simp] theorem number_nil (base : ℕ) : number base [] = 0 := rfl

@[simp] theorem number_snoc (base : ℕ) (digits : List ℕ) (digit : ℕ) :
    number base (digits ++ [digit]) = number base digits * base + digit := by
  simp only [number, List.reverse_append, List.reverse_singleton, List.singleton_append,
    Nat.ofDigits_cons]
  ring

theorem number_lt {base : ℕ} (hbase : 1 < base) {digits : List ℕ}
    (hdigits : ∀ digit ∈ digits, digit < base) : number base digits < base ^ digits.length := by
  have h := Nat.ofDigits_lt_base_pow_length (l := digits.reverse) hbase
    fun digit hdigit => hdigits digit (List.mem_reverse.mp hdigit)
  rwa [List.length_reverse] at h

theorem number_injective {base : ℕ} (hbase : 1 < base) {digits digits' : List ℕ}
    (hlength : digits.length = digits'.length) (hdigits : ∀ digit ∈ digits, digit < base)
    (hdigits' : ∀ digit ∈ digits', digit < base) (h : number base digits = number base digits') :
    digits = digits' := by
  apply List.reverse_injective
  apply Nat.ofDigits_inj_of_len_eq hbase
  · rw [List.length_reverse, List.length_reverse, hlength]
  · intro digit hdigit
    exact hdigits digit (List.mem_reverse.mp hdigit)
  · intro digit hdigit
    exact hdigits' digit (List.mem_reverse.mp hdigit)
  · exact h

/-- Every number has its digits. -/
theorem exists_digits {base : ℕ} (hbase : 1 < base) (length n : ℕ) (h : n < base ^ length) :
    ∃ digits : List ℕ, digits.length = length ∧ (∀ digit ∈ digits, digit < base) ∧
      number base digits = n := by
  obtain ⟨digits, ⟨hlength, hdigits⟩, rfl⟩ := (Nat.bijOn_ofDigits hbase length).surjOn h
  refine ⟨digits.reverse, ?_, ?_, ?_⟩
  · rw [List.length_reverse]
    exact hlength
  · intro digit hdigit
    exact hdigits digit (List.mem_reverse.mp hdigit)
  · rw [number, List.reverse_reverse]

/-! ## The accumulator -/

/-- The digits written and the lowest bits of the accumulator are the first `read` bits, the
number `n`. -/
structure Holds (width : ℕ) (digits : List ℕ) (bits accumulator read n : ℕ) : Prop where
  length : digits.length * width + bits = read
  small : ∀ digit ∈ digits, digit < 2 ^ width
  value : number (2 ^ width) digits * 2 ^ bits + accumulator % 2 ^ bits = n

namespace Holds

variable {width bits accumulator read n : ℕ} {digits : List ℕ}

theorem start (width : ℕ) : Holds width [] 0 0 0 0 := ⟨by simp, by simp, by simp⟩

/-- A digit of another width is read. -/
theorem push (h : Holds width digits bits accumulator read n) (hsmall : accumulator < 2 ^ bits)
    (taken : ℕ) {digit : ℕ} (hdigit : digit < 2 ^ taken) :
    Holds width digits (bits + taken) (accumulator <<< taken ||| digit) (read + taken)
      (n * 2 ^ taken + digit) := by
  refine ⟨by rw [← add_assoc, h.length], h.small, ?_⟩
  have hvalue : accumulator <<< taken ||| digit = accumulator * 2 ^ taken + digit := by
    rw [Nat.shiftLeft_eq, mul_comm, Nat.two_pow_add_eq_or_of_lt hdigit]
  have hbound : accumulator * 2 ^ taken + digit < 2 ^ (bits + taken) := by
    rw [pow_add]
    calc accumulator * 2 ^ taken + digit < accumulator * 2 ^ taken + 2 ^ taken := by omega
      _ = (accumulator + 1) * 2 ^ taken := by ring
      _ ≤ 2 ^ bits * 2 ^ taken := Nat.mul_le_mul_right _ hsmall
  have hnumber := h.value
  rw [Nat.mod_eq_of_lt hsmall] at hnumber
  rw [hvalue, Nat.mod_eq_of_lt hbound, ← hnumber, pow_add]
  ring

/-- The highest bits held are written. -/
theorem emit (h : Holds width digits (bits + width) accumulator read n) :
    Holds width (digits ++ [accumulator >>> bits &&& 2 ^ width - 1]) bits accumulator read n := by
  refine ⟨?_, ?_, ?_⟩
  · rw [List.length_append, List.length_singleton, ← h.length]
    ring
  · intro digit hdigit
    rcases List.mem_append.mp hdigit with hold | hnew
    · exact h.small digit hold
    · rw [List.mem_singleton.mp hnew, Nat.and_two_pow_sub_one_eq_mod]
      exact Nat.mod_lt _ (Nat.two_pow_pos width)
  · rw [number_snoc, Nat.and_two_pow_sub_one_eq_mod, Nat.shiftRight_eq_div_pow, ← h.value,
      pow_add, Nat.mod_mul]
    ring

/-- The bits that were written already are dropped. -/
theorem mask (h : Holds width digits bits accumulator read n) :
    Holds width digits bits (accumulator &&& 2 ^ bits - 1) read n := by
  refine ⟨h.length, h.small, ?_⟩
  rw [Nat.and_two_pow_sub_one_eq_mod, Nat.mod_mod]
  exact h.value

/-- The bits that are left are written as the highest ones of a last digit. -/
theorem pad {free : ℕ} (h : Holds (bits + free) digits bits accumulator read n) :
    Holds (bits + free) (digits ++ [accumulator <<< free &&& 2 ^ (bits + free) - 1]) 0 0
      (read + free) (n * 2 ^ free) := by
  have hdigit : accumulator <<< free &&& 2 ^ (bits + free) - 1 =
      accumulator % 2 ^ bits * 2 ^ free := by
    rw [Nat.and_two_pow_sub_one_eq_mod, Nat.shiftLeft_eq, pow_add, Nat.mul_mod_mul_right]
  refine ⟨?_, ?_, ?_⟩
  · rw [List.length_append, List.length_singleton, ← h.length]
    ring
  · intro digit hmem
    rcases List.mem_append.mp hmem with hold | hnew
    · exact h.small digit hold
    · rw [List.mem_singleton.mp hnew, hdigit, pow_add]
      exact Nat.mul_lt_mul_of_pos_right (Nat.mod_lt _ (Nat.two_pow_pos bits)) (Nat.two_pow_pos free)
  · rw [number_snoc, hdigit, ← h.value, pow_add]
    simp
    ring

end Holds

end BitGroups

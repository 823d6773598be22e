import FlickrGroupAddr.Lib.Binary64
import FlickrGroupAddr.Lib.JsonReader
import FlickrGroupAddr.Lib.Utf16
import Mathlib.Data.Nat.Digits.Lemmas
import Mathlib.Tactic.Ring

/-!
# The JSON of the provider

The strict reader of provider bodies (`flickr_strict_json.ts`).  It scans a text against
bounds on its size, its nesting and its number of values, refuses repeated names and
halves of surrogate pairs, and keeps a number whose value is an integer only when its
digits spell that integer.
-/

namespace FlickrGroupAddr

set_option autoImplicit false

open JsonText Binary64

/-! ### Numbers of the language -/

/-- `Number` of a decimal literal. -/
def jsNumber (token : NumberToken) : Number := ofMagnitude token.negative token.magnitude

/-- The decimal digits of a natural number, most significant first. -/
def decimalDigits (n : ℕ) : List Digit :=
  if n = 0 then [0] else (Nat.digits 10 n).reverse.map (Fin.ofNat 10)

/-- `String` of a safe integer. -/
def integerText (n : ℤ) : Text := minusText (decide (n < 0)) ++ digitsText (decimalDigits n.natAbs)

/-! ### The strict reader -/

/-- Drop zeros from the end of the digits, given last digit first, while the scale is
    negative. -/
def stripZeros : List Digit → ℤ → List Digit × ℤ
  | [], scale => ([], scale)
  | digit :: rest, scale =>
    if scale < 0 ∧ digit = 0 then stripZeros rest (scale + 1) else (digit :: rest, scale)

/-- The digits of a token spell the integer that its number rounds to. -/
def spellsInteger (token : NumberToken) (n : ℤ) : Bool :=
  let digits := token.digits.dropWhile (· = 0)
  if digits = [] then true
  else
    match (difference token.exponentValue token.fractionDigits.length).toSafeInteger? with
    | none => false
    | some scale =>
      let stripped := stripZeros digits.reverse scale
      if stripped.2 < 0 ∨ 16 < stripped.1.length + stripped.2 then false
      else
        minusText token.negative ++
          digitsText (stripped.1.reverse ++ List.replicate stripped.2.toNat 0) == integerText n

def flickrNumber (token : NumberToken) : Option Number :=
  if 128 < token.text.length then none
  else
    let value := jsNumber token
    if ¬value.IsFinite then none
    else
      match value.toInt? with
      | none => some value
      | some n =>
        if Number.maxSafeInteger < n.natAbs then none
        else if spellsInteger token n then some value
        else none

def flickrDialect : Dialect Number where
  maxDepth := some 64
  maxNodes := some 65536
  compound := true
  distinct := true
  acceptsText := fun content => !hasLoneSurrogate content
  number := flickrNumber

def strictFlickrJson (raw : Text) (maxBytes : Number) : Option (JsonTree Number .value) :=
  match maxBytes.toSafeInteger? with
  | none => none
  | some limit =>
    if limit < 1 ∨ 1048576 < limit ∨ limit < raw.length ∨ limit < utf8Length raw then none
    else flickrDialect.read raw

/-- A response body is decoded and read. -/
def readFlickrBody (bytes : ByteArray) (maxBytes : Number) : Option (JsonTree Number .value) := do
  let raw ← decodeUtf8 bytes
  strictFlickrJson raw maxBytes

/-! ### Decimal digits -/

theorem digitsValue_decimalDigits (n : ℕ) : digitsValue (decimalDigits n) = n := by
  rw [decimalDigits]
  split
  · next h => simp [h, digitsValue]
  · have hval : (Nat.digits 10 n).map (fun d => (Fin.ofNat 10 d).val) = Nat.digits 10 n := by
      refine (List.map_congr_left fun d hd => ?_).trans (List.map_id _)
      exact Nat.mod_eq_of_lt (Nat.digits_lt_base (by decide) hd)
    rw [digitsValue, ← List.map_reverse, List.reverse_reverse, List.map_map]
    exact (congrArg (Nat.ofDigits 10) hval).trans (Nat.ofDigits_digits 10 n)

theorem digitsValue_eq_zero {digits : List Digit} (h : digitsValue digits = 0) :
    ∀ digit ∈ digits, digit = 0 := by
  intro digit hdigit
  have hzero := Nat.digits_zero_of_eq_zero (by decide : (10 : ℕ) ≠ 0) h digit.val
    (List.mem_map_of_mem (List.mem_reverse.mpr hdigit))
  exact Fin.ext hzero

/-- Digits without a leading zero are the decimal digits of their value. -/
theorem decimalDigits_digitsValue {digits : List Digit} (hne : digits ≠ [])
    (hhead : digits.head? ≠ some 0) : decimalDigits (digitsValue digits) = digits := by
  have hvalue : digitsValue digits ≠ 0 := by
    intro hzero
    obtain ⟨first, more, rfl⟩ := List.exists_cons_of_ne_nil hne
    exact hhead (by simp [digitsValue_eq_zero hzero first (by simp)])
  have hdigits : Nat.digits 10 (digitsValue digits) = digits.reverse.map Fin.val := by
    refine Nat.digits_ofDigits 10 (by decide) _ ?_ ?_
    · intro d hd
      obtain ⟨digit, -, rfl⟩ := List.mem_map.mp hd
      exact digit.isLt
    · intro hnil
      rw [List.getLast_map, List.getLast_reverse]
      intro hzero
      apply hhead
      rw [List.head?_eq_some_head hne]
      exact congrArg some (Fin.ext hzero)
  rw [decimalDigits, if_neg hvalue, hdigits, ← List.map_reverse, List.reverse_reverse, List.map_map]
  refine (List.map_congr_left fun digit _ => ?_).trans (List.map_id _)
  exact Fin.ext (Nat.mod_eq_of_lt digit.isLt)

theorem decimalDigits_eq_iff {digits : List Digit} (hne : digits ≠ []) (hhead : digits.head? ≠ some 0)
    {n : ℕ} : decimalDigits n = digits ↔ digitsValue digits = n := by
  constructor
  · rintro rfl
    exact digitsValue_decimalDigits n
  · rintro rfl
    exact decimalDigits_digitsValue hne hhead

theorem digitUnit_injective : Function.Injective digitUnit := by
  intro left right h
  have hread := digit?_digitUnit left
  rw [h, digit?_digitUnit, Option.some.injEq] at hread
  exact hread.symm

theorem decimalDigits_ne_nil (n : ℕ) : decimalDigits n ≠ [] := by
  intro h
  have hvalue := digitsValue_decimalDigits n
  rw [h] at hvalue
  have hn : n = 0 := hvalue.symm
  simp [decimalDigits, hn] at h

/-- A sign and digits make one text only. -/
theorem signed_text_inj {a b : Bool} {left right : List Digit} (hl : left ≠ []) (hr : right ≠ []) :
    minusText a ++ digitsText left = minusText b ++ digitsText right ↔ a = b ∧ left = right := by
  constructor
  · intro h
    obtain ⟨first, more, rfl⟩ := List.exists_cons_of_ne_nil hl
    obtain ⟨other, rest, rfl⟩ := List.exists_cons_of_ne_nil hr
    have hsame : ∀ {xs ys : List Digit}, digitsText xs = digitsText ys → xs = ys :=
      fun h => List.map_injective_iff.mpr digitUnit_injective h
    cases a with
    | true =>
      cases b with
      | true => exact ⟨rfl, hsame (by simpa [minusText] using h)⟩
      | false =>
        simp only [minusText, if_true, digitsText, List.map_cons] at h
        exact absurd (List.cons.inj h).1.symm (digitUnit_ne_minus other)
    | false =>
      cases b with
      | true =>
        simp only [minusText, if_true, digitsText, List.map_cons] at h
        exact absurd (List.cons.inj h).1 (digitUnit_ne_minus first)
      | false => exact ⟨rfl, hsame (by simpa [minusText] using h)⟩
  · rintro ⟨rfl, rfl⟩
    rfl

/-! ### Zeros at the end -/

/-- What is stripped are zeros, each counted by the scale, until the scale or another digit
    ends them. -/
theorem stripZeros_spec (digits : List Digit) : ∀ scale : ℤ, ∃ k : ℕ,
    digits = List.replicate k 0 ++ (stripZeros digits scale).1 ∧
      (stripZeros digits scale).2 = scale + k ∧
      (0 < k → (stripZeros digits scale).2 ≤ 0) ∧
      ((stripZeros digits scale).2 < 0 → (stripZeros digits scale).1.head? ≠ some 0) := by
  induction digits with
  | nil =>
    intro scale
    exact ⟨0, by simp [stripZeros]⟩
  | cons digit rest ih =>
    intro scale
    rw [stripZeros]
    split
    · next h =>
      obtain ⟨k, hdigits, hscale, hnonpos, hhead⟩ := ih (scale + 1)
      refine ⟨k + 1, ?_, ?_, ?_, hhead⟩
      · rw [List.replicate_succ, List.cons_append, ← hdigits, h.2]
      · rw [hscale]
        push_cast
        omega
      · intro _
        by_cases hk : 0 < k
        · exact hnonpos hk
        · omega
    · next h =>
      refine ⟨0, by simp, by simp, by simp, ?_⟩
      intro hneg
      simp only [List.head?_cons, ne_eq, Option.some.injEq]
      exact fun hdigit => h ⟨hneg, hdigit⟩

/-! ### When digits spell an integer -/

/-- The value of digits given last digit first. -/
def reversedValue (digits : List Digit) : ℕ := Nat.ofDigits 10 (digits.map Fin.val)

theorem digitsValue_eq (digits : List Digit) : digitsValue digits = reversedValue digits.reverse := rfl

theorem reversedValue_zeros (k : ℕ) (digits : List Digit) :
    reversedValue (List.replicate k 0 ++ digits) = 10 ^ k * reversedValue digits := by
  rw [reversedValue, List.map_append, List.map_replicate, Nat.ofDigits_append,
    show (Fin.val (0 : Digit)) = 0 from rfl, Nat.ofDigits_replicate_zero]
  simp [reversedValue]

theorem digitsValue_dropZeros (digits : List Digit) :
    digitsValue (digits.dropWhile (· = 0)) = digitsValue digits := by
  induction digits with
  | nil => rfl
  | cons digit rest ih =>
    by_cases h : digit = 0
    · have hzero : digitsValue (digit :: rest) = digitsValue rest := by
        simp [digitsValue, h, Nat.ofDigits_append_zero]
      rw [hzero, ← ih]
      simp [h]
    · simp [h]

theorem digitsValue_lt (digits : List Digit) : digitsValue digits < 10 ^ digits.length := by
  have hlt := Nat.ofDigits_lt_base_pow_length (b := 10) (l := digits.reverse.map Fin.val) (by decide) <| by
    intro d hd
    obtain ⟨digit, -, rfl⟩ := List.mem_map.mp hd
    exact digit.isLt
  simpa [digitsValue] using hlt

/-- The value of a token of few digits is no integer when they count too small or too large a
    power of ten. -/
theorem scale_bounds {token : NumberToken} {m : ℕ} (hlength : token.text.length ≤ 128) (hm : m ≠ 0)
    (hsafe : m ≤ Number.maxSafeInteger) (h : token.magnitude = m) :
    -128 ≤ token.scale ∧ token.scale ≤ 16 := by
  have hdigits : digitsValue token.digits < 10 ^ 128 :=
    (digitsValue_lt _).trans_le
      (Nat.pow_le_pow_right (by decide) ((NumberToken.length_digits_le token).trans hlength))
  by_cases hneg : token.scale < 0
  · refine ⟨?_, by omega⟩
    by_contra hlow
    rw [NumberToken.magnitude_of_neg hneg, div_eq_iff (by positivity)] at h
    have hshift : digitsValue token.digits = m * 10 ^ token.scale.natAbs := by exact_mod_cast h
    have hpow : 10 ^ 128 ≤ 10 ^ token.scale.natAbs := Nat.pow_le_pow_right (by decide) (by omega)
    have hle : 10 ^ token.scale.natAbs ≤ m * 10 ^ token.scale.natAbs :=
      Nat.le_mul_of_pos_left _ (Nat.pos_of_ne_zero hm)
    omega
  · refine ⟨by omega, ?_⟩
    by_contra hhigh
    rw [NumberToken.magnitude_of_nonneg (not_lt.mp hneg)] at h
    have hshift : digitsValue token.digits * 10 ^ token.scale.natAbs = m := by exact_mod_cast h
    have hpow : 10 ^ 17 ≤ 10 ^ token.scale.natAbs := Nat.pow_le_pow_right (by decide) (by omega)
    have hpos : 0 < digitsValue token.digits := by
      apply Nat.pos_of_ne_zero
      intro hzero
      simp only [hzero, Nat.zero_mul] at hshift
      exact hm hshift.symm
    have hle : 10 ^ token.scale.natAbs ≤ m := hshift ▸ Nat.le_mul_of_pos_left _ hpos
    simp only [Number.maxSafeInteger] at hsafe
    omega

/-- The digits of a token without leading zeros. -/
def significantDigits (token : NumberToken) : List Digit := token.digits.dropWhile (· = 0)

theorem head_significantDigits (token : NumberToken) :
    (significantDigits token).head? ≠ some 0 := by
  intro h
  have hnot := List.head?_dropWhile_not (fun digit : Digit => decide (digit = 0)) token.digits
  rw [significantDigits] at h
  rw [h] at hnot
  simp at hnot

theorem magnitude_pos {token : NumberToken} (hne : significantDigits token ≠ []) :
    0 < token.magnitude := by
  have hvalue : digitsValue token.digits ≠ 0 := by
    rw [← digitsValue_dropZeros]
    intro hzero
    obtain ⟨first, more, hcons⟩ := List.exists_cons_of_ne_nil hne
    apply head_significantDigits token
    rw [significantDigits] at hcons ⊢
    rw [hcons] at hzero ⊢
    exact congrArg some (digitsValue_eq_zero hzero first (by simp))
  have hpos : (0 : ℚ) < digitsValue token.digits := by exact_mod_cast Nat.pos_of_ne_zero hvalue
  rw [NumberToken.magnitude]
  positivity

/-- What is left of the significant digits, last digit first, and their scale. -/
theorem stripped_facts {token : NumberToken} (scale : ℤ) (hne : significantDigits token ≠ []) :
    ∃ k : ℕ, k ≤ token.digits.length ∧
      (stripZeros (significantDigits token).reverse scale).2 = scale + k ∧
      (stripZeros (significantDigits token).reverse scale).1 ≠ [] ∧
      (stripZeros (significantDigits token).reverse scale).1.getLast? ≠ some 0 ∧
      token.magnitude = reversedValue (stripZeros (significantDigits token).reverse scale).1 *
        10 ^ (token.scale + k) ∧
      ((stripZeros (significantDigits token).reverse scale).2 < 0 →
        (stripZeros (significantDigits token).reverse scale).1.head? ≠ some 0) := by
  obtain ⟨k, hdigits, hscale, -, hhead⟩ := stripZeros_spec (significantDigits token).reverse scale
  generalize stripZeros (significantDigits token).reverse scale = stripped at *
  have hlast : (significantDigits token).reverse.getLast? ≠ some 0 := by
    rw [List.getLast?_reverse]
    exact head_significantDigits token
  have hrest : stripped.1 ≠ [] := by
    intro hnil
    rw [hdigits, hnil, List.append_nil] at hlast
    cases k with
    | zero =>
      rw [hnil] at hdigits
      exact hne (by simpa using hdigits)
    | succ k => simp [List.getLast?_replicate] at hlast
  refine ⟨k, ?_, hscale, hrest, ?_, ?_, hhead⟩
  · have hlength := congrArg List.length hdigits
    have hle : (significantDigits token).length ≤ token.digits.length :=
      (List.dropWhile_suffix _).length_le
    simp only [List.length_reverse, List.length_append, List.length_replicate] at hlength
    omega
  · rw [hdigits, List.getLast?_append] at hlast
    rwa [List.getLast?_eq_some_getLast hrest] at hlast ⊢
  · have hvalue : digitsValue token.digits = 10 ^ k * reversedValue stripped.1 := by
      rw [← digitsValue_dropZeros, digitsValue_eq, ← reversedValue_zeros, ← hdigits]
      rfl
    rw [NumberToken.magnitude, hvalue, zpow_add₀ (by norm_num), zpow_natCast]
    push_cast
    ring

theorem value_eq_intCast {token : NumberToken} (hpos : 0 < token.magnitude) {n : ℤ} :
    token.value = n ↔ token.magnitude = n.natAbs ∧ token.negative = decide (n < 0) := by
  have habs : (n.natAbs : ℚ) = |(n : ℚ)| := by rw [Nat.cast_natAbs, Int.cast_abs]
  rw [habs, NumberToken.value]
  cases token.negative with
  | true =>
    simp only [if_true, true_eq_decide_iff]
    constructor
    · intro h
      have hneg : (n : ℚ) < 0 := by linarith
      exact ⟨by rw [abs_of_neg hneg]; linarith, by exact_mod_cast hneg⟩
    · rintro ⟨h, hneg⟩
      have hneg' : (n : ℚ) < 0 := by exact_mod_cast hneg
      rw [h, abs_of_neg hneg', neg_neg]
  | false =>
    simp only [Bool.false_eq_true, if_false, false_eq_decide_iff, not_lt]
    constructor
    · intro h
      have hnonneg : (0 : ℚ) ≤ n := by linarith
      exact ⟨by rw [abs_of_nonneg hnonneg, h], by exact_mod_cast hnonneg⟩
    · rintro ⟨h, hnonneg⟩
      have hnonneg' : (0 : ℚ) ≤ n := by exact_mod_cast hnonneg
      rw [h, abs_of_nonneg hnonneg']

/-- The digits before and after the zeros at the end. -/
def restored (digits : List Digit) (scale : ℕ) : List Digit := digits.reverse ++ List.replicate scale 0

theorem digitsValue_restored (digits : List Digit) (scale : ℕ) :
    digitsValue (restored digits scale) = 10 ^ scale * reversedValue digits := by
  rw [digitsValue_eq, restored, List.reverse_append, List.reverse_replicate, List.reverse_reverse,
    reversedValue_zeros]

theorem restored_leads {digits : List Digit} (scale : ℕ) (hne : digits ≠ [])
    (hlast : digits.getLast? ≠ some 0) :
    restored digits scale ≠ [] ∧ (restored digits scale).head? ≠ some 0 := by
  constructor
  · simp [restored, hne]
  · rw [restored, List.head?_append_of_ne_nil _ (by simpa using hne), List.head?_reverse]
    exact hlast

/-- The text that is compared has the sign and the digits of the magnitude. -/
theorem restored_text {token : NumberToken} {digits : List Digit} {scale : ℕ} (hne : digits ≠ [])
    (hlast : digits.getLast? ≠ some 0)
    (hmagnitude : token.magnitude = reversedValue digits * 10 ^ scale) {n : ℤ} :
    minusText token.negative ++ digitsText (restored digits scale) = integerText n ↔
      token.magnitude = n.natAbs ∧ token.negative = decide (n < 0) := by
  obtain ⟨hnonempty, hhead⟩ := restored_leads scale hne hlast
  rw [integerText, signed_text_inj hnonempty (decimalDigits_ne_nil _), eq_comm (b := decimalDigits _),
    decimalDigits_eq_iff hnonempty hhead, digitsValue_restored, hmagnitude, and_comm]
  refine and_congr_left fun _ => ?_
  constructor
  · intro h
    rw [← h]
    push_cast
    ring
  · intro h
    have hnat : reversedValue digits * 10 ^ scale = n.natAbs := by exact_mod_cast h
    rw [← hnat, Nat.mul_comm]

/-- A safe integer has at most sixteen digits. -/
theorem restored_length {digits : List Digit} {scale m : ℕ} (hne : digits ≠ [])
    (hlast : digits.getLast? ≠ some 0) (hm : m ≤ Number.maxSafeInteger)
    (h : reversedValue digits * 10 ^ scale = m) : digits.length + scale ≤ 16 := by
  obtain ⟨hnonempty, hhead⟩ := restored_leads scale hne hlast
  have hdecimal : decimalDigits m = restored digits scale := by
    rw [decimalDigits_eq_iff hnonempty hhead, digitsValue_restored, Nat.mul_comm, h]
  have hlength : (decimalDigits m).length ≤ 16 := by
    rw [decimalDigits]
    split
    · simp
    · rw [List.length_map, List.length_reverse, Nat.digits_length_le_iff (by decide)]
      exact hm.trans_lt (by decide)
  rw [hdecimal] at hlength
  simpa [restored] using hlength

/-- A scale below zero leaves a digit that no integer has. -/
theorem scale_nonneg {digits : List Digit} {scale : ℤ} {m : ℕ} (hne : digits ≠ [])
    (hhead : scale < 0 → digits.head? ≠ some 0) (h : (reversedValue digits : ℚ) * 10 ^ scale = m) :
    0 ≤ scale := by
  by_contra hneg
  obtain ⟨k, hk⟩ := Int.eq_ofNat_of_zero_le (by omega : 0 ≤ -scale - 1)
  obtain ⟨first, more, rfl⟩ := List.exists_cons_of_ne_nil hne
  have hscale : scale = -((k + 1 : ℕ) : ℤ) := by
    push_cast
    omega
  rw [hscale, zpow_neg, zpow_natCast, ← div_eq_mul_inv, div_eq_iff (by positivity)] at h
  have hnat : reversedValue (first :: more) = m * 10 ^ (k + 1) := by exact_mod_cast h
  apply hhead (by omega)
  rw [reversedValue, List.map_cons, Nat.ofDigits_cons, pow_succ] at hnat
  have hfirst : first.val = 0 := by
    have hlt := first.isLt
    have hmod : (first.val + 10 * Nat.ofDigits 10 (more.map Fin.val)) % 10 = 0 := by
      rw [hnat, ← Nat.mul_assoc]
      exact Nat.mul_mod_left _ _
    omega
  simp [Fin.ext_iff, hfirst]

/-- With some significant digit, the comparison of digits accepts an integer exactly when the
    token denotes it. -/
theorem spellsInteger_iff {token : NumberToken} {n : ℤ} (hlength : token.text.length ≤ 128)
    (hsafe : n.natAbs ≤ Number.maxSafeInteger) (hne : significantDigits token ≠ []) :
    spellsInteger token n = true ↔ token.value = n := by
  have hpos := magnitude_pos hne
  have hcount : token.fractionDigits.length ≤ 2 ^ 30 :=
    (token.length_fractionDigits_le.trans hlength).trans (by decide)
  have hdigits : token.digits.length ≤ 128 := token.length_digits_le.trans hlength
  rw [value_eq_intCast hpos]
  have hunfold : spellsInteger token n =
      match (difference token.exponentValue token.fractionDigits.length).toSafeInteger? with
      | none => false
      | some scale =>
        let stripped := stripZeros (significantDigits token).reverse scale
        if stripped.2 < 0 ∨ 16 < stripped.1.length + stripped.2 then false
        else minusText token.negative ++ digitsText (restored stripped.1 stripped.2.toNat) == integerText n := by
    rw [spellsInteger]
    exact if_neg hne
  rw [hunfold]
  constructor
  · intro h
    split at h
    · simp at h
    · next scale hscale =>
      obtain ⟨k, hk, hsum, hrest, hlast, hmagnitude, -⟩ := stripped_facts scale hne
      simp only [Bool.ite_eq_true_distrib, Bool.false_eq_true, if_false_left, not_or, not_lt,
        beq_iff_eq] at h
      obtain ⟨⟨hlow, hhigh⟩, htext⟩ := h
      rw [toSafeInteger?_eq_some, difference_eq_some hcount (by omega)] at hscale
      obtain ⟨t, ht⟩ := Int.eq_ofNat_of_zero_le hlow
      have hexact : token.scale + k = t := by
        rw [NumberToken.scale, hscale.1, ← hsum, ht]
      rw [hexact, zpow_natCast] at hmagnitude
      rw [ht, Int.toNat_natCast] at htext
      exact (restored_text hrest hlast hmagnitude).mp htext
  · intro h
    have hm : n.natAbs ≠ 0 := by
      intro hzero
      rw [h.1, hzero] at hpos
      simp at hpos
    obtain ⟨hlow, hhigh⟩ := scale_bounds hlength hm hsafe h.1
    have hscale : (difference token.exponentValue token.fractionDigits.length).toSafeInteger? =
        some token.scale := by
      rw [toSafeInteger?_eq_some, difference_eq_some hcount (by omega)]
      refine ⟨rfl, ?_⟩
      simp only [Number.maxSafeInteger]
      omega
    obtain ⟨k, hk, hsum, hrest, hlast, hmagnitude, hhead⟩ := stripped_facts token.scale hne
    rw [hscale]
    simp only
    rw [← hsum] at hmagnitude
    have hnonneg := scale_nonneg hrest hhead (hmagnitude.symm.trans h.1)
    obtain ⟨t, ht⟩ := Int.eq_ofNat_of_zero_le hnonneg
    rw [ht, zpow_natCast] at hmagnitude
    have hshort := restored_length hrest hlast hsafe (by exact_mod_cast hmagnitude.symm.trans h.1)
    have htext := (restored_text hrest hlast hmagnitude).mpr h
    rw [if_neg (by rw [ht]; omega), ht, Int.toNat_natCast, htext]
    exact beq_self_eq_true _

/-! ### The numbers that are kept -/

/-- A number token that is kept: it is short, its number is finite, and when that is an
    integer the token denotes a safe integer. -/
def FlickrNumeral (token : NumberToken) : Prop :=
  token.text.length ≤ 128 ∧ (jsNumber token).IsFinite ∧
    ((jsNumber token).toInt?.isSome = true →
      ∃ n : ℤ, n.natAbs ≤ Number.maxSafeInteger ∧ token.value = n)

/-- A token that denotes a safe integer has that integer as its number. -/
theorem toInt?_jsNumber {token : NumberToken} {n : ℤ} (hn : n.natAbs ≤ Number.maxSafeInteger)
    (h : token.value = n) : (jsNumber token).toInt? = some n := by
  have habs : (n.natAbs : ℚ) = |(n : ℚ)| := by rw [Nat.cast_natAbs, Int.cast_abs]
  have hnonneg := token.magnitude_nonneg
  have hmagnitude : token.magnitude = n.natAbs := by
    rw [habs, ← h, NumberToken.value]
    split
    · rw [abs_neg, abs_of_nonneg hnonneg]
    · rw [abs_of_nonneg hnonneg]
  rw [toInt?_eq_some, jsNumber, hmagnitude, ofMagnitude_natCast _ hn, Number.toRat?, ← hmagnitude, ← h]
  rfl

theorem value_of_no_digits {token : NumberToken} (h : significantDigits token = []) :
    token.value = (0 : ℤ) := by
  have hvalue : digitsValue token.digits = 0 := by
    rw [← digitsValue_dropZeros]
    exact congrArg digitsValue h
  simp [NumberToken.value, NumberToken.magnitude, hvalue]

theorem spellsInteger_of_toInt? {token : NumberToken} {n : ℤ} (hlength : token.text.length ≤ 128)
    (h : (jsNumber token).toInt? = some n) (hsafe : n.natAbs ≤ Number.maxSafeInteger) :
    spellsInteger token n = true ↔ token.value = n := by
  by_cases hne : significantDigits token = []
  · have hvalue := value_of_no_digits hne
    have hzero := toInt?_jsNumber (n := 0) (Nat.zero_le _) hvalue
    rw [h, Option.some.injEq] at hzero
    subst hzero
    have htrue : spellsInteger token 0 = true := by
      rw [spellsInteger]
      exact if_pos hne
    simp [htrue, hvalue]
  · exact spellsInteger_iff hlength hsafe hne

theorem flickrNumber_eq_some {token : NumberToken} {x : Number} :
    flickrNumber token = some x ↔ FlickrNumeral token ∧ jsNumber token = x := by
  rw [flickrNumber, Option.ite_none_left_eq_some, not_lt, FlickrNumeral, and_assoc]
  refine and_congr_right fun hlength => ?_
  simp only [Option.ite_none_left_eq_some, not_not]
  rw [and_assoc]
  refine and_congr_right fun hfinite => ?_
  cases hint : (jsNumber token).toInt? with
  | none => simp
  | some n =>
    simp only [Option.ite_none_left_eq_some, not_lt, Option.ite_none_right_eq_some, Option.some.injEq,
      Option.isSome_some, true_implies, ← and_assoc]
    refine and_congr_left fun _ => ?_
    constructor
    · rintro ⟨hsafe, hspells⟩
      exact ⟨n, hsafe, (spellsInteger_of_toInt? hlength hint hsafe).mp hspells⟩
    · rintro ⟨m, hsafe, hvalue⟩
      have hsame := toInt?_jsNumber hsafe hvalue
      rw [hint, Option.some.injEq] at hsame
      subst hsame
      exact ⟨hsafe, (spellsInteger_of_toInt? hlength hint hsafe).mpr hvalue⟩

/-! ### The parser of the platform -/

/-- The value of the first member of a name. -/
def memberNamed (name : Text) : JsonTree NumberToken .members → Option (JsonTree NumberToken .value)
  | .noMembers => none
  | .member other head tail => if other = name then some head else memberNamed name tail

def withoutMember (name : Text) : JsonTree NumberToken .members → JsonTree NumberToken .members
  | .noMembers => .noMembers
  | .member other head tail =>
    if other = name then withoutMember name tail else .member other head (withoutMember name tail)

/-- Of the members of one name the last gives the value, at the place of the first. -/
def lastWins : {part : Part} → JsonTree NumberToken part → JsonTree NumberToken part
  | _, .null => .null
  | _, .boolean b => .boolean b
  | _, .number n => .number n
  | _, .text content => .text content
  | _, .array items => .array (lastWins items)
  | _, .object members => .object (lastWins members)
  | _, .noItems => .noItems
  | _, .item head tail => .item (lastWins head) (lastWins tail)
  | _, .noMembers => .noMembers
  | _, .member name head tail =>
    .member name ((memberNamed name (lastWins tail)).getD (lastWins head))
      (withoutMember name (lastWins tail))

/-- `JSON.parse`. -/
def jsonParse (text : Text) : Option (JsonTree Number .value) :=
  (plainDialect.read text).map fun tree => (lastWins tree).map jsNumber

theorem memberNamed_eq_none {name : Text} {members : JsonTree NumberToken .members}
    (h : name ∉ members.names) :
    memberNamed name members = none ∧ withoutMember name members = members := by
  cases members with
  | noMembers => simp [memberNamed, withoutMember]
  | member other head tail =>
    simp only [JsonTree.names, List.mem_cons, not_or] at h
    obtain ⟨hnone, hsame⟩ := memberNamed_eq_none h.2
    simp [memberNamed, withoutMember, Ne.symm h.1, hnone, hsame]

/-- An object that repeats no name is kept as it is. -/
theorem lastWins_of_distinct {part : Part} {tree : JsonTree NumberToken part} (h : tree.Distinct)
    (hnames : ∀ hpart : part = .members, (hpart ▸ tree).names.Nodup) : lastWins tree = tree := by
  induction tree with
  | null => rfl
  | boolean b => rfl
  | number n => rfl
  | text content => rfl
  | array items ih => rw [lastWins, ih h (by simp)]
  | object members ih => rw [lastWins, ih h.2 fun _ => h.1]
  | noItems => rfl
  | item head tail ihh iht => rw [lastWins, ihh h.1 (by simp), iht h.2 (by simp)]
  | noMembers => rfl
  | member name head tail ihh iht =>
    have hnodup := hnames rfl
    simp only [JsonTree.names, List.nodup_cons] at hnodup
    obtain ⟨hnone, hsame⟩ := memberNamed_eq_none hnodup.1
    rw [lastWins, ihh h.1 (by simp), iht h.2 fun _ => hnodup.2, hnone, hsame]
    rfl

theorem jsonParse_of_document {text : Text} {source : JsonTree NumberToken .value}
    (h : Document source text) (hdistinct : source.Distinct) :
    jsonParse text = some (source.map jsNumber) := by
  rw [jsonParse, plainDialect_read.mpr h, Option.map_some,
    lastWins_of_distinct hdistinct (by simp)]

/-! ### What the strict reader accepts -/

theorem flickrDialect_read {text : Text} {value : JsonTree Number .value} :
    flickrDialect.read text = some value ↔
      ∃ source, Document source text ∧ source.depth ≤ 64 ∧ source.size ≤ 65536 ∧ source.Distinct ∧
        (∀ content ∈ source.texts, hasLoneSurrogate content = false) ∧
        (∀ token ∈ source.numbers, FlickrNumeral token) ∧ jsonParse text = some value := by
  classical
  have hnumber : flickrDialect.number =
      fun token => if FlickrNumeral token then some (jsNumber token) else none := by
    funext token
    apply Option.ext
    intro x
    rw [Option.ite_none_right_eq_some, Option.some.injEq]
    exact flickrNumber_eq_some
  rw [Dialect.read_eq_some]
  constructor
  · rintro ⟨source, hsource, hread, hallows, hdeep, hmany⟩
    rw [hnumber, JsonTree.traverse_guard] at hread
    have hdistinct := hallows.distinct rfl
    refine ⟨source, hsource, hdeep 64 rfl, hmany 65536 rfl, hdistinct, ?_, hread.1, ?_⟩
    · intro content hcontent
      simpa [flickrDialect] using hallows.texts content hcontent
    · rw [jsonParse_of_document hsource hdistinct, hread.2]
  · rintro ⟨source, hsource, hdeep, hmany, hdistinct, htexts, hnumbers, hparse⟩
    rw [jsonParse_of_document hsource hdistinct, Option.some.injEq] at hparse
    refine ⟨source, hsource, ?_, ⟨?_, fun _ => hdistinct, ?_⟩, ?_, ?_⟩
    · rw [hnumber, JsonTree.traverse_guard]
      exact ⟨hnumbers, hparse⟩
    · intro content hcontent
      simpa [flickrDialect] using htexts content hcontent
    · intro h
      simp [flickrDialect] at h
    · simpa [Within, flickrDialect] using hdeep
    · simpa [Within, flickrDialect] using hmany

/-- A body is read exactly when the size limit is an integer from one to 1048576, the body is
    well-formed UTF-8 within it, and its text is JSON with a nesting of at most 64, at most
    65536 values, no repeated name, no half of a surrogate pair and only numbers that are
    kept; what is read then is what the parser of the platform returns. -/
theorem flickr_body_read (bytes : ByteArray) (maxBytes : Number) (value : JsonTree Number .value) :
    readFlickrBody bytes maxBytes = some value ↔
      ∃ limit : ℕ, maxBytes.toRat? = some (limit : ℚ) ∧ 1 ≤ limit ∧ limit ≤ 1048576 ∧
        bytes.size ≤ limit ∧ ∃ text source, decodeUtf8 bytes = some text ∧ Document source text ∧
          source.depth ≤ 64 ∧ source.size ≤ 65536 ∧ source.Distinct ∧
          (∀ content ∈ source.texts, hasLoneSurrogate content = false) ∧
          (∀ token ∈ source.numbers, FlickrNumeral token) ∧ jsonParse text = some value := by
  simp only [readFlickrBody, Option.bind_eq_bind, Option.bind_eq_some_iff]
  constructor
  · rintro ⟨text, htext, hread⟩
    obtain ⟨s, rfl, rfl⟩ := decodeUtf8_eq_some.mp htext
    simp only [strictFlickrJson] at hread
    split at hread
    · simp at hread
    · next limit hlimit =>
      rw [Option.ite_none_left_eq_some] at hread
      obtain ⟨hbounds, hread⟩ := hread
      simp only [not_or, not_lt] at hbounds
      obtain ⟨hlow, hhigh, -, hbytes⟩ := hbounds
      obtain ⟨source, hsource⟩ := flickrDialect_read.mp hread
      obtain ⟨n, rfl⟩ := Int.eq_ofNat_of_zero_le (by omega : 0 ≤ limit)
      rw [utf8Length_encode] at hbytes
      refine ⟨n, ?_, by omega, by omega, by omega, encode s, source, htext, hsource⟩
      exact_mod_cast (toSafeInteger?_eq_some.mp hlimit).1
  · rintro ⟨limit, hlimit, hlow, hhigh, hbytes, text, source, htext, hsource⟩
    obtain ⟨s, rfl, rfl⟩ := decodeUtf8_eq_some.mp htext
    refine ⟨encode s, htext, ?_⟩
    have hsafe : maxBytes.toSafeInteger? = some (limit : ℤ) := by
      rw [toSafeInteger?_eq_some]
      refine ⟨by exact_mod_cast hlimit, ?_⟩
      simp only [Number.maxSafeInteger]
      omega
    have hlength := length_encode_le s
    rw [strictFlickrJson, hsafe]
    simp only
    rw [if_neg, flickrDialect_read]
    · exact ⟨source, hsource⟩
    · rw [utf8Length_encode]
      omega

/-- A limit above 1048576 refuses every body, the shortest text included. -/
theorem flickr_body_limit :
    readFlickrBody "0".toByteArray (.finite false 1048577) = none ∧
    "0".toByteArray.size ≤ 1048577 ∧
    ∃ text source, decodeUtf8 "0".toByteArray = some text ∧ Document source text ∧
      source.depth ≤ 64 ∧ source.size ≤ 65536 ∧ source.Distinct ∧
      (∀ content ∈ source.texts, hasLoneSurrogate content = false) ∧
      ∀ token ∈ source.numbers, FlickrNumeral token := by
  have htext : decodeUtf8 "0".toByteArray = some (units ['0']) :=
    decodeUtf8_eq_some.mpr ⟨"0", rfl, by decide⟩
  have hvalue : (digitToken 0).value = (0 : ℤ) := by
    rw [digitToken_value]
    rfl
  have hint := toInt?_jsNumber (Nat.zero_le _) hvalue
  refine ⟨?_, by decide, units ['0'], .number (digitToken 0), htext, ?_, by simp [JsonTree.depth],
    by simp [JsonTree.size], trivial, by simp [JsonTree.texts], ?_⟩
  · rw [readFlickrBody, htext]
    have hlimit : (Number.finite false 1048577).toSafeInteger? = some 1048577 := by
      rw [toSafeInteger?_eq_some]
      exact ⟨by simp [Number.toRat?], by decide⟩
    simp [strictFlickrJson, hlimit]
  · exact ⟨[], _, [], by simp [Blank], .number _, by simp [Blank], by decide⟩
  · simp only [JsonTree.numbers, List.forall_mem_singleton]
    refine ⟨by decide, ?_, fun _ => ⟨0, Nat.zero_le _, hvalue⟩⟩
    rw [toInt?_eq_some] at hint
    rw [Number.IsFinite, hint]
    rfl

end FlickrGroupAddr

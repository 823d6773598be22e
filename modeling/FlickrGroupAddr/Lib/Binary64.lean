import Mathlib.Data.Int.Log
import Mathlib.Data.Rat.Floor
import Mathlib.Algebra.Order.Floor.Ring
import Mathlib.Algebra.Order.Field.Power
import Mathlib.Tactic.Linarith
import Mathlib.Tactic.Positivity
import Mathlib.Tactic.NormNum

/-!
# Numbers of double precision

The finite numbers of the 64-bit format as exact rationals with a sign, the two
infinities and the value that is not a number.  Rounding goes to the nearest number of
the format and to the even one between two that are equally near.  The small integers
round to themselves, and a large number keeps at least half of its size: that is all a
range check on a rounded difference needs.
-/

namespace Binary64

set_option autoImplicit false

/-! ### Rounding -/

/-- The nearest integer, the even one of two that are equally near. -/
def nearestEven (q : ℚ) : ℤ :=
  if q - ⌊q⌋ < 1 / 2 then ⌊q⌋
  else if 1 / 2 < q - ⌊q⌋ then ⌊q⌋ + 1
  else if ⌊q⌋ % 2 = 0 then ⌊q⌋ else ⌊q⌋ + 1

/-- The exponent of the unit in the last place of a number of this size. -/
def ulpExponent (q : ℚ) : ℤ := max (Int.log 2 q - 52) (-1074)

/-- A nonnegative rational as a multiple of its unit in the last place. -/
def roundMagnitude (q : ℚ) : ℚ := nearestEven (q / 2 ^ ulpExponent q) * 2 ^ ulpExponent q

@[simp] theorem nearestEven_intCast (n : ℤ) : nearestEven n = n := by simp [nearestEven]

theorem floor_le_nearestEven (q : ℚ) : ⌊q⌋ ≤ nearestEven q := by
  simp only [nearestEven]
  split
  · exact le_rfl
  · split
    · omega
    · split
      · exact le_rfl
      · omega

theorem ulp_pos (q : ℚ) : (0 : ℚ) < 2 ^ ulpExponent q := by positivity

/-- A natural number below `2 ^ 53` is a number of the format. -/
theorem roundMagnitude_natCast {n : ℕ} (hn : n < 2 ^ 53) : roundMagnitude n = n := by
  have hlog : Int.log 2 (n : ℚ) ≤ 52 := by
    rw [Int.log_natCast]
    have hlt : Nat.log 2 n < 53 := Nat.log_lt_of_lt_pow' (by decide) hn
    omega
  have hexp : ulpExponent n ≤ 0 := by
    simp only [ulpExponent]
    omega
  obtain ⟨k, hk⟩ := Int.eq_ofNat_of_zero_le (neg_nonneg.mpr hexp)
  have hulp : ulpExponent n = -(k : ℤ) := by omega
  have hscaled : (n : ℚ) / 2 ^ (-(k : ℤ)) = ((n * 2 ^ k : ℤ) : ℚ) := by
    simp
  rw [roundMagnitude, hulp, hscaled, nearestEven_intCast]
  simp

/-- From one on, rounding keeps at least half of a number. -/
theorem half_le_roundMagnitude {q : ℚ} (hq : 1 ≤ q) : q / 2 ≤ roundMagnitude q := by
  have hpos : 0 < q := lt_of_lt_of_le one_pos hq
  have hlog : (0 : ℤ) ≤ Int.log 2 q := by
    rw [← Int.zpow_le_iff_le_log (by decide) hpos]
    simpa using hq
  have hexp : ulpExponent q = Int.log 2 q - 52 := by
    simp only [ulpExponent]
    omega
  have hunit : (2 : ℚ) ^ ulpExponent q * 2 ≤ q := by
    have hself : ((2 : ℕ) : ℚ) ^ Int.log 2 q ≤ q := Int.zpow_log_le_self (by decide) hpos
    refine le_trans ?_ hself
    rw [hexp, Nat.cast_ofNat, ← zpow_add_one₀ (by norm_num)]
    exact zpow_le_zpow_right₀ (by norm_num) (by omega)
  have hulp := ulp_pos q
  have hscaled : 2 ≤ q / 2 ^ ulpExponent q := by
    rw [le_div_iff₀ hulp]
    linarith
  have hround : q / 2 ^ ulpExponent q / 2 ≤ nearestEven (q / 2 ^ ulpExponent q) := by
    have hfloor : q / 2 ^ ulpExponent q < ⌊q / 2 ^ ulpExponent q⌋ + 1 := Int.lt_floor_add_one _
    have hle : (⌊q / 2 ^ ulpExponent q⌋ : ℚ) ≤ nearestEven (q / 2 ^ ulpExponent q) := by
      exact_mod_cast floor_le_nearestEven _
    linarith
  calc q / 2 = q / 2 ^ ulpExponent q / 2 * 2 ^ ulpExponent q := by field_simp
    _ ≤ nearestEven (q / 2 ^ ulpExponent q) * 2 ^ ulpExponent q := by
      exact mul_le_mul_of_nonneg_right hround hulp.le
    _ = roundMagnitude q := rfl

/-! ### Quotients -/

/-- An integer that is no smaller than a number is no smaller than its nearest integer. -/
theorem nearestEven_le {q : ℚ} {m : ℤ} (h : q ≤ m) : nearestEven q ≤ m := by
  have hfloor : ⌊q⌋ ≤ m := by simpa using Int.floor_le_floor h
  rcases hfloor.lt_or_eq with hlt | heq
  · simp only [nearestEven]
    split
    · exact hfloor
    · split
      · omega
      · split <;> omega
  · have hexact : q = m := le_antisymm h (heq ▸ Int.floor_le q)
    rw [hexact, nearestEven_intCast]

/-- A number more than a half above an integer is rounded to a larger one. -/
theorem lt_nearestEven {q : ℚ} {m : ℤ} (h : (m : ℚ) + 1 / 2 < q) : m < nearestEven q := by
  have hfloor : m ≤ ⌊q⌋ := Int.le_floor.mpr (by linarith)
  rcases hfloor.lt_or_eq with hlt | heq
  · exact hlt.trans_le (floor_le_nearestEven q)
  · have hfar : 1 / 2 < q - ⌊q⌋ := by
      rw [← heq]
      linarith
    simp only [nearestEven, if_neg (not_lt.mpr hfar.le), if_pos hfar]
    omega

/-- A quotient of natural numbers has its unit in the last place below twice the gap that
separates it from the integers. -/
theorem ulp_lt_of_quotient {n d : ℕ} (hn : 0 < n) (hn' : n < 2 ^ 53) (hd : 0 < d)
    (hd' : d ≤ 2 ^ 53) : (2 : ℚ) ^ ulpExponent (n / d) < 2 / d := by
  have hdpos : (0 : ℚ) < d := by exact_mod_cast hd
  have hpos : (0 : ℚ) < n / d := by
    have hnpos : (0 : ℚ) < n := by exact_mod_cast hn
    positivity
  rcases le_total (Int.log 2 ((n : ℚ) / d) - 52) (-1074) with hsub | hnormal
  · rw [ulpExponent, max_eq_right hsub, lt_div_iff₀ hdpos]
    have hbound : (d : ℚ) ≤ 2 ^ 53 := by exact_mod_cast hd'
    calc (2 : ℚ) ^ (-1074 : ℤ) * d ≤ 2 ^ (-1074 : ℤ) * 2 ^ 53 := by gcongr
      _ = 2 ^ (-1021 : ℤ) := by
        rw [← zpow_natCast, ← zpow_add₀ (by norm_num)]
        norm_num
      _ ≤ 2 ^ (0 : ℤ) := zpow_le_zpow_right₀ (by norm_num) (by norm_num)
      _ < 2 := by norm_num
  · rw [ulpExponent, max_eq_left hnormal]
    have hself : ((2 : ℕ) : ℚ) ^ Int.log 2 ((n : ℚ) / d) ≤ n / d :=
      Int.zpow_log_le_self (by decide) hpos
    have hbound : (n : ℚ) < 2 ^ 53 := by exact_mod_cast hn'
    calc (2 : ℚ) ^ (Int.log 2 ((n : ℚ) / d) - 52)
        = 2 ^ Int.log 2 ((n : ℚ) / d) / 2 ^ (52 : ℤ) := zpow_sub₀ (by norm_num) _ _
      _ ≤ n / d / 2 ^ (52 : ℤ) := by
        rw [Nat.cast_ofNat] at hself
        gcongr
      _ < 2 ^ 53 / d / 2 ^ (52 : ℤ) := by gcongr
      _ = 2 / d := by
        field_simp

/-- The rounded quotient of two safe naturals has the same integer above it as the exact one. -/
theorem ceil_roundMagnitude_div {n d : ℕ} (hn : n < 2 ^ 53) (hd : 0 < d) (hd' : d ≤ 2 ^ 53) :
    ⌈roundMagnitude (n / d)⌉ = ⌈(n / d : ℚ)⌉ := by
  rcases Nat.eq_zero_or_pos n with rfl | hpos
  · have hzero : roundMagnitude 0 = 0 := by simpa using roundMagnitude_natCast (n := 0) (by decide)
    simp [hzero]
  have hdpos : (0 : ℚ) < d := by exact_mod_cast hd
  have hq : (0 : ℚ) < n / d := by
    have hnpos : (0 : ℚ) < n := by exact_mod_cast hpos
    positivity
  have hexp : ulpExponent ((n : ℚ) / d) ≤ 0 := by
    have hlog : Int.log 2 ((n : ℚ) / d) ≤ 52 := by
      have hlt : (n : ℚ) / d < 2 ^ 53 := by
        have hbound : (n : ℚ) < 2 ^ 53 := by exact_mod_cast hn
        have hone : (1 : ℚ) ≤ d := by exact_mod_cast hd
        exact (div_le_self (by positivity) hone).trans_lt hbound
      have hiff := Int.lt_zpow_iff_log_lt (b := 2) (by decide) hq (x := 53)
      have hpow := hiff.mp (by exact_mod_cast hlt)
      omega
    simp only [ulpExponent]
    omega
  obtain ⟨k, hk⟩ := Int.eq_ofNat_of_zero_le (neg_nonneg.mpr hexp)
  have hulp := ulp_pos ((n : ℚ) / d)
  have hunit : (2 : ℚ) ^ k * 2 ^ ulpExponent ((n : ℚ) / d) = 1 := by
    have hneg : ulpExponent ((n : ℚ) / d) = -(k : ℤ) := by omega
    rw [hneg]
    simp
  have hgap := ulp_lt_of_quotient hpos hn hd hd'
  set u := (2 : ℚ) ^ ulpExponent ((n : ℚ) / d) with hu
  set q := (n : ℚ) / d with hqdef
  have hround : roundMagnitude q = nearestEven (q / u) * u := rfl
  rw [Int.ceil_eq_iff, hround]
  have hbelow : (⌈q⌉ : ℚ) - 1 + 1 / d ≤ q := by
    have hlt : (⌈q⌉ : ℚ) - 1 < q := by
      have hceil := Int.ceil_lt_add_one q
      linarith
    have hscaled : ((⌈q⌉ : ℚ) - 1) * d < n := (lt_div_iff₀ hdpos).mp hlt
    have hint : (⌈q⌉ - 1) * d < (n : ℤ) := by exact_mod_cast hscaled
    have hnext : (⌈q⌉ - 1) * d + 1 ≤ (n : ℤ) := hint
    have hcast : ((⌈q⌉ : ℚ) - 1) * d + 1 ≤ n := by exact_mod_cast hnext
    calc (⌈q⌉ : ℚ) - 1 + 1 / d = (((⌈q⌉ : ℚ) - 1) * d + 1) / d := by field_simp
      _ ≤ n / d := by gcongr
  constructor
  · have hstep : ((⌈q⌉ - 1) * 2 ^ k : ℤ) < nearestEven (q / u) := by
      refine lt_nearestEven ?_
      rw [lt_div_iff₀ hulp]
      have hhalf : u / 2 < 1 / d := by
        rw [div_lt_iff₀ (by norm_num)]
        calc u < 2 / d := hgap
          _ = 1 / d * 2 := by ring
      push_cast
      calc (((⌈q⌉ : ℚ) - 1) * 2 ^ k + 1 / 2) * u
          = ((⌈q⌉ : ℚ) - 1) * (2 ^ k * u) + u / 2 := by ring
        _ = (⌈q⌉ : ℚ) - 1 + u / 2 := by rw [hunit, mul_one]
        _ < q := by linarith
    have hcast : (((⌈q⌉ - 1) * 2 ^ k : ℤ) : ℚ) < nearestEven (q / u) := by exact_mod_cast hstep
    calc (⌈q⌉ : ℚ) - 1 = ((⌈q⌉ : ℚ) - 1) * (2 ^ k * u) := by rw [hunit, mul_one]
      _ = (((⌈q⌉ - 1) * 2 ^ k : ℤ) : ℚ) * u := by push_cast; ring
      _ < nearestEven (q / u) * u := by gcongr
  · have hstep : nearestEven (q / u) ≤ (⌈q⌉ * 2 ^ k : ℤ) := by
      refine nearestEven_le ?_
      rw [div_le_iff₀ hulp]
      push_cast
      calc q ≤ ⌈q⌉ := Int.le_ceil q
        _ = ⌈q⌉ * 2 ^ k * u := by rw [mul_assoc, hunit, mul_one]
    have hcast : (nearestEven (q / u) : ℚ) ≤ ((⌈q⌉ * 2 ^ k : ℤ) : ℚ) := by exact_mod_cast hstep
    calc (nearestEven (q / u) : ℚ) * u ≤ ((⌈q⌉ * 2 ^ k : ℤ) : ℚ) * u := by gcongr
      _ = ⌈q⌉ * (2 ^ k * u) := by push_cast; ring
      _ = ⌈q⌉ := by rw [hunit, mul_one]
/-! ### The numbers -/

/-- A number of the language: zero and every finite number carry a sign. -/
inductive Number where
  | finite (negative : Bool) (magnitude : ℚ)
  | infinite (negative : Bool)
  | nan
deriving DecidableEq

/-- The number of a sign and an exact magnitude. -/
def ofMagnitude (negative : Bool) (q : ℚ) : Number :=
  if roundMagnitude q < 2 ^ 1024 then .finite negative (roundMagnitude q) else .infinite negative

/-- The number nearest to a rational. -/
def ofRat (q : ℚ) : Number := ofMagnitude (decide (q < 0)) |q|

namespace Number

/-- The rational that a finite number is. -/
def toRat? : Number → Option ℚ
  | finite negative magnitude => some (if negative then -magnitude else magnitude)
  | infinite _ => none
  | nan => none

def IsFinite (x : Number) : Prop := x.toRat?.isSome = true

instance (x : Number) : Decidable x.IsFinite := inferInstanceAs (Decidable (_ = true))

/-- The integer that a number is. -/
def toInt? (x : Number) : Option ℤ :=
  match x.toRat? with
  | some q => if q.den = 1 then some q.num else none
  | none => none

/-- The largest integer below which no two integers share a number. -/
def maxSafeInteger : ℕ := 9007199254740991

/-- The safe integer that a number is. -/
def toSafeInteger? (x : Number) : Option ℤ :=
  match x.toInt? with
  | some n => if n.natAbs ≤ maxSafeInteger then some n else none
  | none => none

/-- Subtraction rounds the exact difference. -/
def sub (x y : Number) : Number :=
  match x, y with
  | nan, _ => nan
  | _, nan => nan
  | infinite left, infinite right => if left = right then nan else infinite left
  | infinite left, finite _ _ => infinite left
  | finite _ _, infinite right => infinite (!right)
  | finite left a, finite right b =>
    ofRat ((if left then -a else a) - (if right then -b else b))

end Number

open Number

theorem toInt?_eq_some {x : Number} {n : ℤ} : x.toInt? = some n ↔ x.toRat? = some (n : ℚ) := by
  simp only [toInt?]
  constructor
  · intro h
    split at h
    · next q hq =>
      rw [Option.ite_none_right_eq_some, Option.some.injEq] at h
      rw [hq, ← h.2, (Rat.den_eq_one_iff q).mp h.1]
    · simp at h
  · intro h
    simp [h]

theorem toSafeInteger?_eq_some {x : Number} {n : ℤ} :
    x.toSafeInteger? = some n ↔ x.toRat? = some (n : ℚ) ∧ n.natAbs ≤ maxSafeInteger := by
  rw [← toInt?_eq_some, toSafeInteger?]
  constructor
  · intro h
    split at h
    · next m hm =>
      rw [Option.ite_none_right_eq_some, Option.some.injEq] at h
      exact ⟨by rw [hm, h.2], h.2 ▸ h.1⟩
    · simp at h
  · intro h
    simp [h.1, h.2]

/-- A safe integer is its own number. -/
theorem ofMagnitude_natCast {n : ℕ} (negative : Bool) (hn : n ≤ maxSafeInteger) :
    ofMagnitude negative n = .finite negative n := by
  have hlt : n < 2 ^ 53 := lt_of_le_of_lt hn (by decide)
  have hsmall : (n : ℚ) < 2 ^ 1024 := by
    have hcast : (n : ℚ) < 2 ^ 53 := by exact_mod_cast hlt
    exact hcast.trans (pow_lt_pow_right₀ (by norm_num) (by decide))
  rw [ofMagnitude, roundMagnitude_natCast hlt, if_pos hsmall]

theorem ofRat_natCast {n : ℕ} (hn : n ≤ maxSafeInteger) : ofRat n = .finite false n := by
  have hnonneg : ¬((n : ℚ) < 0) := not_lt.mpr (Nat.cast_nonneg n)
  rw [ofRat, Nat.abs_cast, ofMagnitude_natCast _ hn, decide_eq_false hnonneg]

theorem toRat?_ofRat_intCast {n : ℤ} (hn : n.natAbs ≤ maxSafeInteger) :
    (ofRat n).toRat? = some (n : ℚ) := by
  have habs : |(n : ℚ)| = (n.natAbs : ℚ) := by
    rw [Nat.cast_natAbs, Int.cast_abs]
  rw [ofRat, habs, ofMagnitude_natCast _ hn]
  by_cases hneg : (n : ℚ) < 0
  · simp [toRat?, hneg, ← habs, abs_of_neg hneg]
  · simp [toRat?, hneg, ← habs, abs_of_nonneg (not_lt.mp hneg)]

/-- What a number stands for, when it is finite, has at least half of the size rounded. -/
theorem half_le_of_toRat? {q r : ℚ} (hq : 1 ≤ |q|) (h : (ofRat q).toRat? = some r) :
    |q| / 2 ≤ |r| := by
  have hhalf := half_le_roundMagnitude hq
  simp only [ofRat, ofMagnitude] at h
  split at h
  · simp only [toRat?, Option.some.injEq] at h
    rw [← h]
    split
    · rw [abs_neg]
      exact hhalf.trans (le_abs_self _)
    · exact hhalf.trans (le_abs_self _)
  · simp [toRat?] at h

/-! ### A difference of integers -/

/-- The difference of an integer and a count, both read as numbers first. -/
def difference (e : ℤ) (count : ℕ) : Number := (ofRat e).sub (ofRat count)

theorem toRat?_sub {x y : Number} {a b : ℚ} (hx : x.toRat? = some a) (hy : y.toRat? = some b) :
    x.sub y = ofRat (a - b) := by
  cases x with
  | finite negative magnitude =>
    cases y with
    | finite other size =>
      simp only [toRat?, Option.some.injEq] at hx hy
      simp [sub, hx, hy]
    | infinite => simp [toRat?] at hy
    | nan => simp [toRat?] at hy
  | infinite => simp [toRat?] at hx
  | nan => simp [toRat?] at hx

theorem toRat?_of_sub {x y : Number} {a : ℚ} (h : (x.sub y).toRat? = some a) :
    ∃ b c, x.toRat? = some b ∧ y.toRat? = some c := by
  cases x with
  | finite negative magnitude =>
    cases y with
    | finite other size => exact ⟨_, _, rfl, rfl⟩
    | infinite => simp [sub, toRat?] at h
    | nan => simp [sub, toRat?] at h
  | infinite negative =>
    cases y with
    | finite other size => simp [sub, toRat?] at h
    | infinite other =>
      simp only [sub] at h
      split at h <;> simp [toRat?] at h
    | nan => simp [sub, toRat?] at h
  | nan => simp [sub, toRat?] at h

theorem toRat?_ofRat_natCast {n : ℕ} (hn : n ≤ maxSafeInteger) :
    (ofRat n).toRat? = some (n : ℚ) := by
  exact_mod_cast toRat?_ofRat_intCast (n := (n : ℤ)) (by simpa using hn)

/-- A number read from an integer outside the safe range is large. -/
theorem large_of_not_safe {e : ℤ} {r : ℚ} (he : maxSafeInteger < e.natAbs)
    (h : (ofRat e).toRat? = some r) : 2 ^ 52 ≤ |r| := by
  have habs : (2 : ℚ) ^ 53 ≤ |(e : ℚ)| := by
    rw [← Int.cast_abs, Int.abs_eq_natAbs]
    have hnat : 2 ^ 53 ≤ e.natAbs := he
    exact_mod_cast hnat
  have hhalf := half_le_of_toRat? (le_trans (by norm_num) habs) h
  linarith

/-- A difference whose result is small is exact, and every small difference is computed. -/
theorem difference_eq_some {e k : ℤ} {count : ℕ} (hcount : count ≤ 2 ^ 30) (hk : k.natAbs ≤ 2 ^ 30) :
    (difference e count).toRat? = some (k : ℚ) ↔ e - count = k := by
  have hright := toRat?_ofRat_natCast (hcount.trans (by decide) : count ≤ maxSafeInteger)
  have hcabs : (count : ℚ) ≤ 2 ^ 30 := by exact_mod_cast hcount
  have hkabs : |(k : ℚ)| ≤ 2 ^ 30 := by
    rw [← Int.cast_abs, Int.abs_eq_natAbs]
    exact_mod_cast hk
  by_cases he : e.natAbs ≤ maxSafeInteger
  · rw [difference, toRat?_sub (toRat?_ofRat_intCast he) hright]
    have hcast : (e : ℚ) - count = ((e - count : ℤ) : ℚ) := by push_cast; rfl
    rw [hcast]
    constructor
    · intro h
      by_cases hd : (e - count).natAbs ≤ maxSafeInteger
      · rw [toRat?_ofRat_intCast hd, Option.some.injEq] at h
        exact_mod_cast h
      · have hlarge := large_of_not_safe (not_le.mp hd) h
        linarith
    · intro h
      rw [h]
      exact toRat?_ofRat_intCast (hk.trans (by decide))
  · constructor
    · intro h
      obtain ⟨a, c, ha, hc⟩ := toRat?_of_sub h
      rw [difference, toRat?_sub ha hright] at h
      have hlarge := large_of_not_safe (not_le.mp he) ha
      have hfar : 2 ^ 51 ≤ |a - count| := by
        have htri := abs_sub_abs_le_abs_sub a (count : ℚ)
        rw [Nat.abs_cast] at htri
        linarith
      have hhalf := half_le_of_toRat? (le_trans (by norm_num) hfar) h
      linarith
    · intro h
      simp only [maxSafeInteger] at he
      omega

end Binary64

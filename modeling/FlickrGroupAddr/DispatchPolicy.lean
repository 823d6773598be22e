import FlickrGroupAddr.Schema

/-!
# Dispatch policy

`dispatch_policy.ts` and `dispatch_freshness.ts`: what an answer of
`flickr.groups.pools.add` means for the attempt, how long a retry waits, and how
old a preflight may be.
-/

namespace FlickrGroupAddr

set_option autoImplicit false

/-- What `pools.add` answered: `ok`, or an error code. -/
inductive AddResult where
  | ok
  | code (result : Int)
deriving DecidableEq

/-- The gate a result pauses. -/
inductive PauseScope where
  | deployment
  | user
deriving DecidableEq

structure ResultPolicy where
  outcome : DispatchOutcome
  reason : String
  pause : Option PauseScope
deriving DecidableEq

/-- `THROTTLE_DELAY_MS`. -/
def throttleDelayMs : Int := 86400000

/-- The reason of a Flickr error code. -/
def flickrCodeReason (result : Int) : String := "flickr_code_" ++ toString result

def classifyAdd : AddResult → ResultPolicy
  | .ok => ⟨.added, "flickr_added", none⟩
  | .code result =>
      if result = 3 then ⟨.added, "flickr_code_3", none⟩
      else if result = 6 ∨ result = 7 then ⟨.moderationSubmitted, flickrCodeReason result, none⟩
      else if result = 105 ∨ result = 106 then ⟨.retrying, flickrCodeReason result, none⟩
      else if result = 5 then ⟨.throttled, "flickr_code_5", none⟩
      else if result ∈ [1, 2, 4, 8, 10, 11, 116] then
        ⟨.needsAttention, flickrCodeReason result, none⟩
      else if result ∈ [98, 99] then ⟨.needsAttention, flickrCodeReason result, some .user⟩
      else if result ∈ [95, 96, 97, 100, 111, 112, 114, 115] then
        ⟨.needsAttention, flickrCodeReason result, some .deployment⟩
      else ⟨.deliveryUncertain, "unknown_code", some .deployment⟩

/-- `retryDelayMs(failures, jitter)` with the jitter a random word over 2^32.  The
sum is exact in double precision, so the floor is that of the rational. -/
def retryDelayMs (failures : Int) (word : UInt32) : Option Int :=
  if isSafeInteger failures ∧ 0 ≤ failures then
    let ceiling := min 300000 (5000 * 2 ^ min failures.toNat 6)
    some (ceiling / 2 + word.toNat * ceiling / 2 ^ 33 : Nat)
  else none

/-- `PREFLIGHT_MAX_AGE_US`. -/
def preflightMaxAgeUs : Int := 1000000

def preflightIsFresh (receivedUs nowUs : Int) : Bool :=
  let age := nowUs - receivedUs
  decide (isSafeInteger receivedUs) && decide (isSafeInteger nowUs) &&
    decide (isSafeInteger age) && decide (0 ≤ age) && decide (age < preflightMaxAgeUs)

/-! ## What the policy guarantees -/

/-- The delay of a retry is between half its ceiling and five minutes, so it always
passes the delay check of a resolution. -/
theorem retryDelayMs_bounds {failures delay : Int} {word : UInt32}
    (h : retryDelayMs failures word = some delay) : 2500 ≤ delay ∧ delay ≤ 300000 := by
  unfold retryDelayMs at h
  split at h
  · obtain rfl := Option.some.inj h
    have hword := word.toNat_lt
    have hlow : 5000 ≤ min 300000 (5000 * 2 ^ min failures.toNat 6) :=
      le_min (by decide) (Nat.le_mul_of_pos_right 5000 (Nat.two_pow_pos _))
    have hhigh : min 300000 (5000 * 2 ^ min failures.toNat 6) ≤ 300000 := min_le_left _ _
    generalize min 300000 (5000 * 2 ^ min failures.toNat 6) = ceiling at hlow hhigh ⊢
    have hshare : word.toNat * ceiling / 2 ^ 33 ≤ ceiling / 2 := by
      rw [Nat.div_le_iff_le_mul_add_pred (by decide)]
      have hmul : word.toNat * ceiling ≤ 2 ^ 32 * ceiling :=
        Nat.mul_le_mul_right ceiling (le_of_lt hword)
      omega
    omega
  · cases h

/-- The classification by cases: the outcome decides the form of the reason. -/
theorem classifyAdd_cases (result : AddResult) :
    (∃ reason, reason ∈ ["flickr_added", "flickr_code_3"] ∧
      classifyAdd result = ⟨.added, reason, none⟩) ∨
    (∃ reason, reason ∈ ["flickr_code_6", "flickr_code_7"] ∧
      classifyAdd result = ⟨.moderationSubmitted, reason, none⟩) ∨
    (∃ reason, reason ∈ ["flickr_code_105", "flickr_code_106"] ∧
      classifyAdd result = ⟨.retrying, reason, none⟩) ∨
    classifyAdd result = ⟨.throttled, "flickr_code_5", none⟩ ∨
    (∃ code ∈ [(1 : Int), 2, 4, 8, 10, 11, 116],
      result = .code code ∧ classifyAdd result = ⟨.needsAttention, flickrCodeReason code, none⟩) ∨
    (∃ code ∈ [(98 : Int), 99], result = .code code ∧
      classifyAdd result = ⟨.needsAttention, flickrCodeReason code, some .user⟩) ∨
    (∃ code ∈ [(95 : Int), 96, 97, 100, 111, 112, 114, 115], result = .code code ∧
      classifyAdd result = ⟨.needsAttention, flickrCodeReason code, some .deployment⟩) ∨
    (∃ code, result = .code code ∧
      code ∉ [(1 : Int), 2, 3, 4, 5, 6, 7, 8, 10, 11, 95, 96, 97, 98, 99, 100, 105, 106, 111,
        112, 114, 115, 116] ∧
      classifyAdd result = ⟨.deliveryUncertain, "unknown_code", some .deployment⟩) := by
  cases result with
  | ok => exact Or.inl ⟨_, by decide, rfl⟩
  | code n =>
      simp only [classifyAdd]
      by_cases h3 : n = 3
      · rw [if_pos h3]
        exact Or.inl ⟨_, by decide, rfl⟩
      rw [if_neg h3]
      right
      by_cases h67 : n = 6 ∨ n = 7
      · rw [if_pos h67]
        left
        rcases h67 with rfl | rfl
        · exact ⟨_, by decide, rfl⟩
        · exact ⟨_, by decide, rfl⟩
      rw [if_neg h67]
      right
      by_cases h105 : n = 105 ∨ n = 106
      · rw [if_pos h105]
        left
        rcases h105 with rfl | rfl
        · exact ⟨_, by decide, rfl⟩
        · exact ⟨_, by decide, rfl⟩
      rw [if_neg h105]
      right
      by_cases h5 : n = 5
      · rw [if_pos h5]
        exact Or.inl rfl
      rw [if_neg h5]
      right
      by_cases hattention : n ∈ [(1 : Int), 2, 4, 8, 10, 11, 116]
      · rw [if_pos hattention]
        exact Or.inl ⟨n, hattention, rfl, rfl⟩
      rw [if_neg hattention]
      right
      by_cases huser : n ∈ [(98 : Int), 99]
      · rw [if_pos huser]
        exact Or.inl ⟨n, huser, rfl, rfl⟩
      rw [if_neg huser]
      right
      by_cases hdeployment : n ∈ [(95 : Int), 96, 97, 100, 111, 112, 114, 115]
      · rw [if_pos hdeployment]
        exact Or.inl ⟨n, hdeployment, rfl, rfl⟩
      rw [if_neg hdeployment]
      right
      refine ⟨n, rfl, ?_, rfl⟩
      simp only [List.mem_cons, List.not_mem_nil, or_false, not_or] at hattention huser hdeployment ⊢
      omega

end FlickrGroupAddr

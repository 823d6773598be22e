import FlickrGroupAddr.Lib.Table
import FlickrGroupAddr.Lib.SqlInt
import FlickrGroupAddr.Lib.TokenBucket
import Mathlib.Algebra.Order.Group.Int

/-!
# Integer quota credits

The credit statements of `quota_credit.ts`.  A batch samples the database clock
once, checks the stored balance, decides admission on the refilled balance and
then charges it, each with the integer expressions the SQL has.  The
authentication and the status bucket are the same statements over their own
capacity, charge, opening credit and key.
-/

namespace FlickrGroupAddr

set_option autoImplicit false

open KeyedTable SqlInt

/-! ## Budgets and stored balances -/

/-- The figures of one bucket family.  A new bucket opens with its first charge
already spent. -/
structure Budget (κ : Type) where
  capacity : Int
  charge : Int
  opening : Int
  /-- The `CHECK` of the key columns. -/
  keyCheck : κ → Bool
  charge_pos : 0 < charge
  charge_le : charge ≤ capacity
  opening_eq : opening = capacity - charge
  capacity_le : capacity ≤ maxInt64

inductive Family where
  | installation
  | admin
deriving DecidableEq

/-- `auth_source_buckets`: `AUTH_CREDIT_CAPACITY_US`, `AUTH_CREDIT_CHARGE_US`. -/
def authenticationBudget : Budget String where
  capacity := 240000000
  charge := 120000000
  opening := 120000000
  keyCheck := fun sourceKey => sourceKey.length = 64
  charge_pos := by decide
  charge_le := by decide
  opening_eq := by decide
  capacity_le := by decide

/-- `status_read_buckets`: `STATUS_CREDIT_CAPACITY_US`, `STATUS_CREDIT_CHARGE_US`. -/
def statusBudget : Budget (Family × String) where
  capacity := 100000000
  charge := 5000000
  opening := 95000000
  keyCheck := fun _ => true
  charge_pos := by decide
  charge_le := by decide
  opening_eq := by decide
  capacity_le := by decide

/-- A bucket row: its key columns, `credit_us` and `updated_at_us`. -/
structure BucketRow (κ : Type) where
  key : κ
  creditUs : Int
  updatedAtUs : Int

abbrev BucketTable (κ : Type) := Table (BucketRow.key : BucketRow κ → κ)

namespace BucketRow

variable {κ : Type}

/-- The row as a bucket of the general theory. -/
def bucket (row : BucketRow κ) : TokenBucket.Bucket Int := ⟨row.creditUs, row.updatedAtUs⟩

@[simp] theorem bucket_credit (row : BucketRow κ) : row.bucket.credit = row.creditUs := rfl

@[simp] theorem bucket_watermark (row : BucketRow κ) : row.bucket.watermark = row.updatedAtUs :=
  rfl

/-- The balance and watermark ranges the schema states. -/
def InBounds (budget : Budget κ) (row : BucketRow κ) : Prop :=
  (0 ≤ row.creditUs ∧ row.creditUs ≤ budget.capacity) ∧
    (0 ≤ row.updatedAtUs ∧ row.updatedAtUs ≤ maxInt64)

instance (budget : Budget κ) (row : BucketRow κ) : Decidable (row.InBounds budget) :=
  inferInstanceAs (Decidable (_ ∧ _))

end BucketRow

/-- Why a batch failed.  `exhausted` is the named CHECK, `unavailable` any other
constraint.  `notInteger` marks an expression outside the signed 64-bit range,
where SQLite would go on in REAL. -/
inductive QuotaFailure where
  | exhausted
  | unavailable
  | notInteger
deriving DecidableEq

/-! ## The refill expression -/

/-- The columns a refill reads. -/
inductive Column where
  | clock
  | creditUs
  | updatedAtUs
deriving DecidableEq

/-- `refill(capacity, clock)`. -/
def refill (capacity : Int) : Expr Column :=
  .caseLe (.col .clock) (.col .updatedAtUs) (.col .creditUs)
    (.caseGe (.sub (.col .clock) (.col .updatedAtUs)) (.sub (.lit capacity) (.col .creditUs))
      (.lit capacity)
      (.add (.col .creditUs) (.sub (.col .clock) (.col .updatedAtUs))))

def columns {κ : Type} (row : BucketRow κ) (clock : Int) : Column → Int
  | .clock => clock
  | .creditUs => row.creditUs
  | .updatedAtUs => row.updatedAtUs

/-! ## The statements of a batch -/

/-- `beginQuotaClock`: the sampled clock under the CHECK of `quota_credit_clocks`.
A sample the clock statement does not accept is NULL. -/
def beginQuotaClock (sampled : Option Int) : Except QuotaFailure Int :=
  match sampled with
  | none => .error .unavailable
  | some now => if 0 ≤ now ∧ now ≤ maxInt64 then .ok now else .error .unavailable

theorem beginQuotaClock_eq_ok {sampled : Option Int} {now : Int}
    (h : beginQuotaClock sampled = .ok now) : 0 ≤ now ∧ now ≤ maxInt64 := by
  unfold beginQuotaClock at h
  split at h
  · cases h
  · split at h
    · next hrange =>
        cases h
        exact hrange
    · cases h

theorem beginQuotaClock_ne_notInteger {sampled : Option Int} :
    beginQuotaClock sampled ≠ .error .notInteger := by
  intro h
  unfold beginQuotaClock at h
  split at h
  · cases h
  · split at h <;> cases h

section Statements

variable {κ : Type} [DecidableEq κ] (budget : Budget κ) (table : BucketTable κ) (key : κ)
  (now : Int)

/-- The first statement: `invariant_ok` holds of the clock and of the stored row. -/
def guardInvariant : Except QuotaFailure Unit :=
  if (0 ≤ now ∧ now ≤ maxInt64) ∧ ∀ row ∈ table, row.key = key → row.InBounds budget
  then .ok () else .error .unavailable

/-- The second statement: `admitted` is true of a new key or of a balance that
covers the charge. -/
def guardAdmitted : Except QuotaFailure Unit :=
  match table.find? key with
  | none => .ok ()
  | some row =>
      match (refill budget.capacity).eval (columns row now) with
      | none => .error .notInteger
      | some credit => if budget.charge ≤ credit then .ok () else .error .exhausted

/-- The bucket's own CHECK constraints. -/
def bucketCheck (row : BucketRow κ) : Prop :=
  budget.keyCheck row.key = true ∧ row.InBounds budget

instance (row : BucketRow κ) : Decidable (bucketCheck budget row) :=
  inferInstanceAs (Decidable (_ ∧ _))

/-- The conflict clause: the refilled balance less the charge, and the later of
the two watermarks. -/
def chargedRow (row : BucketRow κ) : Option (BucketRow κ) :=
  ((Expr.sub (refill budget.capacity) (.lit budget.charge)).eval (columns row now)).bind
    fun credit =>
      ((Expr.max (.col .updatedAtUs) (.col .clock)).eval (columns row now)).map fun watermark =>
        ⟨row.key, credit, watermark⟩

/-- The third statement: insert the opening balance, or charge the stored one. -/
def upsertBucket : Except QuotaFailure (BucketTable κ) :=
  match table.find? key with
  | none =>
      if bucketCheck budget ⟨key, budget.opening, now⟩ then
        match table.insert? ⟨key, budget.opening, now⟩ with
        | some table' => .ok table'
        | none => .error .unavailable
      else .error .unavailable
  | some row =>
      match chargedRow budget now row with
      | none => .error .notInteger
      | some row' =>
          if bucketCheck budget row' then
            .ok (table.modify key fun old =>
              { old with creditUs := row'.creditUs, updatedAtUs := row'.updatedAtUs })
          else .error .unavailable

/-- The three credit statements in order. -/
def creditStatements : Except QuotaFailure (BucketTable κ) :=
  match guardInvariant budget table key now with
  | .error failure => .error failure
  | .ok () =>
      match guardAdmitted budget table key now with
      | .error failure => .error failure
      | .ok () => upsertBucket budget table key now

end Statements

def authenticationCreditStatements (table : BucketTable String) (sourceKey : String)
    (now : Int) : Except QuotaFailure (BucketTable String) :=
  creditStatements authenticationBudget table sourceKey now

def statusCreditStatements (table : BucketTable (Family × String)) (family : Family)
    (subjectId : String) (now : Int) : Except QuotaFailure (BucketTable (Family × String)) :=
  creditStatements statusBudget table (family, subjectId) now

/-! ## What the expressions compute -/

section Evaluation

variable {κ : Type} {budget : Budget κ} {row : BucketRow κ} {now : Int}

/-- Within bounds the refill expression never leaves the word, and computes the
refill of the general theory. -/
theorem eval_refill (hrow : row.InBounds budget) (hnow : 0 ≤ now ∧ now ≤ maxInt64) :
    (refill budget.capacity).eval (columns row now) =
      some (row.bucket.refill budget.capacity now) := by
  obtain ⟨⟨hcredit, hcap⟩, hmark, hmax⟩ := hrow
  have hcapacity := budget.capacity_le
  have hword : maxInt64 = 9223372036854775807 := rfl
  have hclock : (Expr.col Column.clock).eval (columns row now) = some now :=
    eval_col (inRange_of_nonneg hnow.1 hnow.2)
  have hupdated : (Expr.col Column.updatedAtUs).eval (columns row now) = some row.updatedAtUs :=
    eval_col (inRange_of_nonneg hmark hmax)
  have hbalance : (Expr.col Column.creditUs).eval (columns row now) = some row.creditUs :=
    eval_col (inRange_of_nonneg hcredit (hcap.trans hcapacity))
  have hlit : (Expr.lit budget.capacity).eval (columns row now) = some budget.capacity :=
    eval_lit (inRange_of_nonneg (by omega) hcapacity)
  rw [refill, eval_caseLe hclock hupdated]
  by_cases hearly : now ≤ row.updatedAtUs
  · rw [if_pos hearly, hbalance, TokenBucket.Bucket.refill_of_le hearly, BucketRow.bucket_credit]
  · -- both differences are taken only on a clock ahead of the watermark
    have hgap := eval_sub hclock hupdated (inRange_of_nonneg (by omega) (by omega))
    have hroom := eval_sub hlit hbalance (inRange_of_nonneg (by omega) (by omega))
    rw [if_neg hearly, eval_caseGe hgap hroom,
      TokenBucket.Bucket.refill_of_lt (not_le.mp hearly), BucketRow.bucket_credit,
      BucketRow.bucket_watermark]
    by_cases hfull : budget.capacity - row.creditUs ≤ now - row.updatedAtUs
    · rw [if_pos hfull, hlit, min_eq_left (by omega)]
    · rw [if_neg hfull, eval_add hbalance hgap (inRange_of_nonneg (by omega) (by omega)),
        min_eq_right (by omega)]

/-- The conflict clause charges the bucket of the general theory. -/
theorem chargedRow_eq (hrow : row.InBounds budget) (hnow : 0 ≤ now ∧ now ≤ maxInt64) :
    chargedRow budget now row = some ⟨row.key,
      (row.bucket.spend budget.capacity budget.charge now).credit,
      (row.bucket.spend budget.capacity budget.charge now).watermark⟩ := by
  have hcharge := budget.charge_pos
  have hle := budget.charge_le
  have hcapacity := budget.capacity_le
  have hword : maxInt64 = 9223372036854775807 := rfl
  have hmin : minInt64 = -9223372036854775808 := rfl
  have hlow : row.bucket.credit ≤ row.bucket.refill budget.capacity now :=
    TokenBucket.Bucket.le_refill hrow.1.2
  rw [BucketRow.bucket_credit] at hlow
  have hhigh : row.bucket.refill budget.capacity now ≤ budget.capacity :=
    TokenBucket.Bucket.refill_le hrow.1.2
  have hnonneg := hrow.1.1
  have hcost : (Expr.lit budget.charge).eval (columns row now) = some budget.charge :=
    eval_lit (inRange_of_nonneg (by omega) (by omega))
  have hcredit := eval_sub (eval_refill hrow hnow) hcost ⟨by omega, by omega⟩
  have hupdated : (Expr.col Column.updatedAtUs).eval (columns row now) = some row.updatedAtUs :=
    eval_col (inRange_of_nonneg hrow.2.1 hrow.2.2)
  have hclock : (Expr.col Column.clock).eval (columns row now) = some now :=
    eval_col (inRange_of_nonneg hnow.1 hnow.2)
  rw [chargedRow, hcredit, Option.bind_some, eval_max hupdated hclock]
  rfl

theorem charged_inBounds {key : κ} (hrow : row.InBounds budget)
    (hnow : 0 ≤ now ∧ now ≤ maxInt64)
    (hcovered : budget.charge ≤ row.bucket.refill budget.capacity now) :
    (⟨key, (row.bucket.spend budget.capacity budget.charge now).credit,
      (row.bucket.spend budget.capacity budget.charge now).watermark⟩ : BucketRow κ).InBounds
        budget := by
  refine ⟨⟨TokenBucket.Bucket.spend_credit_nonneg hcovered, ?_⟩, ?_, ?_⟩
  · exact TokenBucket.Bucket.spend_credit_le hrow.1.2 (le_of_lt budget.charge_pos)
  · exact hrow.2.1.trans (le_max_left row.updatedAtUs now)
  · exact max_le hrow.2.2 hnow.2

theorem opening_inBounds {key : κ} (hnow : 0 ≤ now ∧ now ≤ maxInt64) :
    (⟨key, budget.opening, now⟩ : BucketRow κ).InBounds budget := by
  have hcharge := budget.charge_pos
  have hle := budget.charge_le
  have hopening := budget.opening_eq
  exact ⟨⟨by simp only; omega, by simp only; omega⟩, hnow⟩

end Evaluation

/-! ## What the statements do -/

section Effect

variable {κ : Type} [DecidableEq κ] {budget : Budget κ} {table table' : BucketTable κ}
  {key : κ} {now : Int}

/-- Every stored bucket is within the bounds of its budget. -/
def BucketsInBounds (budget : Budget κ) (table : BucketTable κ) : Prop :=
  ∀ row ∈ table, row.InBounds budget

/-- The effect of an admitted charge: a bucket opened, or a bucket spent from. -/
inductive Charged (budget : Budget κ) (table : BucketTable κ) (key : κ) (now : Int) :
    BucketTable κ → Prop
  | opened {table' : BucketTable κ} :
      table.find? key = none → table.insert? ⟨key, budget.opening, now⟩ = some table' →
      Charged budget table key now table'
  | spent {row : BucketRow κ} :
      table.find? key = some row →
      budget.charge ≤ row.bucket.refill budget.capacity now →
      Charged budget table key now (table.modify key fun old =>
        { old with
          creditUs := (row.bucket.spend budget.capacity budget.charge now).credit
          updatedAtUs := (row.bucket.spend budget.capacity budget.charge now).watermark })

/-- On bounded buckets the statements open or spend, or refuse for want of credit.
No expression leaves the word, and the only other failure is a key the schema
does not take or a clock it does not take. -/
theorem creditStatements_cases (key : κ) (hbounds : BucketsInBounds budget table)
    (hnow : 0 ≤ now ∧ now ≤ maxInt64) :
    (∃ table', creditStatements budget table key now = .ok table' ∧
      Charged budget table key now table') ∨
    (∃ row, table.find? key = some row ∧
      row.bucket.refill budget.capacity now < budget.charge ∧
      creditStatements budget table key now = .error .exhausted) ∨
    (budget.keyCheck key = false ∧
      creditStatements budget table key now = .error .unavailable) := by
  have hguard : guardInvariant budget table key now = .ok () :=
    if_pos ⟨hnow, fun row hrow _ => hbounds row hrow⟩
  cases hfind : table.find? key with
  | none =>
      have hadmitted : guardAdmitted budget table key now = .ok () := by
        rw [guardAdmitted, hfind]
      cases hkey : budget.keyCheck key with
      | true =>
          left
          obtain ⟨table', hinsert⟩ : ∃ table', table.insert? ⟨key, budget.opening, now⟩ =
              some table' := Table.insert?_isSome hfind
          refine ⟨table', ?_, Charged.opened hfind hinsert⟩
          have hcheck : bucketCheck budget ⟨key, budget.opening, now⟩ :=
            ⟨hkey, opening_inBounds hnow⟩
          simp only [creditStatements, hguard, hadmitted, upsertBucket, hfind, if_pos hcheck,
            hinsert]
      | false =>
          right; right
          have hcheck : ¬ bucketCheck budget ⟨key, budget.opening, now⟩ := by
            intro h
            exact Bool.false_ne_true (hkey.symm.trans h.1)
          exact ⟨rfl, by
            simp only [creditStatements, hguard, hadmitted, upsertBucket, hfind, if_neg hcheck]⟩
  | some row =>
      obtain ⟨hmem, rfl⟩ := Table.find?_eq_some.mp hfind
      have hrow := hbounds row hmem
      by_cases hcovered : budget.charge ≤ row.bucket.refill budget.capacity now
      · have hadmitted : guardAdmitted budget table row.key now = .ok () := by
          simp only [guardAdmitted, hfind, eval_refill hrow hnow, if_pos hcovered]
        cases hkey : budget.keyCheck row.key with
        | true =>
            left
            refine ⟨_, ?_, Charged.spent hfind hcovered⟩
            have hcheck : bucketCheck budget ⟨row.key,
                (row.bucket.spend budget.capacity budget.charge now).credit,
                (row.bucket.spend budget.capacity budget.charge now).watermark⟩ :=
              ⟨hkey, charged_inBounds hrow hnow hcovered⟩
            simp only [creditStatements, hguard, hadmitted, upsertBucket, hfind,
              chargedRow_eq hrow hnow, if_pos hcheck]
        | false =>
            right; right
            have hcheck : ¬ bucketCheck budget ⟨row.key,
                (row.bucket.spend budget.capacity budget.charge now).credit,
                (row.bucket.spend budget.capacity budget.charge now).watermark⟩ := by
              intro h
              exact Bool.false_ne_true (hkey.symm.trans h.1)
            exact ⟨rfl, by
              simp only [creditStatements, hguard, hadmitted, upsertBucket, hfind,
                chargedRow_eq hrow hnow, if_neg hcheck]⟩
      · right; left
        exact ⟨row, rfl, not_le.mp hcovered, by
          simp only [creditStatements, hguard, guardAdmitted, hfind, eval_refill hrow hnow,
            if_neg hcovered]⟩

theorem creditStatements_charged (hbounds : BucketsInBounds budget table)
    (hnow : 0 ≤ now ∧ now ≤ maxInt64) (h : creditStatements budget table key now = .ok table') :
    Charged budget table key now table' := by
  rcases creditStatements_cases key hbounds hnow with
    ⟨other, hok, hcharged⟩ | ⟨_, _, _, herror⟩ | ⟨_, herror⟩
  · cases hok.symm.trans h
    exact hcharged
  · cases herror.symm.trans h
  · cases herror.symm.trans h

theorem creditStatements_ne_notInteger (hbounds : BucketsInBounds budget table)
    (hnow : 0 ≤ now ∧ now ≤ maxInt64) :
    creditStatements budget table key now ≠ .error .notInteger := by
  intro h
  rcases creditStatements_cases key hbounds hnow with
    ⟨other, hok, _⟩ | ⟨_, _, _, herror⟩ | ⟨_, herror⟩
  · cases hok.symm.trans h
  · cases herror.symm.trans h
  · cases herror.symm.trans h

theorem Charged.bounds (h : Charged budget table key now table')
    (hbounds : BucketsInBounds budget table) (hnow : 0 ≤ now ∧ now ≤ maxInt64) :
    BucketsInBounds budget table' := by
  cases h with
  | opened _ hinsert =>
      intro row hrow
      rcases (Table.mem_insert? hinsert).mp hrow with hold | rfl
      · exact hbounds row hold
      · exact opening_inBounds hnow
  | spent hfind hcovered =>
      intro row hrow
      rcases Table.mem_modify_cases hrow with ⟨hold, _⟩ | ⟨old, hold, rfl⟩
      · exact hbounds row hold
      · exact charged_inBounds (hbounds _ (Table.mem_of_find? hfind)) hnow hcovered

/-- The charged bucket after the charge: nothing of it comes from nowhere. -/
theorem Charged.row (h : Charged budget table key now table') :
    (table.find? key = none ∧ table'.find? key = some ⟨key, budget.opening, now⟩) ∨
    ∃ row row', table.find? key = some row ∧ table'.find? key = some row' ∧
      row.updatedAtUs ≤ row'.updatedAtUs ∧
      budget.charge + row'.creditUs ≤ row.creditUs + (row'.updatedAtUs - row.updatedAtUs) := by
  cases h with
  | opened hfind hinsert =>
      left
      exact ⟨hfind, by rw [Table.find?_insert? hinsert, if_pos rfl]⟩
  | @spent row hfind hcovered =>
      right
      refine ⟨row, _, hfind, by rw [Table.find?_modify, if_pos rfl, hfind, Option.map_some], ?_, ?_⟩
      · exact le_max_left row.updatedAtUs now
      · exact TokenBucket.Bucket.spend_potential

/-- Buckets of other keys are not touched. -/
theorem Charged.find?_of_ne (h : Charged budget table key now table') {other : κ}
    (hne : other ≠ key) : table'.find? other = table.find? other := by
  cases h with
  | opened _ hinsert => rw [Table.find?_insert? hinsert, if_neg hne]
  | spent => rw [Table.find?_modify, if_neg hne]

end Effect

end FlickrGroupAddr

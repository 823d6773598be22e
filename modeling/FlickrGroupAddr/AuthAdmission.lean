import FlickrGroupAddr.QuotaCredit
import FlickrGroupAddr.Lib.Transition
import FlickrGroupAddr.Lib.Fallible
import Mathlib.Algebra.BigOperators.Group.List.Basic

/-!
# Authentication and status admission

`admitAuthentication` and `admitStatusRead` each run one D1 batch: sample the
clock, charge the bucket, check the request windows, append the event.  A batch
that fails at any statement is rolled back whole.  Requests of any kind, with any
sampled clocks, are the moves of a run over the store.
-/

namespace FlickrGroupAddr

set_option autoImplicit false

open KeyedTable SqlInt Transition

/-! ## The store -/

inductive AuthRoute where
  | login
  | start
  | callback
deriving DecidableEq

/-- `auth_cost_events`. -/
structure AuthCostEvent where
  eventId : String
  sourceKey : String
  route : AuthRoute
  createdAtUs : Int
  invalidOrInflight : Bool
deriving DecidableEq

/-- `status_read_events`. -/
structure StatusReadEvent where
  eventId : String
  createdAtUs : Int
deriving DecidableEq

/-- The rows the admission batches read and write. -/
structure AdmissionStore where
  authBuckets : BucketTable String
  statusBuckets : BucketTable (Family × String)
  authEvents : Table AuthCostEvent.eventId
  statusEvents : Table StatusReadEvent.eventId

/-! ## The two batches -/

section Batches

-- `createHash("sha256")`, in hexadecimal
variable (sha256 : String → String)

/-- The key of the bucket a route charges.  The start route has a bucket of its
own, derived from the source key. -/
def authBucketKey (source : String) (route : AuthRoute) : String :=
  if route = .start then sha256 ("login-start:" ++ source) else source

def windowUs : Int := 600000000

/-- The three limits on recent events; `callback` is bound by the first two. -/
def authWindowAdmitted (events : Table AuthCostEvent.eventId) (source : String)
    (route : AuthRoute) (now : Int) : Bool :=
  let recent := events.rows.filter fun event => now - windowUs < event.createdAtUs
  (recent.filter fun event => event.invalidOrInflight).length < 120 &&
  (recent.filter fun event => event.sourceKey = source ∧ event.invalidOrInflight).length < 20 &&
  (route = .callback || (recent.filter fun event => event.route = route).length < 30)

/-- The credit statements of a route.  A callback charges no bucket. -/
def routeCreditStatements (store : AdmissionStore) (source : String) (route : AuthRoute)
    (now : Int) : Except QuotaFailure (BucketTable String) :=
  if route = .callback then .ok store.authBuckets
  else authenticationCreditStatements store.authBuckets (authBucketKey sha256 source route) now

/-- `admitAuthentication`. -/
def admitAuthentication (store : AdmissionStore) (id source : String) (route : AuthRoute)
    (sampled : Option Int) : Except QuotaFailure AdmissionStore := do
  let now ← beginQuotaClock sampled
  let buckets ← routeCreditStatements sha256 store source route now
  if authWindowAdmitted store.authEvents source route now then
    if source.length = 64 then
      match store.authEvents.insert? ⟨id, source, route, now, route ≠ .start⟩ with
      | some events => pure { store with authBuckets := buckets, authEvents := events }
      | none => throw .unavailable
    else throw .unavailable
  else throw .exhausted

/-- `admitStatusRead`. -/
def admitStatusRead (store : AdmissionStore) (event : String) (family : Family)
    (subjectId : String) (sampled : Option Int) : Except QuotaFailure AdmissionStore := do
  let now ← beginQuotaClock sampled
  let buckets ← statusCreditStatements store.statusBuckets family subjectId now
  if (store.statusEvents.rows.filter fun row => now - windowUs < row.createdAtUs).length < 600 then
    match store.statusEvents.insert? ⟨event, now⟩ with
    | some events => pure { store with statusBuckets := buckets, statusEvents := events }
    | none => throw .unavailable
  else throw .exhausted

/-- `finishAuthentication`. -/
def finishAuthentication (store : AdmissionStore) (id : String) : AdmissionStore :=
  { store with
    authEvents := store.authEvents.modify id fun event => { event with invalidOrInflight := false } }

/-! ## Runs of requests -/

inductive QuotaRequest where
  | authentication (id source : String) (route : AuthRoute) (sampled : Option Int)
  | statusRead (event : String) (family : Family) (subjectId : String) (sampled : Option Int)
  | finish (id : String)
deriving DecidableEq

/-- What a request does when it commits. -/
def serve (store : AdmissionStore) : QuotaRequest → Except QuotaFailure AdmissionStore
  | .authentication id source route sampled =>
      admitAuthentication sha256 store id source route sampled
  | .statusRead event family subjectId sampled =>
      admitStatusRead store event family subjectId sampled
  | .finish id => .ok (finishAuthentication store id)

/-- The store after a request: a batch that fails is rolled back. -/
def afterRequest (store : AdmissionStore) (request : QuotaRequest) : AdmissionStore :=
  match serve sha256 store request with
  | .ok after => after
  | .error _ => store

def Serve (store : AdmissionStore) (request : QuotaRequest) (store' : AdmissionStore) : Prop :=
  afterRequest sha256 store request = store'

/-- The move was admitted. -/
def admitted (move : Move AdmissionStore QuotaRequest) : Bool :=
  (serve sha256 move.src move.label).isOk

/-! ## Buckets over a run -/

inductive BucketKey where
  | source (sourceKey : String)
  | status (family : Family) (subjectId : String)
deriving DecidableEq

def BucketKey.capacity : BucketKey → Int
  | .source _ => authenticationBudget.capacity
  | .status _ _ => statusBudget.capacity

def BucketKey.charge : BucketKey → Int
  | .source _ => authenticationBudget.charge
  | .status _ _ => statusBudget.charge

/-- The stored balance and watermark of a bucket. -/
def AdmissionStore.balance (store : AdmissionStore) :
    BucketKey → Option (TokenBucket.Bucket Int)
  | .source sourceKey => (store.authBuckets.find? sourceKey).map BucketRow.bucket
  | .status family subjectId =>
      (store.statusBuckets.find? (family, subjectId)).map BucketRow.bucket

/-- The bucket a request is admitted against. -/
def QuotaRequest.bucket : QuotaRequest → Option BucketKey
  | .authentication _ source route _ =>
      if route = .callback then none else some (.source (authBucketKey sha256 source route))
  | .statusRead _ family subjectId _ => some (.status family subjectId)
  | .finish _ => none

/-- The requests of a run admitted against one bucket. -/
def admittedAgainst (key : BucketKey) (trace : List (Move AdmissionStore QuotaRequest)) : Nat :=
  (trace.filter fun move =>
    admitted sha256 move && decide (move.label.bucket sha256 = some key)).length

/-- How far one move takes the watermark of a bucket that was there before it. -/
def moveAdvance (key : BucketKey) (move : Move AdmissionStore QuotaRequest) : Int :=
  match move.src.balance key, move.dst.balance key with
  | some before, some after => after.watermark - before.watermark
  | _, _ => 0

/-- How far a run takes the watermark of a bucket from its first balance on. -/
def watermarkAdvance (key : BucketKey) (trace : List (Move AdmissionStore QuotaRequest)) : Int :=
  (trace.map (moveAdvance key)).sum

/-- Every stored balance and watermark is within the bounds of its budget. -/
structure AdmissionStore.InBounds (store : AdmissionStore) : Prop where
  auth : BucketsInBounds authenticationBudget store.authBuckets
  status : BucketsInBounds statusBudget store.statusBuckets

end Batches

/-! ## One request -/

section Step

variable {sha256 : String → String} {store after : AdmissionStore}

/-- What an admitted authentication did to the buckets. -/
theorem admitAuthentication_eq_ok {id source : String} {route : AuthRoute} {sampled : Option Int}
    (h : admitAuthentication sha256 store id source route sampled = .ok after) :
    after.statusBuckets = store.statusBuckets ∧
    ((route = .callback ∧ after.authBuckets = store.authBuckets) ∨
      (route ≠ .callback ∧ ∃ now, (0 ≤ now ∧ now ≤ maxInt64) ∧
        authenticationCreditStatements store.authBuckets (authBucketKey sha256 source route) now =
          .ok after.authBuckets)) := by
  obtain ⟨now, hclock, h⟩ := Fallible.bind_eq_ok.mp h
  obtain ⟨buckets, hbuckets, h⟩ := Fallible.bind_eq_ok.mp h
  have hafter : after.statusBuckets = store.statusBuckets ∧ after.authBuckets = buckets := by
    split at h
    · split at h
      · split at h
        · cases h
          exact ⟨rfl, rfl⟩
        · cases h
      · cases h
    · cases h
  refine ⟨hafter.1, ?_⟩
  rw [hafter.2]
  unfold routeCreditStatements at hbuckets
  by_cases hroute : route = .callback
  · rw [if_pos hroute] at hbuckets
    cases hbuckets
    exact Or.inl ⟨hroute, rfl⟩
  · rw [if_neg hroute] at hbuckets
    exact Or.inr ⟨hroute, now, beginQuotaClock_eq_ok hclock, hbuckets⟩

/-- What an admitted status read did to the buckets. -/
theorem admitStatusRead_eq_ok {event subjectId : String} {family : Family} {sampled : Option Int}
    (h : admitStatusRead store event family subjectId sampled = .ok after) :
    after.authBuckets = store.authBuckets ∧ ∃ now, (0 ≤ now ∧ now ≤ maxInt64) ∧
      statusCreditStatements store.statusBuckets family subjectId now = .ok after.statusBuckets := by
  obtain ⟨now, hclock, h⟩ := Fallible.bind_eq_ok.mp h
  obtain ⟨buckets, hbuckets, h⟩ := Fallible.bind_eq_ok.mp h
  have hafter : after.authBuckets = store.authBuckets ∧ after.statusBuckets = buckets := by
    split at h
    · split at h
      · cases h
        exact ⟨rfl, rfl⟩
      · cases h
    · cases h
  refine ⟨hafter.1, now, beginQuotaClock_eq_ok hclock, ?_⟩
  rw [hafter.2]
  exact hbuckets

/-- A request leaves the buckets alone or charges the one it is admitted against. -/
theorem serve_eq_ok (hbounds : store.InBounds) {request : QuotaRequest}
    (h : serve sha256 store request = .ok after) :
    (request.bucket sha256 = none ∧ after.authBuckets = store.authBuckets ∧
      after.statusBuckets = store.statusBuckets) ∨
    (∃ sourceKey now, request.bucket sha256 = some (.source sourceKey) ∧
      (0 ≤ now ∧ now ≤ maxInt64) ∧ after.statusBuckets = store.statusBuckets ∧
      Charged authenticationBudget store.authBuckets sourceKey now after.authBuckets) ∨
    (∃ family subjectId now, request.bucket sha256 = some (.status family subjectId) ∧
      (0 ≤ now ∧ now ≤ maxInt64) ∧ after.authBuckets = store.authBuckets ∧
      Charged statusBudget store.statusBuckets (family, subjectId) now after.statusBuckets) := by
  cases request with
  | authentication id source route sampled =>
      obtain ⟨hstatus, ⟨hroute, hauth⟩ | ⟨hroute, now, hnow, hcharge⟩⟩ :=
        admitAuthentication_eq_ok h
      · exact Or.inl ⟨if_pos hroute, hauth, hstatus⟩
      · exact Or.inr (Or.inl ⟨_, now, if_neg hroute, hnow, hstatus,
          creditStatements_charged hbounds.auth hnow hcharge⟩)
  | statusRead event family subjectId sampled =>
      obtain ⟨hauth, now, hnow, hcharge⟩ := admitStatusRead_eq_ok h
      exact Or.inr (Or.inr ⟨family, subjectId, now, rfl, hnow, hauth,
        creditStatements_charged hbounds.status hnow hcharge⟩)
  | finish id =>
      cases h
      exact Or.inl ⟨rfl, rfl, rfl⟩

/-- No expression of a request leaves the signed 64-bit range. -/
theorem serve_ne_notInteger (hbounds : store.InBounds) (request : QuotaRequest) :
    serve sha256 store request ≠ .error .notInteger := by
  intro h
  cases request with
  | authentication id source route sampled =>
      rcases Fallible.bind_eq_error.mp h with hclock | ⟨now, hclock, h⟩
      · exact beginQuotaClock_ne_notInteger hclock
      rcases Fallible.bind_eq_error.mp h with hbuckets | ⟨buckets, _, h⟩
      · unfold routeCreditStatements at hbuckets
        split at hbuckets
        · cases hbuckets
        · exact creditStatements_ne_notInteger hbounds.auth (beginQuotaClock_eq_ok hclock) hbuckets
      · split at h
        · split at h
          · split at h <;> cases h
          · cases h
        · cases h
  | statusRead event family subjectId sampled =>
      rcases Fallible.bind_eq_error.mp h with hclock | ⟨now, hclock, h⟩
      · exact beginQuotaClock_ne_notInteger hclock
      rcases Fallible.bind_eq_error.mp h with hbuckets | ⟨buckets, _, h⟩
      · exact creditStatements_ne_notInteger hbounds.status (beginQuotaClock_eq_ok hclock) hbuckets
      · split at h
        · split at h <;> cases h
        · cases h
  | finish id => cases h

theorem serve_inBounds (hbounds : store.InBounds) {request : QuotaRequest}
    (h : serve sha256 store request = .ok after) : after.InBounds := by
  rcases serve_eq_ok hbounds h with
    ⟨_, hauth, hstatus⟩ | ⟨_, now, _, hnow, hstatus, hcharged⟩ |
      ⟨_, _, now, _, hnow, hauth, hcharged⟩
  · exact ⟨hauth ▸ hbounds.auth, hstatus ▸ hbounds.status⟩
  · exact ⟨hcharged.bounds hbounds.auth hnow, hstatus ▸ hbounds.status⟩
  · exact ⟨hauth ▸ hbounds.auth, hcharged.bounds hbounds.status hnow⟩

/-- What one request does to one bucket: nothing, or it opens it, or it pays a
charge out of the credit and the advance of the watermark. -/
theorem serve_balance (hbounds : store.InBounds) {request : QuotaRequest}
    (h : serve sha256 store request = .ok after) (key : BucketKey) :
    (request.bucket sha256 ≠ some key ∧ after.balance key = store.balance key) ∨
    (request.bucket sha256 = some key ∧ store.balance key = none ∧
      ∃ now, after.balance key = some ⟨key.capacity - key.charge, now⟩) ∨
    (request.bucket sha256 = some key ∧ ∃ b b', store.balance key = some b ∧
      after.balance key = some b' ∧ b.watermark ≤ b'.watermark ∧
      key.charge + b'.credit ≤ b.credit + (b'.watermark - b.watermark)) := by
  rcases serve_eq_ok hbounds h with
    ⟨hbucket, hauth, hstatus⟩ | ⟨sourceKey, now, hbucket, hnow, hstatus, hcharged⟩ |
      ⟨family, subjectId, now, hbucket, hnow, hauth, hcharged⟩
  · left
    refine ⟨by simp [hbucket], ?_⟩
    cases key with
    | source other => simp only [AdmissionStore.balance, hauth]
    | status family subjectId => simp only [AdmissionStore.balance, hstatus]
  · cases key with
    | status family subjectId =>
        left
        exact ⟨by simp [hbucket], by simp only [AdmissionStore.balance, hstatus]⟩
    | source other =>
        by_cases hsame : other = sourceKey
        · subst hsame
          right
          rcases hcharged.row with ⟨hnone, hopened⟩ | ⟨row, row', hrow, hrow', hmark, hpaid⟩
          · left
            refine ⟨hbucket, by simp only [AdmissionStore.balance, hnone, Option.map_none],
              now, ?_⟩
            rw [AdmissionStore.balance, hopened]
            rfl
          · right
            exact ⟨hbucket, row.bucket, row'.bucket,
              by simp only [AdmissionStore.balance, hrow, Option.map_some],
              by simp only [AdmissionStore.balance, hrow', Option.map_some], hmark, hpaid⟩
        · left
          refine ⟨?_, by simp only [AdmissionStore.balance, hcharged.find?_of_ne hsame]⟩
          rw [hbucket]
          intro heq
          cases heq
          exact hsame rfl
  · cases key with
    | source other =>
        left
        exact ⟨by simp [hbucket], by simp only [AdmissionStore.balance, hauth]⟩
    | status otherFamily otherSubject =>
        by_cases hsame : (otherFamily, otherSubject) = (family, subjectId)
        · cases hsame
          right
          rcases hcharged.row with ⟨hnone, hopened⟩ | ⟨row, row', hrow, hrow', hmark, hpaid⟩
          · left
            refine ⟨hbucket, by simp only [AdmissionStore.balance, hnone, Option.map_none],
              now, ?_⟩
            rw [AdmissionStore.balance, hopened]
            rfl
          · right
            exact ⟨hbucket, row.bucket, row'.bucket,
              by simp only [AdmissionStore.balance, hrow, Option.map_some],
              by simp only [AdmissionStore.balance, hrow', Option.map_some], hmark, hpaid⟩
        · left
          refine ⟨?_, by simp only [AdmissionStore.balance, hcharged.find?_of_ne hsame]⟩
          rw [hbucket]
          intro heq
          cases heq
          exact hsame rfl

end Step

/-! ## Whole runs -/

section Runs

variable {sha256 : String → String} {start finish : AdmissionStore}
  {trace : List (Move AdmissionStore QuotaRequest)}

theorem Serve.committed {store store' : AdmissionStore} {request : QuotaRequest}
    (h : Serve sha256 store request store')
    (hok : admitted sha256 ⟨store, request, store'⟩ = true) :
    serve sha256 store request = .ok store' := by
  unfold Serve afterRequest at h
  unfold admitted at hok
  cases hserve : serve sha256 store request with
  | ok after =>
      rw [hserve] at h
      exact congrArg Except.ok h
  | error failure =>
      rw [hserve] at hok
      cases hok

theorem Serve.refused {store store' : AdmissionStore} {request : QuotaRequest}
    (h : Serve sha256 store request store')
    (hno : admitted sha256 ⟨store, request, store'⟩ = false) :
    store' = store := by
  unfold Serve afterRequest at h
  unfold admitted at hno
  cases hserve : serve sha256 store request with
  | ok after =>
      rw [hserve] at hno
      cases hno
  | error failure =>
      rw [hserve] at h
      exact h.symm

theorem Serve.inBounds {store store' : AdmissionStore} {request : QuotaRequest}
    (h : Serve sha256 store request store') (hbounds : store.InBounds) : store'.InBounds := by
  cases hadmission : admitted sha256 ⟨store, request, store'⟩ with
  | true => exact serve_inBounds hbounds (h.committed hadmission)
  | false => exact h.refused hadmission ▸ hbounds

theorem run_inBounds (hrun : Run (Serve sha256) start trace finish) (hstart : start.InBounds) :
    finish.InBounds :=
  hrun.invariant hstart fun _ _ hsrc hstep => hstep.inBounds hsrc

theorem balance_credit_le {store : AdmissionStore} (hbounds : store.InBounds) {key : BucketKey}
    {b : TokenBucket.Bucket Int} (h : store.balance key = some b) :
    (0 ≤ b.credit ∧ b.credit ≤ key.capacity) ∧ 0 ≤ b.watermark := by
  cases key with
  | source sourceKey =>
      obtain ⟨row, hrow, rfl⟩ := Option.map_eq_some_iff.mp h
      have hin := hbounds.auth row (Table.mem_of_find? hrow)
      exact ⟨hin.1, hin.2.1⟩
  | status family subjectId =>
      obtain ⟨row, hrow, rfl⟩ := Option.map_eq_some_iff.mp h
      have hin := hbounds.status row (Table.mem_of_find? hrow)
      exact ⟨hin.1, hin.2.1⟩

theorem admittedAgainst_append (key : BucketKey)
    (front back : List (Move AdmissionStore QuotaRequest)) :
    admittedAgainst sha256 key (front ++ back) =
      admittedAgainst sha256 key front + admittedAgainst sha256 key back := by
  simp only [admittedAgainst, List.filter_append, List.length_append]

theorem admittedAgainst_singleton (key : BucketKey) (move : Move AdmissionStore QuotaRequest) :
    admittedAgainst sha256 key [move] =
      if admitted sha256 move = true ∧ move.label.bucket sha256 = some key then 1 else 0 := by
  unfold admittedAgainst
  by_cases h : admitted sha256 move = true ∧ move.label.bucket sha256 = some key
  · rw [if_pos h, List.filter_cons_of_pos (by simp [h.1, h.2])]
    rfl
  · rw [if_neg h, List.filter_cons_of_neg (by simpa using h)]
    rfl

theorem watermarkAdvance_append (key : BucketKey)
    (front back : List (Move AdmissionStore QuotaRequest)) :
    watermarkAdvance key (front ++ back) =
      watermarkAdvance key front + watermarkAdvance key back := by
  simp only [watermarkAdvance, List.map_append, List.sum_append]

theorem watermarkAdvance_singleton (key : BucketKey) (move : Move AdmissionStore QuotaRequest) :
    watermarkAdvance key [move] = moveAdvance key move := by
  simp only [watermarkAdvance, List.map_singleton, List.sum_singleton]

/-- `serve_balance` for a move, with the request counted when it was admitted. -/
theorem move_balance {store store' : AdmissionStore} {request : QuotaRequest}
    (h : Serve sha256 store request store') (hbounds : store.InBounds) (key : BucketKey) :
    (admittedAgainst sha256 key [⟨store, request, store'⟩] = 0 ∧
      store'.balance key = store.balance key) ∨
    (admittedAgainst sha256 key [⟨store, request, store'⟩] = 1 ∧ store.balance key = none ∧
      ∃ now, store'.balance key = some ⟨key.capacity - key.charge, now⟩) ∨
    (admittedAgainst sha256 key [⟨store, request, store'⟩] = 1 ∧ ∃ b b',
      store.balance key = some b ∧ store'.balance key = some b' ∧ b.watermark ≤ b'.watermark ∧
      key.charge + b'.credit ≤ b.credit + (b'.watermark - b.watermark)) := by
  cases hadmission : admitted sha256 ⟨store, request, store'⟩ with
  | false =>
      left
      refine ⟨?_, by rw [h.refused hadmission]⟩
      rw [admittedAgainst_singleton, if_neg fun h => Bool.false_ne_true (hadmission.symm.trans h.1)]
  | true =>
      rcases serve_balance hbounds (h.committed hadmission) key with
        ⟨hother, hsame⟩ | ⟨hbucket, hopened⟩ | ⟨hbucket, hspent⟩
      · left
        refine ⟨?_, hsame⟩
        rw [admittedAgainst_singleton, if_neg fun h => hother h.2]
      · right; left
        refine ⟨?_, hopened⟩
        rw [admittedAgainst_singleton, if_pos ⟨hadmission, hbucket⟩]
      · right; right
        refine ⟨?_, hspent⟩
        rw [admittedAgainst_singleton, if_pos ⟨hadmission, hbucket⟩]

/-- The account of a bucket after a run.  What its admitted requests cost and what
it still holds is covered by the capacity and the advance of its watermark. -/
def Accounted (sha256 : String → String) (start : AdmissionStore) (key : BucketKey)
    (trace : List (Move AdmissionStore QuotaRequest)) : Option (TokenBucket.Bucket Int) → Prop
  | none => start.balance key = none ∧ admittedAgainst sha256 key trace = 0 ∧
      watermarkAdvance key trace = 0
  | some b =>
      admittedAgainst sha256 key trace * key.charge + b.credit ≤
        key.capacity + watermarkAdvance key trace ∧
      ∀ b₀, start.balance key = some b₀ → b₀.watermark ≤ b.watermark

theorem run_accounted (hrun : Run (Serve sha256) start trace finish) (hstart : start.InBounds)
    (key : BucketKey) : Accounted sha256 start key trace (finish.balance key) := by
  induction hrun with
  | nil =>
      cases hbalance : start.balance key with
      | none => exact ⟨hbalance, rfl, rfl⟩
      | some b =>
          refine ⟨?_, fun b₀ h₀ => ?_⟩
          · have hcredit := (balance_credit_le hstart hbalance).1.2
            simpa [admittedAgainst, watermarkAdvance] using hcredit
          · cases hbalance.symm.trans h₀
            exact le_refl _
  | @snoc middle last before request hfront hstep ih =>
      have hmiddle := run_inBounds hfront hstart
      have hbefore := ih
      rcases move_balance hstep hmiddle key with
        ⟨hcount, hsame⟩ | ⟨hcount, hnone, now, hopened⟩ | ⟨hcount, b, b', hb, hb', hmark, hpaid⟩
      · -- the bucket did not move
        rw [hsame]
        have hstill : moveAdvance key ⟨middle, request, last⟩ = 0 := by
          simp only [moveAdvance, hsame]
          cases middle.balance key with
          | none => rfl
          | some b => exact sub_self _
        cases hbalance : middle.balance key with
        | none =>
            rw [hbalance] at hbefore
            obtain ⟨h₀, hn, hadvance⟩ := hbefore
            exact ⟨h₀, by rw [admittedAgainst_append, hn, hcount],
              by rw [watermarkAdvance_append, watermarkAdvance_singleton, hadvance, hstill]; rfl⟩
        | some b =>
            rw [hbalance] at hbefore
            refine ⟨?_, hbefore.2⟩
            rw [admittedAgainst_append, hcount, watermarkAdvance_append,
              watermarkAdvance_singleton, hstill]
            simpa using hbefore.1
      · -- the first balance of the bucket
        rw [hnone] at hbefore
        obtain ⟨h₀, hn, hadvance⟩ := hbefore
        rw [hopened]
        have hfirst : moveAdvance key ⟨middle, request, last⟩ = 0 := by
          simp only [moveAdvance, hnone]
        refine ⟨?_, fun b₀ hb₀ => ?_⟩
        · rw [admittedAgainst_append, hn, hcount, watermarkAdvance_append,
            watermarkAdvance_singleton, hadvance, hfirst]
          simp
        · cases h₀.symm.trans hb₀
      · -- a charge paid by credit and advance
        rw [hb] at hbefore
        rw [hb']
        have hadvance : moveAdvance key ⟨middle, request, last⟩ = b'.watermark - b.watermark := by
          simp only [moveAdvance, hb, hb']
        refine ⟨?_, fun b₀ hb₀ => (hbefore.2 b₀ hb₀).trans hmark⟩
        rw [admittedAgainst_append, hcount, watermarkAdvance_append, watermarkAdvance_singleton,
          hadvance, Int.natCast_add, Int.natCast_one, Int.add_mul, Int.one_mul]
        have hcovered := hbefore.1
        omega

theorem charge_pos (key : BucketKey) : 0 < key.charge := by
  cases key with
  | source => exact authenticationBudget.charge_pos
  | status => exact statusBudget.charge_pos

theorem capacity_nonneg (key : BucketKey) : 0 ≤ key.capacity := by
  cases key with
  | source => exact (le_of_lt authenticationBudget.charge_pos).trans authenticationBudget.charge_le
  | status => exact (le_of_lt statusBudget.charge_pos).trans statusBudget.charge_le

/-- The admission rate of a bucket over a run. -/
theorem admittedAgainst_le (hrun : Run (Serve sha256) start trace finish)
    (hstart : start.InBounds) (key : BucketKey) :
    (admittedAgainst sha256 key trace : Int) ≤
      (key.capacity + watermarkAdvance key trace) / key.charge := by
  have haccount := run_accounted hrun hstart key
  rw [Int.le_ediv_iff_mul_le (charge_pos key)]
  cases hbalance : finish.balance key with
  | none =>
      rw [hbalance] at haccount
      obtain ⟨_, hn, hadvance⟩ := haccount
      rw [hn, hadvance]
      simpa using capacity_nonneg key
  | some b =>
      rw [hbalance] at haccount
      have hcredit := (balance_credit_le (run_inBounds hrun hstart) hbalance).1.1
      have hcovered := haccount.1
      omega

/-- Integer token buckets.  From a store within the bounds of its schema, over any
run of requests with any sampled clocks: the stored credits stay within bounds, no
watermark goes back, no refill leaves the signed 64-bit range, a request that is not
admitted changes nothing, and the requests admitted against a bucket are bounded by
its capacity and the advance of its watermark. -/
theorem integer_token_buckets (sha256 : String → String) {start finish : AdmissionStore}
    {trace : List (Move AdmissionStore QuotaRequest)}
    (hrun : Run (Serve sha256) start trace finish) (hstart : start.InBounds) :
    (∀ key b, finish.balance key = some b → 0 ≤ b.credit ∧ b.credit ≤ key.capacity) ∧
    (∀ key b, start.balance key = some b →
      ∃ b', finish.balance key = some b' ∧ b.watermark ≤ b'.watermark) ∧
    ((∀ row ∈ finish.authBuckets, ∀ clock : Int, 0 ≤ clock → clock ≤ maxInt64 →
        ((refill authenticationBudget.capacity).eval (columns row clock)).isSome) ∧
      (∀ row ∈ finish.statusBuckets, ∀ clock : Int, 0 ≤ clock → clock ≤ maxInt64 →
        ((refill statusBudget.capacity).eval (columns row clock)).isSome) ∧
      ∀ move ∈ trace, serve sha256 move.src move.label ≠ .error .notInteger) ∧
    (∀ move ∈ trace, admitted sha256 move = false → move.dst = move.src) ∧
    (∀ key, (admittedAgainst sha256 key trace : Int) ≤
      (key.capacity + watermarkAdvance key trace) / key.charge) := by
  have hfinish := run_inBounds hrun hstart
  refine ⟨fun key b hb => (balance_credit_le hfinish hb).1, fun key b hb => ?_,
    ⟨fun row hrow clock hlow hhigh => ?_, fun row hrow clock hlow hhigh => ?_,
      fun move hmove => ?_⟩, fun move hmove hno => ?_, admittedAgainst_le hrun hstart⟩
  · have haccount := run_accounted hrun hstart key
    cases hbalance : finish.balance key with
    | none =>
        rw [hbalance] at haccount
        cases haccount.1.symm.trans hb
    | some b' =>
        rw [hbalance] at haccount
        exact ⟨b', rfl, haccount.2 b hb⟩
  · rw [eval_refill (hfinish.auth row hrow) ⟨hlow, hhigh⟩]
    rfl
  · rw [eval_refill (hfinish.status row hrow) ⟨hlow, hhigh⟩]
    rfl
  · obtain ⟨front, back, rfl⟩ := List.append_of_mem hmove
    exact serve_ne_notInteger (run_inBounds (Run.around hrun).1 hstart) move.label
  · obtain ⟨front, back, rfl⟩ := List.append_of_mem hmove
    exact (Run.around hrun).2.1.refused hno

/-- Two logins from one source at one reading of the clock spend its bucket; the
third is refused and changes nothing. -/
theorem integer_token_buckets_logins :
    let source := "0123456789abcdef0123456789abcdef0123456789abcdef0123456789abcdef"
    let store : AdmissionStore := ⟨.empty, .empty, .empty, .empty⟩
    let login := fun id => QuotaRequest.authentication id source .login (some 1000)
    let first := afterRequest id store (login "e1")
    let second := afterRequest id first (login "e2")
    let third := afterRequest id second (login "e3")
    let trace := [⟨store, login "e1", first⟩, ⟨first, login "e2", second⟩,
      ⟨second, login "e3", third⟩]
    admittedAgainst id (.source source) trace = 2 ∧
      third.balance (.source source) = some ⟨0, 1000⟩ ∧
      (admittedAgainst id (.source source) trace : Int) ≤
        (240000000 + watermarkAdvance (.source source) trace) / 120000000 := by
  intro source store login first second third trace
  have hrun : Run (Serve id) store trace third :=
    Run.cons rfl (Run.cons rfl (Run.single rfl))
  have hstart : store.InBounds := ⟨nofun, nofun⟩
  refine ⟨by decide +kernel, by decide +kernel, ?_⟩
  exact (integer_token_buckets id hrun hstart).2.2.2.2 (.source source)

end Runs

end FlickrGroupAddr

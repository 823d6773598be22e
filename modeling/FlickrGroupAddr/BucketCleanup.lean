import FlickrGroupAddr.AuthAdmission

/-!
# Bucket cleanup

`cleanupAuthentication` deletes buckets and events that were not touched for a day.  A
store that was cleaned and one that was not answer every request alike, as long as the
clock does not go back: a bucket that old is full, and an event that old is outside
every window.
-/

namespace FlickrGroupAddr

set_option autoImplicit false

open KeyedTable SqlInt

/-! ## Cleanup -/

/-- `86400000000`: how long a row is kept untouched. -/
def retentionUs : Int := 86400000000

/-- `LIMIT 500` of each deletion. -/
def cleanupLimit : Nat := 500

/-- What `SELECT key … LIMIT 500` may return of the eligible keys: as many as the limit
lets through, in no particular order. -/
def Picked (eligible picked : List String) : Prop :=
  picked.Nodup ∧ (∀ key ∈ picked, key ∈ eligible) ∧
    picked.length = min cleanupLimit eligible.length

instance (eligible picked : List String) : Decidable (Picked eligible picked) :=
  inferInstanceAs (Decidable (_ ∧ _ ∧ _))

/-- The events and buckets no request touched since the retention began. -/
def staleEvents (store : AdmissionStore) (now : Int) : List String :=
  (store.authEvents.rows.filter fun event => event.createdAtUs ≤ now - retentionUs).map
    AuthCostEvent.eventId

def staleBuckets (store : AdmissionStore) (now : Int) : List String :=
  (store.authBuckets.rows.filter fun row => row.updatedAtUs ≤ now - retentionUs).map BucketRow.key

/-- `cleanupAuthentication` on the tables of admission; `events` and `buckets` are what
its two subqueries return. -/
def cleanupAuthentication (store : AdmissionStore) (events buckets : List String)
    (sampled : Option Int) : Except QuotaFailure AdmissionStore := do
  let now ← beginQuotaClock sampled
  if Picked (staleEvents store now) events ∧ Picked (staleBuckets store now) buckets then
    pure { store with
      authEvents := store.authEvents.deleteWhere fun event => decide (event.eventId ∈ events)
      authBuckets := store.authBuckets.deleteWhere fun row => decide (row.key ∈ buckets) }
  else throw .unavailable

/-! ## Runs with cleanups -/

/-- A request, or a cleanup with what its subqueries return. -/
inductive AuthCall where
  | request (request : QuotaRequest)
  | cleanup (events buckets : List String) (sampled : Option Int)
deriving DecidableEq

def QuotaRequest.sampled : QuotaRequest → Option Int
  | .authentication _ _ _ sampled => sampled
  | .statusRead _ _ _ sampled => sampled
  | .finish _ => none

/-- The random id an authentication draws. -/
def QuotaRequest.drawnId : QuotaRequest → Option String
  | .authentication id _ _ _ => some id
  | _ => none

namespace AuthCall

def isRequest : AuthCall → Bool
  | .request _ => true
  | .cleanup _ _ _ => false

/-- The reading of the clock. -/
def sampled : AuthCall → Option Int
  | .request asked => asked.sampled
  | .cleanup _ _ sampled => sampled

def drawnId : AuthCall → Option String
  | .request asked => asked.drawnId
  | .cleanup _ _ _ => none

end AuthCall

/-- The readings of the clock, in the order of the calls. -/
def clockReadings (calls : List AuthCall) : List Int := calls.filterMap AuthCall.sampled

/-- The ids the calls draw. -/
def drawnIds (calls : List AuthCall) : List String := calls.filterMap AuthCall.drawnId

section Runs

variable (sha256 : String → String)

/-- The store after a call: a batch that fails is rolled back. -/
def afterCall (store : AdmissionStore) : AuthCall → AdmissionStore
  | .request request => afterRequest sha256 store request
  | .cleanup events buckets sampled =>
      match cleanupAuthentication store events buckets sampled with
      | .ok after => after
      | .error _ => store

/-- What the requests are answered, in order. -/
def answers (store : AdmissionStore) : List AuthCall → List (Except QuotaFailure Unit)
  | [] => []
  | .request request :: rest =>
      (serve sha256 store request).map (fun _ => ()) ::
        answers (afterCall sha256 store (.request request)) rest
  | .cleanup events buckets sampled :: rest =>
      answers (afterCall sha256 store (.cleanup events buckets sampled)) rest

end Runs

/-! ## Credit statements -/

section Credit

variable {κ : Type} [DecidableEq κ] {budget : Budget κ} {table : BucketTable κ} {key : κ}
  {now : Int}

/-- The charge goes through: the bucket is new, or the credit covers it. -/
def covered (budget : Budget κ) (row : Option (BucketRow κ)) (now : Int) : Prop :=
  ∀ old ∈ row, budget.charge ≤ old.bucket.refill budget.capacity now

/-- The bucket after the charge. -/
def chargedBucket (budget : Budget κ) (row : Option (BucketRow κ)) (now : Int) :
    TokenBucket.Bucket Int :=
  match row with
  | none => ⟨budget.opening, now⟩
  | some old => old.bucket.spend budget.capacity budget.charge now

/-- Every outcome of the credit statements is decided by the row of the key. -/
theorem creditStatements_spec (key : κ) (hbounds : BucketsInBounds budget table)
    (hnow : 0 ≤ now ∧ now ≤ maxInt64) :
    (¬ covered budget (table.find? key) now ∧
      creditStatements budget table key now = .error .exhausted) ∨
    (covered budget (table.find? key) now ∧ budget.keyCheck key = false ∧
      creditStatements budget table key now = .error .unavailable) ∨
    (covered budget (table.find? key) now ∧ budget.keyCheck key = true ∧ ∃ table',
      creditStatements budget table key now = .ok table' ∧ ∀ other, table'.find? other =
        if other = key then
          some ⟨key, (chargedBucket budget (table.find? key) now).credit,
            (chargedBucket budget (table.find? key) now).watermark⟩
        else table.find? other) := by
  have hguard : guardInvariant budget table key now = .ok () :=
    if_pos ⟨hnow, fun row hrow _ => hbounds row hrow⟩
  cases hfind : table.find? key with
  | none =>
      have hadmitted : guardAdmitted budget table key now = .ok () := by
        rw [guardAdmitted, hfind]
      have hcovered : covered budget none now := by simp [covered]
      right
      cases hkey : budget.keyCheck key with
      | true =>
          right
          obtain ⟨table', hinsert⟩ : ∃ table', table.insert? ⟨key, budget.opening, now⟩ =
              some table' := Table.insert?_isSome hfind
          have hcheck : bucketCheck budget ⟨key, budget.opening, now⟩ :=
            ⟨hkey, opening_inBounds hnow⟩
          refine ⟨hcovered, rfl, table', ?_, ?_⟩
          · simp only [creditStatements, hguard, hadmitted, upsertBucket, hfind, if_pos hcheck,
              hinsert]
          · intro other
            exact Table.find?_insert? hinsert other
      | false =>
          left
          have hcheck : ¬ bucketCheck budget ⟨key, budget.opening, now⟩ := by
            intro h
            exact Bool.false_ne_true (hkey.symm.trans h.1)
          refine ⟨hcovered, rfl, ?_⟩
          simp only [creditStatements, hguard, hadmitted, upsertBucket, hfind, if_neg hcheck]
  | some row =>
      obtain ⟨hmem, rfl⟩ := Table.find?_eq_some.mp hfind
      have hrow := hbounds row hmem
      by_cases hcharge : budget.charge ≤ row.bucket.refill budget.capacity now
      · have hadmitted : guardAdmitted budget table row.key now = .ok () := by
          simp only [guardAdmitted, hfind, eval_refill hrow hnow, if_pos hcharge]
        have hcovered : covered budget (some row) now := by
          rintro _ ⟨⟩
          exact hcharge
        right
        cases hkey : budget.keyCheck row.key with
        | true =>
            right
            have hcheck : bucketCheck budget ⟨row.key,
                (row.bucket.spend budget.capacity budget.charge now).credit,
                (row.bucket.spend budget.capacity budget.charge now).watermark⟩ :=
              ⟨hkey, charged_inBounds hrow hnow hcharge⟩
            refine ⟨hcovered, rfl, table.modify row.key fun old => { old with
              creditUs := (row.bucket.spend budget.capacity budget.charge now).credit
              updatedAtUs := (row.bucket.spend budget.capacity budget.charge now).watermark },
              ?_, ?_⟩
            · simp only [creditStatements, hguard, hadmitted, upsertBucket, hfind,
                chargedRow_eq hrow hnow, if_pos hcheck]
            · intro other
              rw [Table.find?_modify]
              split
              · next heq =>
                  rw [heq, hfind]
                  rfl
              · rfl
        | false =>
            left
            have hcheck : ¬ bucketCheck budget ⟨row.key,
                (row.bucket.spend budget.capacity budget.charge now).credit,
                (row.bucket.spend budget.capacity budget.charge now).watermark⟩ := by
              intro h
              exact Bool.false_ne_true (hkey.symm.trans h.1)
            refine ⟨hcovered, rfl, ?_⟩
            simp only [creditStatements, hguard, hadmitted, upsertBucket, hfind,
              chargedRow_eq hrow hnow, if_neg hcheck]
      · left
        refine ⟨fun hall => hcharge (hall row rfl), ?_⟩
        simp only [creditStatements, hguard, guardAdmitted, hfind, eval_refill hrow hnow,
          if_neg hcharge]

omit [DecidableEq κ] in
/-- A bucket that was idle for as long as it takes to fill charges like a new one. -/
theorem charged_of_idle {row : BucketRow κ} (hrow : row.InBounds budget)
    (hidle : budget.capacity ≤ now - row.updatedAtUs) :
    (covered budget (some row) now ↔ covered budget none now) ∧
      chargedBucket budget (some row) now = chargedBucket budget none now := by
  have hpos : 0 < budget.capacity := budget.charge_pos.trans_le budget.charge_le
  have hfull : row.bucket.refill budget.capacity now = budget.capacity :=
    TokenBucket.Bucket.refill_of_idle hrow.1.1 hpos hidle
  have hspend : row.bucket.spend budget.capacity budget.charge now =
      ⟨budget.capacity - budget.charge, now⟩ :=
    TokenBucket.Bucket.spend_of_idle hrow.1.1 hpos hidle
  constructor
  · refine iff_of_true ?_ nofun
    rintro _ ⟨⟩
    rw [hfull]
    exact budget.charge_le
  · simp only [chargedBucket, hspend, budget.opening_eq]

end Credit

/-! ## The batch, statement by statement -/

section Batch

variable {sha256 : String → String} {store : AdmissionStore} {id source : String}
  {route : AuthRoute} {sampled : Option Int} {reading : Int}

theorem sampled_of_beginQuotaClock (h : beginQuotaClock sampled = .ok reading) :
    reading ∈ sampled := by
  unfold beginQuotaClock at h
  split at h
  · cases h
  · split at h
    · cases h
      rfl
    · cases h

theorem admitAuthentication_of_clock {failure : QuotaFailure}
    (h : beginQuotaClock sampled = .error failure) :
    admitAuthentication sha256 store id source route sampled = .error failure := by
  simp only [admitAuthentication, h, bind, Except.bind]

theorem admitAuthentication_of_refused {failure : QuotaFailure}
    (hclock : beginQuotaClock sampled = .ok reading)
    (h : routeCreditStatements sha256 store source route reading = .error failure) :
    admitAuthentication sha256 store id source route sampled = .error failure := by
  simp only [admitAuthentication, hclock, h, bind, Except.bind]

theorem admitAuthentication_of_credit {buckets : BucketTable String}
    (hclock : beginQuotaClock sampled = .ok reading)
    (h : routeCreditStatements sha256 store source route reading = .ok buckets) :
    admitAuthentication sha256 store id source route sampled =
      if authWindowAdmitted store.authEvents source route reading = true then
        if source.length = 64 then
          match store.authEvents.insert? ⟨id, source, route, reading, route ≠ .start⟩ with
          | some events => .ok { store with authBuckets := buckets, authEvents := events }
          | none => .error .unavailable
        else .error .unavailable
      else .error .exhausted := by
  simp only [admitAuthentication, hclock, h, bind, Except.bind]
  rfl

/-- A status read does not look at the tables of authentication. -/
theorem admitStatusRead_of_status {other : AdmissionStore} {event subjectId : String}
    {family : Family} (hbuckets : other.statusBuckets = store.statusBuckets)
    (hevents : other.statusEvents = store.statusEvents) :
    admitStatusRead other event family subjectId sampled =
      (admitStatusRead store event family subjectId sampled).map fun after =>
        { other with statusBuckets := after.statusBuckets, statusEvents := after.statusEvents } := by
  unfold admitStatusRead
  rw [hbuckets, hevents]
  cases beginQuotaClock sampled with
  | error failure => rfl
  | ok now =>
      simp only [bind, Except.bind]
      cases statusCreditStatements store.statusBuckets family subjectId now with
      | error failure => rfl
      | ok buckets =>
          simp only
          split
          · split <;> rfl
          · rfl

theorem admitStatusRead_auth {after : AdmissionStore} {event subjectId : String} {family : Family}
    (h : admitStatusRead store event family subjectId sampled = .ok after) :
    after.authBuckets = store.authBuckets ∧ after.authEvents = store.authEvents := by
  obtain ⟨now, _, h⟩ := Fallible.bind_eq_ok.mp h
  obtain ⟨buckets, _, h⟩ := Fallible.bind_eq_ok.mp h
  split at h
  · split at h
    · cases h
      exact ⟨rfl, rfl⟩
    · cases h
  · cases h

/-- A request adds no event but the one whose id it draws. -/
theorem serve_fresh {after : AdmissionStore} {request : QuotaRequest} {other : String}
    (h : serve sha256 store request = .ok after) (hother : request.drawnId ≠ some other)
    (hfresh : store.authEvents.find? other = none) : after.authEvents.find? other = none := by
  cases request with
  | authentication id source route sampled =>
      cases hclock : beginQuotaClock sampled with
      | error failure => cases h.symm.trans (admitAuthentication_of_clock hclock)
      | ok reading =>
          cases hcredit : routeCreditStatements sha256 store source route reading with
          | error failure => cases h.symm.trans (admitAuthentication_of_refused hclock hcredit)
          | ok buckets =>
              have hafter := h.symm.trans (admitAuthentication_of_credit hclock hcredit)
              split at hafter
              · split at hafter
                · split at hafter
                  · next hinsert =>
                      cases hafter
                      refine (Table.find?_insert? hinsert other).trans ?_
                      rw [if_neg, hfresh]
                      rintro rfl
                      exact hother rfl
                  · cases hafter
                · cases hafter
              · cases hafter
  | statusRead event family subjectId sampled =>
      rw [(admitStatusRead_auth h).2]
      exact hfresh
  | finish id =>
      cases h
      simp only [finishAuthentication, Table.find?_modify, hfresh]
      split <;> rfl

end Batch

/-! ## A cleaned store -/

/-- `cleaned` is `full` without some rows that no request from `now` on can tell apart
from none. -/
structure Cleaned (now : Int) (full cleaned : AdmissionStore) : Prop where
  bounds : full.InBounds
  statusBuckets : cleaned.statusBuckets = full.statusBuckets
  statusEvents : cleaned.statusEvents = full.statusEvents
  /-- A bucket is kept as it is, or was deleted after a day without a charge. -/
  buckets : ∀ key, cleaned.authBuckets.find? key = full.authBuckets.find? key ∨
    cleaned.authBuckets.find? key = none ∧ ∃ row, full.authBuckets.find? key = some row ∧
      row.updatedAtUs ≤ now - retentionUs
  /-- The events of the last day are all there. -/
  recent : cleaned.authEvents.rows.filter (fun event => decide (now - retentionUs < event.createdAtUs)) =
    full.authEvents.rows.filter fun event => decide (now - retentionUs < event.createdAtUs)
  events : ∀ event ∈ cleaned.authEvents, event ∈ full.authEvents

namespace Cleaned

variable {now : Int} {full cleaned : AdmissionStore}

theorem refl (now : Int) (hbounds : full.InBounds) : Cleaned now full full :=
  ⟨hbounds, rfl, rfl, fun _ => Or.inl rfl, rfl, fun _ h => h⟩

/-- Filters that ask for more than recency read the same events. -/
theorem filter_events (h : Cleaned now full cleaned) {p : AuthCostEvent → Bool}
    (hp : ∀ event, p event = true → now - retentionUs < event.createdAtUs) :
    cleaned.authEvents.rows.filter p = full.authEvents.rows.filter p := by
  have hsplit : ∀ rows : List AuthCostEvent, rows.filter p =
      (rows.filter fun event => decide (now - retentionUs < event.createdAtUs)).filter p := by
    intro rows
    rw [List.filter_filter]
    apply List.filter_congr
    intro event _
    cases htest : p event with
    | false => rfl
    | true => simp [hp event htest]
  rw [hsplit, hsplit full.authEvents.rows, h.recent]

theorem mono (h : Cleaned now full cleaned) {later : Int} (hle : now ≤ later) :
    Cleaned later full cleaned := by
  refine ⟨h.bounds, h.statusBuckets, h.statusEvents, ?_, ?_, h.events⟩
  · intro key
    rcases h.buckets key with hsame | ⟨hnone, row, hrow, hstale⟩
    · exact Or.inl hsame
    · exact Or.inr ⟨hnone, row, hrow, by omega⟩
  · apply h.filter_events
    intro event htest
    rw [decide_eq_true_eq] at htest
    omega

theorem cleanedBounds (h : Cleaned now full cleaned) :
    BucketsInBounds authenticationBudget cleaned.authBuckets := by
  intro row hrow
  have hfind := Table.find?_of_mem hrow
  rcases h.buckets row.key with hsame | ⟨hnone, _⟩
  · rw [hsame] at hfind
    exact h.bounds.auth row (Table.mem_of_find? hfind)
  · cases hnone.symm.trans hfind

/-- A cleanup takes only rows that are stale at its own reading. -/
theorem cleanup (h : Cleaned now full cleaned) {events buckets : List String} {sampled : Option Int}
    (hlate : ∀ reading ∈ sampled, now ≤ reading) {after : AdmissionStore}
    (hexec : cleanupAuthentication cleaned events buckets sampled = .ok after) :
    ∃ reading ∈ sampled, Cleaned reading full after := by
  obtain ⟨reading, hclock, hexec⟩ := Fallible.bind_eq_ok.mp hexec
  have hreading : reading ∈ sampled := sampled_of_beginQuotaClock hclock
  refine ⟨reading, hreading, ?_⟩
  have hlater := h.mono (hlate reading hreading)
  split at hexec
  · next hpicked =>
      obtain ⟨⟨_, hevents, _⟩, ⟨_, hbuckets, _⟩⟩ := hpicked
      cases hexec
      refine ⟨h.bounds, h.statusBuckets, h.statusEvents, ?_, ?_, ?_⟩
      · intro key
        by_cases hkey : key ∈ buckets
        · -- the bucket goes, and it was stale
          right
          obtain ⟨row, hrow, hsame⟩ := List.mem_map.mp (hbuckets key hkey)
          rw [List.mem_filter, decide_eq_true_eq] at hrow
          have hfind : cleaned.authBuckets.find? key = some row :=
            Table.find?_eq_some.mpr ⟨hrow.1, hsame⟩
          constructor
          · refine Table.find?_eq_none.mpr fun other hother heq => ?_
            simp only [Table.deleteWhere, Table.mem_def, List.mem_filter] at hother
            simp [heq, hkey] at hother
          · rcases hlater.buckets key with heq | ⟨hnone, _⟩
            · exact ⟨row, heq ▸ hfind, hrow.2⟩
            · cases hnone.symm.trans hfind
        · have hkept : (cleaned.authBuckets.deleteWhere
              fun row => decide (row.key ∈ buckets)).find? key = cleaned.authBuckets.find? key := by
            cases hfind : cleaned.authBuckets.find? key with
            | none =>
                refine Table.find?_eq_none.mpr fun other hother => ?_
                simp only [Table.deleteWhere, Table.mem_def, List.mem_filter] at hother
                exact Table.find?_eq_none.mp hfind other hother.1
            | some row =>
                obtain ⟨hmem, hsame⟩ := Table.find?_eq_some.mp hfind
                refine Table.find?_eq_some.mpr ⟨?_, hsame⟩
                simp only [Table.deleteWhere, Table.mem_def, List.mem_filter]
                exact ⟨hmem, by simp [hsame, hkey]⟩
          rw [hkept]
          exact hlater.buckets key
      · refine Eq.trans (Table.filter_deleteWhere ?_) hlater.recent
        intro event hevent hrecent
        rw [decide_eq_true_eq] at hrecent
        rw [decide_eq_false_iff_not]
        intro hpick
        obtain ⟨other, hother, hsame⟩ := List.mem_map.mp (hevents _ hpick)
        rw [List.mem_filter, decide_eq_true_eq] at hother
        have hrow : other = event := Table.eq_of_key_eq hother.1 hevent hsame
        rw [hrow] at hother
        omega
      · intro event hevent
        simp only [Table.deleteWhere, Table.mem_def, List.mem_filter] at hevent
        exact h.events event hevent.1
  · cases hexec

/-! ### Requests -/

/-- The credit statements of both stores refuse alike, or charge one bucket alike. -/
theorem credit (h : Cleaned now full cleaned) (key : String) {reading : Int}
    (hlate : now ≤ reading) (hrange : 0 ≤ reading ∧ reading ≤ maxInt64) :
    (∃ failure, authenticationCreditStatements full.authBuckets key reading = .error failure ∧
      authenticationCreditStatements cleaned.authBuckets key reading = .error failure) ∨
    ∃ charged charged', authenticationCreditStatements full.authBuckets key reading = .ok charged ∧
      authenticationCreditStatements cleaned.authBuckets key reading = .ok charged' ∧
      ∀ other, charged'.find? other = charged.find? other ∨
        charged'.find? other = none ∧ ∃ row, charged.find? other = some row ∧
          row.updatedAtUs ≤ now - retentionUs := by
  -- the row of the key decides alike in both stores
  have hsame : (covered authenticationBudget (cleaned.authBuckets.find? key) reading ↔
        covered authenticationBudget (full.authBuckets.find? key) reading) ∧
      chargedBucket authenticationBudget (cleaned.authBuckets.find? key) reading =
        chargedBucket authenticationBudget (full.authBuckets.find? key) reading := by
    rcases h.buckets key with heq | ⟨hnone, row, hrow, hstale⟩
    · rw [heq]
      exact ⟨Iff.rfl, rfl⟩
    · have hidle : authenticationBudget.capacity ≤ reading - row.updatedAtUs := by
        simp only [authenticationBudget, retentionUs] at hstale ⊢
        omega
      obtain ⟨hcovered, hbucket⟩ :=
        charged_of_idle (h.bounds.auth row (Table.mem_of_find? hrow)) hidle
      rw [hnone, hrow]
      exact ⟨hcovered.symm, hbucket.symm⟩
  rcases creditStatements_spec key h.bounds.auth hrange with
    ⟨hno, hfull⟩ | ⟨hyes, hcheck, hfull⟩ | ⟨hyes, hcheck, charged, hfull, hcharged⟩ <;>
    rcases creditStatements_spec key h.cleanedBounds hrange with
      ⟨hno', hcleaned⟩ | ⟨hyes', hcheck', hcleaned⟩ | ⟨hyes', hcheck', charged', hcleaned, hcharged'⟩
  · exact Or.inl ⟨_, hfull, hcleaned⟩
  · exact absurd (hsame.1.mp hyes') hno
  · exact absurd (hsame.1.mp hyes') hno
  · exact absurd (hsame.1.mpr hyes) hno'
  · exact Or.inl ⟨_, hfull, hcleaned⟩
  · exact absurd (hcheck.symm.trans hcheck') Bool.false_ne_true
  · exact absurd (hsame.1.mpr hyes) hno'
  · exact absurd (hcheck'.symm.trans hcheck) Bool.false_ne_true
  · refine Or.inr ⟨charged, charged', hfull, hcleaned, fun other => ?_⟩
    rw [hcharged, hcharged', hsame.2]
    split
    · exact Or.inl rfl
    · exact h.buckets other

/-- The windows count the same events. -/
theorem authWindowAdmitted_eq (h : Cleaned now full cleaned) (source : String) (route : AuthRoute)
    {reading : Int} (hlate : now ≤ reading) :
    authWindowAdmitted cleaned.authEvents source route reading =
      authWindowAdmitted full.authEvents source route reading := by
  have hrecent : cleaned.authEvents.rows.filter
        (fun event => decide (reading - windowUs < event.createdAtUs)) =
      full.authEvents.rows.filter fun event => decide (reading - windowUs < event.createdAtUs) := by
    apply h.filter_events
    intro event htest
    have hin := of_decide_eq_true htest
    simp only [windowUs] at hin
    simp only [retentionUs]
    omega
  simp only [authWindowAdmitted, hrecent]

/-- Both stores append the event of an authentication. -/
theorem insert (h : Cleaned now full cleaned) (event : AuthCostEvent)
    (hfresh : full.authEvents.find? event.eventId = none) :
    ∃ events events', full.authEvents.insert? event = some events ∧
      cleaned.authEvents.insert? event = some events' ∧
      events'.rows.filter (fun event => decide (now - retentionUs < event.createdAtUs)) =
        events.rows.filter (fun event => decide (now - retentionUs < event.createdAtUs)) ∧
      ∀ event ∈ events', event ∈ events := by
  have hfresh' : cleaned.authEvents.find? event.eventId = none := by
    refine Table.find?_eq_none.mpr fun other hother => ?_
    exact Table.find?_eq_none.mp hfresh other (h.events other hother)
  obtain ⟨events, hinsert⟩ := Table.insert?_isSome hfresh
  obtain ⟨events', hinsert'⟩ := Table.insert?_isSome hfresh'
  refine ⟨events, events', hinsert, hinsert', ?_, ?_⟩
  · rw [(Table.insert?_eq_some hinsert).2, (Table.insert?_eq_some hinsert').2, List.filter_append,
      List.filter_append, h.recent]
  · intro other hother
    rcases (Table.mem_insert? hinsert').mp hother with hold | hnew
    · exact (Table.mem_insert? hinsert).mpr (Or.inl (h.events other hold))
    · exact (Table.mem_insert? hinsert).mpr (Or.inr hnew)

variable (sha256 : String → String)

theorem routeCredit (h : Cleaned now full cleaned) (source : String) (route : AuthRoute)
    {reading : Int} (hlate : now ≤ reading) (hrange : 0 ≤ reading ∧ reading ≤ maxInt64) :
    (∃ failure, routeCreditStatements sha256 full source route reading = .error failure ∧
      routeCreditStatements sha256 cleaned source route reading = .error failure) ∨
    ∃ charged charged', routeCreditStatements sha256 full source route reading = .ok charged ∧
      routeCreditStatements sha256 cleaned source route reading = .ok charged' ∧
      ∀ other, charged'.find? other = charged.find? other ∨
        charged'.find? other = none ∧ ∃ row, charged.find? other = some row ∧
          row.updatedAtUs ≤ now - retentionUs := by
  unfold routeCreditStatements
  split
  · exact Or.inr ⟨_, _, rfl, rfl, h.buckets⟩
  · exact h.credit _ hlate hrange

/-- An authentication is answered alike. -/
theorem authentication (h : Cleaned now full cleaned) {id source : String} {route : AuthRoute}
    {sampled : Option Int} (hlate : ∀ reading ∈ sampled, now ≤ reading)
    (hfresh : full.authEvents.find? id = none) :
    (∃ failure, admitAuthentication sha256 full id source route sampled = .error failure ∧
      admitAuthentication sha256 cleaned id source route sampled = .error failure) ∨
    ∃ full' cleaned', admitAuthentication sha256 full id source route sampled = .ok full' ∧
      admitAuthentication sha256 cleaned id source route sampled = .ok cleaned' ∧
      Cleaned now full' cleaned' := by
  cases hclock : beginQuotaClock sampled with
  | error failure =>
      exact Or.inl ⟨failure, admitAuthentication_of_clock hclock,
        admitAuthentication_of_clock hclock⟩
  | ok reading =>
      have hreading : now ≤ reading := hlate reading (sampled_of_beginQuotaClock hclock)
      rcases h.routeCredit sha256 source route hreading (beginQuotaClock_eq_ok hclock)
        with ⟨failure, hfull, hcleaned⟩ | ⟨charged, charged', hfull, hcleaned, hbuckets⟩
      · exact Or.inl ⟨failure, admitAuthentication_of_refused hclock hfull,
          admitAuthentication_of_refused hclock hcleaned⟩
      · rw [admitAuthentication_of_credit hclock hfull,
          admitAuthentication_of_credit hclock hcleaned, h.authWindowAdmitted_eq source route hreading]
        by_cases hwindow : authWindowAdmitted full.authEvents source route reading = true
        · by_cases hlength : source.length = 64
          · right
            obtain ⟨events, events', hinsert, hinsert', hrecent, hmem⟩ :=
              h.insert ⟨id, source, route, reading, route ≠ .start⟩ hfresh
            have hserve : serve sha256 full (.authentication id source route sampled) =
                .ok { full with authBuckets := charged, authEvents := events } := by
              refine (admitAuthentication_of_credit hclock hfull).trans ?_
              rw [if_pos hwindow, if_pos hlength, hinsert]
            refine ⟨{ full with authBuckets := charged, authEvents := events },
              { cleaned with authBuckets := charged', authEvents := events' }, ?_, ?_, ?_⟩
            · rw [if_pos hwindow, if_pos hlength, hinsert]
            · rw [if_pos hwindow, if_pos hlength, hinsert']
            · exact ⟨serve_inBounds h.bounds hserve, h.statusBuckets, h.statusEvents, hbuckets,
                hrecent, hmem⟩
          · left
            rw [if_pos hwindow, if_neg hlength]
            exact ⟨_, rfl, if_pos hwindow |>.trans (if_neg hlength)⟩
        · left
          rw [if_neg hwindow]
          exact ⟨_, rfl, if_neg hwindow⟩

/-- Every request is answered alike, and what it leaves is cleaned alike. -/
theorem request (h : Cleaned now full cleaned) {request : QuotaRequest}
    (hlate : ∀ reading ∈ request.sampled, now ≤ reading)
    (hfresh : ∀ id ∈ request.drawnId, full.authEvents.find? id = none) :
    (∃ failure, serve sha256 full request = .error failure ∧
      serve sha256 cleaned request = .error failure) ∨
    ∃ full' cleaned', serve sha256 full request = .ok full' ∧
      serve sha256 cleaned request = .ok cleaned' ∧ Cleaned now full' cleaned' := by
  cases request with
  | authentication id source route sampled => exact h.authentication sha256 hlate (hfresh id rfl)
  | statusRead event family subjectId sampled =>
      have hsame : admitStatusRead cleaned event family subjectId sampled =
          (admitStatusRead full event family subjectId sampled).map fun after =>
            { cleaned with
              statusBuckets := after.statusBuckets
              statusEvents := after.statusEvents } :=
        admitStatusRead_of_status h.statusBuckets h.statusEvents
      cases hserve : admitStatusRead full event family subjectId sampled with
      | error failure =>
          rw [hserve] at hsame
          exact Or.inl ⟨failure, hserve, hsame⟩
      | ok full' =>
          rw [hserve] at hsame
          obtain ⟨hauth, hevents⟩ := admitStatusRead_auth hserve
          have hserved : serve sha256 full (.statusRead event family subjectId sampled) =
              .ok full' := hserve
          refine Or.inr ⟨full', _, hserve, hsame, ?_⟩
          refine ⟨serve_inBounds h.bounds hserved, rfl, rfl, ?_, ?_, ?_⟩
          · rw [hauth]
            exact h.buckets
          · rw [hevents]
            exact h.recent
          · rw [hevents]
            exact h.events
  | finish id =>
      have hserved : serve sha256 full (.finish id) = .ok (finishAuthentication full id) := rfl
      refine Or.inr ⟨_, _, rfl, rfl, ?_⟩
      refine ⟨serve_inBounds h.bounds hserved, h.statusBuckets, h.statusEvents, h.buckets, ?_, ?_⟩
      · have hfilter : ∀ events : Table AuthCostEvent.eventId,
            (events.modify id fun event => { event with invalidOrInflight := false }).rows.filter
                (fun event => decide (now - retentionUs < event.createdAtUs)) =
              (events.rows.filter fun event => decide (now - retentionUs < event.createdAtUs)).map
                fun event => if event.eventId = id then { event with invalidOrInflight := false }
                  else event := by
          intro events
          simp only [Table.modify, List.filter_map]
          congr 1
          apply List.filter_congr
          intro event _
          simp only [Function.comp_apply]
          split <;> rfl
        simp only [finishAuthentication, hfilter, h.recent]
      · intro event hevent
        simp only [finishAuthentication, Table.mem_modify] at hevent ⊢
        obtain ⟨old, hold, hsame⟩ := hevent
        exact ⟨old, h.events old hold, hsame⟩

end Cleaned

/-! ## Whole runs -/

section Invisible

variable {sha256 : String → String}

/-- The later calls are answered alike by a store and by a cleaned one. -/
theorem Cleaned.answers_eq {now : Int} {full cleaned : AdmissionStore}
    (h : Cleaned now full cleaned) {calls : List AuthCall}
    (hlate : ∀ reading ∈ clockReadings calls, now ≤ reading)
    (hclock : (clockReadings calls).Pairwise (· ≤ ·)) (hids : (drawnIds calls).Nodup)
    (hfresh : ∀ id ∈ drawnIds calls, full.authEvents.find? id = none) :
    answers sha256 cleaned calls = answers sha256 full (calls.filter AuthCall.isRequest) := by
  induction calls generalizing now full cleaned with
  | nil => rfl
  | cons call rest ih =>
      have hrest : ∀ {later : Int}, (∀ reading ∈ call.sampled, later = reading) →
          call.sampled.isSome = true → ∀ reading ∈ clockReadings rest, later ≤ reading := by
        intro later hlater hsome reading hreading
        obtain ⟨sampled, hsampled⟩ := Option.isSome_iff_exists.mp hsome
        rw [clockReadings, List.filterMap_cons, hsampled] at hclock
        rw [hlater sampled hsampled]
        exact (List.pairwise_cons.mp hclock).1 reading hreading
      have hlateRest : ∀ reading ∈ clockReadings rest, now ≤ reading := by
        intro reading hreading
        apply hlate
        rw [clockReadings, List.filterMap_cons]
        split
        · exact hreading
        · exact List.mem_cons_of_mem _ hreading
      have hclockRest : (clockReadings rest).Pairwise (· ≤ ·) := by
        rw [clockReadings, List.filterMap_cons] at hclock
        split at hclock
        · exact hclock
        · exact (List.pairwise_cons.mp hclock).2
      cases call with
      | request asked =>
          have hsampled : ∀ reading ∈ asked.sampled, now ≤ reading := by
            intro reading hreading
            apply hlate
            rw [clockReadings, List.filterMap_cons, AuthCall.sampled, hreading]
            exact List.mem_cons_self
          have hidsRest : (drawnIds rest).Nodup ∧ ∀ id ∈ drawnIds rest, asked.drawnId ≠ some id := by
            rw [drawnIds, List.filterMap_cons, AuthCall.drawnId] at hids
            cases hdrawn : asked.drawnId with
            | none =>
                rw [hdrawn] at hids
                exact ⟨hids, fun id _ hsame => by cases hsame⟩
            | some drawn =>
                rw [hdrawn] at hids
                refine ⟨(List.nodup_cons.mp hids).2, fun id hid hsame => ?_⟩
                cases hsame
                exact (List.nodup_cons.mp hids).1 hid
          have hfreshAsked : ∀ id ∈ asked.drawnId, full.authEvents.find? id = none := by
            intro id hid
            apply hfresh
            rw [drawnIds, List.filterMap_cons, AuthCall.drawnId, hid]
            exact List.mem_cons_self
          have hfreshRest : ∀ id ∈ drawnIds rest, full.authEvents.find? id = none := by
            intro id hid
            apply hfresh
            rw [drawnIds, List.filterMap_cons]
            split
            · exact hid
            · exact List.mem_cons_of_mem _ hid
          simp only [List.filter_cons, AuthCall.isRequest, if_true, answers, afterCall]
          rcases h.request sha256 hsampled hfreshAsked with
            ⟨failure, hfull, hcleaned⟩ | ⟨full', cleaned', hfull, hcleaned, hafter⟩
          · rw [hfull, hcleaned]
            congr 1
            simp only [afterRequest, hfull, hcleaned]
            exact ih h hlateRest hclockRest hidsRest.1 hfreshRest
          · rw [hfull, hcleaned]
            congr 1
            simp only [afterRequest, hfull, hcleaned]
            refine ih hafter hlateRest hclockRest hidsRest.1 fun id hid => ?_
            exact serve_fresh hfull (hidsRest.2 id hid) (hfreshRest id hid)
      | cleanup events buckets sampled =>
          have hidsRest : (drawnIds rest).Nodup := hids
          have hfreshRest : ∀ id ∈ drawnIds rest, full.authEvents.find? id = none := hfresh
          have hsampled : ∀ reading ∈ sampled, now ≤ reading := by
            intro reading hreading
            apply hlate
            rw [clockReadings, List.filterMap_cons, AuthCall.sampled, hreading]
            exact List.mem_cons_self
          simp only [List.filter_cons, AuthCall.isRequest, answers, afterCall]
          cases hexec : cleanupAuthentication cleaned events buckets sampled with
          | error failure => exact ih h hlateRest hclockRest hidsRest hfreshRest
          | ok after =>
              obtain ⟨reading, hreading, hafter⟩ := h.cleanup hsampled hexec
              refine ih hafter (hrest ?_ ?_) hclockRest hidsRest hfreshRest
              · intro other hother
                exact Option.mem_unique hreading hother
              · exact Option.isSome_iff_exists.mpr ⟨reading, hreading⟩

/-- Under a clock that does not go back, and with ids that are drawn once, every request
is answered as in the run without the cleanups. -/
theorem bucket_cleanup_invisible (sha256 : String → String) (start : AdmissionStore)
    (calls : List AuthCall) (hstart : start.InBounds)
    (hclock : (clockReadings calls).Pairwise (· ≤ ·)) (hids : (drawnIds calls).Nodup)
    (hfresh : ∀ id ∈ drawnIds calls, start.authEvents.find? id = none) :
    answers sha256 start calls = answers sha256 start (calls.filter AuthCall.isRequest) := by
  have hlow : ∃ now, ∀ reading ∈ clockReadings calls, now ≤ reading := by
    cases hreadings : clockReadings calls with
    | nil => exact ⟨0, nofun⟩
    | cons first rest =>
        rw [hreadings] at hclock
        refine ⟨first, ?_⟩
        intro reading hreading
        rcases List.mem_cons.mp hreading with rfl | hrest
        · exact le_refl _
        · exact (List.pairwise_cons.mp hclock).1 reading hrest
  obtain ⟨now, hnow⟩ := hlow
  exact (Cleaned.refl now hstart).answers_eq hnow hclock hids hfresh

/-- A bucket that was spent is deleted a day later, with its event; the next login is
admitted as it is without the cleanup. -/
theorem bucket_cleanup_invisible_day :
    let source := "0123456789abcdef0123456789abcdef0123456789abcdef0123456789abcdef"
    let login := fun id now => AuthCall.request (.authentication id source .login (some now))
    let calls := [login "e1" 1000, login "e2" 2000, login "e3" 3000,
      .cleanup ["e1", "e2"] [source] (some 86400002000), login "e4" 86400003000]
    answers id ⟨.empty, .empty, .empty, .empty⟩ calls =
        [.ok (), .ok (), .error .exhausted, .ok ()] ∧
      answers id ⟨.empty, .empty, .empty, .empty⟩ calls =
        answers id ⟨.empty, .empty, .empty, .empty⟩ (calls.filter AuthCall.isRequest) := by
  intro source login calls
  refine ⟨by decide +kernel, ?_⟩
  exact bucket_cleanup_invisible id ⟨.empty, .empty, .empty, .empty⟩ calls ⟨nofun, nofun⟩
    (by decide +kernel) (by decide +kernel) (by decide +kernel)

end Invisible

end FlickrGroupAddr

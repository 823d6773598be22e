import FlickrGroupAddr.AlbumFlickrAdmission
import FlickrGroupAddr.FailPolite

/-!
# The rate window

The reservations of `flickr_rate.ts`.  An attempt reserves three slots of the window of the
key and holds a handle in memory that lets each of its calls through once; at its end it gives
the unused slots back.  The other calls charge slots of the same window for good.
-/

namespace FlickrGroupAddr

set_option autoImplicit false

open KeyedTable

/-! ## The database -/

/-- The attempt runs under the lease that its partition has, and the lease is live. -/
def attemptLeased (q : QueueTables) (attemptId : Token) (now : Us) : Prop :=
  ∃ row ∈ q.attempts.find? attemptId, ∃ intent ∈ q.intents.find? row.intentId,
    ∃ partition ∈ q.partitions.find? intent.partitionId, ∃ columns ∈ partition.lease,
      columns.leaseId = row.leaseId ∧ partition.leaseGeneration = row.leaseGeneration ∧
        now < columns.expiresAtUs ∧ now < columns.invocationDeadlineAtUs ∧
        q.unresolved attemptId

instance (q : QueueTables) (attemptId : Token) (now : Us) :
    Decidable (attemptLeased q attemptId now) :=
  inferInstanceAs (Decidable (∃ row ∈ q.attempts.find? attemptId,
    ∃ intent ∈ q.intents.find? row.intentId,
      ∃ partition ∈ q.partitions.find? intent.partitionId, ∃ columns ∈ partition.lease, _))

/-- The attempt that a reservation is made for: it is leased, and its pair is being attempted. -/
def attemptReservable (q : QueueTables) (attempt : Attempt) (now : Us) : Prop :=
  attemptLeased q attempt.attemptId now ∧
    ∃ row ∈ q.attempts.find? attempt.attemptId, ∃ intent ∈ q.intents.find? row.intentId,
      intent.photoId = attempt.photoId ∧ intent.groupId = attempt.groupId ∧
        intent.state = .attempting

instance (q : QueueTables) (attempt : Attempt) (now : Us) :
    Decidable (attemptReservable q attempt now) :=
  inferInstanceAs (Decidable (_ ∧ ∃ row ∈ q.attempts.find? attempt.attemptId,
    ∃ intent ∈ q.intents.find? row.intentId, _))

/-- No reservation has this attempt: `attempt_id` is unique. -/
def RateTables.unreserved (r : RateTables) (attemptId : Token) : Prop :=
  ∀ reservation ∈ r.reservations, reservation.attemptId ≠ attemptId

instance (r : RateTables) (attemptId : Token) : Decidable (r.unreserved attemptId) :=
  inferInstanceAs (Decidable (∀ reservation ∈ r.reservations, _))

/-- The row that `reserveFlickrAttempt` inserts. -/
def newReservation (id attemptId : Token) (window : RateWindow) : RateReservation where
  reservationId := id
  attemptId := attemptId
  windowId := window.windowId
  expiresAtUs := window.expiresAtUs
  released := false
  consumedSlots := none

/-- The batch of `reserveFlickrAttempt`. -/
def reserveFlickrAttempt (db : Db) (attempt : Attempt) (id fresh : Token)
    (opening guarding : ClockReading) : Option Db :=
  let window := RateWindow.opened db.rate.window fresh opening.us
  if window.admits 3 guarding.us ∧ attemptReservable db.queue attempt guarding.us ∧
      db.rate.unreserved attempt.attemptId then
    (db.rate.reservations.insert? (newReservation id attempt.attemptId window)).map
      fun reservations =>
        { db with
          rate :=
            { window := some { window with reservedSlots := window.reservedSlots + 3 }
              reservations := reservations } }
  else none

theorem reserveFlickrAttempt_queue {db db' : Db} {attempt : Attempt} {id fresh : Token}
    {opening guarding : ClockReading}
    (h : reserveFlickrAttempt db attempt id fresh opening guarding = some db') :
    db'.queue = db.queue := by
  unfold reserveFlickrAttempt at h
  dsimp only at h
  split at h
  · obtain ⟨reservations, _, rfl⟩ := Option.map_eq_some_iff.mp h
    rfl
  · cases h

/-- The row that the check of a reservation looks for. -/
def reservationHolds (db : Db) (id attemptId : Token) (now : Us) : Prop :=
  reservationValid db attemptId id now ∧ attemptLeased db.queue attemptId now

instance (db : Db) (id attemptId : Token) (now : Us) :
    Decidable (reservationHolds db id attemptId now) := inferInstanceAs (Decidable (_ ∧ _))

/-- The window after `reserved_slots=reserved_slots-?`, if it is the window with this id; the
row keeps its `CHECK`. -/
def RateWindow.refunded (window : Option RateWindow) (windowId : Token) (slots : Int) :
    Option (Option RateWindow) :=
  match window with
  | none => some none
  | some row =>
      if row.windowId = windowId then
        if 0 ≤ row.reservedSlots - slots ∧ row.reservedSlots - slots ≤ row.capacity then
          some (some { row with reservedSlots := row.reservedSlots - slots })
        else none
      else some (some row)

/-- The batch of `releaseUnused`. -/
def releaseReservation (r : RateTables) (id : Token) (used : Nat) : Option RateTables := do
  let reservation ← r.reservations.find? id
  if reservation.released = false ∧ used ≤ 3 then
    let window ← RateWindow.refunded r.window reservation.windowId (3 - used)
    some
      { window := window
        reservations := r.reservations.modify id fun row =>
          { row with released := true, consumedSlots := some used } }
  else none

/-- The batch of `reserveFlickrCapacity`, of every caller. -/
def RateTables.charge (r : RateTables) (slots : Nat) (fresh : Token)
    (opening guarding : ClockReading) : Option (RateTables × RateCharge) :=
  let window := RateWindow.opened r.window fresh opening.us
  if window.admits slots guarding.us then
    some ({ r with window := some { window with reservedSlots := window.reservedSlots + slots } },
      ⟨window.windowId, slots⟩)
  else none

/-- `rateRetryDelayMs` of the dispatcher; SQLite divides towards zero. -/
def rateRetryDelay (window : Option RateWindow) (now : Us) : Int :=
  match window with
  | none => 1000
  | some row => max 1000 (min 3600000 (Int.tdiv (row.expiresAtUs - now) 1000 + 1))

/-! ## The handle -/

inductive RateOperation where
  | membership
  | preflight
  | add
deriving DecidableEq

/-- What a `Reservation` holds in memory. -/
structure RateHandle where
  reservationId : Token
  attempt : Attempt
  used : List RateOperation
  released : Bool
deriving DecidableEq

namespace RateHandle

/-- `consume`; without a handle it throws. -/
def consume (handle : RateHandle) (operation : RateOperation) : Option RateHandle :=
  if handle.released = true ∨ operation ∈ handle.used ∨
      (operation = .preflight ∧ .membership ∉ handle.used) ∨
      (operation = .add ∧ .preflight ∉ handle.used) then none
  else some { handle with used := operation :: handle.used }

/-- `proveAddNotSent`, with the proof that the transport gives. -/
def proveAddNotSent (handle : RateHandle) : Option RateHandle :=
  if handle.released = true ∨ .add ∉ handle.used then none
  else some { handle with used := handle.used.erase .add }

/-- The part of `check` that reads no table: the context is the one of the reservation. -/
def admits (handle : RateHandle) (attempt : Attempt) : Bool :=
  !handle.released && decide (attempt.attemptId = handle.attempt.attemptId ∧
    attempt.photoId = handle.attempt.photoId ∧ attempt.groupId = handle.attempt.groupId)

end RateHandle

end FlickrGroupAddr

import FlickrGroupAddr.Schema
import FlickrGroupAddr.Lib.Program
import FlickrGroupAddr.Lib.Workers

/-!
# Admission of the album requests

One `AlbumFlickrAdmission` (`album_flickr_admission.ts`) with the charge of
`reserveFlickrCapacity` (`flickr_rate.ts`).  The credits, the two flags and the abort signal
live in memory and are shared by every call; whatever happens between two awaits is one
operation.  The hooks, the clock and the network answer anything.
-/

namespace FlickrGroupAddr

set_option autoImplicit false

open Program Workers

/-! ## Requests -/

/-- `AlbumAdmittedMethod`. -/
inductive AlbumAdmittedMethod where
  | getAllContexts
  | getInfo
  | addPhoto
  | editMeta
deriving DecidableEq

namespace AlbumAdmittedMethod

/-- `READS`. -/
def isRead : AlbumAdmittedMethod → Bool
  | .getAllContexts | .getInfo => true
  | .addPhoto | .editMeta => false

/-- `METHODS`, by their text. -/
def ofText? (text : String) : Option AlbumAdmittedMethod :=
  if text = "flickr.photos.getAllContexts" then some .getAllContexts
  else if text = "flickr.photosets.getInfo" then some .getInfo
  else if text = "flickr.photosets.addPhoto" then some .addPhoto
  else if text = "flickr.photosets.editMeta" then some .editMeta
  else none

end AlbumAdmittedMethod

/-- A request, with its URL and its form taken apart. -/
structure RestRequest where
  id : Nat
  origin : String
  pathname : String
  username : String
  password : String
  hash : String
  search : String
  redirect : String
  method : String
  contentType : Option String
  query : List (String × String)
  body : Option (List (String × String))

namespace RestRequest

/-- The endpoint, the redirect mode and the HTTP method are the ones of a REST call. -/
def routed (request : RestRequest) : Bool :=
  decide (request.origin = "https://www.flickr.com" ∧ request.pathname = "/services/rest/" ∧
    request.username = "" ∧ request.password = "" ∧ request.hash = "" ∧
    request.redirect = "manual" ∧ (request.method = "GET" ∨ request.method = "POST") ∧
    (request.method = "POST" → request.search = "" ∧
      request.contentType = some "application/x-www-form-urlencoded"))

/-- The one method its parameters name, if it is sent the way it has to be. -/
def admitted (request : RestRequest) (parameters : List (String × String)) :
    Option AlbumAdmittedMethod :=
  match parameters.filter fun parameter => decide (parameter.1 = "method") with
  | [(_, text)] =>
      (AlbumAdmittedMethod.ofText? text).filter fun method =>
        if method.isRead then decide (request.method = "GET" ∧ request.body = none)
        else decide (request.method = "POST")
  | _ => none

end RestRequest

/-! ## Credits -/

/-- `FlickrCapacityReservation`; `charge` tells which charge of the window it is. -/
structure CapacityReservation where
  windowId : Token
  expiresAtUs : Us
  charge : Nat
deriving DecidableEq

/-- `Credit`; without a method it is for reads. -/
structure AdmissionCredit where
  method : Option AlbumAdmittedMethod
  reservation : CapacityReservation
  remaining : Nat
deriving DecidableEq

/-- One unit of a charge. -/
abbrev ChargeUnit := Nat × Nat

namespace AdmissionCredit

def covers (method : AlbumAdmittedMethod) (credit : AdmissionCredit) : Bool :=
  decide (0 < credit.remaining) &&
    (decide (credit.method = some method) || (credit.method.isNone && method.isRead))

/-- Burn one unit of the first credit that covers the method. -/
def burn (method : AlbumAdmittedMethod) :
    List AdmissionCredit → Option ((CapacityReservation × Nat) × List AdmissionCredit)
  | [] => none
  | credit :: rest =>
      if credit.covers method = true then
        some ((credit.reservation, credit.remaining - 1),
          { credit with remaining := credit.remaining - 1 } :: rest)
      else (burn method rest).map fun found => (found.1, credit :: found.2)

/-- What a fresh observation leaves of a credit. -/
def discardReads (credit : AdmissionCredit) : AdmissionCredit :=
  if credit.method.isNone = true then { credit with remaining := 0 } else credit

end AdmissionCredit

/-- A committed charge. -/
structure RateCharge where
  windowId : Token
  slots : Nat
deriving DecidableEq

/-- What was charged, which charges became credits, and which units were burned and which
were forwarded for a request. -/
structure AdmissionLedger where
  charges : List RateCharge
  granted : List Nat
  spent : List ChargeUnit
  forwarded : List (Nat × ChargeUnit)
deriving DecidableEq

/-- The rate window of the database with the window ids drawn so far, and the memory of the
admission. -/
structure AlbumFlickrStore where
  window : Option RateWindow
  windows : List Token
  credits : List AdmissionCredit
  allocating : Bool
  failed : Bool
  aborted : Bool
  cancelled : List Nat
  ledger : AdmissionLedger
deriving DecidableEq

/-- Why a call fails. -/
inductive AdmissionFault where
  | unavailable
  | invalidRatePolicy
  | rateUnavailable
  | rejected
deriving DecidableEq

/-! ## The rate window -/

/-- `DEFAULT_FLICKR_RATE_POLICY`. -/
def ratePolicyCapacity : Nat := 60
def ratePolicyWindowMs : Nat := 60000

/-- The window after the first statement of a charge: a new one where there was none or the old
one is over. -/
def RateWindow.opened (window : Option RateWindow) (fresh : Token) (now : Us) : RateWindow :=
  let next : RateWindow :=
    { windowId := fresh
      capacity := ratePolicyCapacity
      windowMs := ratePolicyWindowMs
      expiresAtUs := now + ratePolicyWindowMs * 1000
      reservedSlots := 0 }
  match window with
  | none => next
  | some row => if row.expiresAtUs ≤ now then next else row

/-- The guard of a charge. -/
def RateWindow.admits (row : RateWindow) (slots : Nat) (now : Us) : Prop :=
  row.capacity = ratePolicyCapacity ∧ row.windowMs = ratePolicyWindowMs ∧
    row.reservedSlots + slots ≤ row.capacity ∧ now < row.expiresAtUs

instance (row : RateWindow) (slots : Nat) (now : Us) : Decidable (row.admits slots now) :=
  inferInstanceAs (Decidable (_ ∧ _ ∧ _ ∧ _))

namespace AlbumFlickrStore

/-- The slots this admission has charged in a window. -/
def chargedIn (s : AlbumFlickrStore) (windowId : Token) : Nat :=
  ((s.ledger.charges.filter fun charge => decide (charge.windowId = windowId)).map
    RateCharge.slots).sum

/-- The batch of `reserveFlickrCapacity`; its statements read the clock one after the other. -/
def charge (s : AlbumFlickrStore) (slots : Nat) (fresh : Token) (opening guarding : Us) :
    Except AdmissionFault (CapacityReservation × AlbumFlickrStore) :=
  let row := RateWindow.opened s.window fresh opening
  if row.admits slots guarding then
    .ok (⟨row.windowId, row.expiresAtUs, s.ledger.charges.length⟩,
      { s with
        window := some { row with reservedSlots := row.reservedSlots + slots }
        windows := fresh :: s.windows
        ledger := { s.ledger with charges := s.ledger.charges ++ [⟨row.windowId, slots⟩] } })
  else .error .rateUnavailable

/-- The row that the check of a reservation looks for. -/
def holds (s : AlbumFlickrStore) (reservation : CapacityReservation) (now : Us) : Prop :=
  ∃ row ∈ s.window, row.windowId = reservation.windowId ∧
    row.expiresAtUs = reservation.expiresAtUs ∧ row.capacity = ratePolicyCapacity ∧
    row.windowMs = ratePolicyWindowMs ∧ now < row.expiresAtUs

instance (s : AlbumFlickrStore) (reservation : CapacityReservation) (now : Us) :
    Decidable (s.holds reservation now) :=
  inferInstanceAs (Decidable (∃ row ∈ s.window, _))

/-! ## What happens between two awaits -/

/-- `checkAbort`, of the call of a request or of an allocation. -/
def checkAbort (s : AlbumFlickrStore) (request : Option Nat) : Except AdmissionFault Unit :=
  if s.failed = true ∨ s.aborted = true ∨ ∃ id ∈ request, id ∈ s.cancelled then
    .error .unavailable
  else .ok ()

/-- The start of `allocate`, after the older read capacity was discarded for a `reserveReads`. -/
def enter (s : AlbumFlickrStore) (discardReads : Bool) :
    Except AdmissionFault Unit × AlbumFlickrStore :=
  let s := if discardReads = true then
      { s with credits := s.credits.map AdmissionCredit.discardReads } else s
  match s.checkAbort none with
  | .error fault => (.error fault, s)
  | .ok () =>
      if s.allocating = true then (.error .unavailable, s)
      else (.ok (), { s with allocating := true })

/-- The allocation is over: its credit is there. -/
def grant (s : AlbumFlickrStore) (method : Option AlbumAdmittedMethod)
    (reservation : CapacityReservation) (slots : Nat) : AlbumFlickrStore :=
  { s with
    credits := s.credits ++ [⟨method, reservation, slots⟩]
    allocating := false
    ledger := { s.ledger with granted := reservation.charge :: s.ledger.granted } }

/-- The allocation failed. -/
def poison (s : AlbumFlickrStore) : AlbumFlickrStore :=
  { s with credits := [], allocating := false, failed := true }

/-- The start of `fetcher`. -/
def enterFetch (s : AlbumFlickrStore) (request : Nat) : Except AdmissionFault Unit :=
  match s.checkAbort (some request) with
  | .error fault => .error fault
  | .ok () => if s.allocating = true then .error .unavailable else .ok ()

/-- Burn a credit; a request whose parameters are in its URL starts here. -/
def burn (s : AlbumFlickrStore) (entering : Option Nat) (method : AlbumAdmittedMethod) :
    Except AdmissionFault (CapacityReservation × Nat) × AlbumFlickrStore :=
  match entering.elim (.ok ()) s.enterFetch with
  | .error fault => (.error fault, s)
  | .ok () =>
      match AdmissionCredit.burn method s.credits with
      | none => (.error .unavailable, s)
      | some ((reservation, unit), credits) =>
          (.ok (reservation, unit),
            { s with
              credits := credits
              ledger := { s.ledger with spent := (reservation.charge, unit) :: s.ledger.spent } })

/-- The request goes out. -/
def forward (s : AlbumFlickrStore) (request : Nat) (unit : ChargeUnit) : AlbumFlickrStore :=
  { s with ledger := { s.ledger with forwarded := (request, unit) :: s.ledger.forwarded } }

end AlbumFlickrStore

/-! ## Programs -/

inductive AlbumFlickrOp where
  | enter (discardReads : Bool)
  | assertFaultAllowed
  | assertCurrent
  | checkAbort
  | reserve (slots : Nat)
  | check (reservation : CapacityReservation)
  | grant (method : Option AlbumAdmittedMethod) (reservation : CapacityReservation) (slots : Nat)
  | poison
  | enterFetch (request : Nat)
  | text (request : RestRequest)
  | burn (entering : Option Nat) (method : AlbumAdmittedMethod)
  | forward (request : Nat) (unit : ChargeUnit)
  | settled (fulfilled : Bool)

abbrev AlbumFlickrOp.Answer : AlbumFlickrOp → Type
  | .enter _ | .assertFaultAllowed | .assertCurrent | .checkAbort | .enterFetch _ | .forward .. =>
      Except AdmissionFault Unit
  | .reserve _ => Except AdmissionFault CapacityReservation
  | .check _ => Except AdmissionFault Bool
  | .text _ => Except AdmissionFault (List (String × String))
  | .burn .. => Except AdmissionFault (CapacityReservation × Nat)
  | .grant .. | .poison | .settled _ => Unit

abbrev AdmissionThrows := Throws AlbumFlickrOp.Answer AdmissionFault

namespace AlbumFlickrAdmission

/-- `current`, after the first of its checks. -/
def current : AdmissionThrows Unit := do
  attempt (Prog.query AlbumFlickrOp.assertFaultAllowed)
  attempt (Prog.query AlbumFlickrOp.assertCurrent)
  attempt (Prog.query AlbumFlickrOp.checkAbort)

/-- `reserveFlickrCapacity`, with the default policy. -/
def reserveFlickrCapacity (slots : Nat) : AdmissionThrows CapacityReservation :=
  if slots < 1 ∨ ratePolicyCapacity < slots then throw .invalidRatePolicy
  else rescue (attempt (Prog.query (AlbumFlickrOp.reserve slots))) fun _ => throw .rateUnavailable

/-- What `allocate` tries. -/
def allocateCredit (slots : Nat) : AdmissionThrows CapacityReservation := do
  current
  let reservation ← reserveFlickrCapacity slots
  attempt (Prog.query AlbumFlickrOp.checkAbort)
  current
  let charged ← attempt (Prog.query (AlbumFlickrOp.check reservation))
  if charged = true then do
    attempt (Prog.query AlbumFlickrOp.checkAbort)
    current
    pure reservation
  else throw .unavailable

/-- `allocate`. -/
def allocate (discardReads : Bool) (slots : Nat) (method : Option AlbumAdmittedMethod) :
    AdmissionThrows Unit := do
  attempt (Prog.query (AlbumFlickrOp.enter discardReads))
  let reservation ← rescue (allocateCredit slots) fun fault => do
    attempt (Except.ok <$> Prog.query AlbumFlickrOp.poison)
    throw fault
  attempt (Except.ok <$> Prog.query (AlbumFlickrOp.grant method reservation slots))

/-- `reserveReads`. -/
def reserveReads (count : Int) : AdmissionThrows Unit :=
  if count < 1 ∨ 21 < count then throw .unavailable
  else allocate true count.toNat none

/-- `beforeRequest`. -/
def beforeRequest (method : String) : AdmissionThrows Unit :=
  match AlbumAdmittedMethod.ofText? method with
  | none => throw .unavailable
  | some method => allocate false 1 (some method)

/-- The credit that a request burns. -/
def burnFor (request : RestRequest) : AdmissionThrows (CapacityReservation × Nat) :=
  if request.method = "POST" then do
    attempt (Prog.query (AlbumFlickrOp.enterFetch request.id))
    let parameters ← attempt (Prog.query (AlbumFlickrOp.text request))
    match request.admitted parameters with
    | none => throw .unavailable
    | some method => attempt (Prog.query (AlbumFlickrOp.burn none method))
  else
    match request.admitted request.query with
    | none => throw .unavailable
    | some method => attempt (Prog.query (AlbumFlickrOp.burn (some request.id) method))

/-- `fetcher`. -/
def fetcher (request : RestRequest) : AdmissionThrows Unit :=
  if request.routed = false then throw .unavailable
  else do
    let burned ← burnFor request
    let charged ← attempt (Prog.query (AlbumFlickrOp.check burned.1))
    if charged = true then do
      attempt (Prog.query AlbumFlickrOp.assertFaultAllowed)
      attempt (Prog.query AlbumFlickrOp.assertCurrent)
      attempt (Prog.query (AlbumFlickrOp.forward request.id (burned.1.charge, burned.2)))
    else throw .unavailable

/-- A call, until its promise is settled. -/
def call (x : AdmissionThrows Unit) : Prog AlbumFlickrOp.Answer Unit := do
  match ← x.run with
  | .ok () => Prog.query (AlbumFlickrOp.settled true)
  | .error _ => Prog.query (AlbumFlickrOp.settled false)

end AlbumFlickrAdmission

/-! ## The system -/

/-- How an operation meets the store. -/
def serveAdmission (s : AlbumFlickrStore) : (o : AlbumFlickrOp) → o.Answer → AlbumFlickrStore → Prop
  | .enter discardReads, answer, s' => (answer, s') = s.enter discardReads
  | .checkAbort, answer, s' => answer = s.checkAbort none ∧ s' = s
  | .reserve slots, answer, s' =>
      ∃ fresh opening guarding, fresh ∉ s.windows ∧
        match s.charge slots fresh opening guarding with
        | .ok (reservation, charged) => answer = .ok reservation ∧ s' = charged
        | .error fault => answer = .error fault ∧ s' = s
  | .check reservation, answer, s' =>
      s' = s ∧ ∀ held, answer = .ok held → held = true → ∃ now, s.holds reservation now
  | .grant method reservation slots, _, s' => s' = s.grant method reservation slots
  | .poison, _, s' => s' = s.poison
  | .enterFetch request, answer, s' => answer = s.enterFetch request ∧ s' = s
  | .text request, answer, s' =>
      s' = s ∧ ∀ parameters, answer = .ok parameters → parameters = request.body.getD []
  | .burn entering method, answer, s' => (answer, s') = s.burn entering method
  | .forward request unit, answer, s' =>
      -- the last abort check, the time left of the reservation and the retained clone
      (∃ fault, answer = .error fault ∧ s' = s) ∨
        s.checkAbort (some request) = .ok () ∧ s' = s.forward request unit
  | .assertFaultAllowed, _, s' | .assertCurrent, _, s' | .settled _, _, s' => s' = s

/-- What a caller sees of a statement that failed or whose answer is lost. -/
def lostAdmission : (o : AlbumFlickrOp) → o.Answer → Prop
  | .reserve _, answer => answer = .error .rejected
  | .check _, answer => answer = .error .rejected
  | .enter _, _ | .assertFaultAllowed, _ | .assertCurrent, _ | .checkAbort, _ | .grant .., _ |
    .poison, _ | .enterFetch _, _ | .text _, _ | .burn .., _ | .forward .., _ | .settled _, _ =>
      False

/-- Signals abort; the others charge and release slots of their own, or open a new window. -/
structure AlbumFlickrStore.Drifts (s s' : AlbumFlickrStore) : Prop where
  memory : s'.credits = s.credits ∧ s'.allocating = s.allocating ∧ s'.failed = s.failed ∧
    s'.ledger = s.ledger
  aborted : s.aborted = true → s'.aborted = true
  cancelled : s.cancelled ⊆ s'.cancelled
  windows : s.windows ⊆ s'.windows
  window : ∀ row' ∈ s'.window, row'.windowId ∈ s'.windows ∧ row'.reservedSlots ≤ row'.capacity ∧
    ((∃ row ∈ s.window, row'.windowId = row.windowId) ∨ row'.windowId ∉ s.windows) ∧
    ∃ others : Nat, row'.reservedSlots = s.chargedIn row'.windowId + others

/-- Any number of calls of one admission at once. -/
def admissionMachine : Machine AlbumFlickrStore AlbumFlickrOp.Answer where
  serve := serveAdmission
  lost := lostAdmission
  external := AlbumFlickrStore.Drifts
  program p :=
    (∃ count, p = AlbumFlickrAdmission.call (AlbumFlickrAdmission.reserveReads count)) ∨
    (∃ method, p = AlbumFlickrAdmission.call (AlbumFlickrAdmission.beforeRequest method)) ∨
    ∃ request, p = AlbumFlickrAdmission.call (AlbumFlickrAdmission.fetcher request)

/-- A new admission. -/
structure AlbumFlickrStore.Initial (s : AlbumFlickrStore) : Prop where
  memory : s.credits = [] ∧ s.allocating = false ∧ s.failed = false
  ledger : s.ledger = ⟨[], [], [], []⟩
  window : ∀ row ∈ s.window, row.windowId ∈ s.windows ∧ row.reservedSlots ≤ row.capacity ∧
    0 ≤ row.reservedSlots

end FlickrGroupAddr

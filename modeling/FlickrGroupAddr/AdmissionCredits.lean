import FlickrGroupAddr.AlbumFlickrAdmission
import FlickrGroupAddr.Lib.Calls
import FlickrGroupAddr.Lib.Handoff

/-!
# Credits of the album requests

A charge becomes one credit, each of its units is burned once, and the request that burned a
unit is the only one to be forwarded for it.  A failed allocation or an abort ends the
forwarding; a request that fails only loses its own unit.
-/

namespace FlickrGroupAddr

set_option autoImplicit false

open Program Workers Transition Handoff

/-! ## What a call may ask -/

/-- The answer makes a call fail. -/
def callFails : Sigma AlbumFlickrOp.Answer → Bool
  | ⟨.enter _, .error _⟩ | ⟨.assertFaultAllowed, .error _⟩ | ⟨.assertCurrent, .error _⟩ |
    ⟨.checkAbort, .error _⟩ | ⟨.reserve _, .error _⟩ | ⟨.check _, .error _⟩ |
    ⟨.check _, .ok false⟩ | ⟨.enterFetch _, .error _⟩ | ⟨.text _, .error _⟩ |
    ⟨.burn .., .error _⟩ | ⟨.forward .., .error _⟩ => true
  | _ => false

/-- How far a call is. -/
inductive AdmissionStage where
  | idle
  | charging
  | reserved (reservation : CapacityReservation) (slots : Nat)
  | granted
  | poisoned
  | burned (reservation : CapacityReservation) (unit : Nat)
  | checked (reservation : CapacityReservation) (unit : Nat)
  | over
deriving DecidableEq

namespace AdmissionStage

/-- An allocation began and is not over. -/
def allocates : AdmissionStage → Bool
  | .charging | .reserved .. => true
  | _ => false

/-- The stage after a reservation was found to hold. -/
def afterCheck (asked : CapacityReservation) : AdmissionStage → AdmissionStage
  | .burned reservation unit => if asked = reservation then .checked reservation unit else .over
  | stage => stage

/-- A request that failed or went out is over; an allocation is not until it is poisoned. -/
def ended : AdmissionStage → AdmissionStage
  | .idle | .burned .. | .checked .. => .over
  | stage => stage

/-- The stage after an answer. -/
def next (stage : AdmissionStage) : Sigma AlbumFlickrOp.Answer → AdmissionStage
  | ⟨.enter _, .ok _⟩ => .charging
  | ⟨.reserve slots, .ok reservation⟩ =>
      if stage = .charging then .reserved reservation slots else stage
  | ⟨.poison, _⟩ => if stage.allocates = true then .poisoned else stage
  | ⟨.grant .., _⟩ => if stage.allocates = true then .granted else stage
  | ⟨.burn .., .ok found⟩ => if stage = .idle then .burned found.1 found.2 else stage
  | ⟨.check asked, .ok true⟩ => stage.afterCheck asked
  | ⟨.forward .., .ok _⟩ => stage.ended
  | asked => if callFails asked = true then stage.ended else stage

/-- The charge that may become a credit. -/
def grants? : AdmissionStage → Option Nat
  | .reserved reservation _ => some reservation.charge
  | _ => none

/-- The unit that may be forwarded. -/
def forwards? : AdmissionStage → Option ChargeUnit
  | .burned reservation unit | .checked reservation unit => some (reservation.charge, unit)
  | _ => none

end AdmissionStage

def admissionStageOf (call : Call AlbumFlickrOp.Answer) : AdmissionStage :=
  call.foldl AdmissionStage.next .idle

@[simp] theorem admissionStageOf_snoc (call : Call AlbumFlickrOp.Answer)
    (asked : Sigma AlbumFlickrOp.Answer) :
    admissionStageOf (call ++ [asked]) = (admissionStageOf call).next asked := by
  simp [admissionStageOf, List.foldl_append]

/-- What an answer does to the stage of a call. -/
inductive AdmissionMove (stage : AdmissionStage) (asked : Sigma AlbumFlickrOp.Answer) :
    AdmissionStage → Prop
  | kept : callFails asked = false → AdmissionMove stage asked stage
  | ended : AdmissionMove stage asked stage.ended
  | entered {discardReads : Bool} :
      asked = ⟨.enter discardReads, .ok ()⟩ → AdmissionMove stage asked .charging
  | reserved {slots : Nat} {reservation : CapacityReservation} :
      asked = ⟨.reserve slots, .ok reservation⟩ → stage = .charging →
      AdmissionMove stage asked (.reserved reservation slots)
  | poisoned : asked = ⟨.poison, ()⟩ → stage.allocates = true → AdmissionMove stage asked .poisoned
  | granted : stage.allocates = true → AdmissionMove stage asked .granted
  | burned {entering : Option Nat} {method : AlbumAdmittedMethod}
      {found : CapacityReservation × Nat} :
      asked = ⟨.burn entering method, .ok found⟩ → stage = .idle →
      AdmissionMove stage asked (.burned found.1 found.2)
  | checked {reservation : CapacityReservation} {unit : Nat} :
      asked = ⟨.check reservation, .ok true⟩ → stage = .burned reservation unit →
      AdmissionMove stage asked (.checked reservation unit)

theorem AdmissionStage.move_next (stage : AdmissionStage) (asked : Sigma AlbumFlickrOp.Answer) :
    AdmissionMove stage asked (stage.next asked) := by
  obtain ⟨o, answer⟩ := asked
  cases o with
  | enter discardReads =>
      cases answer with
      | error fault => exact .ended
      | ok _ => exact .entered rfl
  | assertFaultAllowed | assertCurrent | checkAbort | enterFetch | text =>
      cases answer with
      | error fault => exact .ended
      | ok _ => exact .kept rfl
  | reserve slots =>
      cases answer with
      | error fault => exact .ended
      | ok reservation =>
          show AdmissionMove _ _ (ite _ _ _)
          split
          · next hstage => exact .reserved rfl hstage
          · exact .kept rfl
  | check reservation =>
      cases answer with
      | error fault => exact .ended
      | ok held =>
          cases held with
          | false => exact .ended
          | true =>
              cases stage with
              | burned held unit =>
                  show AdmissionMove _ _ (ite _ _ _)
                  split
                  · next hsame =>
                      subst hsame
                      exact .checked rfl rfl
                  · exact .ended
              | _ => exact .kept rfl
  | grant method reservation slots =>
      show AdmissionMove _ _ (ite _ _ _)
      split
      · next hallocates => exact .granted hallocates
      · exact .kept rfl
  | poison =>
      show AdmissionMove _ _ (ite _ _ _)
      split
      · next hallocates => exact .poisoned rfl hallocates
      · exact .kept rfl
  | burn entering method =>
      cases answer with
      | error fault => exact .ended
      | ok found =>
          show AdmissionMove _ _ (ite _ _ _)
          split
          · next hstage => exact .burned rfl hstage
          · exact .kept rfl
  | forward =>
      cases answer with
      | error fault => exact .ended
      | ok _ => exact .ended
  | settled => exact .kept rfl

/-- A credit is granted for what was just reserved, a request forwarded with the unit it burned
and checked, and a call that was charging fails only after it poisoned the admission. -/
def admissionRule (call : Call AlbumFlickrOp.Answer) : AlbumFlickrOp → Prop
  | .enter _ | .burn .. => admissionStageOf call = .idle
  | .reserve _ => admissionStageOf call = .charging
  | .grant _ reservation slots => admissionStageOf call = .reserved reservation slots
  | .forward _ unit =>
      ∃ reservation, admissionStageOf call = .checked reservation unit.2 ∧
        unit.1 = reservation.charge
  | .settled false =>
      (admissionStageOf call).allocates = false ∧ admissionStageOf call ≠ .granted
  | _ => True

section Rules

variable {call : Call AlbumFlickrOp.Answer}

abbrev AdmissionRuns {α : Type} (post : α → Call AlbumFlickrOp.Answer → Prop)
    (thrown : AdmissionFault → Call AlbumFlickrOp.Answer → Prop) (call : Call AlbumFlickrOp.Answer)
    (x : AdmissionThrows α) : Prop :=
  Runs (callMonitor admissionRule) post thrown call x

/-- The calls that are at a stage. -/
abbrev At (stage : AdmissionStage) (call : Call AlbumFlickrOp.Answer) : Prop :=
  admissionStageOf call = stage

open AlbumFlickrAdmission

/-- The hooks and the abort check leave an allocation where it is. -/
theorem current_runs {stage : AdmissionStage} (hallocates : stage.allocates = true)
    (hstage : At stage call) :
    AdmissionRuns (fun _ => At stage) (fun _ => At stage) call current := by
  have hquiet : ∀ (later : Call AlbumFlickrOp.Answer) (o : AlbumFlickrOp) (answer : o.Answer),
      At stage later → (o = .assertFaultAllowed ∨ o = .assertCurrent ∨ o = .checkAbort) →
      At stage (later ++ [⟨o, answer⟩]) := by
    intro later o answer hlater ho
    rw [At, admissionStageOf_snoc, hlater]
    cases stage with
    | charging | reserved =>
        rcases ho with rfl | rfl | rfl
        · cases answer <;> rfl
        · cases answer <;> rfl
        · cases answer <;> rfl
    | _ => cases hallocates
  unfold current
  rw [AdmissionRuns, runs_bind]
  refine ⟨trivial, ?_⟩
  intro faultAllowed
  have hfault := hquiet call .assertFaultAllowed faultAllowed hstage (Or.inl rfl)
  cases faultAllowed with
  | error fault => exact hfault
  | ok _ =>
      show Runs _ _ _ _ (_ >>= _)
      rw [runs_bind]
      refine ⟨trivial, ?_⟩
      intro authority
      have hauthority := hquiet _ .assertCurrent authority hfault (Or.inr (Or.inl rfl))
      cases authority with
      | error fault => exact hauthority
      | ok _ =>
          refine ⟨trivial, ?_⟩
          intro aborted
          have haborted := hquiet _ .checkAbort aborted hauthority (Or.inr (Or.inr rfl))
          cases aborted with
          | error fault => exact haborted
          | ok _ => exact haborted

theorem reserveFlickrCapacity_runs {slots : Nat} (hstage : At .charging call) :
    AdmissionRuns (fun reservation => At (.reserved reservation slots)) (fun _ => At .charging) call
      (reserveFlickrCapacity slots) := by
  unfold reserveFlickrCapacity
  split
  · exact hstage
  · rw [AdmissionRuns, runs_rescue]
    refine ⟨hstage, ?_⟩
    intro reserved
    cases reserved with
    | error fault =>
        show At .charging (call ++ _)
        rw [At, admissionStageOf_snoc, hstage]
        rfl
    | ok reservation =>
        show At (.reserved reservation slots) (call ++ _)
        rw [At, admissionStageOf_snoc, hstage]
        rfl

/-- An allocation ends with what it reserved, or it throws while it is charging. -/
theorem allocateCredit_runs {slots : Nat} (hstage : At .charging call) :
    AdmissionRuns (fun reservation => At (.reserved reservation slots))
      (fun _ later => (admissionStageOf later).allocates = true) call (allocateCredit slots) := by
  have hallocates : ∀ {stage : AdmissionStage} {later : Call AlbumFlickrOp.Answer},
      stage.allocates = true → At stage later → (admissionStageOf later).allocates = true := by
    intro stage later h hlater
    rw [hlater]
    exact h
  unfold allocateCredit
  rw [AdmissionRuns, runs_bind]
  refine Runs.imp (current_runs rfl hstage) ?_ (fun _ _ => hallocates rfl)
  intro _ later hlater
  rw [runs_bind]
  refine Runs.imp (reserveFlickrCapacity_runs hlater) ?_ (fun _ _ => hallocates rfl)
  intro reservation later hreserved
  rw [runs_bind]
  refine ⟨trivial, ?_⟩
  intro aborted
  have haborted : At (.reserved reservation slots) (later ++ [⟨.checkAbort, aborted⟩]) := by
    rw [At, admissionStageOf_snoc, hreserved]
    cases aborted <;> rfl
  cases aborted with
  | error fault => exact hallocates rfl haborted
  | ok _ =>
  show Runs _ _ _ _ (_ >>= _)
  rw [runs_bind]
  refine Runs.imp (current_runs rfl haborted) ?_ (fun _ _ => hallocates rfl)
  intro _ later hlater
  rw [runs_bind]
  refine ⟨trivial, ?_⟩
  intro charged
  have hcharged : At (.reserved reservation slots) (later ++ [⟨.check reservation, charged⟩]) := by
    rw [At, admissionStageOf_snoc, hlater]
    cases charged with
    | error fault => rfl
    | ok held => cases held <;> rfl
  cases charged with
  | error fault => exact hallocates rfl hcharged
  | ok charged =>
  show Runs _ _ _ _ (ite _ _ _)
  split
  · rw [runs_bind]
    refine ⟨trivial, ?_⟩
    intro aborted
    have haborted : At (.reserved reservation slots)
        (later ++ [⟨.check reservation, .ok charged⟩] ++ [⟨.checkAbort, aborted⟩]) := by
      rw [At, admissionStageOf_snoc, hcharged]
      cases aborted <;> rfl
    cases aborted with
    | error fault => exact hallocates rfl haborted
    | ok _ =>
        show Runs _ _ _ _ (_ >>= _)
        rw [runs_bind]
        exact Runs.imp (current_runs rfl haborted) (fun _ _ h => h) (fun _ _ => hallocates rfl)
  · exact hallocates rfl hcharged

/-- An allocation that fails after it began poisons the admission. -/
theorem allocate_runs {discardReads : Bool} {slots : Nat} {method : Option AlbumAdmittedMethod}
    (hstage : At .idle call) :
    AdmissionRuns (fun _ _ => True) (fun _ later => admissionRule later (.settled false)) call
      (allocate discardReads slots method) := by
  unfold allocate
  rw [AdmissionRuns, runs_bind]
  refine ⟨hstage, ?_⟩
  intro entered
  cases entered with
  | error fault =>
      show admissionRule (call ++ [⟨.enter discardReads, .error fault⟩]) (.settled false)
      rw [admissionRule, admissionStageOf_snoc, hstage]
      exact ⟨rfl, by rintro ⟨⟩⟩
  | ok _ =>
      have hcharging : At .charging (call ++ [⟨.enter discardReads, .ok ()⟩]) := by
        rw [At, admissionStageOf_snoc, hstage]
        rfl
      show Runs _ _ _ _ (_ >>= _)
      rw [runs_bind, runs_rescue]
      refine Runs.imp (allocateCredit_runs hcharging) ?_ ?_
      · intro reservation later hreserved
        refine ⟨hreserved, ?_⟩
        intro _
        trivial
      · intro fault later hallocates
        rw [runs_bind]
        refine ⟨trivial, ?_⟩
        intro _
        show admissionRule (later ++ [⟨.poison, ()⟩]) (.settled false)
        rw [admissionRule, admissionStageOf_snoc]
        cases hlater : admissionStageOf later with
        | charging | reserved => exact ⟨rfl, by rintro ⟨⟩⟩
        | _ =>
            rw [hlater] at hallocates
            cases hallocates

/-- A call that may fail here. -/
abbrev MayFail (call : Call AlbumFlickrOp.Answer) : Prop := admissionRule call (.settled false)

theorem mayFail_of {stage : AdmissionStage} (hstage : At stage call)
    (hallocates : stage.allocates = false) (hgranted : stage ≠ .granted) : MayFail call := by
  rw [MayFail, admissionRule, hstage]
  exact ⟨hallocates, hgranted⟩

theorem mayFail_over {stage : AdmissionStage} {asked : Sigma AlbumFlickrOp.Answer}
    (hstage : At stage call) (hover : stage.next asked = .over) : MayFail (call ++ [asked]) := by
  have hafter : At .over (call ++ [asked]) := by
    rw [At, admissionStageOf_snoc, hstage, hover]
  exact mayFail_of hafter rfl (by rintro ⟨⟩)

/-- A request that has its unit, or fails. -/
theorem burnFor_runs {request : RestRequest} (hstage : At .idle call) :
    AdmissionRuns (fun found => At (.burned found.1 found.2)) (fun _ => MayFail) call
      (burnFor request) := by
  have hburn : ∀ (entering : Option Nat) (method : AlbumAdmittedMethod)
      (later : Call AlbumFlickrOp.Answer), At .idle later →
      AdmissionRuns (fun found => At (.burned found.1 found.2)) (fun _ => MayFail) later
        (attempt (Prog.query (AlbumFlickrOp.burn entering method))) := by
    intro entering method later hlater
    refine ⟨hlater, ?_⟩
    intro found
    cases found with
    | error fault => exact mayFail_over hlater rfl
    | ok found =>
        show At _ (later ++ [⟨.burn entering method, .ok found⟩])
        rw [At, admissionStageOf_snoc, hlater]
        rfl
  unfold burnFor
  split
  · rw [AdmissionRuns, runs_bind]
    refine ⟨trivial, ?_⟩
    intro entered
    cases entered with
    | error fault => exact mayFail_over hstage rfl
    | ok _ =>
        have hentered : At .idle (call ++ [⟨.enterFetch request.id, .ok ()⟩]) := by
          rw [At, admissionStageOf_snoc, hstage]
          rfl
        show Runs _ _ _ _ (_ >>= _)
        rw [runs_bind]
        refine ⟨trivial, ?_⟩
        intro parameters
        cases parameters with
        | error fault => exact mayFail_over hentered rfl
        | ok parameters =>
            have htext : At .idle (call ++ [⟨.enterFetch request.id, .ok ()⟩] ++
                [⟨.text request, .ok parameters⟩]) := by
              rw [At, admissionStageOf_snoc, hentered]
              rfl
            dsimp only [Follows, ends]
            cases request.admitted parameters with
            | none => exact mayFail_of htext rfl (by rintro ⟨⟩)
            | some method => exact hburn none method _ htext
  · cases request.admitted request.query with
    | none => exact mayFail_of hstage rfl (by rintro ⟨⟩)
    | some method => exact hburn (some request.id) method call hstage

/-- A request goes out with the unit that it burned and checked. -/
theorem fetcher_runs {request : RestRequest} (hstage : At .idle call) :
    AdmissionRuns (fun _ _ => True) (fun _ => MayFail) call (fetcher request) := by
  unfold fetcher
  split
  · exact mayFail_of hstage rfl (by rintro ⟨⟩)
  rw [AdmissionRuns, runs_bind]
  refine Runs.imp (burnFor_runs hstage) ?_ (fun _ _ h => h)
  intro found later hburned
  rw [runs_bind]
  refine ⟨trivial, ?_⟩
  intro charged
  cases charged with
  | error fault => exact mayFail_over hburned rfl
  | ok charged =>
  cases charged with
  | false => exact mayFail_over hburned rfl
  | true =>
  have hchecked : At (.checked found.1 found.2) (later ++ [⟨.check found.1, .ok true⟩]) := by
    rw [At, admissionStageOf_snoc, hburned]
    exact if_pos rfl
  show Runs _ _ _ _ (_ >>= _)
  rw [runs_bind]
  refine ⟨trivial, ?_⟩
  intro faultAllowed
  cases faultAllowed with
  | error fault => exact mayFail_over hchecked rfl
  | ok _ =>
  have hfault : At (.checked found.1 found.2) (later ++ [⟨.check found.1, .ok true⟩] ++
      [⟨.assertFaultAllowed, .ok ()⟩]) := by
    rw [At, admissionStageOf_snoc, hchecked]
    rfl
  show Runs _ _ _ _ (_ >>= _)
  rw [runs_bind]
  refine ⟨trivial, ?_⟩
  intro authority
  cases authority with
  | error fault => exact mayFail_over hfault rfl
  | ok _ =>
  have hauthority : At (.checked found.1 found.2) (later ++ [⟨.check found.1, .ok true⟩] ++
      [⟨.assertFaultAllowed, .ok ()⟩] ++ [⟨.assertCurrent, .ok ()⟩]) := by
    rw [At, admissionStageOf_snoc, hfault]
    rfl
  refine ⟨⟨found.1, hauthority, rfl⟩, ?_⟩
  intro forwarded
  cases forwarded with
  | ok _ => trivial
  | error fault => exact mayFail_over hauthority rfl

/-- A call settles as it ended. -/
theorem call_follows {x : AdmissionThrows Unit}
    (h : AdmissionRuns (fun _ _ => True) (fun _ => MayFail) [] x) :
    Follows (callMonitor admissionRule) (fun _ _ => True) [] (AlbumFlickrAdmission.call x) := by
  refine follows_bind.mpr (Follows.imp h ?_)
  intro result later hlater
  cases result with
  | ok _ => exact ⟨trivial, fun _ => trivial⟩
  | error fault => exact ⟨hlater, fun _ => trivial⟩

/-- Every program of the machine follows the rule. -/
theorem admissionPrograms (program : Prog AlbumFlickrOp.Answer Unit)
    (h : admissionMachine.program program) :
    Follows (callMonitor admissionRule) (fun _ _ => True) [] program := by
  have hidle : At .idle [] := rfl
  rcases h with ⟨count, rfl⟩ | ⟨method, rfl⟩ | ⟨request, rfl⟩
  · refine call_follows ?_
    unfold reserveReads
    split
    · exact mayFail_of hidle rfl (by rintro ⟨⟩)
    · exact allocate_runs hidle
  · refine call_follows ?_
    unfold beforeRequest
    cases AlbumAdmittedMethod.ofText? method with
    | none => exact mayFail_of hidle rfl (by rintro ⟨⟩)
    | some method => exact allocate_runs hidle
  · exact call_follows (fetcher_runs hidle)

end Rules

/-! ## The ledger -/

/-- A credit holds units of its own charge that nobody burned. -/
structure AlbumFlickrStore.LedgerSound (s : AlbumFlickrStore) : Prop where
  distinct : (s.credits.map fun credit => credit.reservation.charge).Nodup
  granted : ∀ credit ∈ s.credits, credit.reservation.charge ∈ s.ledger.granted
  unburned : ∀ credit ∈ s.credits, ∀ unit, (credit.reservation.charge, unit) ∈ s.ledger.spent →
    credit.remaining ≤ unit
  backed : ∀ credit ∈ s.credits, ∃ charge, s.ledger.charges[credit.reservation.charge]? =
    some charge ∧ credit.remaining ≤ charge.slots
  spent : ∀ unit ∈ s.ledger.spent, unit.1 ∈ s.ledger.granted ∧
    ∃ charge, s.ledger.charges[unit.1]? = some charge ∧ unit.2 < charge.slots

/-- The slots of the window hold what this admission charged in it. -/
structure AlbumFlickrStore.WindowSound (s : AlbumFlickrStore) : Prop where
  known : ∀ charge ∈ s.ledger.charges, charge.windowId ∈ s.windows
  held : ∀ row ∈ s.window, row.windowId ∈ s.windows ∧
    (s.chargedIn row.windowId : Int) ≤ row.reservedSlots ∧ row.reservedSlots ≤ row.capacity

section Ledger

variable {s s' : AlbumFlickrStore}

/-- Credits may go, or lose units. -/
theorem AlbumFlickrStore.LedgerSound.lower (h : s.LedgerSound) (hledger : s'.ledger = s.ledger)
    (hcharges : (s'.credits.map fun credit => credit.reservation.charge).Nodup)
    (hcredits : ∀ credit' ∈ s'.credits, ∃ credit ∈ s.credits,
      credit'.reservation = credit.reservation ∧ credit'.remaining ≤ credit.remaining) :
    s'.LedgerSound := by
  refine ⟨hcharges, ?_, ?_, ?_, ?_⟩
  · intro credit' hmem
    obtain ⟨credit, hold, hreservation, _⟩ := hcredits credit' hmem
    rw [hreservation, hledger]
    exact h.granted credit hold
  · intro credit' hmem unit hspent
    obtain ⟨credit, hold, hreservation, hle⟩ := hcredits credit' hmem
    rw [hreservation, hledger] at hspent
    exact Nat.le_trans hle (h.unburned credit hold unit hspent)
  · intro credit' hmem
    obtain ⟨credit, hold, hreservation, hle⟩ := hcredits credit' hmem
    obtain ⟨charge, hcharge, hslots⟩ := h.backed credit hold
    rw [hreservation, hledger]
    exact ⟨charge, hcharge, Nat.le_trans hle hslots⟩
  · rw [hledger]
    exact h.spent

theorem AlbumFlickrStore.LedgerSound.kept (h : s.LedgerSound) (hledger : s'.ledger = s.ledger)
    (hcredits : s'.credits = s.credits) : s'.LedgerSound := by
  refine h.lower hledger ?_ ?_
  · rw [hcredits]
    exact h.distinct
  · intro credit hmem
    rw [hcredits] at hmem
    exact ⟨credit, hmem, rfl, Nat.le_refl _⟩

theorem AdmissionCredit.discardReads_reservation (credit : AdmissionCredit) :
    credit.discardReads.reservation = credit.reservation := by
  unfold discardReads
  split <;> rfl

theorem AdmissionCredit.discardReads_remaining (credit : AdmissionCredit) :
    credit.discardReads.remaining ≤ credit.remaining := by
  unfold discardReads
  split
  · exact Nat.zero_le _
  · exact Nat.le_refl _

/-- What a start of an allocation leaves of the store. -/
theorem enter_cases (s : AlbumFlickrStore) (discardReads : Bool) :
    (s.enter discardReads).2.ledger = s.ledger ∧ (s.enter discardReads).2.window = s.window ∧
      (s.enter discardReads).2.windows = s.windows ∧
      (s.enter discardReads).2.failed = s.failed ∧ (s.enter discardReads).2.aborted = s.aborted ∧
      (s.enter discardReads).2.cancelled = s.cancelled ∧
      ((s.enter discardReads).2.credits = s.credits ∨
        (s.enter discardReads).2.credits = s.credits.map AdmissionCredit.discardReads) := by
  cases discardReads with
  | false =>
      simp only [AlbumFlickrStore.enter, Bool.false_eq_true, if_false]
      split
      · exact ⟨rfl, rfl, rfl, rfl, rfl, rfl, Or.inl rfl⟩
      · split
        · exact ⟨rfl, rfl, rfl, rfl, rfl, rfl, Or.inl rfl⟩
        · exact ⟨rfl, rfl, rfl, rfl, rfl, rfl, Or.inl rfl⟩
  | true =>
      simp only [AlbumFlickrStore.enter, if_true]
      split
      · exact ⟨rfl, rfl, rfl, rfl, rfl, rfl, Or.inr rfl⟩
      · split
        · exact ⟨rfl, rfl, rfl, rfl, rfl, rfl, Or.inr rfl⟩
        · exact ⟨rfl, rfl, rfl, rfl, rfl, rfl, Or.inr rfl⟩

theorem enter_ledgerSound (h : s.LedgerSound) (discardReads : Bool) :
    (s.enter discardReads).2.LedgerSound := by
  obtain ⟨hledger, _, _, _, _, _, hcredits⟩ := enter_cases s discardReads
  rcases hcredits with hsame | hdiscarded
  · exact h.kept hledger hsame
  · refine h.lower hledger ?_ ?_
    · rw [hdiscarded, List.map_map]
      have hcharge : (fun credit : AdmissionCredit => credit.reservation.charge) ∘
          AdmissionCredit.discardReads = fun credit => credit.reservation.charge := by
        funext credit
        exact congrArg CapacityReservation.charge credit.discardReads_reservation
      rw [hcharge]
      exact h.distinct
    · intro credit' hmem
      rw [hdiscarded] at hmem
      obtain ⟨credit, hold, rfl⟩ := List.mem_map.mp hmem
      exact ⟨credit, hold, credit.discardReads_reservation, credit.discardReads_remaining⟩

theorem poison_ledgerSound (h : s.LedgerSound) : s.poison.LedgerSound := by
  refine h.lower rfl List.nodup_nil ?_
  intro credit hmem
  cases hmem

theorem forward_ledgerSound (h : s.LedgerSound) {request : Nat} {unit : ChargeUnit} :
    (s.forward request unit).LedgerSound :=
  ⟨h.distinct, h.granted, h.unburned, h.backed, h.spent⟩

/-- The credit a request burns, and what is left of it. -/
theorem burn_eq_some {method : AlbumAdmittedMethod} {credits credits' : List AdmissionCredit}
    {found : CapacityReservation × Nat}
    (h : AdmissionCredit.burn method credits = some (found, credits')) :
    ∃ front credit back, credits = front ++ credit :: back ∧
      found = (credit.reservation, credit.remaining - 1) ∧ 0 < credit.remaining ∧
      credits' = front ++ { credit with remaining := credit.remaining - 1 } :: back := by
  induction credits generalizing credits' with
  | nil => cases h
  | cons credit rest ih =>
      unfold AdmissionCredit.burn at h
      split at h
      · next hcovers =>
          cases h
          obtain ⟨hpositive, _⟩ := Bool.and_eq_true_iff.mp hcovers
          exact ⟨[], credit, rest, rfl, rfl, of_decide_eq_true hpositive, rfl⟩
      · obtain ⟨⟨burned, rest'⟩, hrest, hfound⟩ := Option.map_eq_some_iff.mp h
        cases hfound
        obtain ⟨front, held, back, rfl, hfound, hpositive, rfl⟩ := ih hrest
        exact ⟨credit :: front, held, back, rfl, hfound, hpositive, rfl⟩

/-- A burn fails, or takes a unit that was not burned before. -/
theorem burn_cases (s : AlbumFlickrStore) (entering : Option Nat) (method : AlbumAdmittedMethod) :
    (∃ fault, s.burn entering method = (.error fault, s)) ∨
      ∃ found credits, AdmissionCredit.burn method s.credits = some (found, credits) ∧
        s.burn entering method = (.ok found, { s with
          credits := credits
          ledger := { s.ledger with spent := (found.1.charge, found.2) :: s.ledger.spent } }) := by
  unfold AlbumFlickrStore.burn
  cases entering.elim (.ok ()) s.enterFetch with
  | error fault => exact Or.inl ⟨fault, rfl⟩
  | ok _ =>
      cases hburn : AdmissionCredit.burn method s.credits with
      | none => exact Or.inl ⟨.unavailable, rfl⟩
      | some found =>
          obtain ⟨⟨reservation, unit⟩, credits⟩ := found
          exact Or.inr ⟨(reservation, unit), credits, rfl, rfl⟩

theorem burn_ledgerSound (h : s.LedgerSound) {method : AlbumAdmittedMethod}
    {found : CapacityReservation × Nat} {credits : List AdmissionCredit}
    (hburn : AdmissionCredit.burn method s.credits = some (found, credits)) :
    (found.1.charge, found.2) ∉ s.ledger.spent ∧
      { s with
        credits := credits
        ledger := { s.ledger with
          spent := (found.1.charge, found.2) :: s.ledger.spent } }.LedgerSound := by
  obtain ⟨front, credit, back, hcredits, rfl, hpositive, rfl⟩ := burn_eq_some hburn
  have hmem : credit ∈ s.credits := by simp [hcredits]
  have hothers : ∀ other ∈ front ++ back, other ∈ s.credits ∧
      other.reservation.charge ≠ credit.reservation.charge := by
    intro other hother
    have hdistinct := h.distinct
    rw [hcredits] at hdistinct ⊢
    rw [List.map_append, List.map_cons] at hdistinct
    have hnot := (List.nodup_middle.mp hdistinct)
    rw [← List.map_append] at hnot
    refine ⟨?_, ?_⟩
    · simp only [List.mem_append, List.mem_cons] at hother ⊢
      tauto
    · intro hsame
      apply (List.nodup_cons.mp hnot).1
      exact hsame ▸ List.mem_map_of_mem hother
  have hcases : ∀ credit' ∈ front ++ { credit with remaining := credit.remaining - 1 } :: back,
      credit' ∈ front ++ back ∨ credit' = { credit with remaining := credit.remaining - 1 } := by
    intro credit' hmem'
    simp only [List.mem_append, List.mem_cons] at hmem' ⊢
    tauto
  constructor
  · intro hspent
    have hle := h.unburned credit hmem _ hspent
    dsimp only at hle
    omega
  refine ⟨?_, ?_, ?_, ?_, ?_⟩
  · have hdistinct := h.distinct
    rw [hcredits, List.map_append, List.map_cons] at hdistinct
    dsimp only
    rw [List.map_append, List.map_cons]
    exact hdistinct
  · intro credit' hmem'
    rcases hcases credit' hmem' with hother | rfl
    · exact h.granted credit' (hothers credit' hother).1
    · exact h.granted credit hmem
  · intro credit' hmem' unit hspent
    rcases hcases credit' hmem' with hother | rfl
    · obtain ⟨hold, hne⟩ := hothers credit' hother
      rcases List.mem_cons.mp hspent with hnew | hspent
      · exact absurd (congrArg Prod.fst hnew) hne
      · exact h.unburned credit' hold unit hspent
    · rcases List.mem_cons.mp hspent with hnew | hspent
      · exact Nat.le_of_eq (congrArg Prod.snd hnew).symm
      · exact Nat.le_trans (Nat.sub_le _ _) (h.unburned credit hmem unit hspent)
  · intro credit' hmem'
    rcases hcases credit' hmem' with hother | rfl
    · exact h.backed credit' (hothers credit' hother).1
    · obtain ⟨charge, hcharge, hslots⟩ := h.backed credit hmem
      exact ⟨charge, hcharge, Nat.le_trans (Nat.sub_le _ _) hslots⟩
  · intro unit hspent
    rcases List.mem_cons.mp hspent with rfl | hspent
    · obtain ⟨charge, hcharge, hslots⟩ := h.backed credit hmem
      refine ⟨h.granted credit hmem, charge, hcharge, ?_⟩
      dsimp only
      omega
    · exact h.spent unit hspent

/-- A charge that was not granted becomes a credit. -/
theorem grant_ledgerSound (h : s.LedgerSound) {method : Option AlbumAdmittedMethod}
    {reservation : CapacityReservation} {slots : Nat}
    (hfresh : reservation.charge ∉ s.ledger.granted)
    (hcharge : ∃ charge, s.ledger.charges[reservation.charge]? = some charge ∧
      charge.slots = slots) : (s.grant method reservation slots).LedgerSound := by
  have hcases : ∀ credit ∈ (s.grant method reservation slots).credits,
      credit ∈ s.credits ∨ credit = ⟨method, reservation, slots⟩ := by
    intro credit hmem
    rcases List.mem_append.mp hmem with hold | hnew
    · exact Or.inl hold
    · exact Or.inr (List.mem_singleton.mp hnew)
  refine ⟨?_, ?_, ?_, ?_, ?_⟩
  · show ((s.credits ++ [_]).map _).Nodup
    rw [List.map_append]
    refine List.Nodup.append h.distinct (List.nodup_singleton _) ?_
    intro charge hold hnew
    obtain ⟨credit, hmem, rfl⟩ := List.mem_map.mp hold
    have hsame : credit.reservation.charge = reservation.charge := List.mem_singleton.mp hnew
    exact hfresh (hsame ▸ h.granted credit hmem)
  · intro credit hmem
    rcases hcases credit hmem with hold | rfl
    · exact List.mem_cons_of_mem _ (h.granted credit hold)
    · exact List.mem_cons_self
  · intro credit hmem unit hspent
    rcases hcases credit hmem with hold | rfl
    · exact h.unburned credit hold unit hspent
    · exact absurd (h.spent _ hspent).1 hfresh
  · intro credit hmem
    rcases hcases credit hmem with hold | rfl
    · exact h.backed credit hold
    · obtain ⟨charge, hcharge, rfl⟩ := hcharge
      exact ⟨charge, hcharge, Nat.le_refl _⟩
  · intro unit hspent
    obtain ⟨hgranted, hcharged⟩ := h.spent unit hspent
    exact ⟨List.mem_cons_of_mem _ hgranted, hcharged⟩

/-! ### Charges -/

/-- A charge that went through. -/
structure SlotsCharged (s : AlbumFlickrStore) (slots : Nat) (reservation : CapacityReservation)
    (s' : AlbumFlickrStore) : Prop where
  charge : reservation.charge = s.ledger.charges.length
  ledger : s'.ledger =
    { s.ledger with charges := s.ledger.charges ++ [⟨reservation.windowId, slots⟩] }
  credits : s'.credits = s.credits

theorem charge_slotsCharged {slots : Nat} {fresh : Token} {opening guarding : Us}
    {reservation : CapacityReservation}
    (h : s.charge slots fresh opening guarding = .ok (reservation, s')) :
    SlotsCharged s slots reservation s' := by
  unfold AlbumFlickrStore.charge at h
  dsimp only at h
  split at h
  · cases h
    exact ⟨rfl, rfl, rfl⟩
  · cases h

theorem SlotsCharged.ledgerSound {slots : Nat} {reservation : CapacityReservation}
    (hcharged : SlotsCharged s slots reservation s') (h : s.LedgerSound) : s'.LedgerSound := by
  obtain ⟨_, hledger, hcredits⟩ := hcharged
  have hstays : ∀ {index : Nat} {charge : RateCharge}, s.ledger.charges[index]? = some charge →
      s'.ledger.charges[index]? = some charge := by
    intro index charge hcharge
    rw [hledger]
    obtain ⟨hlt, _⟩ := List.getElem?_eq_some_iff.mp hcharge
    rw [List.getElem?_append_left hlt]
    exact hcharge
  refine ⟨?_, ?_, ?_, ?_, ?_⟩
  · rw [hcredits]
    exact h.distinct
  · rw [hcredits, hledger]
    exact h.granted
  · rw [hcredits, hledger]
    exact h.unburned
  · rw [hcredits]
    intro credit hmem
    obtain ⟨charge, hcharge, hslots⟩ := h.backed credit hmem
    exact ⟨charge, hstays hcharge, hslots⟩
  · intro unit hspent
    have hspent : unit ∈ s.ledger.spent := by rw [hledger] at hspent; exact hspent
    obtain ⟨hgranted, charge, hcharge, hslots⟩ := h.spent unit hspent
    exact ⟨by rw [hledger]; exact hgranted, charge, hstays hcharge, hslots⟩

/-- Nothing was charged in a window that was not drawn yet. -/
theorem AlbumFlickrStore.WindowSound.chargedIn_fresh (h : s.WindowSound) {windowId : Token}
    (hfresh : windowId ∉ s.windows) : s.chargedIn windowId = 0 := by
  have hnone : (s.ledger.charges.filter fun charge => decide (charge.windowId = windowId)) = [] := by
    refine List.filter_eq_nil_iff.mpr ?_
    intro charge hmem hsame
    apply hfresh
    rw [← of_decide_eq_true hsame]
    exact h.known charge hmem
  simp [AlbumFlickrStore.chargedIn, hnone]

theorem SlotsCharged.chargedIn {slots : Nat} {reservation : CapacityReservation}
    (h : SlotsCharged s slots reservation s') :
    s'.chargedIn reservation.windowId = s.chargedIn reservation.windowId + slots := by
  rw [AlbumFlickrStore.chargedIn, AlbumFlickrStore.chargedIn, h.ledger]
  simp [List.filter_append]

theorem AlbumFlickrStore.WindowSound.kept (h : s.WindowSound)
    (hcharges : s'.ledger.charges = s.ledger.charges) (hwindow : s'.window = s.window)
    (hwindows : s'.windows = s.windows) : s'.WindowSound := by
  have hcharged : ∀ windowId, s'.chargedIn windowId = s.chargedIn windowId := by
    intro windowId
    rw [AlbumFlickrStore.chargedIn, AlbumFlickrStore.chargedIn, hcharges]
  constructor
  · rw [hcharges, hwindows]
    exact h.known
  · rw [hwindow, hwindows]
    intro row hrow
    rw [hcharged]
    exact h.held row hrow

theorem charge_windowSound (h : s.WindowSound) {slots : Nat} {fresh : Token} {opening guarding : Us}
    {reservation : CapacityReservation} (hfresh : fresh ∉ s.windows)
    (hcharge : s.charge slots fresh opening guarding = .ok (reservation, s')) :
    s'.WindowSound := by
  have hcharged := charge_slotsCharged hcharge
  unfold AlbumFlickrStore.charge at hcharge
  dsimp only at hcharge
  split at hcharge
  · next hadmits =>
      have hopened : (RateWindow.opened s.window fresh opening).windowId ∈ fresh :: s.windows ∧
          (s.chargedIn (RateWindow.opened s.window fresh opening).windowId : Int) ≤
            (RateWindow.opened s.window fresh opening).reservedSlots := by
        have hnew : (fresh ∈ fresh :: s.windows) ∧ (s.chargedIn fresh : Int) ≤ 0 := by
          rw [h.chargedIn_fresh hfresh]
          exact ⟨List.mem_cons_self, Int.le_refl 0⟩
        unfold RateWindow.opened
        dsimp only
        cases hwindow : s.window with
        | none => exact hnew
        | some row =>
            obtain ⟨hknown, hheld, _⟩ := h.held row hwindow
            dsimp only
            split
            · exact hnew
            · exact ⟨List.mem_cons_of_mem _ hknown, hheld⟩
      cases hcharge
      obtain ⟨hknown, hheld⟩ := hopened
      obtain ⟨_, _, hfits, _⟩ := hadmits
      constructor
      · intro charge hmem
        rcases List.mem_append.mp hmem with hold | hlast
        · exact List.mem_cons_of_mem _ (h.known charge hold)
        · rw [List.mem_singleton.mp hlast]
          exact hknown
      · intro row hrow
        cases hrow
        refine ⟨hknown, ?_, hfits⟩
        have hsum := hcharged.chargedIn
        dsimp only at hsum ⊢
        rw [hsum]
        push_cast
        omega
  · cases hcharge

theorem AlbumFlickrStore.Drifts.windowSound (hdrift : s.Drifts s') (h : s.WindowSound) :
    s'.WindowSound := by
  obtain ⟨_, _, _, hledger⟩ := hdrift.memory
  constructor
  · intro charge hmem
    rw [hledger] at hmem
    exact hdrift.windows (h.known charge hmem)
  · intro row hrow
    obtain ⟨hknown, hfits, _, others, hothers⟩ := hdrift.window row hrow
    refine ⟨hknown, ?_, hfits⟩
    have hsame : s'.chargedIn row.windowId = s.chargedIn row.windowId := by
      rw [AlbumFlickrStore.chargedIn, AlbumFlickrStore.chargedIn, hledger]
    rw [hsame, hothers]
    exact Int.le_add_of_nonneg_right (Int.natCast_nonneg others)

end Ledger

/-! ## Every interleaving -/

/-- A later stage holds nothing that the earlier one did not. -/
structure AdmissionStage.Retains (stage stage' : AdmissionStage) : Prop where
  grants : ∀ k, stage'.grants? = some k → stage.grants? = some k
  forwards : ∀ k, stage'.forwards? = some k → stage.forwards? = some k
  reserved : ∀ reservation slots, stage' = .reserved reservation slots →
    stage = .reserved reservation slots

theorem AdmissionStage.Retains.refl (stage : AdmissionStage) : stage.Retains stage :=
  ⟨fun _ h => h, fun _ h => h, fun _ _ h => h⟩

/-- A stage that holds nothing. -/
theorem AdmissionStage.retains_of_none {stage stage' : AdmissionStage}
    (hgrants : stage'.grants? = none) (hforwards : stage'.forwards? = none) :
    stage.Retains stage' := by
  refine ⟨?_, ?_, ?_⟩
  · intro k hk
    rw [hgrants] at hk
    cases hk
  · intro k hk
    rw [hforwards] at hk
    cases hk
  · intro reservation slots hsame
    rw [hsame] at hgrants
    cases hgrants

theorem AdmissionStage.retains_ended {stage : AdmissionStage} : stage.Retains stage.ended := by
  cases stage with
  | idle | burned | checked => exact retains_of_none rfl rfl
  | _ => exact Retains.refl _

/-- Only a charge or a burn gives a call something. -/
theorem AdmissionStage.retains_next {stage : AdmissionStage} {asked : Sigma AlbumFlickrOp.Answer}
    (hreserve : ∀ slots reservation, asked ≠ ⟨.reserve slots, .ok reservation⟩)
    (hburn : ∀ entering method found, asked ≠ ⟨.burn entering method, .ok found⟩) :
    stage.Retains (stage.next asked) := by
  have hmove := stage.move_next asked
  generalize stage.next asked = after at hmove ⊢
  cases hmove with
  | kept => exact Retains.refl _
  | ended => exact retains_ended
  | entered | poisoned | granted => exact retains_of_none rfl rfl
  | reserved hasked => exact absurd hasked (hreserve _ _)
  | burned hasked => exact absurd hasked (hburn _ _ _)
  | checked _ hstage =>
      subst hstage
      exact ⟨fun _ h => h, fun _ h => h, fun _ _ h => nomatch h⟩

section Watches

variable {ι : Type} [DecidableEq ι]

/-- What holds of the store and of all the calls. -/
structure AdmissionSound
    (w : Watch AlbumFlickrStore ι (Call AlbumFlickrOp.Answer) AlbumFlickrOp.Answer) : Prop where
  ledger : w.store.LedgerSound
  window : w.store.WindowSound
  late : ∀ o ∈ w.late, (∃ slots, o = .reserve slots) ∨ ∃ reservation, o = .check reservation
  reserved : ∀ i reservation slots,
    admissionStageOf (w.seen i) = .reserved reservation slots →
      ∃ charge, w.store.ledger.charges[reservation.charge]? = some charge ∧ charge.slots = slots
  grants : Handoff.Once (fun call => (admissionStageOf call).grants?)
    (fun charge => charge < w.store.ledger.charges.length) w.seen w.store.ledger.granted
  forwards : Handoff.Once (fun call => (admissionStageOf call).forwards?)
    (fun unit => unit ∈ w.store.ledger.spent) w.seen (w.store.ledger.forwarded.map Prod.snd)

variable {w : Watch AlbumFlickrStore ι (Call AlbumFlickrOp.Answer) AlbumFlickrOp.Answer}

/-- A call goes on with what it had, over the same ledger. -/
theorem AdmissionSound.quiet (h : AdmissionSound w) {i : ι} {call : Call AlbumFlickrOp.Answer}
    {store : AlbumFlickrStore} {late : List AlbumFlickrOp}
    {log : List (Entry ι AlbumFlickrOp.Answer)} (hledger : store.ledger = w.store.ledger)
    (hsound : store.LedgerSound) (hwindow : store.WindowSound)
    (hretains : (admissionStageOf (w.seen i)).Retains (admissionStageOf call))
    (hlate : ∀ o ∈ late, (∃ slots, o = .reserve slots) ∨ ∃ reservation, o = .check reservation) :
    AdmissionSound (⟨store, Function.update w.seen i call, late, log⟩ :
      Watch AlbumFlickrStore ι (Call AlbumFlickrOp.Answer) AlbumFlickrOp.Answer) := by
  refine ⟨hsound, hwindow, hlate, ?_, ?_, ?_⟩
  · intro j reservation slots hj
    dsimp only at hj ⊢
    rw [hledger]
    by_cases hji : j = i
    · subst hji
      rw [Function.update_self] at hj
      exact h.reserved j reservation slots (hretains.reserved reservation slots hj)
    · rw [Function.update_of_ne hji] at hj
      exact h.reserved j reservation slots hj
  · dsimp only
    rw [hledger]
    exact h.grants.move hretains.grants
  · dsimp only
    rw [hledger]
    exact h.forwards.move hretains.forwards

/-- The other calls hold the charges that they held. -/
theorem AdmissionSound.reserved_other (h : AdmissionSound w) {i : ι}
    {call : Call AlbumFlickrOp.Answer}
    (hcall : ∀ reservation slots, admissionStageOf call ≠ .reserved reservation slots) (j : ι)
    (reservation : CapacityReservation) (slots : Nat)
    (hj : admissionStageOf (Function.update w.seen i call j) = .reserved reservation slots) :
    ∃ charge, w.store.ledger.charges[reservation.charge]? = some charge ∧ charge.slots = slots := by
  by_cases hji : j = i
  · subst hji
    rw [Function.update_self] at hj
    exact absurd hj (hcall reservation slots)
  · rw [Function.update_of_ne hji] at hj
    exact h.reserved j reservation slots hj

/-- Nothing was asked, and nothing is held. -/
theorem retains_nil {call : Call AlbumFlickrOp.Answer} :
    (admissionStageOf call).Retains (admissionStageOf []) :=
  AdmissionStage.retains_of_none rfl rfl

/-- A charge whose answer a call saw. -/
theorem AdmissionSound.charged (h : AdmissionSound w) {i : ι} {slots : Nat}
    {reservation : CapacityReservation} {store : AlbumFlickrStore}
    {log : List (Entry ι AlbumFlickrOp.Answer)}
    (hstage : admissionStageOf (w.seen i) = .charging)
    (hcharged : SlotsCharged w.store slots reservation store) (hwindow : store.WindowSound) :
    AdmissionSound (⟨store,
      Function.update w.seen i (w.seen i ++ [⟨.reserve slots, .ok reservation⟩]), w.late, log⟩ :
      Watch AlbumFlickrStore ι (Call AlbumFlickrOp.Answer) AlbumFlickrOp.Answer) := by
  have hnext : admissionStageOf (w.seen i ++ [⟨.reserve slots, .ok reservation⟩]) =
      .reserved reservation slots := by
    rw [admissionStageOf_snoc, hstage]
    rfl
  have hlength : store.ledger.charges.length = w.store.ledger.charges.length + 1 := by
    simp [hcharged.ledger]
  have hlast : store.ledger.charges[reservation.charge]? = some ⟨reservation.windowId, slots⟩ := by
    rw [hcharged.ledger, hcharged.charge]
    simp
  have hspent : store.ledger.spent = w.store.ledger.spent ∧
      store.ledger.granted = w.store.ledger.granted ∧
      store.ledger.forwarded = w.store.ledger.forwarded := by
    rw [hcharged.ledger]
    exact ⟨rfl, rfl, rfl⟩
  refine ⟨hcharged.ledgerSound h.ledger, hwindow, h.late, ?_, ?_, ?_⟩
  · intro j held heldSlots hj
    dsimp only at hj ⊢
    by_cases hji : j = i
    · subst hji
      rw [Function.update_self, hnext] at hj
      cases hj
      exact ⟨_, hlast, rfl⟩
    · rw [Function.update_of_ne hji] at hj
      obtain ⟨charge, hcharge, hslots⟩ := h.reserved j held heldSlots hj
      refine ⟨charge, ?_, hslots⟩
      obtain ⟨hlt, _⟩ := List.getElem?_eq_some_iff.mp hcharge
      rw [hcharged.ledger, List.getElem?_append_left hlt]
      exact hcharge
  · dsimp only
    rw [hspent.2.1]
    refine h.grants.take (k := reservation.charge) ?_ ?_ ?_ ?_
    · rw [hcharged.charge]
      exact Nat.lt_irrefl _
    · intro charge hlt
      rw [hlength]
      exact Nat.lt_succ_of_lt hlt
    · rw [hlength, hcharged.charge]
      exact Nat.lt_succ_self _
    · rw [hnext]
      rfl
  · dsimp only
    rw [hspent.1, hspent.2.2]
    apply h.forwards.drop
    rw [hnext]
    rfl

omit [DecidableEq ι] in
/-- A charge whose answer was lost. -/
theorem AdmissionSound.chargedLate (h : AdmissionSound w) {slots : Nat}
    {reservation : CapacityReservation} {store : AlbumFlickrStore} {late : List AlbumFlickrOp}
    (hcharged : SlotsCharged w.store slots reservation store) (hwindow : store.WindowSound)
    (hlate : ∀ o ∈ late, (∃ slots, o = .reserve slots) ∨ ∃ reservation, o = .check reservation) :
    AdmissionSound { w with store := store, late := late } := by
  have hspent : store.ledger.spent = w.store.ledger.spent ∧
      store.ledger.granted = w.store.ledger.granted ∧
      store.ledger.forwarded = w.store.ledger.forwarded := by
    rw [hcharged.ledger]
    exact ⟨rfl, rfl, rfl⟩
  refine ⟨hcharged.ledgerSound h.ledger, hwindow, hlate, ?_, ?_, ?_⟩
  · intro j held heldSlots hj
    obtain ⟨charge, hcharge, hslots⟩ := h.reserved j held heldSlots hj
    refine ⟨charge, ?_, hslots⟩
    obtain ⟨hlt, _⟩ := List.getElem?_eq_some_iff.mp hcharge
    dsimp only
    rw [hcharged.ledger, List.getElem?_append_left hlt]
    exact hcharge
  · dsimp only
    rw [hspent.2.1]
    apply h.grants.mono
    intro charge hlt
    rw [hcharged.ledger, List.length_append]
    exact Nat.lt_of_lt_of_le hlt (Nat.le_add_right _ _)
  · dsimp only
    rw [hspent.1, hspent.2.2]
    exact h.forwards

/-- A request burned a unit. -/
theorem AdmissionSound.burned (h : AdmissionSound w) {i : ι} {entering : Option Nat}
    {method : AlbumAdmittedMethod} {found : CapacityReservation × Nat}
    {credits : List AdmissionCredit} {log : List (Entry ι AlbumFlickrOp.Answer)}
    (hstage : admissionStageOf (w.seen i) = .idle)
    (hburn : AdmissionCredit.burn method w.store.credits = some (found, credits)) :
    AdmissionSound (⟨{ w.store with
        credits := credits
        ledger := { w.store.ledger with
          spent := (found.1.charge, found.2) :: w.store.ledger.spent } },
      Function.update w.seen i (w.seen i ++ [⟨.burn entering method, .ok found⟩]), w.late, log⟩ :
      Watch AlbumFlickrStore ι (Call AlbumFlickrOp.Answer) AlbumFlickrOp.Answer) := by
  obtain ⟨hfresh, hsound⟩ := burn_ledgerSound h.ledger hburn
  have hnext : admissionStageOf (w.seen i ++ [⟨.burn entering method, .ok found⟩]) =
      .burned found.1 found.2 := by
    rw [admissionStageOf_snoc, hstage]
    rfl
  refine ⟨hsound, h.window.kept rfl rfl rfl, h.late, ?_, ?_, ?_⟩
  · exact h.reserved_other (by rw [hnext]; exact fun _ _ h => nomatch h)
  · apply h.grants.drop
    rw [hnext]
    rfl
  · refine h.forwards.take hfresh (fun _ => List.mem_cons_of_mem _) List.mem_cons_self ?_
    rw [hnext]
    rfl

/-- An allocation granted its charge. -/
theorem AdmissionSound.granted (h : AdmissionSound w) {i : ι}
    {method : Option AlbumAdmittedMethod} {reservation : CapacityReservation} {slots : Nat}
    {log : List (Entry ι AlbumFlickrOp.Answer)}
    (hstage : admissionStageOf (w.seen i) = .reserved reservation slots) :
    AdmissionSound (⟨w.store.grant method reservation slots,
      Function.update w.seen i (w.seen i ++ [⟨.grant method reservation slots, ()⟩]),
      w.late, log⟩ :
      Watch AlbumFlickrStore ι (Call AlbumFlickrOp.Answer) AlbumFlickrOp.Answer) := by
  have hheld : (admissionStageOf (w.seen i)).grants? = some reservation.charge := by
    rw [hstage]
    rfl
  have hnext : admissionStageOf (w.seen i ++ [⟨.grant method reservation slots, ()⟩]) =
      .granted := by
    rw [admissionStageOf_snoc, hstage]
    rfl
  refine ⟨grant_ledgerSound h.ledger (h.grants.pending i _ hheld) (h.reserved i _ _ hstage),
    h.window.kept rfl rfl rfl, h.late, ?_, ?_, ?_⟩
  · exact h.reserved_other (by rw [hnext]; exact fun _ _ h => nomatch h)
  · apply h.grants.handOff hheld
    rw [hnext]
    rfl
  · apply h.forwards.drop
    rw [hnext]
    rfl

/-- A request went out. -/
theorem AdmissionSound.forwarded (h : AdmissionSound w) {i : ι} {request : Nat} {unit : ChargeUnit}
    {answer : Except AdmissionFault Unit} {log : List (Entry ι AlbumFlickrOp.Answer)}
    (hallows : admissionRule (w.seen i) (.forward request unit)) :
    AdmissionSound (⟨w.store.forward request unit,
      Function.update w.seen i (w.seen i ++ [⟨.forward request unit, answer⟩]), w.late, log⟩ :
      Watch AlbumFlickrStore ι (Call AlbumFlickrOp.Answer) AlbumFlickrOp.Answer) := by
  obtain ⟨reservation, hstage, hunit⟩ := hallows
  have hheld : (admissionStageOf (w.seen i)).forwards? = some unit := by
    rw [hstage, AdmissionStage.forwards?, ← hunit]
  have hnext : admissionStageOf (w.seen i ++ [⟨.forward request unit, answer⟩]) = .over := by
    rw [admissionStageOf_snoc, hstage]
    cases answer <;> rfl
  refine ⟨forward_ledgerSound h.ledger, h.window.kept rfl rfl rfl, h.late, ?_, ?_, ?_⟩
  · exact h.reserved_other (by rw [hnext]; exact fun _ _ h => nomatch h)
  · apply h.grants.drop
    rw [hnext]
    rfl
  · apply h.forwards.handOff hheld
    rw [hnext]
    rfl

/-- One step of any call, or of what is around them. -/
theorem AdmissionSound.step {w' : Watch AlbumFlickrStore ι (Call AlbumFlickrOp.Answer)
      AlbumFlickrOp.Answer} {act : Act ι AlbumFlickrOp.Answer} (h : AdmissionSound w)
    (hstep : WatchStep admissionMachine (callMonitor admissionRule) [] w act w') :
    AdmissionSound w' := by
  cases hstep with
  | external hdrift =>
      obtain ⟨hcredits, _, _, hledger⟩ := AlbumFlickrStore.Drifts.memory hdrift
      refine ⟨h.ledger.kept hledger hcredits, AlbumFlickrStore.Drifts.windowSound hdrift h.window,
        h.late, ?_, ?_, ?_⟩
      · dsimp only
        rw [hledger]
        exact h.reserved
      · dsimp only
        rw [hledger]
        exact h.grants
      · dsimp only
        rw [hledger]
        exact h.forwards
  | start => exact h.quiet rfl h.ledger h.window retains_nil h.late
  | crash => exact h.quiet rfl h.ledger h.window retains_nil h.late
  | @lose i o answer hallows hlost =>
      have hlate : ∀ other ∈ o :: w.late, (∃ slots, other = .reserve slots) ∨
          ∃ reservation, other = .check reservation := by
        intro other hother
        rcases List.mem_cons.mp hother with rfl | hother
        · cases other with
          | reserve slots => exact Or.inl ⟨slots, rfl⟩
          | check reservation => exact Or.inr ⟨reservation, rfl⟩
          | _ => cases hlost
        · exact h.late other hother
      refine h.quiet rfl h.ledger h.window ?_ hlate
      rw [callMonitor, admissionStageOf_snoc]
      apply AdmissionStage.retains_next
      · rintro slots reservation ⟨⟩
        cases hlost
      · rintro entering method found ⟨⟩
        cases hlost
  | @late front back o answer store hlate hserve =>
      have hrest : ∀ other ∈ front ++ back, (∃ slots, other = .reserve slots) ∨
          ∃ reservation, other = .check reservation := by
        intro other hother
        apply h.late
        rw [hlate]
        rcases List.mem_append.mp hother with hfront | hback
        · exact List.mem_append_left _ hfront
        · exact List.mem_append_right _ (List.mem_cons_of_mem _ hback)
      rcases h.late o (by rw [hlate]; simp) with ⟨slots, rfl⟩ | ⟨reservation, rfl⟩
      · obtain ⟨fresh, opening, guarding, hfresh, hserve⟩ := hserve
        split at hserve
        · next reservation charged hcharge =>
            obtain ⟨_, rfl⟩ := hserve
            exact h.chargedLate (charge_slotsCharged hcharge)
              (charge_windowSound h.window hfresh hcharge) hrest
        · obtain ⟨_, rfl⟩ := hserve
          exact ⟨h.ledger, h.window, hrest, h.reserved, h.grants, h.forwards⟩
      · obtain ⟨rfl, _⟩ := hserve
        exact ⟨h.ledger, h.window, hrest, h.reserved, h.grants, h.forwards⟩
  | @perform i o answer store hallows hserve =>
      have hretains : (∀ slots reservation,
            (⟨o, answer⟩ : Sigma AlbumFlickrOp.Answer) ≠ ⟨.reserve slots, .ok reservation⟩) →
          (∀ entering method found,
            (⟨o, answer⟩ : Sigma AlbumFlickrOp.Answer) ≠ ⟨.burn entering method, .ok found⟩) →
          (admissionStageOf (w.seen i)).Retains (admissionStageOf (w.seen i ++ [⟨o, answer⟩])) := by
        intro hreserve hburn
        rw [admissionStageOf_snoc]
        exact AdmissionStage.retains_next hreserve hburn
      cases o with
      | enter discardReads =>
          have hstore : store = (w.store.enter discardReads).2 := congrArg Prod.snd hserve
          obtain ⟨hledger, hwindow, hwindows, _⟩ := enter_cases w.store discardReads
          subst hstore
          exact h.quiet hledger (enter_ledgerSound h.ledger discardReads)
            (h.window.kept (congrArg AdmissionLedger.charges hledger) hwindow hwindows)
            (hretains (by rintro _ _ ⟨⟩) (by rintro _ _ _ ⟨⟩)) h.late
      | reserve slots =>
          obtain ⟨fresh, opening, guarding, hfresh, hserve⟩ := hserve
          split at hserve
          · next reservation charged hcharge =>
              obtain ⟨rfl, rfl⟩ := hserve
              exact h.charged hallows (charge_slotsCharged hcharge)
                (charge_windowSound h.window hfresh hcharge)
          · obtain ⟨rfl, rfl⟩ := hserve
            exact h.quiet rfl h.ledger h.window
              (hretains (by rintro _ _ ⟨⟩) (by rintro _ _ _ ⟨⟩)) h.late
      | grant method reservation slots =>
          cases hserve
          exact h.granted hallows
      | poison =>
          cases hserve
          exact h.quiet rfl (poison_ledgerSound h.ledger) (h.window.kept rfl rfl rfl)
            (hretains (by rintro _ _ ⟨⟩) (by rintro _ _ _ ⟨⟩)) h.late
      | burn entering method =>
          have hserve : (answer, store) = w.store.burn entering method := hserve
          rcases burn_cases w.store entering method with ⟨fault, hfault⟩ | ⟨found, credits, hburn, hok⟩
          · rw [hfault] at hserve
            cases hserve
            exact h.quiet rfl h.ledger h.window
              (hretains (by rintro _ _ ⟨⟩) (by rintro _ _ _ ⟨⟩)) h.late
          · rw [hok] at hserve
            cases hserve
            exact h.burned hallows hburn
      | forward request unit =>
          rcases hserve with ⟨fault, rfl, rfl⟩ | ⟨_, rfl⟩
          · exact h.quiet rfl h.ledger h.window
              (hretains (by rintro _ _ ⟨⟩) (by rintro _ _ _ ⟨⟩)) h.late
          · exact h.forwarded hallows
      | check reservation | text request =>
          obtain ⟨rfl, _⟩ := hserve
          exact h.quiet rfl h.ledger h.window
            (hretains (by rintro _ _ ⟨⟩) (by rintro _ _ _ ⟨⟩)) h.late
      | checkAbort | enterFetch request =>
          obtain ⟨_, rfl⟩ := hserve
          exact h.quiet rfl h.ledger h.window
            (hretains (by rintro _ _ ⟨⟩) (by rintro _ _ _ ⟨⟩)) h.late
      | assertFaultAllowed | assertCurrent | settled fulfilled =>
          cases hserve
          exact h.quiet rfl h.ledger h.window
            (hretains (by rintro _ _ ⟨⟩) (by rintro _ _ _ ⟨⟩)) h.late

omit [DecidableEq ι] in
theorem admissionSound_initially
    (h : WatchInitial AlbumFlickrStore.Initial [] w) : AdmissionSound w := by
  obtain ⟨⟨hcredits, _, _⟩, hledger, hwindow⟩ := h.store
  have hidle : ∀ i, admissionStageOf (w.seen i) = .idle := by
    intro i
    rw [h.seen i]
    rfl
  refine ⟨?_, ?_, ?_, ?_, ?_, ?_⟩
  · constructor <;> simp [hcredits, hledger]
  · constructor
    · simp [hledger]
    · intro row hrow
      obtain ⟨hknown, hfits, hpositive⟩ := hwindow row hrow
      refine ⟨hknown, ?_, hfits⟩
      simp only [AlbumFlickrStore.chargedIn, hledger]
      exact hpositive
  · simp [h.late]
  · intro i reservation slots hi
    rw [hidle i] at hi
    cases hi
  · rw [hledger]
    apply Handoff.Once.initially
    intro i
    rw [hidle i]
    rfl
  · rw [hledger]
    apply Handoff.Once.initially
    intro i
    rw [hidle i]
    rfl

end Watches

/-! ## What stops the forwarding -/

/-- What went out for a request. -/
def AlbumFlickrStore.forwardedFor (s : AlbumFlickrStore) (request : Nat) :
    List (Nat × ChargeUnit) :=
  s.ledger.forwarded.filter fun forwarded => decide (forwarded.1 = request)

/-- A poisoned or aborted admission stays so and forwards nothing, and neither does a request
whose own signal aborted. -/
structure Stops (s s' : AlbumFlickrStore) : Prop where
  poisoned : s.failed = true → s'.failed = true ∧ s'.ledger.forwarded = s.ledger.forwarded
  aborted : s.aborted = true → s'.aborted = true ∧ s'.ledger.forwarded = s.ledger.forwarded
  cancelled : ∀ request ∈ s.cancelled,
    request ∈ s'.cancelled ∧ s'.forwardedFor request = s.forwardedFor request

instance : IsPreorder AlbumFlickrStore Stops where
  refl _ := ⟨fun h => ⟨h, rfl⟩, fun h => ⟨h, rfl⟩, fun _ h => ⟨h, rfl⟩⟩
  trans _ _ _ h h' := by
    refine ⟨?_, ?_, ?_⟩
    · intro hfailed
      obtain ⟨hfailed', hsame⟩ := h.poisoned hfailed
      obtain ⟨hfailed'', hsame'⟩ := h'.poisoned hfailed'
      exact ⟨hfailed'', hsame'.trans hsame⟩
    · intro haborted
      obtain ⟨haborted', hsame⟩ := h.aborted haborted
      obtain ⟨haborted'', hsame'⟩ := h'.aborted haborted'
      exact ⟨haborted'', hsame'.trans hsame⟩
    · intro request hrequest
      obtain ⟨hrequest', hsame⟩ := h.cancelled request hrequest
      obtain ⟨hrequest'', hsame'⟩ := h'.cancelled request hrequest'
      exact ⟨hrequest'', hsame'.trans hsame⟩

section Stopping

variable {s s' : AlbumFlickrStore}

theorem stops_of_kept (hforwarded : s'.ledger.forwarded = s.ledger.forwarded)
    (hfailed : s.failed = true → s'.failed = true)
    (haborted : s.aborted = true → s'.aborted = true) (hcancelled : s.cancelled ⊆ s'.cancelled) :
    Stops s s' := by
  refine ⟨fun h => ⟨hfailed h, hforwarded⟩, fun h => ⟨haborted h, hforwarded⟩, ?_⟩
  intro request hrequest
  refine ⟨hcancelled hrequest, ?_⟩
  rw [AlbumFlickrStore.forwardedFor, AlbumFlickrStore.forwardedFor, hforwarded]

/-- A request goes out while nothing stopped. -/
theorem forward_stops {request : Nat} {unit : ChargeUnit}
    (h : s.checkAbort (some request) = .ok ()) : Stops s (s.forward request unit) := by
  unfold AlbumFlickrStore.checkAbort at h
  split at h
  · cases h
  · next hopen =>
      simp only [Option.mem_some_iff, exists_eq_left', not_or] at hopen
      obtain ⟨hfailed, haborted, hcancelled⟩ := hopen
      refine ⟨fun h => absurd h hfailed, fun h => absurd h haborted, ?_⟩
      intro other hother
      refine ⟨hother, ?_⟩
      have hne : request ≠ other := by
        rintro rfl
        exact hcancelled hother
      rw [AlbumFlickrStore.forwardedFor, AlbumFlickrStore.forward]
      dsimp only
      rw [List.filter_cons_of_neg (by simpa using hne)]
      rfl

theorem serveAdmission_stops {o : AlbumFlickrOp} {answer : o.Answer}
    (h : serveAdmission s o answer s') : Stops s s' := by
  cases o with
  | enter discardReads =>
      have hstore : s' = (s.enter discardReads).2 := congrArg Prod.snd h
      obtain ⟨hledger, _, _, hfailed, haborted, hcancelled, _⟩ := enter_cases s discardReads
      subst hstore
      refine stops_of_kept (congrArg AdmissionLedger.forwarded hledger) ?_ ?_ ?_
      · rw [hfailed]
        exact fun h => h
      · rw [haborted]
        exact fun h => h
      · rw [hcancelled]
        exact fun _ h => h
  | reserve slots =>
      obtain ⟨fresh, opening, guarding, _, h⟩ := h
      unfold AlbumFlickrStore.charge at h
      dsimp only at h
      split at h
      · next hcharge =>
          obtain ⟨_, rfl⟩ := h
          split at hcharge
          · cases hcharge
            exact stops_of_kept rfl (fun h => h) (fun h => h) fun _ h => h
          · cases hcharge
      · obtain ⟨_, rfl⟩ := h
        exact refl_of Stops s'
  | grant method reservation slots =>
      cases h
      exact stops_of_kept rfl (fun h => h) (fun h => h) fun _ h => h
  | poison =>
      cases h
      exact stops_of_kept rfl (fun _ => rfl) (fun h => h) fun _ h => h
  | burn entering method =>
      have h : (answer, s') = s.burn entering method := h
      rcases burn_cases s entering method with ⟨fault, hfault⟩ | ⟨found, credits, _, hok⟩
      · rw [hfault] at h
        cases h
        exact refl_of Stops s
      · rw [hok] at h
        cases h
        exact stops_of_kept rfl (fun h => h) (fun h => h) fun _ h => h
  | forward request unit =>
      rcases h with ⟨_, _, rfl⟩ | ⟨hopen, rfl⟩
      · exact refl_of Stops s'
      · exact forward_stops hopen
  | check reservation | text request =>
      obtain ⟨rfl, _⟩ := h
      exact refl_of Stops _
  | checkAbort | enterFetch request =>
      obtain ⟨_, rfl⟩ := h
      exact refl_of Stops _
  | assertFaultAllowed | assertCurrent | settled fulfilled =>
      cases h
      exact refl_of Stops _

end Stopping

section Runs

variable {ι : Type} [DecidableEq ι] {start p : Pool AlbumFlickrStore ι AlbumFlickrOp.Answer}
  {trace : List (Move (Pool AlbumFlickrStore ι AlbumFlickrOp.Answer)
    (Act ι AlbumFlickrOp.Answer))}

instance : IsPreorder (Pool AlbumFlickrStore ι AlbumFlickrOp.Answer)
    fun q p => Stops q.store p.store where
  refl q := refl_of Stops q.store
  trans _ _ _ h h' := trans_of Stops h h'

theorem admissionStep_stops {act : Act ι AlbumFlickrOp.Answer}
    {p' : Pool AlbumFlickrStore ι AlbumFlickrOp.Answer}
    (h : PoolStep admissionMachine p act p') : Stops p.store p'.store := by
  cases h with
  | external hdrift =>
      obtain ⟨_, _, hfailed, hledger⟩ := AlbumFlickrStore.Drifts.memory hdrift
      refine stops_of_kept (congrArg AdmissionLedger.forwarded hledger) ?_
        (AlbumFlickrStore.Drifts.aborted hdrift) (AlbumFlickrStore.Drifts.cancelled hdrift)
      intro h
      dsimp only
      rw [hfailed]
      exact h
  | perform _ hserve => exact serveAdmission_stops hserve
  | late _ hserve => exact serveAdmission_stops hserve
  | _ => exact refl_of Stops p.store

/-- From every state of a run on, nothing goes out that was stopped there. -/
theorem run_stops (hrun : Run (PoolStep admissionMachine) start trace p) :
    ∀ q ∈ visited start trace, Stops q.store p.store := by
  intro q hq
  refine @Run.visited_relates _ _ _ (fun q p => Stops q.store p.store) _ _ _ _ _ hrun ?_ hq
  intro move hmove
  obtain ⟨front, back, rfl⟩ := List.append_of_mem hmove
  exact admissionStep_stops hrun.around.2.1

/-! ### What a call has seen -/

/-- A request is on its way. -/
def AdmissionStage.isOpen : AdmissionStage → Bool
  | .idle | .burned .. | .checked .. => true
  | _ => false

theorem AdmissionStage.ended_isOpen (stage : AdmissionStage) : stage.ended.isOpen = false := by
  cases stage <;> rfl

/-- A request that is still on its way did not fail. -/
theorem callFails_of_isOpen {call : Call AlbumFlickrOp.Answer}
    (h : (admissionStageOf call).isOpen = true) : ∀ asked ∈ call, callFails asked = false := by
  induction call using List.reverseRecOn with
  | nil => simp
  | append_singleton front last ih =>
      have hlast : callFails last = false ∧ (admissionStageOf front).isOpen = true := by
        have hmove := (admissionStageOf front).move_next last
        rw [← admissionStageOf_snoc] at hmove
        generalize admissionStageOf (front ++ [last]) = after at h hmove
        cases hmove with
        | kept hfails => exact ⟨hfails, h⟩
        | ended =>
            rw [AdmissionStage.ended_isOpen] at h
            cases h
        | entered | reserved | poisoned | granted => cases h
        | burned hasked hstage =>
            rw [hasked, hstage]
            exact ⟨rfl, rfl⟩
        | checked hasked hstage =>
            rw [hasked, hstage]
            exact ⟨rfl, rfl⟩
      intro asked hasked
      rcases List.mem_append.mp hasked with hfront | hnew
      · exact ih hlast.2 asked hfront
      · rw [List.mem_singleton.mp hnew]
        exact hlast.1

/-- A request that goes out has burned its unit and seen that the reservation holds. -/
theorem call_of_checked {call : Call AlbumFlickrOp.Answer} {reservation : CapacityReservation}
    {unit : Nat} (h : admissionStageOf call = .checked reservation unit) :
    (∃ entering method, ⟨.burn entering method, .ok (reservation, unit)⟩ ∈ call) ∧
      ⟨.check reservation, .ok true⟩ ∈ call := by
  have hburned : ∀ {earlier : Call AlbumFlickrOp.Answer},
      admissionStageOf earlier = .burned reservation unit →
      ∃ entering method, ⟨.burn entering method, .ok (reservation, unit)⟩ ∈ earlier := by
    intro earlier
    induction earlier using List.reverseRecOn with
    | nil => rintro ⟨⟩
    | append_singleton front last ih =>
        intro hstage
        have hmove := (admissionStageOf front).move_next last
        rw [← admissionStageOf_snoc, hstage] at hmove
        generalize hafter : AdmissionStage.burned reservation unit = after at hmove
        cases hmove with
        | kept =>
            obtain ⟨entering, method, hmem⟩ := ih hafter.symm
            exact ⟨entering, method, List.mem_append_left _ hmem⟩
        | ended =>
            have hclosed := (admissionStageOf front).ended_isOpen
            rw [← hafter] at hclosed
            cases hclosed
        | @burned entering method found hasked =>
            cases hafter
            exact ⟨entering, method, List.mem_append_right _ (by simp [hasked])⟩
        | _ => cases hafter
  induction call using List.reverseRecOn with
  | nil => cases h
  | append_singleton front last ih =>
      have hmove := (admissionStageOf front).move_next last
      rw [← admissionStageOf_snoc, h] at hmove
      generalize hafter : AdmissionStage.checked reservation unit = after at hmove
      cases hmove with
      | kept =>
          obtain ⟨⟨entering, method, hmem⟩, hcheck⟩ := ih hafter.symm
          exact ⟨⟨entering, method, List.mem_append_left _ hmem⟩, List.mem_append_left _ hcheck⟩
      | ended =>
          have hclosed := (admissionStageOf front).ended_isOpen
          rw [← hafter] at hclosed
          cases hclosed
      | checked hasked hstage =>
          cases hafter
          obtain ⟨entering, method, hmem⟩ := hburned hstage
          exact ⟨⟨entering, method, List.mem_append_left _ hmem⟩,
            List.mem_append_right _ (by simp [hasked])⟩
      | _ => cases hafter

/-- An allocation that began is still charging, granted its credit, or poisoned the admission. -/
theorem call_of_entered {call : Call AlbumFlickrOp.Answer} {discardReads : Bool}
    (h : ⟨.enter discardReads, .ok ()⟩ ∈ call) :
    (admissionStageOf call).allocates = true ∨ admissionStageOf call = .granted ∨
      admissionStageOf call = .poisoned ∧ ⟨.poison, ()⟩ ∈ call := by
  induction call using List.reverseRecOn with
  | nil => cases h
  | append_singleton front last ih =>
      have hpoison : ⟨.poison, ()⟩ ∈ front →
          (⟨.poison, ()⟩ : Sigma AlbumFlickrOp.Answer) ∈ front ++ [last] :=
        List.mem_append_left _
      have hbefore : ⟨.enter discardReads, .ok ()⟩ ∈ front ∨ last = ⟨.enter discardReads, .ok ()⟩ := by
        rcases List.mem_append.mp h with hfront | hlast
        · exact Or.inl hfront
        · exact Or.inr (List.mem_singleton.mp hlast).symm
      rcases hbefore with hfront | rfl
      · have hstage := ih hfront
        have hmove := (admissionStageOf front).move_next last
        rw [← admissionStageOf_snoc] at hmove
        generalize admissionStageOf (front ++ [last]) = after at hmove ⊢
        cases hmove with
        | kept => exact hstage.imp id (Or.imp id (And.imp id hpoison))
        | ended =>
            cases hfrom : admissionStageOf front with
            | charging | reserved => exact Or.inl rfl
            | granted => exact Or.inr (Or.inl rfl)
            | poisoned =>
                rw [hfrom] at hstage
                rcases hstage with h | h | ⟨_, h⟩
                · cases h
                · cases h
                · exact Or.inr (Or.inr ⟨rfl, hpoison h⟩)
            | _ =>
                rw [hfrom] at hstage
                rcases hstage with h | h | ⟨h, _⟩ <;> cases h
        | entered => exact Or.inl rfl
        | reserved => exact Or.inl rfl
        | poisoned hasked =>
            exact Or.inr (Or.inr ⟨rfl, List.mem_append_right _ (by simp [hasked])⟩)
        | granted => exact Or.inr (Or.inl rfl)
        | burned _ hfrom | checked _ hfrom =>
            rw [hfrom] at hstage
            rcases hstage with h | h | ⟨h, _⟩ <;> cases h
      · rw [admissionStageOf_snoc]
        exact Or.inl rfl

/-- When an allocation that began fails, the admission is poisoned already. -/
theorem allocation_fails {front back : List (Move (Pool AlbumFlickrStore ι AlbumFlickrOp.Answer)
      (Act ι AlbumFlickrOp.Answer))} {move : Move (Pool AlbumFlickrStore ι AlbumFlickrOp.Answer)
      (Act ι AlbumFlickrOp.Answer)} {i : ι} {discardReads : Bool}
    (hstart : PoolInitial AlbumFlickrStore.Initial start)
    (hrun : Run (PoolStep admissionMachine) start (front ++ move :: back) p)
    (htells : move.label.tells ⟨i, .settled false, ()⟩)
    (hentered : ⟨.enter discardReads, .ok ()⟩ ∈ callOf i front) : move.src.store.failed = true := by
  obtain ⟨hallocates, hgranted⟩ := run_asked admissionPrograms hstart hrun htells
  have hpoison : ⟨.poison, ()⟩ ∈ callOf i front := by
    rcases call_of_entered hentered with h | h | ⟨_, h⟩
    · rw [h] at hallocates
      cases hallocates
    · exact absurd h hgranted
    · exact h
  obtain ⟨poisoning, hmem, hasked⟩ := mem_callOf hpoison
  obtain ⟨first, rest, rfl⟩ := List.append_of_mem hmem
  obtain ⟨hfront, _, _⟩ := hrun.around
  obtain ⟨_, hstep, hrest⟩ := hfront.around
  have hfailed : poisoning.dst.store.failed = true := by
    obtain ⟨src, label, dst⟩ := poisoning
    dsimp only at hstep hasked ⊢
    rcases hasked with rfl | rfl
    · cases hstep with
      | perform hasks hserve =>
          cases hserve
          rfl
    · cases hstep with
      | lose hasks hlost => cases hlost
  exact ((run_stops hrest _ List.mem_cons_self).poisoned hfailed).1

end Runs

/-! ## The admission -/

/-- Nothing went out that was not charged. -/
structure AlbumFlickrStore.Covered (s : AlbumFlickrStore) : Prop where
  length : s.ledger.forwarded.length ≤ (s.ledger.charges.map RateCharge.slots).sum
  single : (s.ledger.forwarded.map Prod.snd).Nodup
  backed : ∀ forwarded ∈ s.ledger.forwarded, ∃ charge,
    s.ledger.charges[forwarded.2.1]? = some charge ∧ forwarded.2.2 < charge.slots
  held : ∀ row ∈ s.window, (s.chargedIn row.windowId : Int) ≤ row.reservedSlots ∧
    row.reservedSlots ≤ row.capacity

/-- All the units of some charges. -/
def chargeUnits (charges : List RateCharge) : List ChargeUnit :=
  charges.zipIdx.flatMap fun charge => (List.range charge.1.slots).map fun unit => (charge.2, unit)

theorem length_chargeUnits (charges : List RateCharge) :
    (chargeUnits charges).length = (charges.map RateCharge.slots).sum := by
  have hslots : charges.zipIdx.map (fun charge => charge.1.slots) =
      charges.map RateCharge.slots := by
    conv_rhs => rw [← List.zipIdx_map_fst 0 charges, List.map_map]
    rfl
  simp [chargeUnits, List.length_flatMap, hslots]

theorem mem_chargeUnits {charges : List RateCharge} {unit : ChargeUnit} {charge : RateCharge}
    (hcharge : charges[unit.1]? = some charge) (hslots : unit.2 < charge.slots) :
    unit ∈ chargeUnits charges := by
  refine List.mem_flatMap.mpr ⟨(charge, unit.1), ?_, ?_⟩
  · exact List.mem_zipIdx_iff_getElem?.mpr hcharge
  · exact List.mem_map.mpr ⟨unit.2, List.mem_range.mpr hslots, rfl⟩

theorem AdmissionSound.covered {ι : Type} [DecidableEq ι]
    {w : Watch AlbumFlickrStore ι (Call AlbumFlickrOp.Answer) AlbumFlickrOp.Answer}
    (h : AdmissionSound w) : w.store.Covered := by
  have hbacked : ∀ forwarded ∈ w.store.ledger.forwarded, ∃ charge,
      w.store.ledger.charges[forwarded.2.1]? = some charge ∧ forwarded.2.2 < charge.slots := by
    intro forwarded hmem
    exact (h.ledger.spent _ (h.forwards.marked_handed _ (List.mem_map_of_mem hmem))).2
  refine ⟨?_, h.forwards.nodup, hbacked, fun row hrow => (h.window.held row hrow).2⟩
  have hsub : w.store.ledger.forwarded.map Prod.snd ⊆ chargeUnits w.store.ledger.charges := by
    intro unit hunit
    obtain ⟨forwarded, hmem, rfl⟩ := List.mem_map.mp hunit
    obtain ⟨charge, hcharge, hslots⟩ := hbacked forwarded hmem
    exact mem_chargeUnits hcharge hslots
  have hlength := h.forwards.nodup.length_le_of_subset hsub
  rwa [List.length_map, length_chargeUnits] at hlength

namespace AdmissionSample

def fresh : Token := ⟨"window-1", Eq.refl true⟩

def store : AlbumFlickrStore := ⟨none, [], [], false, false, false, [], ⟨[], [], [], []⟩⟩

/-- A database whose clock stands still and that answers checks or not, and hooks that allow
every request. -/
def oracle (checks : Bool) (s : AlbumFlickrStore) :
    (o : AlbumFlickrOp) → Option (o.Answer × AlbumFlickrStore)
  | .enter discardReads => some (s.enter discardReads)
  | .assertFaultAllowed => some (.ok (), s)
  | .assertCurrent => some (.ok (), s)
  | .checkAbort => some (s.checkAbort none, s)
  | .reserve slots =>
      if fresh ∈ s.windows then none
      else
        match s.charge slots fresh 0 0 with
        | .ok (reservation, charged) => some (.ok reservation, charged)
        | .error fault => some (.error fault, s)
  | .check reservation =>
      some (if checks = true then .ok (decide (s.holds reservation 0)) else .error .rejected, s)
  | .grant method reservation slots => some ((), s.grant method reservation slots)
  | .poison => some ((), s.poison)
  | .enterFetch request => some (s.enterFetch request, s)
  | .text request => some (.ok (request.body.getD []), s)
  | .burn entering method => some (s.burn entering method)
  | .forward request unit =>
      match s.checkAbort (some request) with
      | .error fault => some (.error fault, s)
      | .ok () => some (.ok (), s.forward request unit)
  | .settled _ => some ((), s)

theorem oracle_serve (checks : Bool) (s : AlbumFlickrStore) (o : AlbumFlickrOp) (answer : o.Answer)
    (s' : AlbumFlickrStore) (h : oracle checks s o = some (answer, s')) :
    admissionMachine.serve s o answer s' := by
  cases o with
  | enter | burn => exact (Option.some.inj h).symm
  | checkAbort | enterFetch =>
      cases h
      exact ⟨rfl, rfl⟩
  | reserve slots =>
      obtain ⟨hfresh, h⟩ := Option.ite_none_left_eq_some.mp h
      refine ⟨fresh, 0, 0, hfresh, ?_⟩
      generalize s.charge slots fresh 0 0 = charged at h ⊢
      cases charged with
      | ok charged =>
          cases h
          exact ⟨rfl, rfl⟩
      | error fault =>
          cases h
          exact ⟨rfl, rfl⟩
  | check reservation =>
      cases h
      refine ⟨rfl, ?_⟩
      intro held hanswer hheld
      subst hheld
      split at hanswer
      · exact ⟨0, of_decide_eq_true (Except.ok.inj hanswer)⟩
      · cases hanswer
  | text request =>
      cases h
      refine ⟨rfl, ?_⟩
      intro parameters hparameters
      exact (Except.ok.inj hparameters).symm
  | forward request unit =>
      have h : (match s.checkAbort (some request) with
        | .error fault => some (.error fault, s)
        | .ok () => some (.ok (), s.forward request unit)) = some (answer, s') := h
      split at h
      · cases h
        exact Or.inl ⟨_, rfl, rfl⟩
      · next hopen =>
          cases h
          exact Or.inr ⟨hopen, rfl⟩
  | _ =>
      cases h
      exact rfl

/-- A read of one photoset. -/
def request (id : Nat) : RestRequest where
  id := id
  origin := "https://www.flickr.com"
  pathname := "/services/rest/"
  username := ""
  password := ""
  hash := ""
  search := "?method=flickr.photosets.getInfo"
  redirect := "manual"
  method := "GET"
  contentType := none
  query := [("method", "flickr.photosets.getInfo")]
  body := none

def reading (count : Int) : Prog AlbumFlickrOp.Answer Unit :=
  AlbumFlickrAdmission.call (AlbumFlickrAdmission.reserveReads count)

def fetching (id : Nat) : Prog AlbumFlickrOp.Answer Unit :=
  AlbumFlickrAdmission.call (AlbumFlickrAdmission.fetcher (request id))

/-- Two reads are reserved, a reservation of none is refused, and a request fails because its
check does. -/
def failed : Pool AlbumFlickrStore Nat AlbumFlickrOp.Answer :=
  ((Pool.idle store).playAll (oracle true) 0 30 [reading 2, reading 0]).playAll (oracle false) 1 10
    [fetching 1]

/-- Another request of the same admission. -/
def served : Pool AlbumFlickrStore Nat AlbumFlickrOp.Answer :=
  failed.playAll (oracle true) 2 10 [fetching 2]

theorem run_failed : ∃ trace, Run (PoolStep admissionMachine) (Pool.idle store) trace failed := by
  have hreading : ∀ program ∈ [reading 2, reading 0], admissionMachine.program program := by
    intro program hprogram
    simp only [List.mem_cons, List.not_mem_nil, or_false] at hprogram
    rcases hprogram with rfl | rfl
    · exact Or.inl ⟨2, rfl⟩
    · exact Or.inl ⟨0, rfl⟩
  have hfetching : ∀ program ∈ [fetching 1], admissionMachine.program program := by
    intro program hprogram
    obtain rfl := List.mem_singleton.mp hprogram
    exact Or.inr (Or.inr ⟨_, rfl⟩)
  obtain ⟨reads, hreads⟩ := Pool.run_playAll (oracle_serve true) 0 30 hreading (Pool.idle store)
  obtain ⟨fetches, hfetches⟩ := Pool.run_playAll (oracle_serve false) 1 10 hfetching
    ((Pool.idle store).playAll (oracle true) 0 30 [reading 2, reading 0])
  exact ⟨_, hreads.append hfetches⟩

theorem run_served : ∃ trace, Run (PoolStep admissionMachine) failed trace served := by
  have hfetching : ∀ program ∈ [fetching 2], admissionMachine.program program := by
    intro program hprogram
    obtain rfl := List.mem_singleton.mp hprogram
    exact Or.inr (Or.inr ⟨_, rfl⟩)
  exact Pool.run_playAll (oracle_serve true) 2 10 hfetching failed

/-- A call was rejected. -/
def rejected (log : List (Entry Nat AlbumFlickrOp.Answer)) : Nat :=
  log.countP fun entry => match entry.op with
    | .settled false => true
    | _ => false

end AdmissionSample

end FlickrGroupAddr

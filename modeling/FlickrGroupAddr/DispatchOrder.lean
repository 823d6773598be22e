import FlickrGroupAddr.WorkerStore
import FlickrGroupAddr.Lib.Grants

/-!
# The order of a dispatch

What an invocation may ask after what it was answered.  A claim is followed by a look for an
unfinished attempt, an attempt by its reads and their records, and the hand-off by the marker.
No attempt is resolved twice by one invocation, and none is handed off after its resolution.
-/

namespace FlickrGroupAddr

set_option autoImplicit false

open KeyedTable Program Workers Transition Handoff

/-! ## The monitor -/

/-- How far the attempt of an invocation got. -/
inductive AttemptPhase where
  | begun
  | looked (present : Bool)
  | absent
  | moderated (value : Bool)
  | preflighted
  | marked
deriving DecidableEq

inductive DispatchStage where
  | idle
  | claimed (lease : Lease)
  | clear (lease : Lease)
  | recovering (lease : Lease) (old : Attempt)
  | attempting (lease : Lease) (current : Attempt) (phase : AttemptPhase)
  | present (lease : Lease) (current : Attempt)
  | refused (lease : Lease) (current : Attempt)
  | handed (lease : Lease) (current : Attempt) (answer : Except DispatchFault AddResult)
  | over
deriving DecidableEq

/-- What is recorded in a phase. -/
def AttemptPhase.records : AttemptPhase → RecordKind → Prop
  | .looked isPresent, .membership targetAbsent => targetAbsent = !isPresent
  | .moderated value, .preflight recorded => recorded = value
  | .preflighted, .marker reservationId => reservationId.isSome = true
  | _, _ => False

namespace DispatchStage

/-- Where an invocation may resolve an attempt. -/
def resolves (stage : DispatchStage) (lease : Lease) (attemptId : Token) :
    ResolutionSite → Prop
  | .recovered marked => ∃ old, stage = .recovering lease old ∧ old.attemptId = attemptId ∧
      old.marked = marked
  | .rateUnavailable _ | .unavailable _ | .preflightExpired => ∃ current phase,
      stage = .attempting lease current phase ∧ current.attemptId = attemptId
  | .membershipPresent => ∃ current, stage = .present lease current ∧
      current.attemptId = attemptId
  | .transportAborted => ∃ current, stage = .handed lease current (.error .notDispatched) ∧
      current.attemptId = attemptId
  | .unresolvedDispatch => ∃ current, current.attemptId = attemptId ∧
      (stage = .refused lease current ∨ ∃ error, stage = .handed lease current (.error error))
  | .answered result => ∃ current, stage = .handed lease current (.ok result) ∧
      current.attemptId = attemptId

def allows (stage : DispatchStage) : DispatchOp → Prop
  | .claim _ _ _ => stage = .idle
  | .unfinished lease => stage = .claimed lease
  | .begin lease => stage = .clear lease
  | .membership current => ∃ lease, stage = .attempting lease current .begun
  | .preflight current => ∃ lease, stage = .attempting lease current .absent
  | .record lease attemptId kind => ∃ current phase,
      stage = .attempting lease current phase ∧ current.attemptId = attemptId ∧
        phase.records kind
  | .handoff current => ∃ lease, stage = .attempting lease current .marked
  | .resolve lease attemptId site _ _ => stage.resolves lease attemptId site
  | _ => True

/-- The attempt goes on to a phase. -/
def moved (stage : DispatchStage) (phase : AttemptPhase) : DispatchStage :=
  match stage with
  | .attempting lease current _ => .attempting lease current phase
  | _ => .over

def found : DispatchStage → DispatchStage
  | .attempting lease current _ => .present lease current
  | _ => .over

def handedOff (stage : DispatchStage) (answer : Except DispatchFault AddResult) :
    DispatchStage :=
  match stage with
  | .attempting lease current _ => .handed lease current answer
  | _ => .over

/-- The handle did not let the hand-off through. -/
def withheld : DispatchStage → DispatchStage
  | .attempting lease current .marked => .refused lease current
  | stage => stage

def next (stage : DispatchStage) : (o : DispatchOp) → o.Answer → DispatchStage
  | .claim _ _ _, .ok (some lease) => .claimed lease
  | .claim _ _ _, _ => .over
  | .unfinished lease, .ok none => .clear lease
  | .unfinished lease, .ok (some old) => .recovering lease old
  | .unfinished _, .error _ => .over
  | .begin lease, .ok current => .attempting lease current .begun
  | .begin _, .error _ => .over
  | .membership _, .ok isPresent => stage.moved (.looked isPresent)
  | .preflight _, .ok value => stage.moved (.moderated value)
  | .record _ _ (.membership true), .ok () => stage.moved .absent
  | .record _ _ (.membership false), .ok () => stage.found
  | .record _ _ (.preflight _), .ok () => stage.moved .preflighted
  | .record _ _ (.marker _), .ok () => stage.moved .marked
  | .record _ _ _, .error _ => .over
  | .consume _ .add, false => stage.withheld
  | .handoff _, answer => stage.handedOff answer
  | .resolve _ _ _ _ _, _ => .over
  | _, _ => stage

/-- The attempt an invocation may hand off. -/
def held? : DispatchStage → Option Token
  | .attempting _ current _ | .present _ current => some current.attemptId
  | _ => none

/-- The lease an invocation may begin an attempt with. -/
def leased? : DispatchStage → Option (Token × Nat)
  | .claimed lease | .clear lease => some (lease.partitionId, lease.generation)
  | _ => none

end DispatchStage

def dispatchMonitor : Monitor DispatchOp.Answer DispatchStage :=
  ⟨DispatchStage.allows, DispatchStage.next⟩

/-! ## What comes before a hand-off -/

abbrev DispatchCall := Call DispatchOp.Answer

/-- What an invocation saw of the attempt that it hands off. -/
structure PostPlan where
  partitionId : Token
  revision : Option Nat
  lease : Lease
  current : Attempt
  reservation : Token
  moderated : Bool
  received : Int

namespace PostPlan

variable (plan : PostPlan)

/-- From the claim to the reservation. -/
def begun : DispatchCall :=
  [⟨.claim plan.partitionId plan.revision defaultLeasePolicy, .ok (some plan.lease)⟩,
    ⟨.unfinished plan.lease, .ok none⟩,
    ⟨.begin plan.lease, .ok plan.current⟩,
    ⟨.reserve plan.current, some plan.reservation⟩]

/-- Then the membership read. -/
def membershipRead : DispatchCall :=
  plan.begun ++
    [⟨.check plan.reservation plan.current, .ok true⟩,
      ⟨.consume plan.reservation .membership, true⟩,
      ⟨.membership plan.current, .ok false⟩]

def absent : DispatchCall :=
  plan.membershipRead ++ [⟨.record plan.lease plan.current.attemptId (.membership true), .ok ()⟩]

/-- Then half a minute of the lease is left. -/
def leased : DispatchCall :=
  plan.absent ++
    [⟨.check plan.reservation plan.current, .ok true⟩, ⟨.beforePreflight plan.lease, .ok true⟩]

/-- Then the preflight. -/
def preflightRead : DispatchCall :=
  plan.leased ++
    [⟨.consume plan.reservation .preflight, true⟩,
      ⟨.preflight plan.current, .ok plan.moderated⟩,
      ⟨.monotonicUs, plan.received⟩]

def preflighted : DispatchCall :=
  plan.preflightRead ++
    [⟨.record plan.lease plan.current.attemptId (.preflight plan.moderated), .ok ()⟩]

/-- Then the request is prepared, and the marker committed. -/
def prepared : DispatchCall := plan.preflighted ++ [⟨.prepareAdd plan.current, .ok ()⟩]

def marked : DispatchCall :=
  plan.prepared ++
    [⟨.record plan.lease plan.current.attemptId (.marker (some plan.reservation)), .ok ()⟩]

end PostPlan

/-- What an invocation has seen when it hands an attempt off. -/
def handsOffAfter (current : Attempt) (plan : PostPlan) (now : Int) (call : DispatchCall) : Prop :=
  plan.current = current ∧ preflightIsFresh plan.received now = true ∧ ∃ earlier : DispatchCall,
    plan.marked.Sublist earlier ∧
      call = earlier ++ [⟨.monotonicUs, now⟩, ⟨.consume plan.reservation .add, true⟩]

/-- The rule for the calls of an invocation. -/
def postRule (call : DispatchCall) : DispatchOp → Prop
  | .handoff current => ∃ plan now, handsOffAfter current plan now call
  | _ => True

/-- Both rules: the order of the stages, and what was seen before a hand-off. -/
def orderMonitor : Monitor DispatchOp.Answer (DispatchStage × DispatchCall) :=
  dispatchMonitor.and (callMonitor postRule)

/-! ## The program keeps the order -/

namespace Dispatch

variable {env : Env} {lease : Lease} {current : FlickrGroupAddr.Attempt} {reservation : Token}
  {stage : DispatchStage} {phase : AttemptPhase} {call steps : DispatchCall} {plan : PostPlan}

/-- The program runs to a result in `post`, or throws. -/
abbrev Keeps {α : Type} (post : α → DispatchStage × DispatchCall → Prop) (stage : DispatchStage)
    (call : DispatchCall) (x : DispatchThrows α) : Prop :=
  Runs orderMonitor post (fun _ _ => True) (stage, call) x

/-- What was seen stays seen, and one more is seen. -/
theorem keeps_ask {α : Type} {post : α → DispatchStage × DispatchCall → Prop} {o : DispatchOp}
    {next : o.Answer → DispatchProg α} (hseen : steps.Sublist call)
    (hallows : stage.allows o ∧ postRule call o)
    (hnext : ∀ answer later, List.Sublist (steps ++ [⟨o, answer⟩]) later →
      Program.Follows orderMonitor post (stage.next o answer, later) (next answer)) :
    Program.Follows orderMonitor post (stage, call) (.ask o next) :=
  ⟨hallows, fun answer =>
    hnext answer _ (hseen.append (List.Sublist.refl ([⟨o, answer⟩] : DispatchCall)))⟩

theorem seen_before {o : DispatchOp} {answer : o.Answer}
    (h : List.Sublist (steps ++ [⟨o, answer⟩]) call) : steps.Sublist call :=
  (List.sublist_append_left steps _).trans h

theorem keeps_lifetime {step : LifetimeStep} {post : Unit → DispatchStage × DispatchCall → Prop}
    (hseen : steps.Sublist call) (h : ∀ later, steps.Sublist later → post () (stage, later)) :
    Keeps post stage call (lifetime step) := by
  refine keeps_ask hseen ⟨trivial, trivial⟩ ?_
  rintro (_ | _) later hlater
  · trivial
  · exact h later (seen_before hlater)

theorem keeps_fault {point : FaultPoint} {post : Unit → DispatchStage × DispatchCall → Prop}
    (hseen : steps.Sublist call) (h : ∀ later, steps.Sublist later → post () (stage, later)) :
    Keeps post stage call (fault point) := by
  refine keeps_ask hseen ⟨trivial, trivial⟩ ?_
  rintro (_ | _) later hlater
  · trivial
  · exact h later (seen_before hlater)

theorem keeps_onFlickrCode {α : Type} {code : Int} {result : α} :
    Keeps (fun _ _ => True) stage call (do
      onFlickrCode env code
      pure result) := by
  rw [Keeps, runs_bind]
  unfold onFlickrCode
  split
  · trivial
  · split
    · refine ⟨⟨trivial, trivial⟩, ?_⟩
      rintro (_ | _)
      · trivial
      · trivial
    · trivial

theorem keeps_resolve {attemptId : Token} {site : ResolutionSite}
    {post : Unit → DispatchStage × DispatchCall → Prop}
    (hsite : stage.resolves lease attemptId site) (h : ∀ later, post () (.over, later)) :
    Keeps post stage call (resolve env lease attemptId site) := by
  unfold resolve
  rw [Keeps, runs_bind]
  refine ⟨⟨trivial, trivial⟩, ?_⟩
  rintro (_ | _ | counts)
  · trivial
  · trivial
  · refine ⟨⟨hsite, trivial⟩, ?_⟩
    rintro (_ | _)
    · trivial
    · exact h _

/-- A resolution and a result. -/
theorem keeps_resolved {α : Type} {attemptId : Token} {site : ResolutionSite} {result : α}
    (hsite : stage.resolves lease attemptId site) :
    Keeps (fun _ _ => True) stage call (do
      resolve env lease attemptId site
      pure result) := by
  rw [Keeps, runs_bind]
  exact keeps_resolve hsite fun _ => trivial

theorem keeps_rateUnavailable :
    Keeps (fun _ _ => True) (.attempting lease current phase) call
      (rateUnavailable env lease current) := by
  unfold rateUnavailable
  rw [Keeps, runs_bind]
  refine ⟨⟨trivial, trivial⟩, ?_⟩
  rintro (_ | delayMs)
  · trivial
  · exact keeps_resolved ⟨current, phase, rfl, rfl⟩

theorem keeps_unavailable {error : Option DispatchFault} :
    Keeps (fun _ _ => True) (.attempting lease current phase) call
      (unavailable env lease current error) := by
  unfold unavailable
  split
  · rw [Keeps, runs_bind]
    exact keeps_resolve ⟨current, phase, rfl, rfl⟩ fun _ => keeps_onFlickrCode
  · exact keeps_resolved ⟨current, phase, rfl, rfl⟩

/-- A call whose failure is caught goes on where it failed or where it answered. -/
theorem keeps_orUnavailable {α : Type} {body : DispatchThrows α}
    {next : α → DispatchThrows PartitionResult} {after : α → DispatchStage × DispatchCall → Prop}
    (hbody : Runs orderMonitor after (fun _ t => ∃ phase, t.1 = .attempting lease current phase)
      (stage, call) body)
    (hnext : ∀ value stage later, after value (stage, later) →
      Keeps (fun _ _ => True) stage later (next value)) :
    Keeps (fun _ _ => True) stage call (orUnavailable env lease current body next) := by
  unfold orUnavailable
  rw [Keeps, runs_bind, runs_lift]
  apply Program.Follows.imp hbody
  rintro (error | value) ⟨stage, later⟩ hends
  · obtain ⟨phase, rfl⟩ := hends
    exact keeps_unavailable
  · exact hnext value stage later hends

/-- A call let through by the handle. -/
theorem keeps_consume {operation : RateOperation} (hother : operation ≠ .add)
    {post : Unit → DispatchStage × DispatchCall → Prop}
    {thrown : DispatchFault → DispatchStage × DispatchCall → Prop} (hseen : steps.Sublist call)
    (hok : ∀ later, List.Sublist (steps ++ [⟨.consume reservation operation, true⟩]) later →
      post () (stage, later))
    (hrefused : ∀ later, thrown .failed (stage, later)) :
    Runs orderMonitor post thrown (stage, call) (consume reservation operation) := by
  unfold consume
  rw [runs_bind]
  refine keeps_ask hseen ⟨trivial, trivial⟩ ?_
  rintro (_ | _) later hlater
  · cases operation with
    | membership => exact hrefused later
    | preflight => exact hrefused later
    | add => exact absurd rfl hother
  · cases operation with
    | membership => exact hok later hlater
    | preflight => exact hok later hlater
    | add => exact absurd rfl hother

theorem keeps_fresh {received : Int} {post : Bool → DispatchStage × DispatchCall → Prop}
    (h : ∀ now, post (preflightIsFresh received now) (stage, call ++ [⟨.monotonicUs, now⟩])) :
    Keeps post stage call (fresh received) := by
  unfold fresh
  rw [Keeps, runs_bind]
  exact ⟨⟨trivial, trivial⟩, h⟩

theorem keeps_expired :
    Keeps (fun _ _ => True) (.attempting lease current phase) call (expired env lease current) :=
  keeps_resolved ⟨current, phase, rfl, rfl⟩

/-- The hand-off comes right after the reading of the clock. -/
theorem keeps_handOff {earlier : DispatchCall} {now : Int} (hmarked : plan.marked.Sublist earlier)
    (hfresh : preflightIsFresh plan.received now = true) :
    Keeps (fun _ _ => True) (.attempting plan.lease plan.current .marked)
      (earlier ++ [⟨.monotonicUs, now⟩])
      (handOff env plan.lease plan.current plan.reservation) := by
  unfold handOff
  have hhanded : Runs orderMonitor
      (fun result t => t.1 = .handed plan.lease plan.current (.ok result))
      (fun error t => t.1 = .handed plan.lease plan.current (.error error) ∨
        (error = .failed ∧ t.1 = .refused plan.lease plan.current))
      (.attempting plan.lease plan.current .marked, earlier ++ [⟨.monotonicUs, now⟩])
      (do
        consume plan.reservation .add
        attempt (Prog.query (DispatchOp.handoff plan.current))) := by
    unfold consume
    simp only [runs_bind]
    refine ⟨⟨trivial, trivial⟩, ?_⟩
    rintro (_ | _)
    · exact Or.inr ⟨rfl, rfl⟩
    · refine ⟨⟨⟨plan.lease, rfl⟩, plan, now, rfl, hfresh, earlier, hmarked,
        List.append_assoc earlier _ _⟩, ?_⟩
      rintro (error | result)
      · exact Or.inl rfl
      · rfl
  rw [Keeps, runs_bind, runs_lift]
  apply Program.Follows.imp hhanded
  rintro ((_ | code | _) | result) ⟨stage, later⟩ hends
  · refine keeps_resolved ⟨plan.current, rfl, ?_⟩
    rcases hends with hhanded | ⟨_, hrefused⟩
    · exact Or.inr ⟨_, hhanded⟩
    · exact Or.inl hrefused
  · refine keeps_resolved ⟨plan.current, rfl, ?_⟩
    rcases hends with hhanded | ⟨hfailed, _⟩
    · exact Or.inr ⟨_, hhanded⟩
    · cases hfailed
  · obtain hhanded | ⟨hfailed, _⟩ := hends
    · show Keeps _ stage later (_ >>= _)
      rw [Keeps, runs_bind]
      refine ⟨⟨trivial, trivial⟩, ?_⟩
      rintro (_ | _)
      · trivial
      · exact keeps_resolved ⟨plan.current, hhanded, rfl⟩
    · cases hfailed
  · show Keeps _ stage later (_ >>= _)
    simp only [Keeps, runs_bind]
    apply keeps_fault (List.nil_sublist later)
    intro answered _
    refine keeps_resolve ⟨plan.current, hends, rfl⟩ ?_
    intro resolved
    apply keeps_fault (List.nil_sublist resolved)
    intro last _
    cases result with
    | ok => trivial
    | code code => exact keeps_onFlickrCode

theorem keeps_afterPrepare (hprepared : plan.prepared.Sublist call) :
    Keeps (fun _ _ => True) (.attempting plan.lease plan.current .preflighted) call
      (afterPrepare env plan.lease plan.current plan.reservation plan.received) := by
  unfold afterPrepare
  rw [Keeps, runs_bind]
  apply keeps_fresh
  intro now
  split
  · simp only [runs_bind]
    apply keeps_lifetime (hprepared.trans (List.sublist_append_left _ _))
    intro checked hchecked
    refine keeps_ask hchecked ⟨⟨plan.current, .preflighted, rfl, rfl, rfl⟩, trivial⟩ ?_
    rintro (_ | _) later hmarked
    · trivial
    · apply keeps_fault (show plan.marked.Sublist later from hmarked)
      intro faulted hfaulted
      apply keeps_lifetime hfaulted
      intro earlier hearlier
      apply keeps_fresh
      intro now'
      split
      · next hfresh => exact keeps_handOff hearlier hfresh
      · exact keeps_expired
  · exact keeps_expired

/-- The preflight and the reading of the clock after it. -/
theorem keeps_preflightRead (hleased : plan.leased.Sublist call) :
    Runs orderMonitor
      (fun read t => t.1 = .attempting plan.lease plan.current (.moderated read.1) ∧
        (PostPlan.preflightRead
          { plan with moderated := read.1, received := read.2 }).Sublist t.2)
      (fun _ t => ∃ phase, t.1 = .attempting plan.lease plan.current phase)
      (.attempting plan.lease plan.current .absent, call)
      (do
        consume plan.reservation .preflight
        let moderated ← attempt (Prog.query (DispatchOp.preflight plan.current))
        let received ← (ExceptT.lift (Prog.query DispatchOp.monotonicUs) : DispatchThrows Int)
        pure (moderated, received)) := by
  simp only [runs_bind]
  refine keeps_consume (by decide) hleased ?_ fun _ => ⟨.absent, rfl⟩
  intro consumed hconsumed
  refine keeps_ask hconsumed ⟨⟨plan.lease, rfl⟩, trivial⟩ ?_
  rintro (_ | moderated) answered hanswered
  · exact ⟨.absent, rfl⟩
  · refine keeps_ask hanswered ⟨trivial, trivial⟩ ?_
    intro received later hlater
    simp only [List.append_assoc] at hlater
    exact ⟨rfl, hlater⟩

theorem keeps_afterPreflight (hread : plan.preflightRead.Sublist call) :
    Keeps (fun _ _ => True) (.attempting plan.lease plan.current (.moderated plan.moderated)) call
      (do
        fault .afterPreflight
        attempt (Prog.query (DispatchOp.record plan.lease plan.current.attemptId
          (.preflight plan.moderated)))
        fault .preflightCommitted
        if ← fresh plan.received then
          lifetime .checkNew
          orUnavailable env plan.lease plan.current
            (attempt (Prog.query (DispatchOp.prepareAdd plan.current)))
            fun _ => afterPrepare env plan.lease plan.current plan.reservation plan.received
        else expired env plan.lease plan.current) := by
  simp only [Keeps, runs_bind]
  apply keeps_fault hread
  intro faulted hfaulted
  refine keeps_ask hfaulted
    ⟨⟨plan.current, .moderated plan.moderated, rfl, rfl, rfl⟩, trivial⟩ ?_
  rintro (_ | _) recorded hrecorded
  · trivial
  apply keeps_fault (show plan.preflighted.Sublist recorded from hrecorded)
  intro committed hcommitted
  apply keeps_fresh
  intro now
  split
  · show Keeps _ _ _ (_ >>= _)
    rw [Keeps, runs_bind]
    apply keeps_lifetime (hcommitted.trans (List.sublist_append_left _ _))
    intro checked hchecked
    have hprepare : Runs orderMonitor
        (fun _ t => t.1 = .attempting plan.lease plan.current .preflighted ∧
          plan.prepared.Sublist t.2)
        (fun _ t => ∃ phase, t.1 = .attempting plan.lease plan.current phase)
        (.attempting plan.lease plan.current .preflighted, checked)
        (attempt (Prog.query (DispatchOp.prepareAdd plan.current))) := by
      refine keeps_ask hchecked ⟨trivial, trivial⟩ ?_
      rintro (_ | _) later hprepared
      · exact ⟨.preflighted, rfl⟩
      · exact ⟨rfl, hprepared⟩
    apply keeps_orUnavailable hprepare
    rintro _ _ later ⟨rfl, hprepared⟩
    exact keeps_afterPrepare hprepared
  · exact keeps_expired

theorem keeps_afterMembership (habsent : plan.absent.Sublist call) :
    Keeps (fun _ _ => True) (.attempting plan.lease plan.current .absent) call
      (afterMembership env plan.lease plan.current plan.reservation) := by
  unfold afterMembership
  simp only [Keeps, runs_bind]
  apply keeps_fault habsent
  intro faulted hfaulted
  apply keeps_lifetime hfaulted
  intro checking hchecking
  refine keeps_ask hchecking ⟨trivial, trivial⟩ ?_
  rintro (_ | _ | _) checked hchecked
  · trivial
  · exact keeps_rateUnavailable
  show Keeps _ _ _ (_ >>= _)
  rw [Keeps, runs_bind]
  refine keeps_ask hchecked ⟨trivial, trivial⟩ ?_
  rintro (_ | _ | _) leased hleased
  · trivial
  · show Keeps _ (.attempting plan.lease plan.current .absent) leased
      (unavailable env plan.lease plan.current none)
    exact keeps_unavailable
  show Keeps _ _ _ (_ >>= _)
  rw [Keeps, runs_bind]
  apply keeps_lifetime hleased
  intro reading hreading
  have hhalf : plan.leased.Sublist reading := by simpa [PostPlan.leased] using hreading
  apply keeps_orUnavailable (keeps_preflightRead hhalf)
  rintro ⟨moderated, received⟩ _ later ⟨rfl, hread⟩
  exact keeps_afterPreflight hread

theorem keeps_membershipRead
    (hchecked : List.Sublist (plan.begun ++ [⟨.check plan.reservation plan.current, .ok true⟩])
      call) :
    Runs orderMonitor
      (fun present t => t.1 = .attempting plan.lease plan.current (.looked present) ∧
        List.Sublist (plan.begun ++
          [⟨.check plan.reservation plan.current, .ok true⟩,
            ⟨.consume plan.reservation .membership, true⟩,
            ⟨.membership plan.current, .ok present⟩]) t.2)
      (fun _ t => ∃ phase, t.1 = .attempting plan.lease plan.current phase)
      (.attempting plan.lease plan.current .begun, call)
      (do
        consume plan.reservation .membership
        attempt (Prog.query (DispatchOp.membership plan.current))) := by
  rw [runs_bind]
  refine keeps_consume (by decide) hchecked ?_ fun _ => ⟨.begun, rfl⟩
  intro consumed hconsumed
  refine keeps_ask hconsumed ⟨⟨plan.lease, rfl⟩, trivial⟩ ?_
  rintro (_ | present) later hlater
  · exact ⟨.begun, rfl⟩
  · simp only [List.append_assoc] at hlater
    exact ⟨rfl, hlater⟩

theorem keeps_attempted (hbegun : plan.begun.Sublist call) :
    Keeps (fun _ _ => True) (.attempting plan.lease plan.current .begun) call
      (attempted env plan.lease plan.current plan.reservation) := by
  unfold attempted
  simp only [Keeps, runs_bind]
  apply keeps_fault hbegun
  intro faulted hfaulted
  apply keeps_lifetime hfaulted
  intro checking hchecking
  refine keeps_ask hchecking ⟨trivial, trivial⟩ ?_
  rintro (_ | _ | _) checked hchecked
  · trivial
  · exact keeps_rateUnavailable
  show Keeps _ _ _ (_ >>= _)
  rw [Keeps, runs_bind]
  apply keeps_lifetime hchecked
  intro reading hreading
  apply keeps_orUnavailable (keeps_membershipRead hreading)
  rintro present _ read ⟨rfl, hread⟩
  simp only [Keeps, runs_bind]
  apply keeps_fault hread
  intro faulted' hfaulted'
  refine keeps_ask hfaulted' ⟨⟨plan.current, .looked present, rfl, rfl, rfl⟩, trivial⟩ ?_
  rintro (_ | _) recorded hrecorded
  · trivial
  apply keeps_fault hrecorded
  intro committed hcommitted
  cases present with
  | true => exact keeps_resolved ⟨plan.current, rfl, rfl⟩
  | false => exact keeps_afterMembership (show plan.absent.Sublist committed from hcommitted)

theorem keeps_underLease {partitionId : Token} {revision : Option Nat} (hclaimed : List.Sublist
    [⟨.claim partitionId revision defaultLeasePolicy, .ok (some lease)⟩] call) :
    Keeps (fun _ _ => True) (.claimed lease) call (underLease env lease) := by
  unfold underLease
  simp only [Keeps, runs_bind]
  apply keeps_lifetime hclaimed
  intro asking hasking
  refine keeps_ask hasking ⟨rfl, trivial⟩ ?_
  rintro (_ | _ | old) asked hasked
  · trivial
  · show Keeps _ _ _ (_ >>= _)
    simp only [Keeps, runs_bind]
    apply keeps_lifetime hasked
    intro starting hstarting
    refine keeps_ask hstarting ⟨rfl, trivial⟩ ?_
    rintro (_ | current) started hstarted
    · trivial
    apply keeps_lifetime hstarted
    intro reserving hreserving
    rw [runs_lift]
    refine keeps_ask hreserving ⟨trivial, trivial⟩ ?_
    rintro (_ | reservation) reserved hreserved
    · exact keeps_rateUnavailable
    · refine runs_releasing ?_ (fun _ => ⟨trivial, trivial⟩) fun _ _ => ⟨trivial, trivial⟩
      let plan : PostPlan := ⟨partitionId, revision, lease, current, reservation, false, 0⟩
      exact keeps_attempted (show plan.begun.Sublist reserved from hreserved)
  · show Keeps _ _ _ (_ >>= _)
    simp only [Keeps, runs_bind]
    apply keeps_lifetime hasked
    intro recovering _
    exact keeps_resolve ⟨old, rfl, rfl, rfl⟩ fun _ => trivial

theorem keeps_consumePartition {enabled : Bool} {artifact : Option String} {partitionId : Token}
    {revision : Option Nat} :
    Keeps (fun _ _ => True) .idle [] (consumePartition enabled artifact partitionId revision) := by
  unfold consumePartition
  rw [Keeps, runs_bind]
  apply keeps_lifetime (List.nil_sublist _)
  intro looking _
  split
  · trivial
  rw [runs_bind]
  refine keeps_ask (List.nil_sublist looking) ⟨trivial, trivial⟩ ?_
  rintro (_ | _ | userId) owned _
  · trivial
  · trivial
  show Keeps _ _ _ (_ >>= _)
  simp only [Keeps, runs_bind]
  refine keeps_ask (List.nil_sublist owned) ⟨trivial, trivial⟩ ?_
  rintro (_ | snapshot) granted _
  · trivial
  apply keeps_lifetime (List.nil_sublist granted)
  intro authorized _
  unfold runPartition
  simp only [runs_bind]
  apply keeps_lifetime (List.nil_sublist authorized)
  intro checked _
  apply keeps_lifetime (List.nil_sublist checked)
  intro claiming _
  refine keeps_ask (List.nil_sublist claiming) ⟨rfl, trivial⟩ ?_
  rintro (_ | _ | lease) claimed hclaimed
  · trivial
  · trivial
  · exact keeps_underLease hclaimed

end Dispatch

theorem dispatchMachine_orders {program : Prog DispatchOp.Answer Unit}
    (h : dispatchMachine.program program) :
    Program.Follows orderMonitor (fun _ _ => True) (.idle, []) program := by
  obtain ⟨enabled, artifact, partitionId, revision, rfl⟩ := h
  rw [follows_bind]
  apply Program.Follows.imp Dispatch.keeps_consumePartition
  intro _ _ _
  trivial

theorem dispatchMachine_follows (program : Prog DispatchOp.Answer Unit)
    (h : dispatchMachine.program program) :
    Program.Follows dispatchMonitor (fun _ _ => True) .idle program :=
  Program.Follows.fst (dispatchMachine_orders h) fun _ _ => id

theorem dispatchMachine_obeys (program : Prog DispatchOp.Answer Unit)
    (h : dispatchMachine.program program) :
    Program.Follows (callMonitor postRule) (fun _ _ => True) [] program :=
  Program.Follows.snd (dispatchMachine_orders h) fun _ _ => id

end FlickrGroupAddr

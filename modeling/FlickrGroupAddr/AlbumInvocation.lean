import FlickrGroupAddr.Schema
import FlickrGroupAddr.Lib.Program

/-!
# The invocation of an album worker

The three album workers share how an invocation watches its time: `remainingMs`,
`bounded` and `assertCurrent` of `album_materialization_worker.ts`,
`album_attachment_worker.ts` and `album_title_worker.ts`.
-/

namespace FlickrGroupAddr

set_option autoImplicit false

open Program

/-- What the helpers of a worker are made of: its clock, what it throws when its time is over,
and how long it may run. -/
structure Invocation {ω : Type} (Ans : ω → Type) (ε : Type) where
  monotonicMs : Prog Ans Int
  expired : ε
  invocationMs : Int

namespace Invocation

variable {ω : Type} {Ans : ω → Type} {S ε α : Type} (inv : Invocation Ans ε) (started : Int)

def remainingMs : Throws Ans ε Int := do
  let now ← attempt (Except.ok <$> inv.monotonicMs)
  let elapsed := now - started
  if elapsed < 0 then throw inv.expired else pure (inv.invocationMs - elapsed)

/-- `bounded`; an operation that takes too long throws, whatever becomes of it. -/
def bounded (operation : Prog Ans (Except ε α)) : Throws Ans ε α := do
  let remaining ← inv.remainingMs started
  if remaining ≤ 0 then throw inv.expired
  else do
    let result ← attempt operation
    let remaining ← inv.remainingMs started
    if remaining ≤ 0 then throw inv.expired else pure result

def assertCurrent (current : Us → Prog Ans (Except ε Bool)) (requiredMs : Int) :
    Throws Ans ε Unit := do
  let remaining ← inv.remainingMs started
  if remaining ≤ requiredMs then throw inv.expired
  else do
    let isCurrent ← inv.bounded started (current (requiredMs * 1000))
    if isCurrent = false then throw inv.expired
    else do
      let remaining ← inv.remainingMs started
      if remaining ≤ requiredMs then throw inv.expired else pure ()

/-! ## Under a monitor that does not mind the time -/

variable {inv started} {m : Monitor Ans S} {s : S} {post : α → S → Prop}
  {thrown : ε → S → Prop}

/-- The program leaves the monitor as it was. -/
def Quiet (m : Monitor Ans S) (p : Prog Ans α) : Prop :=
  ∀ s, Follows m (fun _ t => t = s) s p

theorem Quiet.follows {p : Prog Ans α} (h : Quiet m p) (hpost : ∀ result, post result s) :
    Follows m post s p := by
  apply (h s).imp
  intro result t ht
  rw [ht]
  exact hpost result

theorem follows_map {β : Type} {p : Prog Ans α} {f : α → β} {post : β → S → Prop} :
    Follows m post s (f <$> p) ↔ Follows m (fun result t => post (f result) t) s p := follows_bind

theorem runs_remainingMs {post : Int → S → Prop} (hclock : Quiet m inv.monotonicMs)
    (hpost : ∀ remaining, post remaining s) (hthrown : thrown inv.expired s) :
    Runs m post thrown s (inv.remainingMs started) := by
  unfold remainingMs
  rw [runs_bind, runs_attempt, follows_map]
  apply hclock.follows
  intro now
  unfold ends
  dsimp only
  split
  · exact hthrown
  · exact hpost _

theorem runs_bounded {operation : Prog Ans (Except ε α)} (hclock : Quiet m inv.monotonicMs)
    (hbefore : thrown inv.expired s) (hafter : ∀ result t, post result t → thrown inv.expired t)
    (hoperation : Follows m (ends post thrown) s operation) :
    Runs m post thrown s (inv.bounded started operation) := by
  unfold bounded
  rw [runs_bind]
  refine runs_remainingMs hclock ?_ hbefore
  intro remaining
  split
  · exact hbefore
  · rw [runs_bind, runs_attempt]
    apply hoperation.imp
    intro result t hresult
    cases result with
    | error e => exact hresult
    | ok result =>
        refine Iff.mpr runs_bind ?_
        have hexpired := hafter result t hresult
        refine runs_remainingMs hclock ?_ hexpired
        intro remaining
        split
        · exact hexpired
        · exact hresult

/-- An operation that the monitor does not mind. -/
theorem runs_bounded_of_quiet {operation : Prog Ans (Except ε α)}
    (hclock : Quiet m inv.monotonicMs) (hthrown : ∀ e t, thrown e t)
    (hquiet : Quiet m operation) (hpost : ∀ result, post result s) :
    Runs m post thrown s (inv.bounded started operation) := by
  apply runs_bounded hclock (hthrown _ s) fun _ _ _ => hthrown _ _
  apply hquiet.follows
  intro result
  cases result with
  | error e => exact hthrown e s
  | ok result => exact hpost result

theorem runs_assertCurrent {current : Us → Prog Ans (Except ε Bool)} {requiredMs : Int}
    {post : Unit → S → Prop} (hclock : Quiet m inv.monotonicMs)
    (hcurrent : ∀ us, Quiet m (current us)) (hthrown : ∀ e t, thrown e t) (hpost : post () s) :
    Runs m post thrown s (inv.assertCurrent started current requiredMs) := by
  unfold assertCurrent
  rw [runs_bind]
  refine runs_remainingMs hclock ?_ (hthrown _ s)
  intro remaining
  split
  · exact hthrown _ s
  · rw [runs_bind]
    apply runs_bounded hclock (hthrown _ s) fun _ _ _ => hthrown _ _
    apply (hcurrent _).follows
    intro result
    cases result with
    | error e => exact hthrown e s
    | ok isCurrent =>
        unfold ends
        dsimp only
        split
        · exact hthrown _ s
        · rw [runs_bind]
          refine runs_remainingMs hclock ?_ (hthrown _ s)
          intro remaining
          split
          · exact hthrown _ s
          · exact hpost

end Invocation

end FlickrGroupAddr

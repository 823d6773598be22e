import FlickrGroupAddr.Lib.Handoff
import FlickrGroupAddr.Lib.Workers

/-!
# Granted hand-offs

Workers over one store hand keys off to the outside.  An answer of the store grants the
hand-off of a key and marks the key; a key is granted only while it is not marked.
Whatever a monitor makes a worker remember, the worker then hands off a key at most
once, and a marked key that nobody holds is never handed off again.
-/

namespace Workers

set_option autoImplicit false

open Program Transition Handoff

variable {σ ω ι S κ : Type} {Ans : ω → Type}

/-- The keys that were handed off, newest first. -/
def handedOff (handed? : ω → Option κ) (log : List (Entry ι Ans)) : List κ :=
  log.filterMap fun entry => handed? entry.op

theorem handedOff_cons_some {handed? : ω → Option κ} {log : List (Entry ι Ans)}
    {entry : Entry ι Ans} {k : κ} (h : handed? entry.op = some k) :
    handedOff handed? (entry :: log) = k :: handedOff handed? log := by
  simp [handedOff, h]

theorem handedOff_cons_none {handed? : ω → Option κ} {log : List (Entry ι Ans)}
    {entry : Entry ι Ans} (h : handed? entry.op = none) :
    handedOff handed? (entry :: log) = handedOff handed? log := by
  simp [handedOff, h]

/-- How the store grants the hand-off of a key, and how long a worker holds it. -/
structure Grants (machine : Machine σ Ans) (m : Monitor Ans S) (start : S) (held? : S → Option κ)
    (marked : σ → κ → Prop) (granted? : (o : ω) → Ans o → Option κ) (handed? : ω → Option κ) :
    Prop where
  start : held? start = none
  holds : ∀ s o answer k, m.allows s o → held? (m.next s o answer) = some k →
    granted? o answer = some k ∨ (held? s = some k ∧ handed? o = none)
  hands : ∀ s o k, m.allows s o → handed? o = some k → held? s = some k
  apart : ∀ o answer k, granted? o answer = some k → handed? o = none
  serves : ∀ store o answer store' k, machine.serve store o answer store' →
    granted? o answer = some k → ¬ marked store k ∧ marked store' k
  loses : ∀ o answer, machine.lost o answer → granted? o answer = none
  kept : ∀ store o answer store' k, machine.serve store o answer store' → marked store k →
    marked store' k
  external : ∀ store store' k, machine.external store store' → marked store k → marked store' k

namespace Grants

variable [DecidableEq ι] {machine : Machine σ Ans} {m : Monitor Ans S} {start : S}
  {held? : S → Option κ} {marked : σ → κ → Prop} {granted? : (o : ω) → Ans o → Option κ}
  {handed? : ω → Option κ}

/-- What an answered operation does to the hand-offs. -/
theorem asked (h : Grants machine m start held? marked granted? handed?) {store store' : σ}
    {seen : ι → S} {log : List (Entry ι Ans)} {i : ι} {o : ω} {answer : Ans o}
    (honce : Once held? (marked store) seen (handedOff handed? log))
    (hallows : m.allows (seen i) o) (hkept : ∀ k, marked store k → marked store' k)
    (hgranted : ∀ k, granted? o answer = some k → ¬ marked store k ∧ marked store' k) :
    Once held? (marked store') (Function.update seen i (m.next (seen i) o answer))
      (handedOff handed? (⟨i, o, answer⟩ :: log)) := by
  have hmono := honce.mono hkept
  cases hhanded : handed? o with
  | some k =>
      have hdropped : held? (m.next (seen i) o answer) = none := by
        cases hheld : held? (m.next (seen i) o answer) with
        | none => rfl
        | some other =>
            rcases h.holds _ o answer other hallows hheld with hgrant | ⟨_, hnone⟩
            · rw [h.apart o answer other hgrant] at hhanded
              cases hhanded
            · rw [hnone] at hhanded
              cases hhanded
      rw [handedOff_cons_some hhanded]
      exact hmono.handOff (h.hands _ o k hallows hhanded) hdropped
  | none =>
      rw [handedOff_cons_none hhanded]
      by_cases hgrant : ∃ k, granted? o answer = some k ∧ held? (m.next (seen i) o answer) = some k
      · obtain ⟨k, hgrant, hheld⟩ := hgrant
        obtain ⟨hfree, hmarked⟩ := hgranted k hgrant
        exact honce.take hfree hkept hmarked hheld
      · apply hmono.move
        intro k hheld
        rcases h.holds _ o answer k hallows hheld with hnew | ⟨hold, _⟩
        · exact absurd ⟨k, hnew, hheld⟩ hgrant
        · exact hold

variable {w w' : Watch σ ι S Ans} {act : Act ι Ans}

theorem step (h : Grants machine m start held? marked granted? handed?)
    (hstep : WatchStep machine m start w act w')
    (honce : Once held? (marked w.store) w.seen (handedOff handed? w.log)) :
    Once held? (marked w'.store) w'.seen (handedOff handed? w'.log) := by
  cases hstep with
  | external hexternal => exact honce.mono fun k => h.external _ _ k hexternal
  | start => exact honce.drop h.start
  | perform hallows hserve =>
      exact h.asked honce hallows (fun k => h.kept _ _ _ _ k hserve) fun k =>
        h.serves _ _ _ _ k hserve
  | lose hallows hlost =>
      apply h.asked honce hallows fun _ => id
      intro k hgranted
      rw [h.loses _ _ hlost] at hgranted
      cases hgranted
  | late _ hserve => exact honce.mono fun k => h.kept _ _ _ _ k hserve
  | crash => exact honce.drop h.start

/-- In every reachable watched pool each key was handed off at most once, under its mark. -/
theorem once (h : Grants machine m start held? marked granted? handed?) {init : σ → Prop}
    (hw : Reachable (WatchStep machine m start) (WatchInitial init start) w) :
    Once held? (marked w.store) w.seen (handedOff handed? w.log) := by
  apply Reachable.invariant hw
  · intro first hfirst
    rw [hfirst.log]
    apply Once.initially
    intro i
    rw [hfirst.seen i]
    exact h.start
  · intro before act after hbefore hstep
    exact h.step hstep hbefore

/-- A marked key that nobody holds stays so and is not handed off. -/
theorem closed_step (h : Grants machine m start held? marked granted? handed?) {k : κ}
    (hstep : WatchStep machine m start w act w') (hmarked : marked w.store k)
    (hfree : ∀ i, held? (w.seen i) ≠ some k) :
    marked w'.store k ∧ (∀ i, held? (w'.seen i) ≠ some k) ∧
      (k ∈ handedOff handed? w'.log → k ∈ handedOff handed? w.log) := by
  have hupdate : ∀ i s, held? s ≠ some k → ∀ j, held? (Function.update w.seen i s j) ≠ some k := by
    intro i s hs j
    by_cases hj : j = i
    · subst hj
      rw [Function.update_self]
      exact hs
    · rw [Function.update_of_ne hj]
      exact hfree j
  have hstart : held? start ≠ some k := by
    rw [h.start]
    exact Option.some_ne_none k |>.symm
  have hasked : ∀ i o answer, m.allows (w.seen i) o → granted? o answer ≠ some k →
      (∀ j, held? (Function.update w.seen i (m.next (w.seen i) o answer) j) ≠ some k) ∧
        (k ∈ handedOff handed? (⟨i, o, answer⟩ :: w.log) → k ∈ handedOff handed? w.log) := by
    intro i o answer hallows hgranted
    constructor
    · apply hupdate
      intro hheld
      rcases h.holds _ o answer k hallows hheld with hnew | ⟨hold, _⟩
      · exact hgranted hnew
      · exact hfree i hold
    · intro hmem
      cases hhanded : handed? o with
      | none => rwa [handedOff_cons_none hhanded] at hmem
      | some other =>
          rw [handedOff_cons_some hhanded] at hmem
          rcases List.mem_cons.mp hmem with rfl | hmem
          · exact absurd (h.hands _ o k hallows hhanded) (hfree i)
          · exact hmem
  cases hstep with
  | external hexternal => exact ⟨h.external _ _ k hexternal hmarked, hfree, id⟩
  | start => exact ⟨hmarked, hupdate _ _ hstart, id⟩
  | @perform i o answer store hallows hserve =>
      refine ⟨h.kept _ _ _ _ k hserve hmarked, hasked i o answer hallows ?_⟩
      intro hgranted
      exact (h.serves _ _ _ _ k hserve hgranted).1 hmarked
  | @lose i o answer hallows hlost =>
      refine ⟨hmarked, hasked i o answer hallows ?_⟩
      rw [h.loses _ _ hlost]
      exact (Option.some_ne_none k).symm
  | late _ hserve => exact ⟨h.kept _ _ _ _ k hserve hmarked, hfree, id⟩
  | crash => exact ⟨hmarked, hupdate _ _ hstart, id⟩

theorem closed_run (h : Grants machine m start held? marked granted? handed?) {k : κ}
    {trace : List (Move (Watch σ ι S Ans) (Act ι Ans))}
    (hrun : Run (WatchStep machine m start) w trace w') (hmarked : marked w.store k)
    (hfree : ∀ i, held? (w.seen i) ≠ some k) :
    marked w'.store k ∧ (∀ i, held? (w'.seen i) ≠ some k) ∧
      (k ∈ handedOff handed? w'.log → k ∈ handedOff handed? w.log) := by
  induction hrun with
  | nil => exact ⟨hmarked, hfree, id⟩
  | snoc _ hlast ih =>
      obtain ⟨hmarked, hfree, hlog⟩ := ih
      obtain ⟨hmarked', hfree', hlog'⟩ := h.closed_step hlast hmarked hfree
      exact ⟨hmarked', hfree', fun hmem => hlog (hlog' hmem)⟩

end Grants

end Workers

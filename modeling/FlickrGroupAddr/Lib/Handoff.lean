import Mathlib.Data.List.Nodup
import Mathlib.Logic.Function.Basic

/-!
# Handing off once

Workers of a pool take a key from a store by marking it there, hold the key for a
while, and hand it off to the outside.  A worker can lose its key at any time, and a
mark is never removed.  If a key is taken only while it is not marked, then it is
handed off at most once, however the workers interleave.
-/

namespace Handoff

set_option autoImplicit false

universe u v w

variable {ι : Type u} {φ : Type v} {κ : Type w}

/-- Every key that is held or was handed off is marked; no key is held twice, held
after it was handed off, or handed off twice. -/
structure Once (held? : φ → Option κ) (marked : κ → Prop) (pool : ι → φ) (handed : List κ) :
    Prop where
  marked_held : ∀ i k, held? (pool i) = some k → marked k
  marked_handed : ∀ k ∈ handed, marked k
  single : ∀ i j k, held? (pool i) = some k → held? (pool j) = some k → i = j
  pending : ∀ i k, held? (pool i) = some k → k ∉ handed
  nodup : handed.Nodup

variable {held? : φ → Option κ} {marked marked' : κ → Prop} {pool : ι → φ} {handed : List κ}

/-- Nobody holds a key at the start. -/
theorem Once.initially (h : ∀ i, held? (pool i) = none) : Once held? marked pool [] := by
  have hnone : ∀ i k, held? (pool i) ≠ some k := by
    intro i k hheld
    rw [h i] at hheld
    cases hheld
  refine ⟨?_, ?_, ?_, ?_, List.nodup_nil⟩
  · intro i k hheld
    exact absurd hheld (hnone i k)
  · intro k hmem
    exact absurd hmem List.not_mem_nil
  · intro i j k hheld
    exact absurd hheld (hnone i k)
  · intro i k hheld
    exact absurd hheld (hnone i k)

/-- Marks may be added. -/
theorem Once.mono (h : Once held? marked pool handed) (hmarked : ∀ k, marked k → marked' k) :
    Once held? marked' pool handed := by
  refine ⟨?_, ?_, h.single, h.pending, h.nodup⟩
  · intro i k hheld
    exact hmarked k (h.marked_held i k hheld)
  · intro k hmem
    exact hmarked k (h.marked_handed k hmem)

variable [DecidableEq ι]

/-- A worker moves on with the key it holds, or without it. -/
theorem Once.move (h : Once held? marked pool handed) {i : ι} {phase : φ}
    (hphase : ∀ k, held? phase = some k → held? (pool i) = some k) :
    Once held? marked (Function.update pool i phase) handed := by
  have hold : ∀ j k, held? (Function.update pool i phase j) = some k →
      held? (pool j) = some k := by
    intro j k hheld
    by_cases hj : j = i
    · subst hj
      rw [Function.update_self] at hheld
      exact hphase k hheld
    · rwa [Function.update_of_ne hj] at hheld
  refine ⟨?_, h.marked_handed, ?_, ?_, h.nodup⟩
  · intro j k hheld
    exact h.marked_held j k (hold j k hheld)
  · intro j j' k hj hj'
    exact h.single j j' k (hold j k hj) (hold j' k hj')
  · intro j k hheld
    exact h.pending j k (hold j k hheld)

/-- A worker drops its key. -/
theorem Once.drop (h : Once held? marked pool handed) {i : ι} {phase : φ}
    (hphase : held? phase = none) :
    Once held? marked (Function.update pool i phase) handed := by
  apply h.move
  intro k hheld
  rw [hphase] at hheld
  cases hheld

/-- A worker marks a key and takes it. -/
theorem Once.take (h : Once held? marked pool handed) {i : ι} {phase : φ} {k : κ}
    (hfree : ¬ marked k) (hmarked : ∀ k, marked k → marked' k) (hk : marked' k)
    (hphase : held? phase = some k) :
    Once held? marked' (Function.update pool i phase) handed := by
  have hcases : ∀ j l, held? (Function.update pool i phase j) = some l →
      (j = i ∧ l = k) ∨ (j ≠ i ∧ held? (pool j) = some l) := by
    intro j l hheld
    by_cases hj : j = i
    · subst hj
      rw [Function.update_self, hphase] at hheld
      exact Or.inl ⟨rfl, (Option.some.inj hheld).symm⟩
    · rw [Function.update_of_ne hj] at hheld
      exact Or.inr ⟨hj, hheld⟩
  refine ⟨?_, ?_, ?_, ?_, h.nodup⟩
  · intro j l hheld
    rcases hcases j l hheld with ⟨_, rfl⟩ | ⟨_, hold⟩
    · exact hk
    · exact hmarked l (h.marked_held j l hold)
  · intro l hmem
    exact hmarked l (h.marked_handed l hmem)
  · intro j j' l hj hj'
    rcases hcases j l hj with ⟨rfl, rfl⟩ | ⟨_, hold⟩
    · rcases hcases j' l hj' with ⟨rfl, _⟩ | ⟨_, hold'⟩
      · rfl
      · exact absurd (h.marked_held j' l hold') hfree
    · rcases hcases j' l hj' with ⟨rfl, rfl⟩ | ⟨_, hold'⟩
      · exact absurd (h.marked_held j l hold) hfree
      · exact h.single j j' l hold hold'
  · intro j l hheld hmem
    rcases hcases j l hheld with ⟨_, rfl⟩ | ⟨_, hold⟩
    · exact hfree (h.marked_handed l hmem)
    · exact h.pending j l hold hmem

/-- A worker hands off the key it holds. -/
theorem Once.handOff (h : Once held? marked pool handed) {i : ι} {phase : φ} {k : κ}
    (hheld : held? (pool i) = some k) (hphase : held? phase = none) :
    Once held? marked (Function.update pool i phase) (k :: handed) := by
  have hdropped := @Once.drop _ _ _ _ _ _ _ _ h i _ hphase
  refine ⟨hdropped.marked_held, ?_, hdropped.single, ?_, ?_⟩
  · intro l hmem
    rcases List.mem_cons.mp hmem with rfl | hmem
    · exact h.marked_held i l hheld
    · exact h.marked_handed l hmem
  · intro j l hj hmem
    have hne : j ≠ i := by
      rintro rfl
      rw [Function.update_self, hphase] at hj
      cases hj
    rw [Function.update_of_ne hne] at hj
    rcases List.mem_cons.mp hmem with rfl | hmem
    · exact hne (h.single j i l hj hheld)
    · exact h.pending j l hj hmem
  · exact List.nodup_cons.mpr ⟨h.pending i k hheld, h.nodup⟩

end Handoff

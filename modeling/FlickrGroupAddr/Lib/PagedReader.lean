import Mathlib.Data.List.Basic

/-!
# Paged readers

A reader asks for one page after another: what it asks for depends on its state, and each
reply either moves the state on or ends the reading.  It asks a bounded number of times.
-/

namespace PagedReader

set_option autoImplicit false

/-- What a reply does. -/
inductive Next (σ α : Type) where
  | more (state : σ)
  | done (result : α)

/-- A reader of replies, and what it asks for in a state. -/
structure Reader (σ ρ α κ : Type) where
  ask : σ → κ
  step : σ → ρ → Next σ α

namespace Reader

variable {σ ρ α κ : Type} (r : Reader σ ρ α κ)

/-- What a reader asks for, in order. -/
def asked : ℕ → σ → List ρ → List κ
  | 0, _, _ => []
  | _ + 1, state, [] => [r.ask state]
  | rounds + 1, state, reply :: replies =>
    r.ask state ::
      match r.step state reply with
      | .more next => asked rounds next replies
      | .done _ => []

/-- What the reading ends with: none while a reply is waited for, and `spent` when the
reader has asked too often. -/
def result (spent : α) : ℕ → σ → List ρ → Option α
  | 0, _, _ => some spent
  | _ + 1, _, [] => none
  | rounds + 1, state, reply :: replies =>
    match r.step state reply with
    | .more next => result spent rounds next replies
    | .done found => some found

variable {r}

/-- Everything asked is asked in a state of the invariant. -/
theorem mem_asked (Inv : σ → Prop)
    (hstep : ∀ state reply next, Inv state → r.step state reply = .more next → Inv next)
    {rounds : ℕ} {state : σ} {replies : List ρ} (h : Inv state) {question : κ}
    (hmem : question ∈ r.asked rounds state replies) : ∃ later, Inv later ∧ question = r.ask later := by
  induction rounds generalizing state replies with
  | zero => simp [asked] at hmem
  | succ rounds ih =>
      cases replies with
      | nil => exact ⟨state, h, by simpa [asked] using hmem⟩
      | cons reply replies =>
          rw [asked] at hmem
          rcases List.mem_cons.mp hmem with hfirst | hrest
          · exact ⟨state, h, hfirst⟩
          · split at hrest
            · next next hnext => exact ih (hstep state reply next h hnext) hrest
            · simp at hrest

end Reader

end PagedReader

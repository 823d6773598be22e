import Mathlib.Order.Defs.Unbundled
import Mathlib.Data.List.Induction
import Mathlib.Logic.Relation

/-!
# Labelled runs

A labelled step relation `step s a t` says that the system in `s` can do `a` and
then be in `t`.  A run is a finite sequence of such steps together with the trace
of the moves it made.  The rules below are the ones safety arguments use: the
invariant rule and the rule for a preorder that every step respects.
-/

namespace Transition

set_option autoImplicit false

universe u v

/-- One move of a run: where it started, what was done, where it led. -/
structure Move (σ : Type u) (α : Type v) where
  src : σ
  label : α
  dst : σ

variable {σ : Type u} {α : Type v}

/-- `Run step s trace t`: the moves of `trace`, in order, lead from `s` to `t`. -/
inductive Run (step : σ → α → σ → Prop) : σ → List (Move σ α) → σ → Prop
  | nil (s : σ) : Run step s [] s
  | snoc {s t u : σ} {trace : List (Move σ α)} {a : α} :
      Run step s trace t → step t a u → Run step s (trace ++ [⟨t, a, u⟩]) u

/-- The states some run from an initial state ends in. -/
def Reachable (step : σ → α → σ → Prop) (init : σ → Prop) (t : σ) : Prop :=
  ∃ s trace, init s ∧ Run step s trace t

variable {step : σ → α → σ → Prop}

theorem Run.single {s t : σ} {a : α} (h : step s a t) : Run step s [⟨s, a, t⟩] t :=
  Run.snoc (Run.nil s) h

theorem Run.append {s t u : σ} {front back : List (Move σ α)}
    (hfront : Run step s front t) (hback : Run step t back u) :
    Run step s (front ++ back) u := by
  induction hback with
  | nil => simpa using hfront
  | snoc _ hstep ih =>
      rw [← List.append_assoc]
      exact Run.snoc ih hstep

theorem Run.cons {s t u : σ} {a : α} {trace : List (Move σ α)}
    (hstep : step s a t) (hrun : Run step t trace u) : Run step s (⟨s, a, t⟩ :: trace) u :=
  Run.append (Run.single hstep) hrun

/-- The last move of a run ends where the run does. -/
theorem Run.unsnoc {s u : σ} {front : List (Move σ α)} {move : Move σ α}
    (hrun : Run step s (front ++ [move]) u) :
    Run step s front move.src ∧ step move.src move.label move.dst ∧ move.dst = u := by
  generalize htrace : front ++ [move] = trace at hrun
  cases hrun with
  | nil => simp at htrace
  | snoc hfront hstep =>
      obtain ⟨rfl, hmove⟩ := List.append_inj' htrace rfl
      cases hmove
      exact ⟨hfront, hstep, rfl⟩

/-- A run splits wherever its trace does. -/
theorem Run.split {s u : σ} {front back : List (Move σ α)}
    (hrun : Run step s (front ++ back) u) :
    ∃ t, Run step s front t ∧ Run step t back u := by
  induction back using List.reverseRecOn generalizing u with
  | nil => exact ⟨u, by simpa using hrun, Run.nil u⟩
  | append_singleton back move ih =>
      rw [← List.append_assoc] at hrun
      obtain ⟨hfront, hstep, rfl⟩ := Run.unsnoc hrun
      obtain ⟨t, hfront, hback⟩ := ih hfront
      exact ⟨t, hfront, Run.snoc hback hstep⟩

/-- The first move of a run starts where the run does. -/
theorem Run.uncons {s u : σ} {move : Move σ α} {trace : List (Move σ α)}
    (hrun : Run step s (move :: trace) u) :
    move.src = s ∧ step s move.label move.dst ∧ Run step move.dst trace u := by
  rw [← List.singleton_append] at hrun
  obtain ⟨t, hhead, htail⟩ := Run.split hrun
  rw [← List.nil_append [move]] at hhead
  obtain ⟨hempty, hstep, rfl⟩ := Run.unsnoc hhead
  generalize hnil : ([] : List (Move σ α)) = none at hempty
  cases hempty with
  | nil => exact ⟨rfl, hstep, htail⟩
  | snoc => simp at hnil

/-- Every move of a run is a step, with the run before it and the run after it. -/
theorem Run.around {s u : σ} {front back : List (Move σ α)} {move : Move σ α}
    (hrun : Run step s (front ++ move :: back) u) :
    Run step s front move.src ∧ step move.src move.label move.dst ∧
      Run step move.dst back u := by
  obtain ⟨t, hfront, hrest⟩ := Run.split hrun
  obtain ⟨rfl, hstep, hback⟩ := Run.uncons hrest
  exact ⟨hfront, hstep, hback⟩

/-- The states a run goes through. -/
def visited (s : σ) (trace : List (Move σ α)) : List σ := s :: trace.map Move.dst

theorem Run.mem_visited {s t u : σ} {trace : List (Move σ α)} (hrun : Run step s trace t)
    (hmem : u ∈ visited s trace) :
    (∃ front, Run step s front u) ∧ ∃ back, Run step u back t := by
  induction hrun with
  | nil =>
      obtain rfl := List.mem_singleton.mp hmem
      exact ⟨⟨[], Run.nil u⟩, [], Run.nil u⟩
  | @snoc t v trace a hrun hstep ih =>
      rw [visited, List.map_append, ← List.cons_append] at hmem
      rcases List.mem_append.mp hmem with hearlier | hlast
      · obtain ⟨hfront, back, hback⟩ := ih hearlier
        exact ⟨hfront, _, Run.snoc hback hstep⟩
      · obtain rfl := List.mem_singleton.mp hlast
        exact ⟨⟨_, Run.snoc hrun hstep⟩, [], Run.nil _⟩

/-- Of two states of a run, one comes first. -/
theorem Run.visited_ordered {s t u v : σ} {trace : List (Move σ α)} (hrun : Run step s trace t)
    (hu : u ∈ visited s trace) (hv : v ∈ visited s trace) :
    (∃ between, Run step u between v) ∨ ∃ between, Run step v between u := by
  induction hrun with
  | nil =>
      obtain rfl := List.mem_singleton.mp hu
      obtain rfl := List.mem_singleton.mp hv
      exact Or.inl ⟨[], Run.nil _⟩
  | @snoc t w trace a hrun hstep ih =>
      rw [visited, List.map_append, ← List.cons_append] at hu hv
      have hend : ∀ x ∈ visited s trace ++ [w], ∃ between, Run step x between w := by
        intro x hx
        rcases List.mem_append.mp hx with hx | hx
        · obtain ⟨_, back, hback⟩ := hrun.mem_visited hx
          exact ⟨_, Run.snoc hback hstep⟩
        · obtain rfl := List.mem_singleton.mp hx
          exact ⟨[], Run.nil _⟩
      rcases List.mem_append.mp hu with hu' | hu'
      · rcases List.mem_append.mp hv with hv' | hv'
        · exact ih hu' hv'
        · obtain rfl := List.mem_singleton.mp hv'
          exact Or.inl (hend u hu)
      · obtain rfl := List.mem_singleton.mp hu'
        exact Or.inr (hend v hv)

/-! ## Invariants -/

/-- A property that holds at the start and that every move of the run preserves
holds at the end. -/
theorem Run.invariant {inv : σ → Prop} {s t : σ} {trace : List (Move σ α)}
    (hrun : Run step s trace t) (hstart : inv s)
    (hstep : ∀ move ∈ trace, inv move.src → step move.src move.label move.dst → inv move.dst) :
    inv t := by
  induction hrun with
  | nil => exact hstart
  | snoc _ hlast ih =>
      refine hstep _ (List.mem_append_right _ (List.mem_singleton_self _)) (ih ?_) hlast
      intro move hmem
      exact hstep move (List.mem_append_left _ hmem)

/-- The invariant rule for reachable states. -/
theorem Reachable.invariant {init inv : σ → Prop} {t : σ} (h : Reachable step init t)
    (hinit : ∀ s, init s → inv s) (hstep : ∀ s a t, inv s → step s a t → inv t) : inv t := by
  obtain ⟨s, trace, hs, hrun⟩ := h
  exact hrun.invariant (hinit s hs) fun move _ hsrc hmove => hstep _ _ _ hsrc hmove

/-- A quantity that the moves of one kind raise and that no move lowers bounds how many
of these moves a run makes. -/
theorem Run.countP_le {inv : σ → Prop} {p : Move σ α → Bool} {f : σ → ℕ} {s t : σ}
    {trace : List (Move σ α)} (hrun : Run step s trace t) (hinv : inv s)
    (hstep : ∀ s a t, inv s → step s a t →
      inv t ∧ f s + (if p ⟨s, a, t⟩ then 1 else 0) ≤ f t) :
    f s + trace.countP p ≤ f t := by
  have hboth : inv t ∧ f s + trace.countP p ≤ f t := by
    induction hrun with
    | nil => exact ⟨hinv, by simp⟩
    | @snoc middle last before a _ hlast ih =>
        obtain ⟨hmiddle, hbefore⟩ := ih
        obtain ⟨hkept, hraised⟩ := hstep _ _ _ hmiddle hlast
        refine ⟨hkept, ?_⟩
        rw [List.countP_append, List.countP_singleton]
        omega
  exact hboth.2

theorem Reachable.run {init : σ → Prop} {s t : σ} {trace : List (Move σ α)}
    (hs : Reachable step init s) (hrun : Run step s trace t) : Reachable step init t := by
  obtain ⟨start, front, hstart, hfront⟩ := hs
  exact ⟨start, front ++ trace, hstart, hfront.append hrun⟩

theorem Reachable.extend {init : σ → Prop} {s t : σ} {a : α}
    (hs : Reachable step init s) (h : step s a t) : Reachable step init t :=
  hs.run (Run.single h)

/-- A preorder that every step respects relates the two ends of a run. -/
theorem Run.relates {rel : σ → σ → Prop} [IsPreorder σ rel] {s t : σ}
    {trace : List (Move σ α)} (hrun : Run step s trace t)
    (hstep : ∀ s a t, step s a t → rel s t) : rel s t := by
  induction hrun with
  | nil => exact refl_of rel _
  | snoc _ hlast ih => exact trans_of rel ih (hstep _ _ _ hlast)

/-- A preorder that every move of a run respects relates each state of the run to its end. -/
theorem Run.visited_relates {rel : σ → σ → Prop} [IsPreorder σ rel] {s t u : σ}
    {trace : List (Move σ α)} (hrun : Run step s trace t)
    (hmoves : ∀ move ∈ trace, rel move.src move.dst) (hmem : u ∈ visited s trace) : rel u t := by
  induction hrun with
  | nil =>
      obtain rfl := List.mem_singleton.mp hmem
      exact refl_of rel _
  | @snoc middle last front a _ hlast ih =>
      rw [visited, List.map_append, ← List.cons_append] at hmem
      rcases List.mem_append.mp hmem with hearlier | hend
      · have hmiddle : rel u middle :=
          ih (fun move hmove => hmoves move (List.mem_append_left _ hmove)) hearlier
        exact trans_of rel hmiddle
          (hmoves ⟨middle, a, last⟩ (List.mem_append_right _ (List.mem_singleton_self _)))
      · obtain rfl := List.mem_singleton.mp hend
        exact refl_of rel _

/-! ## Executable systems -/

/-- Run a partial step function along a list of calls. -/
def execAll (exec : σ → α → Option σ) : σ → List α → Option σ
  | s, [] => some s
  | s, a :: rest => (exec s a).bind fun t => execAll exec t rest

/-- The moves such a run makes, under the labels of its calls. -/
def movesOf {β : Type*} (exec : σ → α → Option σ) (label : α → β) : σ → List α → List (Move σ β)
  | _, [] => []
  | s, a :: rest =>
      match exec s a with
      | none => []
      | some t => ⟨s, label a, t⟩ :: movesOf exec label t rest

theorem execAll_append {exec : σ → α → Option σ} {s u : σ} {front back : List α} :
    execAll exec s (front ++ back) = some u ↔
      ∃ t, execAll exec s front = some t ∧ execAll exec t back = some u := by
  induction front generalizing s with
  | nil => simp [execAll]
  | cons a rest ih =>
      simp only [List.cons_append, execAll, Option.bind_eq_some_iff, ih]
      constructor
      · rintro ⟨middle, hfirst, t, hrest, hback⟩
        exact ⟨t, ⟨middle, hfirst, hrest⟩, hback⟩
      · rintro ⟨t, ⟨middle, hfirst, hrest⟩, hback⟩
        exact ⟨middle, hfirst, t, hrest, hback⟩

/-- A step function that does at least what another does. -/
theorem execAll_mono {exec exec' : σ → α → Option σ}
    (h : ∀ s a t, exec s a = some t → exec' s a = some t) {calls : List α} {s t : σ}
    (hrun : execAll exec s calls = some t) : execAll exec' s calls = some t := by
  induction calls generalizing s with
  | nil => exact hrun
  | cons a rest ih =>
      obtain ⟨middle, hfirst, hrest⟩ := Option.bind_eq_some_iff.mp hrun
      simp [execAll, h s a middle hfirst, ih hrest]

theorem label_of_mem_movesOf {β : Type*} {exec : σ → α → Option σ} {label : α → β}
    {calls : List α} {s : σ} {move : Move σ β} (h : move ∈ movesOf exec label s calls) :
    ∃ a ∈ calls, move.label = label a := by
  induction calls generalizing s with
  | nil => exact absurd h List.not_mem_nil
  | cons a rest ih =>
      simp only [movesOf] at h
      split at h
      · exact absurd h List.not_mem_nil
      · rcases List.mem_cons.mp h with rfl | hrest
        · exact ⟨a, List.mem_cons_self, rfl⟩
        · obtain ⟨b, hb, hlabel⟩ := ih hrest
          exact ⟨b, List.mem_cons_of_mem _ hb, hlabel⟩

/-- An execution along a list of calls is a run. -/
theorem run_movesOf {β : Type*} {exec : σ → α → Option σ} {label : α → β}
    {step : σ → β → σ → Prop} (hstep : ∀ s a t, exec s a = some t → step s (label a) t)
    {calls : List α} {s t : σ} (h : execAll exec s calls = some t) :
    Run step s (movesOf exec label s calls) t := by
  induction calls generalizing s with
  | nil =>
      cases h
      exact Run.nil _
  | cons a rest ih =>
      obtain ⟨middle, hfirst, hrest⟩ := Option.bind_eq_some_iff.mp h
      simp only [movesOf, hfirst]
      exact Run.cons (hstep s a middle hfirst) (ih hrest)

/-- Folding partial steps over a list relates the ends by the closure of what one
step does. -/
theorem reflTransGen_of_foldlM {ι : Type*} {rel : σ → σ → Prop} {f : σ → ι → Option σ}
    (hf : ∀ s i t, f s i = some t → Relation.ReflTransGen rel s t) {items : List ι} {s t : σ}
    (h : items.foldlM f s = some t) : Relation.ReflTransGen rel s t := by
  induction items generalizing s with
  | nil =>
      cases h
      exact Relation.ReflTransGen.refl
  | cons i rest ih =>
      rw [List.foldlM_cons] at h
      obtain ⟨middle, hfirst, hrest⟩ := Option.bind_eq_some_iff.mp h
      exact (hf s i middle hfirst).trans (ih hrest)

end Transition

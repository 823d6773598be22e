import FlickrGroupAddr.Lib.Transition
import Mathlib.Logic.Function.Basic
import Mathlib.Order.Basic

/-!
# Editable selections beside an outbox

In every scope one selection may be chosen, under a revision; handoffs copy a
selection under its revision and are acknowledged later.  Two separate stores hold
the selections and the handoffs, so a write may reach both, one of them or neither.
What a step may do to each store on its own is enough: revisions only grow, also
after the selection that had them is gone, a selection goes only by the handoff that
copied it, and a handoff changes at most once.
-/

namespace Outbox

set_option autoImplicit false

open Transition

universe u v w x y z

variable {σ : Type u} {κ : Type v} {ρ : Type w} {γ : Type x} {β : Type y}

/-- What is chosen, and under which revision. -/
structure Selection (ρ : Type w) (γ : Type x) where
  revision : ρ
  content : γ

/-- A handoff: the selection it copies, what else it hands over, and whether the other
side has answered. -/
structure Handoff (σ : Type u) (ρ : Type w) (γ : Type x) (β : Type y) where
  scope : σ
  selection : Selection ρ γ
  attached : β
  acknowledged : Bool

/-- The selections chosen and the handoffs kept. -/
structure View (σ : Type u) (κ : Type v) (ρ : Type w) (γ : Type x) (β : Type y) where
  chosen : σ → Option (Selection ρ γ)
  handoffs : κ → Option (Handoff σ ρ γ β)

/-- What a call sets out to do: to save a content, or to confirm a handoff. -/
structure Intent (κ : Type v) (γ : Type x) where
  saves : γ → Prop
  confirms : κ → Prop

/-- The handoff as it is acknowledged. -/
def Handoff.acknowledge (h : Handoff σ ρ γ β) : Handoff σ ρ γ β := { h with acknowledged := true }

/-- The handoff stays, or is acknowledged. -/
def Handoff.Advances (h h' : Handoff σ ρ γ β) : Prop :=
  h' = h ∨ h.acknowledged = false ∧ h' = h.acknowledge

namespace Handoff

theorem Advances.refl (h : Handoff σ ρ γ β) : h.Advances h := Or.inl rfl

theorem Advances.trans {h h' h'' : Handoff σ ρ γ β} (hfirst : h.Advances h')
    (hsecond : h'.Advances h'') : h.Advances h'' := by
  rcases hfirst with rfl | ⟨hopen, rfl⟩
  · exact hsecond
  · rcases hsecond with rfl | ⟨hacknowledged, _⟩
    · exact Or.inr ⟨hopen, rfl⟩
    · cases hacknowledged

theorem Advances.scope {h h' : Handoff σ ρ γ β} (hadvances : h.Advances h') :
    h'.scope = h.scope := by
  rcases hadvances with rfl | ⟨_, rfl⟩ <;> rfl

theorem Advances.selection {h h' : Handoff σ ρ γ β} (hadvances : h.Advances h') :
    h'.selection = h.selection := by
  rcases hadvances with rfl | ⟨_, rfl⟩ <;> rfl

theorem Advances.attached {h h' : Handoff σ ρ γ β} (hadvances : h.Advances h') :
    h'.attached = h.attached := by
  rcases hadvances with rfl | ⟨_, rfl⟩ <;> rfl

/-- An acknowledged handoff never changes again. -/
theorem Advances.eq_of_acknowledged {h h' : Handoff σ ρ γ β} (hadvances : h.Advances h')
    (hacknowledged : h.acknowledged = true) : h' = h := by
  rcases hadvances with hsame | ⟨hopen, _⟩
  · exact hsame
  · rw [hopen] at hacknowledged
    cases hacknowledged

end Handoff

/-! ## What a step may do -/

section Steps

variable [Preorder ρ] [Zero ρ]

namespace View

/-- The revision is in use in the scope; revision zero stands for no selection. -/
def Has (v : View σ κ ρ γ β) (s : σ) (r : ρ) : Prop :=
  0 < r ∧ ((∃ selection, v.chosen s = some selection ∧ selection.revision = r) ∨
    ∃ k h, v.handoffs k = some h ∧ h.scope = s ∧ h.selection.revision = r)

/-- The revision is above all that are in use. -/
def Above (v : View σ κ ρ γ β) (s : σ) (r : ρ) : Prop := ∀ r', v.Has s r' → r' < r

variable [DecidableEq σ] [DecidableEq κ]

/-- What a step may do to the selections. -/
inductive Selects (v : View σ κ ρ γ β) (s : σ) (intent : Intent κ γ)
    (chosen : σ → Option (Selection ρ γ)) : Prop
  | same : chosen = v.chosen → Selects v s intent chosen
  | saved {selection : Selection ρ γ} :
      intent.saves selection.content → 0 < selection.revision → v.Above s selection.revision →
      chosen = Function.update v.chosen s (some selection) → Selects v s intent chosen
  | consumed {k : κ} {h : Handoff σ ρ γ β} :
      intent.confirms k → v.handoffs k = some h → h.scope = s →
      v.chosen s = some h.selection → chosen = Function.update v.chosen s none →
      Selects v s intent chosen

/-- What a step may do to the handoffs. -/
inductive Records (v : View σ κ ρ γ β) (s : σ) (intent : Intent κ γ)
    (handoffs : κ → Option (Handoff σ ρ γ β)) : Prop
  | same : handoffs = v.handoffs → Records v s intent handoffs
  | prepared {k : κ} {h : Handoff σ ρ γ β} :
      v.handoffs k = none → h.scope = s → h.acknowledged = false →
      (v.chosen s = some h.selection ∨ h.selection.revision = 0 ∨
        intent.saves h.selection.content ∧ v.Above s h.selection.revision) →
      handoffs = Function.update v.handoffs k (some h) → Records v s intent handoffs
  | acknowledged {k : κ} {h : Handoff σ ρ γ β} :
      intent.confirms k → v.handoffs k = some h → h.scope = s → h.acknowledged = false →
      handoffs = Function.update v.handoffs k (some h.acknowledge) → Records v s intent handoffs

variable {v v' : View σ κ ρ γ β} {s : σ} {intent : Intent κ γ}

/-! ### A store that keeps a part of the scopes -/

section Widen

variable {part : View σ κ ρ γ β} {handoffs : κ → Option (Handoff σ ρ γ β)}
  {chosen chosen' : σ → Option (Selection ρ γ)} {r : ρ}

omit [DecidableEq σ] [DecidableEq κ] in
/-- What is in use in a scope depends on its selection and on the handoffs. -/
theorem Above.widen (hchosen : v.chosen s = part.chosen s) (hhandoffs : v.handoffs = part.handoffs)
    (h : part.Above s r) : v.Above s r := by
  rintro r' ⟨hpos, ⟨selection, hselection, hr⟩ | hcopied⟩
  · exact h r' ⟨hpos, Or.inl ⟨selection, hchosen ▸ hselection, hr⟩⟩
  · exact h r' ⟨hpos, Or.inr (hhandoffs ▸ hcopied)⟩

omit [DecidableEq σ] in
theorem Records.widen (hchosen : v.chosen s = part.chosen s)
    (hhandoffs : v.handoffs = part.handoffs) (h : part.Records s intent handoffs) :
    v.Records s intent handoffs := by
  cases h with
  | same hsame => exact Records.same (hsame.trans hhandoffs.symm)
  | @prepared k h hnew hs hopen hsource hvalue =>
      apply Records.prepared (hhandoffs ▸ hnew) hs hopen _ (hhandoffs ▸ hvalue)
      rcases hsource with hcurrent | hzero | ⟨hsaves, habove⟩
      · exact Or.inl (hchosen.trans hcurrent)
      · exact Or.inr (Or.inl hzero)
      · exact Or.inr (Or.inr ⟨hsaves, habove.widen hchosen hhandoffs⟩)
  | acknowledged hconfirms hk hs hopen hvalue =>
      exact Records.acknowledged hconfirms (hhandoffs ▸ hk) hs hopen (hhandoffs ▸ hvalue)

omit [DecidableEq κ] in
theorem Selects.widen (inside : σ → Prop) [DecidablePred inside] (hs : inside s)
    (hchosen : ∀ s', inside s' → v.chosen s' = part.chosen s')
    (hhandoffs : v.handoffs = part.handoffs)
    (hchosen' : ∀ s', chosen' s' = if inside s' then chosen s' else v.chosen s')
    (h : part.Selects s intent chosen) : v.Selects s intent chosen' := by
  have hupdate : ∀ value, chosen = Function.update part.chosen s value →
      chosen' = Function.update v.chosen s value := by
    intro value hvalue
    funext s'
    rw [hchosen' s', hvalue]
    by_cases hscope : s' = s
    · subst hscope
      simp [hs]
    · rw [Function.update_of_ne hscope, Function.update_of_ne hscope]
      by_cases hinside : inside s'
      · rw [if_pos hinside, hchosen s' hinside]
      · rw [if_neg hinside]
  cases h with
  | same hsame =>
      apply Selects.same
      funext s'
      rw [hchosen' s', hsame]
      split
      · next hinside => exact (hchosen s' hinside).symm
      · rfl
  | saved hsaves hpos habove hvalue =>
      exact Selects.saved hsaves hpos (habove.widen (hchosen s hs) hhandoffs) (hupdate _ hvalue)
  | consumed hconfirms hk hscope hcurrent hvalue =>
      exact Selects.consumed hconfirms (hhandoffs ▸ hk) hscope
        ((hchosen s hs).trans hcurrent) (hupdate _ hvalue)

end Widen


omit [DecidableEq σ] in
theorem Records.kept (hrecords : v.Records s intent v'.handoffs) {k : κ} {h : Handoff σ ρ γ β}
    (hk : v.handoffs k = some h) : ∃ h', v'.handoffs k = some h' ∧ h.Advances h' := by
  cases hrecords with
  | same hsame => exact ⟨h, by rw [hsame, hk], Handoff.Advances.refl h⟩
  | @prepared k' h' hnew _ _ _ hvalue =>
      have hne : k ≠ k' := by
        rintro rfl
        rw [hnew] at hk
        cases hk
      exact ⟨h, by rw [hvalue, Function.update_of_ne hne, hk], Handoff.Advances.refl h⟩
  | @acknowledged k' h' _ hk' _ hopen hvalue =>
      by_cases hsame : k = k'
      · subst hsame
        obtain rfl : h = h' := Option.some.inj (hk.symm.trans hk')
        exact ⟨h.acknowledge, by rw [hvalue, Function.update_self], Or.inr ⟨hopen, rfl⟩⟩
      · exact ⟨h, by rw [hvalue, Function.update_of_ne hsame, hk], Handoff.Advances.refl h⟩

omit [DecidableEq σ] in
/-- A revision that some handoff had, it still has. -/
theorem Records.has (hrecords : v.Records s intent v'.handoffs) {k : κ} {h : Handoff σ ρ γ β}
    (hk : v.handoffs k = some h) (hpos : 0 < h.selection.revision) :
    v'.Has h.scope h.selection.revision := by
  obtain ⟨h', hk', hadvances⟩ := hrecords.kept hk
  exact ⟨hpos, Or.inr ⟨k, h', hk', hadvances.scope, by rw [hadvances.selection]⟩⟩

/-- The handoff is kept, and a selection of its scope under its revision is the one that
it copies. -/
def Holds (v : View σ κ ρ γ β) (k : κ) (h : Handoff σ ρ γ β) : Prop :=
  (∃ h', v.handoffs k = some h' ∧ h.Advances h') ∧
    ∀ c, v.chosen h.scope = some c → c.revision = h.selection.revision → c = h.selection

theorem Holds.step {k : κ} {h : Handoff σ ρ γ β} (hselects : v.Selects s intent v'.chosen)
    (hrecords : v.Records s intent v'.handoffs) (hpositive : 0 < h.selection.revision)
    (hholds : v.Holds k h) : v'.Holds k h := by
  obtain ⟨⟨middle, hmiddle, hfirst⟩, hcopied⟩ := hholds
  constructor
  · obtain ⟨last, hlast, hsecond⟩ := hrecords.kept hmiddle
    exact ⟨last, hlast, hfirst.trans hsecond⟩
  · intro c hc hrevision
    have hhas : v.Has h.scope h.selection.revision :=
      ⟨hpositive, Or.inr ⟨k, middle, hmiddle, hfirst.scope, by rw [hfirst.selection]⟩⟩
    cases hselects with
    | same hchosen => exact hcopied c (hchosen ▸ hc) hrevision
    | saved _ _ habove hchosen =>
        rw [hchosen] at hc
        by_cases hscope : h.scope = s
        · subst hscope
          rw [Function.update_self] at hc
          cases hc
          have hless := habove _ hhas
          rw [hrevision] at hless
          exact absurd hless (lt_irrefl _)
        · rw [Function.update_of_ne hscope] at hc
          exact hcopied c hc hrevision
    | consumed _ _ _ _ hchosen =>
        rw [hchosen] at hc
        by_cases hscope : h.scope = s
        · subst hscope
          simp at hc
        · rw [Function.update_of_ne hscope] at hc
          exact hcopied c hc hrevision

/-- A revision in use stays below or at one in use, whichever store took its write. -/
theorem high_of_step (hselects : v.Selects s intent v'.chosen)
    (hrecords : v.Records s intent v'.handoffs) {s' : σ} {r : ρ} (hr : v.Has s' r) :
    ∃ r', v'.Has s' r' ∧ r ≤ r' := by
  obtain ⟨hpos, ⟨selection, hchosen, rfl⟩ | ⟨k, h, hk, rfl, rfl⟩⟩ := hr
  · cases hselects with
    | same hsame =>
        exact ⟨_, ⟨hpos, Or.inl ⟨selection, by rw [hsame, hchosen], rfl⟩⟩, le_rfl⟩
    | @saved next _ hnext habove hvalue =>
        by_cases hscope : s' = s
        · subst hscope
          have hlt := habove _ ⟨hpos, Or.inl ⟨selection, hchosen, rfl⟩⟩
          exact ⟨next.revision, ⟨hnext, Or.inl ⟨next, by rw [hvalue, Function.update_self], rfl⟩⟩,
            hlt.le⟩
        · refine ⟨_, ⟨hpos, Or.inl ⟨selection, ?_, rfl⟩⟩, le_rfl⟩
          rw [hvalue, Function.update_of_ne hscope, hchosen]
    | @consumed k h _ hk hs hcurrent hvalue =>
        by_cases hscope : s' = s
        · subst hscope
          obtain rfl : selection = h.selection := Option.some.inj (hchosen.symm.trans hcurrent)
          exact ⟨_, hs ▸ hrecords.has hk hpos, le_rfl⟩
        · refine ⟨_, ⟨hpos, Or.inl ⟨selection, ?_, rfl⟩⟩, le_rfl⟩
          rw [hvalue, Function.update_of_ne hscope, hchosen]
  · exact ⟨_, hrecords.has hk hpos, le_rfl⟩

/-- A revision in use was in use before, or is above all that were. -/
theorem fresh_of_step (hselects : v.Selects s intent v'.chosen)
    (hrecords : v.Records s intent v'.handoffs) {s' : σ} {r : ρ} (hr : v'.Has s' r) :
    v.Has s' r ∨ v.Above s' r := by
  obtain ⟨hpos, ⟨selection, hchosen, rfl⟩ | ⟨k, h, hk, rfl, rfl⟩⟩ := hr
  · cases hselects with
    | same hsame =>
        rw [hsame] at hchosen
        exact Or.inl ⟨hpos, Or.inl ⟨selection, hchosen, rfl⟩⟩
    | saved _ _ habove hvalue =>
        rw [hvalue] at hchosen
        by_cases hscope : s' = s
        · subst hscope
          rw [Function.update_self] at hchosen
          cases hchosen
          exact Or.inr habove
        · rw [Function.update_of_ne hscope] at hchosen
          exact Or.inl ⟨hpos, Or.inl ⟨selection, hchosen, rfl⟩⟩
    | consumed _ _ _ _ hvalue =>
        rw [hvalue] at hchosen
        by_cases hscope : s' = s
        · subst hscope
          rw [Function.update_self] at hchosen
          cases hchosen
        · rw [Function.update_of_ne hscope] at hchosen
          exact Or.inl ⟨hpos, Or.inl ⟨selection, hchosen, rfl⟩⟩
  · cases hrecords with
    | same hsame =>
        rw [hsame] at hk
        exact Or.inl ⟨hpos, Or.inr ⟨k, h, hk, rfl, rfl⟩⟩
    | @prepared k' h' _ hs _ hsource hvalue =>
        rw [hvalue] at hk
        by_cases hkey : k = k'
        · subst hkey
          rw [Function.update_self] at hk
          cases hk
          subst hs
          rcases hsource with hcurrent | hzero | ⟨_, habove⟩
          · exact Or.inl ⟨hpos, Or.inl ⟨_, hcurrent, rfl⟩⟩
          · rw [hzero] at hpos
            exact absurd hpos (lt_irrefl _)
          · exact Or.inr habove
        · rw [Function.update_of_ne hkey] at hk
          exact Or.inl ⟨hpos, Or.inr ⟨k, h, hk, rfl, rfl⟩⟩
    | @acknowledged k' h' _ hk' _ _ hvalue =>
        rw [hvalue] at hk
        by_cases hkey : k = k'
        · subst hkey
          rw [Function.update_self] at hk
          cases hk
          exact Or.inl ⟨hpos, Or.inr ⟨k, h', hk', rfl, rfl⟩⟩
        · rw [Function.update_of_ne hkey] at hk
          exact Or.inl ⟨hpos, Or.inr ⟨k, h, hk, rfl, rfl⟩⟩

end View

end Steps

/-! ## Runs -/

section Runs

variable {τ : Type z} {α : Type z} [Preorder ρ] [Zero ρ]

/-- What a store keeps along its runs, with `refuses` the moves it answered with a
refusal. -/
structure Keeps (step : τ → α → τ → Prop) (view : τ → View σ κ ρ γ β)
    (intent : α → Intent κ γ) (refuses : α → Prop) : Prop where
  /-- A revision that comes into use is above every one used in the run before. -/
  increasing : ∀ {s t u a trace}, Run step s trace t → step t a u →
    ∀ f ∈ visited s trace, ∀ scope r r', (view f).Has scope r' → (view u).Has scope r →
      ¬ (view t).Has scope r → r' < r
  /-- A selection stays, is edited under a higher revision, or goes by confirming a
  handoff that copied it. -/
  removed : ∀ {t a u}, step t a u → ∀ scope c, (view t).chosen scope = some c →
    (view u).chosen scope = some c ∨
    (∃ c', (view u).chosen scope = some c' ∧ (intent a).saves c'.content ∧
      c.revision < c'.revision) ∨
    ((view u).chosen scope = none ∧ ∃ k h, (intent a).confirms k ∧
      (view t).handoffs k = some h ∧ h.scope = scope ∧ h.selection = c)
  /-- Confirming leaves a selection under another revision. -/
  survives : ∀ {t a u}, step t a u → ∀ scope c k h, (view t).chosen scope = some c →
    (intent a).confirms k → (view t).handoffs k = some h →
    c.revision ≠ h.selection.revision → (view u).chosen scope = some c
  /-- A new handoff copies the selection of its scope, before or after the step. -/
  copied : ∀ {t a u}, step t a u → ∀ k h, (view u).handoffs k = some h →
    (view t).handoffs k = none → h.acknowledged = false ∧
      ((view t).chosen h.scope = some h.selection ∨ h.selection.revision = 0 ∨
        (intent a).saves h.selection.content ∧ (view t).Above h.scope h.selection.revision)
  /-- A handoff keeps all it has but its acknowledgement. -/
  advances : ∀ {s t trace}, Run step s trace t → ∀ k h, (view s).handoffs k = some h →
    ∃ h', (view t).handoffs k = some h' ∧ h.Advances h'
  /-- No handoff is acknowledged twice. -/
  once : ∀ {s t front between back first second}, Run step s
      (front ++ first :: (between ++ second :: back)) t → ∀ k h h',
    (view first.dst).handoffs k = some h → h.acknowledged = true →
    (view second.src).handoffs k = some h' → h'.acknowledged = true
  /-- A refusal changes nothing. -/
  refused : ∀ {t a u}, step t a u → refuses a → u = t

variable [DecidableEq σ] [DecidableEq κ] {step : τ → α → τ → Prop}
  {view : τ → View σ κ ρ γ β} {intent : α → Intent κ γ} {refuses : α → Prop}

/-- What one step does to the two stores. -/
def StepEffect (step : τ → α → τ → Prop) (view : τ → View σ κ ρ γ β)
    (intent : α → Intent κ γ) : Prop :=
  ∀ t a u, step t a u → ∃ s, (view t).Selects s (intent a) (view u).chosen ∧
    (view t).Records s (intent a) (view u).handoffs

theorem StepEffect.high (heffect : StepEffect step view intent) {s t : τ}
    {trace : List (Move τ α)} (hrun : Run step s trace t) {scope : σ} {r : ρ}
    (hr : (view s).Has scope r) : ∃ r', (view t).Has scope r' ∧ r ≤ r' := by
  induction hrun with
  | nil => exact ⟨r, hr, le_rfl⟩
  | snoc _ hlast ih =>
      obtain ⟨middle, hmiddle, hle⟩ := ih
      obtain ⟨_, hselects, hrecords⟩ := heffect _ _ _ hlast
      obtain ⟨r', hr', hle'⟩ := View.high_of_step hselects hrecords hmiddle
      exact ⟨r', hr', hle.trans hle'⟩

theorem StepEffect.advances (heffect : StepEffect step view intent) {s t : τ}
    {trace : List (Move τ α)} (hrun : Run step s trace t) {k : κ} {h : Handoff σ ρ γ β}
    (hk : (view s).handoffs k = some h) :
    ∃ h', (view t).handoffs k = some h' ∧ h.Advances h' := by
  induction hrun with
  | nil => exact ⟨h, hk, Handoff.Advances.refl h⟩
  | snoc _ hlast ih =>
      obtain ⟨middle, hmiddle, hfirst⟩ := ih
      obtain ⟨_, _, hrecords⟩ := heffect _ _ _ hlast
      obtain ⟨h', hk', hsecond⟩ := hrecords.kept hmiddle
      exact ⟨h', hk', hfirst.trans hsecond⟩

theorem StepEffect.holds (heffect : StepEffect step view intent) {s t : τ}
    {trace : List (Move τ α)} (hrun : Run step s trace t) {k : κ} {h : Handoff σ ρ γ β}
    (hpositive : 0 < h.selection.revision) (hholds : (view s).Holds k h) : (view t).Holds k h := by
  induction hrun with
  | nil => exact hholds
  | snoc _ hlast ih =>
      obtain ⟨_, hselects, hrecords⟩ := heffect _ _ _ hlast
      exact ih.step hselects hrecords hpositive

/-- A store whose steps have these effects keeps all this. -/
theorem Keeps.of_effect (heffect : StepEffect step view intent)
    (hpositive : ∀ t scope c, (view t).chosen scope = some c → 0 < c.revision)
    (hone : ∀ a k, (intent a).confirms k →
      (∀ c, ¬ (intent a).saves c) ∧ ∀ k', (intent a).confirms k' → k' = k)
    (hrefused : ∀ t a u, step t a u → refuses a → u = t) :
    Keeps step view intent refuses := by
  constructor
  · intro s t u a trace hrun hlast f hf scope r r' hr' hr hnew
    obtain ⟨_, back, hback⟩ := hrun.mem_visited hf
    obtain ⟨middle, hmiddle, hle⟩ := heffect.high hback hr'
    obtain ⟨_, hselects, hrecords⟩ := heffect _ _ _ hlast
    have habove := (View.fresh_of_step hselects hrecords hr).resolve_left hnew
    exact lt_of_le_of_lt hle (habove middle hmiddle)
  · intro t a u hstep scope c hchosen
    obtain ⟨s, hselects, _⟩ := heffect _ _ _ hstep
    cases hselects with
    | same hsame => exact Or.inl (by rw [hsame, hchosen])
    | @saved next hsaves _ habove hvalue =>
        by_cases hscope : scope = s
        · subst hscope
          refine Or.inr (Or.inl ⟨next, by rw [hvalue, Function.update_self], hsaves, ?_⟩)
          exact habove _ ⟨hpositive t scope c hchosen, Or.inl ⟨c, hchosen, rfl⟩⟩
        · exact Or.inl (by rw [hvalue, Function.update_of_ne hscope, hchosen])
    | @consumed k h hconfirms hk hs hcurrent hvalue =>
        by_cases hscope : scope = s
        · subst hscope
          refine Or.inr (Or.inr ⟨by rw [hvalue, Function.update_self], k, h, hconfirms, hk, hs, ?_⟩)
          exact Option.some.inj (hcurrent.symm.trans hchosen)
        · exact Or.inl (by rw [hvalue, Function.update_of_ne hscope, hchosen])
  · intro t a u hstep scope c k h hchosen hconfirms hk hne
    obtain ⟨s, hselects, _⟩ := heffect _ _ _ hstep
    cases hselects with
    | same hsame => rw [hsame, hchosen]
    | saved hsaves => exact absurd hsaves ((hone a k hconfirms).1 _)
    | @consumed k' h' hconfirms' hk' _ hcurrent hvalue =>
        obtain rfl := (hone a k hconfirms).2 k' hconfirms'
        obtain rfl : h = h' := Option.some.inj (hk.symm.trans hk')
        have hscope : scope ≠ s := by
          rintro rfl
          rw [Option.some.inj (hchosen.symm.trans hcurrent)] at hne
          exact hne rfl
        rw [hvalue, Function.update_of_ne hscope, hchosen]
  · intro t a u hstep k h hk hnone
    obtain ⟨s, _, hrecords⟩ := heffect _ _ _ hstep
    cases hrecords with
    | same hsame =>
        rw [hsame, hnone] at hk
        cases hk
    | @prepared k' h' _ hs hopen hsource hvalue =>
        rw [hvalue] at hk
        by_cases hkey : k = k'
        · subst hkey
          rw [Function.update_self] at hk
          cases hk
          subst hs
          exact ⟨hopen, hsource⟩
        · rw [Function.update_of_ne hkey, hnone] at hk
          cases hk
    | @acknowledged k' h' _ hk' _ _ hvalue =>
        rw [hvalue] at hk
        by_cases hkey : k = k'
        · subst hkey
          rw [hnone] at hk'
          cases hk'
        · rw [Function.update_of_ne hkey, hnone] at hk
          cases hk
  · intro s t trace hrun k h hk
    exact heffect.advances hrun hk
  · intro s t front between back first second hrun k h h' hk hacknowledged hk'
    obtain ⟨_, _, hrest⟩ := hrun.around
    obtain ⟨hbetween, _, _⟩ := hrest.around
    obtain ⟨later, hlater, hadvances⟩ := heffect.advances hbetween hk
    obtain rfl : h' = later := Option.some.inj (hk'.symm.trans hlater)
    rw [hadvances.eq_of_acknowledged hacknowledged]
    exact hacknowledged
  · exact fun {t a u} => hrefused t a u

end Runs

end Outbox

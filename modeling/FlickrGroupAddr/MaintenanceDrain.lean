import FlickrGroupAddr.Lib.Transition
import FlickrGroupAddr.MainEntryMaintenance

/-!
# What a drain establishes

A scope stops accepting only with no tracked effect, and an effect is tracked until its
promise settled; whatever the journal did not permit or record raises the uncertainty.
So when `stop` finds no active promise and no uncertainty, every admitted invocation has
returned and every effect has been settled.
-/

namespace FlickrGroupAddr

set_option autoImplicit false

open KeyedTable Transition

/-! ## The invariant -/

/-- What the fields of an effect say about each other. -/
structure EffectSound (uncertain : Bool) (effect : ScopeEffect) : Prop where
  tracked : effect.stage ≠ .settled → effect.tracked = true
  permitted : effect.stage = .running ∨ effect.stage = .settling →
    effect.permitted = true ∧ effect.started = true
  completed : effect.stage = .settling → effect.completed ≠ none
  settled : uncertain = false → effect.stage = .settled →
    effect.permitted = true ∧ effect.started = true ∧ effect.completed ≠ none ∧
      effect.recorded = true

/-- An admitted invocation has returned fulfilled, and the journal has recorded it. -/
structure Returned (run : MaintenanceRun) : Prop where
  leased : run.leased = true
  fulfilled : run.outcome = some .fulfilled
  closed : run.accepting = false
  recorded : run.returnRecorded = true

structure RunSound (uncertain : Bool) (run : MaintenanceRun) : Prop where
  admitted : run.leased = true → run.admitted = true
  accepting : run.accepting = true → run.leased = true
  handling : run.stage = .handling ∨ run.stage = .returning → run.leased = true
  returning : uncertain = false → run.stage = .returning →
    run.outcome = some .fulfilled ∧ run.accepting = false
  settled : uncertain = false → run.stage = .settled → run.admitted = true → Returned run
  active : run.active = false → run.stage = .settled

structure DrainInv (s : Maintenance) : Prop where
  runs : ∀ run ∈ s.runs, RunSound s.uncertain run
  effects : ∀ effect ∈ s.effects, EffectSound s.uncertain effect
  owned : ∀ effect ∈ s.effects, ∃ run, s.runs.find? effect.run = some run ∧ run.leased = true
  /-- A scope that has stopped accepting has no tracked effect. -/
  accepting : ∀ effect ∈ s.effects, effect.tracked = true → ∀ run,
    s.runs.find? effect.run = some run → run.accepting = true
  /-- A hold completes only when its body has been finished. -/
  holds : ∀ body ∈ s.bodies, ∃ effect, s.effects.find? body.hold = some effect ∧
    effect.kind = .providerBody ∧ effect.body = some body.id ∧
      (effect.completed ≠ none → body.finished = true)

theorem EffectSound.mono {uncertain uncertain' : Bool} {effect : ScopeEffect}
    (h : EffectSound uncertain effect) (hmono : uncertain = true → uncertain' = true) :
    EffectSound uncertain' effect := by
  refine ⟨h.tracked, h.permitted, h.completed, ?_⟩
  intro hcertain
  apply h.settled
  cases hu : uncertain with
  | false => rfl
  | true => exact absurd (hmono hu) (by simp [hcertain])

theorem RunSound.mono {uncertain uncertain' : Bool} {run : MaintenanceRun}
    (h : RunSound uncertain run) (hmono : uncertain = true → uncertain' = true) :
    RunSound uncertain' run := by
  have hback : uncertain' = false → uncertain = false := by
    intro hcertain
    cases hu : uncertain with
    | false => rfl
    | true => exact absurd (hmono hu) (by simp [hcertain])
  exact ⟨h.admitted, h.accepting, h.handling, fun hcertain => h.returning (hback hcertain),
    fun hcertain => h.settled (hback hcertain), h.active⟩

namespace DrainInv

variable {s s' : Maintenance}

/-- A step that touches neither runs, effects nor bodies. -/
theorem frame (h : DrainInv s) (hruns : s'.runs = s.runs) (heffects : s'.effects = s.effects)
    (hbodies : s'.bodies = s.bodies) (hmono : s.uncertain = true → s'.uncertain = true) :
    DrainInv s' := by
  refine ⟨?_, ?_, ?_, ?_, ?_⟩
  · intro run hrun
    rw [hruns] at hrun
    exact (h.runs run hrun).mono hmono
  · intro effect heffect
    rw [heffects] at heffect
    exact (h.effects effect heffect).mono hmono
  · rw [hruns, heffects]
    exact h.owned
  · rw [hruns, heffects]
    exact h.accepting
  · rw [hbodies, heffects]
    exact h.holds

/-- One run changes. -/
theorem setRun (h : DrainInv s) (old new : MaintenanceRun) (hruns : s'.runs = s.runs.set new)
    (hold : s.runs.find? new.id = some old) (heffects : s'.effects = s.effects)
    (hbodies : s'.bodies = s.bodies) (hmono : s.uncertain = true → s'.uncertain = true)
    (hnew : RunSound s'.uncertain new) (hleased : old.leased = true → new.leased = true)
    (haccepting : ∀ effect ∈ s.effects, effect.run = new.id → effect.tracked = true →
      new.accepting = true) : DrainInv s' := by
  refine ⟨?_, ?_, ?_, ?_, ?_⟩
  · intro run hrun
    rw [hruns] at hrun
    rcases Table.mem_set_cases hrun with rfl | ⟨hother, _⟩
    · exact hnew
    · exact (h.runs run hother).mono hmono
  · intro effect heffect
    rw [heffects] at heffect
    exact (h.effects effect heffect).mono hmono
  · intro effect heffect
    rw [heffects] at heffect
    obtain ⟨run, hrun, hlease⟩ := h.owned effect heffect
    rw [hruns, Table.find?_set]
    by_cases hid : effect.run = new.id
    · rw [hid, hold] at hrun
      cases hrun
      simp [hid, hold, hleased hlease]
    · simp [hid, hrun, hlease]
  · intro effect heffect htracked run hrun
    rw [heffects] at heffect
    rw [hruns, Table.find?_set] at hrun
    by_cases hid : effect.run = new.id
    · rw [if_pos hid, hid, hold] at hrun
      cases hrun
      exact haccepting effect heffect hid htracked
    · rw [if_neg hid] at hrun
      exact h.accepting effect heffect htracked run hrun
  · rw [hbodies, heffects]
    exact h.holds

/-- One effect changes. -/
theorem setEffect (h : DrainInv s) (old new : ScopeEffect)
    (heffects : s'.effects = s.effects.set new) (hold : s.effects.find? new.id = some old)
    (hruns : s'.runs = s.runs) (hbodies : s'.bodies = s.bodies)
    (hmono : s.uncertain = true → s'.uncertain = true) (hnew : EffectSound s'.uncertain new)
    (hrun : new.run = old.run) (hkind : new.kind = old.kind) (hbody : new.body = old.body)
    (htracked : new.tracked = true → old.tracked = true)
    (hcompleted : new.completed ≠ none → old.completed ≠ none ∨ ∀ body ∈ s.bodies,
      body.hold = new.id → old.kind = .providerBody → old.body = some body.id →
        body.finished = true) : DrainInv s' := by
  have hmem := Table.mem_of_find? hold
  refine ⟨?_, ?_, ?_, ?_, ?_⟩
  · intro run hrow
    rw [hruns] at hrow
    exact (h.runs run hrow).mono hmono
  · intro effect heffect
    rw [heffects] at heffect
    rcases Table.mem_set_cases heffect with rfl | ⟨hother, _⟩
    · exact hnew
    · exact (h.effects effect hother).mono hmono
  · intro effect heffect
    rw [heffects] at heffect
    rw [hruns]
    rcases Table.mem_set_cases heffect with rfl | ⟨hother, _⟩
    · rw [hrun]
      exact h.owned old hmem
    · exact h.owned effect hother
  · intro effect heffect htrack run hrow
    rw [heffects] at heffect
    rw [hruns] at hrow
    rcases Table.mem_set_cases heffect with rfl | ⟨hother, _⟩
    · rw [hrun] at hrow
      exact h.accepting old hmem (htracked htrack) run hrow
    · exact h.accepting effect hother htrack run hrow
  · intro body hin
    rw [hbodies] at hin
    obtain ⟨effect, heffect, hheld, hlink, hfinished⟩ := h.holds body hin
    rw [heffects, Table.find?_set]
    by_cases hid : body.hold = new.id
    · rw [hid, hold] at heffect
      cases heffect
      refine ⟨new, by simp [hid, hold], hkind.trans hheld, hbody.trans hlink, ?_⟩
      intro hdone
      rcases hcompleted hdone with hbefore | hrest
      · exact hfinished hbefore
      · exact hrest body hin hid hheld hlink
    · exact ⟨effect, by simp [hid, heffect], hheld, hlink, hfinished⟩

/-- One body is finished. -/
theorem setBody (h : DrainInv s) (old new : HeldBody) (hbodies : s'.bodies = s.bodies.set new)
    (hold : s.bodies.find? new.id = some old) (hruns : s'.runs = s.runs)
    (heffects : s'.effects = s.effects) (hmono : s.uncertain = true → s'.uncertain = true)
    (hhold : new.hold = old.hold) (hfinished : new.finished = true) : DrainInv s' := by
  have hframe : DrainInv { s' with bodies := s.bodies } := h.frame hruns heffects rfl hmono
  refine ⟨hframe.runs, hframe.effects, hframe.owned, hframe.accepting, ?_⟩
  intro body hin
  rw [hbodies] at hin
  rw [heffects]
  rcases Table.mem_set_cases hin with rfl | ⟨hother, _⟩
  · obtain ⟨effect, heffect, hkind, hlink, _⟩ := h.holds old (Table.mem_of_find? hold)
    rw [hhold]
    refine ⟨effect, heffect, hkind, ?_, fun _ => hfinished⟩
    rw [hlink, (Table.find?_eq_some.mp hold).2]
  · exact h.holds body hother

/-- A promise is registered. -/
theorem addEffect (h : DrainInv s) {id run : Nat} {kind : MainEffect} {body : Option Nat}
    {started : Bool} (hadd : s.addEffect id run kind body started = some s') : DrainInv s' := by
  unfold Maintenance.addEffect at hadd
  split at hadd
  · cases hadd
  · next row hrow =>
      split at hadd
      · next hopen =>
          obtain ⟨effects, hinsert, rfl⟩ := Option.map_eq_some_iff.mp hadd
          obtain ⟨hfresh, _⟩ := Table.insert?_eq_some hinsert
          refine ⟨h.runs, ?_, ?_, ?_, ?_⟩
          · intro effect heffect
            rcases (Table.mem_insert? hinsert).mp heffect with hold | rfl
            · exact h.effects effect hold
            · exact ⟨fun _ => rfl, by simp, by simp, by simp⟩
          · intro effect heffect
            rcases (Table.mem_insert? hinsert).mp heffect with hold | rfl
            · exact h.owned effect hold
            · exact ⟨row, hrow, hopen.1⟩
          · intro effect heffect htracked owner howner
            rcases (Table.mem_insert? hinsert).mp heffect with hold | rfl
            · exact h.accepting effect hold htracked owner howner
            · cases hrow.symm.trans howner
              exact hopen.2
          · intro held hin
            obtain ⟨effect, heffect, hrest⟩ := h.holds held hin
            refine ⟨effect, ?_, hrest⟩
            rw [Table.find?_insert? hinsert, if_neg]
            · exact heffect
            · intro hsame
              rw [hsame] at heffect
              cases hfresh.symm.trans heffect
      · cases hadd

/-- A pending effect keeps its scope open. -/
theorem pending_accepting (h : DrainInv s) {effect : ScopeEffect}
    (hfind : s.effects.find? effect.id = some effect) (hstage : effect.stage ≠ .settled) :
    ((s.runs.find? effect.run).any fun owner => owner.accepting) = true := by
  have hmem := Table.mem_of_find? hfind
  obtain ⟨run, hrun, _⟩ := h.owned effect hmem
  rw [hrun]
  exact h.accepting effect hmem ((h.effects effect hmem).tracked hstage) run hrun

theorem trackedEffects_eq_zero {run : Nat} (hnone : s.trackedEffects run = 0) :
    ∀ effect ∈ s.effects, effect.run = run → effect.tracked = true → False := by
  intro effect hmem hrun htracked
  have hempty := List.length_eq_zero_iff.mp hnone
  have hno := List.filter_eq_nil_iff.mp hempty effect hmem
  simp [hrun, htracked] at hno

theorem handled (h : DrainInv s) {id : Nat} {outcome : EntryOutcome}
    (hexec : (MaintenanceEvent.handled id outcome).exec s = some s') : DrainInv s' := by
  obtain ⟨row, hrow, hstep⟩ := Option.bind_eq_some_iff.mp hexec
  have hid : row.id = id := (Table.find?_eq_some.mp hrow).2
  have hsound := h.runs row (Table.mem_of_find? hrow)
  subst hid
  split at hstep
  · next hstage =>
      have hleased := hsound.handling (Or.inl hstage)
      dsimp only at hstep
      split at hstep
      · next hnone =>
          cases hstep
          refine h.setRun row _ rfl hrow rfl rfl ?_ ?_ id ?_
          · intro hu
            simp [Maintenance.setRun, Maintenance.raise, hu]
          · refine ⟨hsound.admitted, by simp, fun _ => hleased, ?_, by simp, ?_⟩
            · intro hcertain _
              cases outcome with
              | fulfilled => exact ⟨rfl, rfl⟩
              | rejected => simp [Maintenance.setRun, Maintenance.raise] at hcertain
            · intro hinactive
              exact absurd (hsound.active hinactive) (by simp [hstage])
          · intro effect hmem hown htracked
            exact (trackedEffects_eq_zero hnone effect hmem hown htracked).elim
      · cases hstep
        refine h.setRun row _ rfl hrow rfl rfl ?_ ?_ id ?_
        · intro _
          simp [Maintenance.raise]
        · refine ⟨hsound.admitted, hsound.accepting, by simp, by simp, ?_, by simp⟩
          intro hcertain
          simp [Maintenance.raise] at hcertain
        · intro effect hmem hown htracked
          exact h.accepting effect hmem htracked row (by rw [hown]; exact hrow)
  · cases hstep

theorem admitAnswered (h : DrainInv s) {id : Nat} {answer : AdmitAnswer}
    (hexec : (MaintenanceEvent.admitAnswered id answer).exec s = some s') : DrainInv s' := by
  obtain ⟨row, hrow, hstep⟩ := Option.bind_eq_some_iff.mp hexec
  have hid : row.id = id := (Table.find?_eq_some.mp hrow).2
  have hsound := h.runs row (Table.mem_of_find? hrow)
  subst hid
  have haccepting : ∀ effect ∈ s.effects, effect.run = row.id → effect.tracked = true →
      row.accepting = true := by
    intro effect hmem hown htracked
    exact h.accepting effect hmem htracked row (by rw [hown]; exact hrow)
  split at hstep
  · next hstage =>
      have hfailed : ∀ s', some ((s.setRun { row with stage := .settled }).raise true) =
          some s' → DrainInv s' := by
        rintro _ ⟨⟩
        refine h.setRun row _ rfl hrow rfl rfl ?_ ?_ id haccepting
        · intro _
          simp [Maintenance.raise]
        · refine ⟨hsound.admitted, hsound.accepting, by simp, by simp, ?_, by simp⟩
          intro hcertain
          simp [Maintenance.raise] at hcertain
      cases answer with
      | failed => exact hfailed s' hstep
      | mismatched => exact hfailed s' hstep
      | refused =>
          simp only at hstep
          split at hstep
          · cases hstep
          · next hnot =>
              cases hstep
              refine h.setRun row _ rfl hrow rfl rfl id ?_ id haccepting
              refine ⟨hsound.admitted, hsound.accepting, by simp, by simp, ?_, by simp⟩
              intro _ _ hadmitted
              exact absurd hadmitted hnot
      | leased =>
          simp only at hstep
          split at hstep
          · next hadmitted =>
              cases hstep
              refine h.setRun row _ rfl hrow rfl rfl id ?_ (fun _ => rfl) ?_
              · refine ⟨fun _ => hadmitted, fun _ => rfl, fun _ => rfl, by simp, by simp, ?_⟩
                intro hinactive
                exact absurd (hsound.active hinactive) (by simp [hstage])
              · intro _ _ _ _
                rfl
          · cases hstep
  · cases hstep

theorem permitAnswered (h : DrainInv s) {id : Nat} {answer : Option Bool}
    (hexec : (MaintenanceEvent.permitAnswered id answer).exec s = some s') : DrainInv s' := by
  obtain ⟨row, hrow, hstep⟩ := Option.bind_eq_some_iff.mp hexec
  have hid : row.id = id := (Table.find?_eq_some.mp hrow).2
  have hsound := h.effects row (Table.mem_of_find? hrow)
  subst hid
  split at hstep
  · next hstage =>
      have hfailed : ∀ s', some ((s.setEffect { row with stage := .settled }).raise true) =
          some s' → DrainInv s' := by
        rintro _ ⟨⟩
        refine h.setEffect row _ rfl hrow rfl rfl ?_ ?_ rfl rfl rfl id Or.inl
        · intro _
          simp [Maintenance.raise]
        · exact ⟨by simp, by simp, by simp, by simp [Maintenance.raise]⟩
      cases answer with
      | none => exact hfailed s' hstep
      | some allowed =>
          simp only [h.pending_accepting hrow (by simp [hstage]), if_true] at hstep
          split at hstep
          · cases hstep
            refine h.setEffect row _ rfl hrow rfl rfl id ?_ rfl rfl rfl id Or.inl
            refine ⟨fun _ => hsound.tracked (by simp [hstage]), fun _ => ⟨rfl, rfl⟩,
              by simp, by simp⟩
          · exact hfailed s' hstep
  · cases hstep

theorem operationEnded (h : DrainInv s) {id : Nat} {outcome : EntryOutcome}
    (hexec : (MaintenanceEvent.operationEnded id outcome).exec s = some s') : DrainInv s' := by
  obtain ⟨row, hrow, hstep⟩ := Option.bind_eq_some_iff.mp hexec
  have hid : row.id = id := (Table.find?_eq_some.mp hrow).2
  have hsound := h.effects row (Table.mem_of_find? hrow)
  subst hid
  split at hstep
  · next hstage =>
      have hnew : EffectSound s.uncertain
          { row with stage := .settling, completed := some outcome } :=
        ⟨fun _ => hsound.tracked (by simp [hstage]),
          fun _ => hsound.permitted (Or.inl hstage), by simp, by simp⟩
      -- the operation of a hold ends with its body
      have hsettling : (∀ body ∈ s.bodies, body.hold = row.id → row.kind = .providerBody →
          row.body = some body.id → body.finished = true) →
          DrainInv (s.setEffect { row with stage := .settling, completed := some outcome }) :=
        fun hheld => h.setEffect row _ rfl hrow rfl rfl id hnew rfl rfl rfl id
          fun _ => Or.inr hheld
      split at hstep
      · next hnone =>
          cases hstep
          apply hsettling
          intro body hin _ _ hlink
          rw [hlink, Option.bind_some, Table.find?_of_mem hin] at hnone
          cases hnone
      · next body hbody =>
          obtain ⟨bodyId, hlink, hfind⟩ := Option.bind_eq_some_iff.mp hbody
          have hkey : body.id = bodyId := (Table.find?_eq_some.mp hfind).2
          split at hstep
          · obtain ⟨hfinished, hsame⟩ := Option.ite_none_right_eq_some.mp hstep
            cases hsame
            apply hsettling
            intro other hother _ _ hlink'
            rw [hlink] at hlink'
            cases hlink'
            rw [Table.find?_of_mem hother] at hfind
            cases hfind
            exact hfinished.1
          · next hkind =>
              cases hstep
              have hdone := hsettling fun _ _ _ hheld _ => absurd hheld hkind
              refine hdone.setBody body _ rfl (hkey ▸ hfind) rfl rfl ?_ rfl rfl
              intro hu
              have hraised : s.uncertain = true := hu
              simp [Maintenance.raise, Maintenance.setBody, Maintenance.setEffect, hraised]
  · cases hstep

theorem responded (h : DrainInv s) {id hold body : Nat}
    (hexec : (MaintenanceEvent.responded id hold body).exec s = some s') : DrainInv s' := by
  obtain ⟨row, hrow, hstep⟩ := Option.bind_eq_some_iff.mp hexec
  have hid : row.id = id := (Table.find?_eq_some.mp hrow).2
  have hsound := h.effects row (Table.mem_of_find? hrow)
  subst hid
  split at hstep
  · next hguard =>
      obtain ⟨hstage, hkind⟩ := hguard
      simp only [h.pending_accepting hrow (by simp [hstage]), if_true] at hstep
      have hnew : EffectSound s.uncertain
          { row with stage := .settling, completed := some .fulfilled } :=
        ⟨fun _ => hsound.tracked (by simp [hstage]),
          fun _ => hsound.permitted (Or.inl hstage), by simp, by simp⟩
      have hsettling : DrainInv
          (s.setEffect { row with stage := .settling, completed := some .fulfilled }) := by
        refine h.setEffect row _ rfl hrow rfl rfl id hnew rfl rfl rfl id ?_
        intro _
        right
        intro _ _ _ hheld _
        rw [hkind] at hheld
        cases hheld
      obtain ⟨middle, hadd, hbodies⟩ := Option.bind_eq_some_iff.mp hstep
      obtain ⟨bodies, hinsert, rfl⟩ := Option.map_eq_some_iff.mp hbodies
      have hmiddle := hsettling.addEffect hadd
      refine ⟨hmiddle.runs, hmiddle.effects, hmiddle.owned, hmiddle.accepting, ?_⟩
      intro held hin
      rcases (Table.mem_insert? hinsert).mp hin with hold' | rfl
      · exact hmiddle.holds held hold'
      · unfold Maintenance.addEffect at hadd
        split at hadd
        · cases hadd
        · obtain ⟨_, hadd⟩ := Option.ite_none_right_eq_some.mp hadd
          obtain ⟨effects, hfresh, rfl⟩ := Option.map_eq_some_iff.mp hadd
          refine ⟨⟨hold, row.run, .providerBody, some body, .requested, true, false, false, none,
            false⟩, ?_, rfl, rfl, by simp⟩
          rw [Table.find?_insert? hfresh, if_pos rfl]
  · cases hstep

theorem initially : DrainInv newMaintenance :=
  ⟨fun run hrun => absurd hrun (Table.not_mem_empty run),
    fun effect heffect => absurd heffect (Table.not_mem_empty effect),
    fun effect heffect => absurd heffect (Table.not_mem_empty effect),
    fun effect heffect => absurd heffect (Table.not_mem_empty effect),
    fun body hbody => absurd hbody (Table.not_mem_empty body)⟩

/-- A new call of `run`. -/
theorem runCalled (h : DrainInv s) {id : Nat}
    (hexec : (MaintenanceEvent.run id).exec s = some s') : DrainInv s' := by
  obtain ⟨_, hexec⟩ := Option.ite_none_right_eq_some.mp hexec
  obtain ⟨runs, hinsert, rfl⟩ := Option.map_eq_some_iff.mp hexec
  obtain ⟨hfresh, _⟩ := Table.insert?_eq_some hinsert
  refine ⟨?_, h.effects, ?_, ?_, h.holds⟩
  · intro run hrun
    rcases (Table.mem_insert? hinsert).mp hrun with hold | rfl
    · exact h.runs run hold
    · exact ⟨by simp, by simp, by simp, by simp, by simp, by simp⟩
  · intro effect heffect
    obtain ⟨run, hrun, hleased⟩ := h.owned effect heffect
    refine ⟨run, ?_, hleased⟩
    rw [Table.find?_insert? hinsert, if_neg, hrun]
    intro hsame
    rw [hsame] at hrun
    cases hfresh.symm.trans hrun
  · intro effect heffect htracked run hrun
    obtain ⟨owner, howner, _⟩ := h.owned effect heffect
    have hne : effect.run ≠ id := by
      intro hsame
      rw [hsame] at howner
      cases hfresh.symm.trans howner
    rw [Table.find?_insert? hinsert, if_neg hne] at hrun
    exact h.accepting effect heffect htracked run hrun

/-- The scope of a run with a tracked effect accepts. -/
theorem owner_accepting (h : DrainInv s) {run : MaintenanceRun}
    (hrun : s.runs.find? run.id = some run) : ∀ effect ∈ s.effects, effect.run = run.id →
      effect.tracked = true → run.accepting = true := by
  intro effect hmem hown htracked
  exact h.accepting effect hmem htracked run (by rw [hown]; exact hrun)

theorem admitted (h : DrainInv s) {key : Nat}
    (hexec : (MaintenanceEvent.admitCalled key).exec s = some s') : DrainInv s' := by
  obtain ⟨row, hrow, hstep⟩ := Option.bind_eq_some_iff.mp hexec
  have hid : row.id = key := (Table.find?_eq_some.mp hrow).2
  have hsound := h.runs row (Table.mem_of_find? hrow)
  subst hid
  have haccepting := h.owner_accepting hrow
  obtain ⟨hstage, hsame⟩ := Option.ite_none_right_eq_some.mp hstep
  cases hsame
  refine h.setRun row _ rfl hrow rfl rfl id ?_ id haccepting
  exact ⟨fun _ => rfl, hsound.accepting, hsound.handling, hsound.returning,
    by simp [hstage], hsound.active⟩

theorem returnAnswered (h : DrainInv s) {key : Nat} {recorded : Bool}
    (hexec : (MaintenanceEvent.returnAnswered key recorded).exec s = some s') :
    DrainInv s' := by
  obtain ⟨row, hrow, hstep⟩ := Option.bind_eq_some_iff.mp hexec
  have hid : row.id = key := (Table.find?_eq_some.mp hrow).2
  have hsound := h.runs row (Table.mem_of_find? hrow)
  subst hid
  have haccepting := h.owner_accepting hrow
  obtain ⟨hstage, hsame⟩ := Option.ite_none_right_eq_some.mp hstep
  cases hsame
  have hmono : s.uncertain = true → (s.uncertain || !recorded) = true := by
    intro hu
    simp [hu]
  refine h.setRun row _ rfl hrow rfl rfl hmono ?_ id haccepting
  refine ⟨hsound.admitted, hsound.accepting, by simp, by simp, ?_, by simp⟩
  intro hcertain _ _
  simp only [Maintenance.raise, Maintenance.setRun, Bool.or_eq_false_iff,
    Bool.not_eq_false'] at hcertain
  obtain ⟨hbefore, hrecorded⟩ := hcertain
  obtain ⟨houtcome, hclosed⟩ := hsound.returning hbefore hstage
  exact ⟨hsound.handling (Or.inr hstage), houtcome, hclosed, hrecorded⟩

theorem runDeleted (h : DrainInv s) {key : Nat}
    (hexec : (MaintenanceEvent.runDeleted key).exec s = some s') : DrainInv s' := by
  obtain ⟨row, hrow, hstep⟩ := Option.bind_eq_some_iff.mp hexec
  have hid : row.id = key := (Table.find?_eq_some.mp hrow).2
  have hsound := h.runs row (Table.mem_of_find? hrow)
  subst hid
  have haccepting := h.owner_accepting hrow
  obtain ⟨hstage, hsame⟩ := Option.ite_none_right_eq_some.mp hstep
  cases hsame
  refine h.setRun row _ rfl hrow rfl rfl id ?_ id haccepting
  refine ⟨hsound.admitted, hsound.accepting, hsound.handling, hsound.returning, ?_,
    fun _ => hstage⟩
  intro hcertain hsettled hadmitted
  obtain ⟨hleased, houtcome, hclosed, hrecorded⟩ := hsound.settled hcertain hsettled hadmitted
  exact ⟨hleased, houtcome, hclosed, hrecorded⟩

theorem settleAnswered (h : DrainInv s) {id : Nat} {recorded : Bool}
    (hexec : (MaintenanceEvent.settleAnswered id recorded).exec s = some s') : DrainInv s' := by
  obtain ⟨row, hrow, hstep⟩ := Option.bind_eq_some_iff.mp hexec
  have hid : row.id = id := (Table.find?_eq_some.mp hrow).2
  have hsound := h.effects row (Table.mem_of_find? hrow)
  subst hid
  obtain ⟨hstage, hsame⟩ := Option.ite_none_right_eq_some.mp hstep
  cases hsame
  have hmono : s.uncertain = true → (s.uncertain || !recorded) = true := by
    intro hu
    simp [hu]
  refine h.setEffect row _ rfl hrow rfl rfl hmono ?_ rfl rfl rfl id Or.inl
  refine ⟨by simp, by simp, by simp, ?_⟩
  intro hcertain _
  simp only [Maintenance.raise, Maintenance.setEffect, Bool.or_eq_false_iff,
    Bool.not_eq_false'] at hcertain
  obtain ⟨hpermitted, hstarted⟩ := hsound.permitted (Or.inr hstage)
  exact ⟨hpermitted, hstarted, hsound.completed hstage, hcertain.2⟩

theorem effectDeleted (h : DrainInv s) {id : Nat}
    (hexec : (MaintenanceEvent.effectDeleted id).exec s = some s') : DrainInv s' := by
  obtain ⟨row, hrow, hstep⟩ := Option.bind_eq_some_iff.mp hexec
  have hid : row.id = id := (Table.find?_eq_some.mp hrow).2
  have hsound := h.effects row (Table.mem_of_find? hrow)
  subst hid
  obtain ⟨hstage, hsame⟩ := Option.ite_none_right_eq_some.mp hstep
  cases hsame
  refine h.setEffect row _ rfl hrow rfl rfl id ?_ rfl rfl rfl (by simp) Or.inl
  exact ⟨fun hne => absurd hstage hne, hsound.permitted, hsound.completed, hsound.settled⟩

/-- The body a finishing event names. -/
theorem finished (h : DrainInv s) {body : HeldBody} {id : Nat} (whether : Bool)
    (hfind : s.bodies.find? id = some body) :
    DrainInv ((s.setBody { body with finished := true }).raise whether) := by
  have hid : body.id = id := (Table.find?_eq_some.mp hfind).2
  have hmono : s.uncertain = true → (s.uncertain || whether) = true := by
    intro hu
    simp [hu]
  exact h.setBody body _ rfl (hid ▸ hfind) rfl rfl hmono rfl rfl

theorem step (h : DrainInv s) {event : MaintenanceEvent} (hexec : event.exec s = some s') :
    DrainInv s' := by
  cases event with
  | run id => exact h.runCalled hexec
  | admitCalled id => exact h.admitted hexec
  | admitAnswered => exact h.admitAnswered hexec
  | handled => exact h.handled hexec
  | returnAnswered => exact h.returnAnswered hexec
  | runDeleted => exact h.runDeleted hexec
  | effect => exact h.addEffect hexec
  | permitAnswered => exact h.permitAnswered hexec
  | operationEnded => exact h.operationEnded hexec
  | responded => exact h.responded hexec
  | settleAnswered => exact h.settleAnswered hexec
  | effectDeleted => exact h.effectDeleted hexec
  | read id result =>
      obtain ⟨body, hbody, hstep⟩ := Option.bind_eq_some_iff.mp hexec
      cases result with
      | chunk =>
          cases hstep
          exact h
      | done =>
          cases hstep
          exact (h.finished false hbody).frame rfl rfl rfl (by simp [Maintenance.raise])
      | failed =>
          cases hstep
          exact h.finished _ hbody
  | consumed id outcome =>
      obtain ⟨body, hbody, hstep⟩ := Option.bind_eq_some_iff.mp hexec
      cases hstep
      exact h.finished _ hbody
  | cancel bodyId id threw =>
      obtain ⟨body, hbody, hstep⟩ := Option.bind_eq_some_iff.mp hexec
      obtain ⟨_, hstep⟩ := Option.ite_none_right_eq_some.mp hstep
      split at hstep
      · cases hstep
        exact h.finished _ hbody
      · exact h.addEffect hstep
  | unsupported =>
      cases hexec
      exact h.frame rfl rfl rfl (by simp [Maintenance.raise])
  | stop =>
      obtain ⟨_, hsame⟩ := Option.ite_none_right_eq_some.mp hexec
      cases hsame
      exact h.frame rfl rfl rfl id
  | stopAnswered accepted =>
      obtain ⟨_, hexec⟩ := Option.ite_none_right_eq_some.mp hexec
      split at hexec <;> cases hexec <;> exact h.frame rfl rfl rfl id
  | allSettled =>
      simp only [MaintenanceEvent.exec] at hexec
      split at hexec
      · obtain ⟨_, hexec⟩ := Option.ite_none_right_eq_some.mp hexec
        split at hexec <;> cases hexec <;> exact h.frame rfl rfl rfl id
      · cases hexec
  | assessAnswered accepted =>
      obtain ⟨_, hexec⟩ := Option.ite_none_right_eq_some.mp hexec
      split at hexec <;> cases hexec <;> exact h.frame rfl rfl rfl id
  | stopEnds =>
      obtain ⟨_, hexec⟩ := Option.ite_none_right_eq_some.mp hexec
      split at hexec <;> cases hexec <;> exact h.frame rfl rfl rfl id
  | stopExpires =>
      obtain ⟨_, hsame⟩ := Option.ite_none_right_eq_some.mp hexec
      cases hsame
      exact h.frame rfl rfl rfl id

end DrainInv

/-! ## What no event takes back -/

/-- An uncertainty stays, the state never opens again, a success stays, and no run is added
once the state is not open. -/
structure MaintenanceAfter (s s' : Maintenance) : Prop where
  uncertain : s.uncertain = true → s'.uncertain = true
  closed : s.state ≠ .open → s'.state ≠ .open
  stopped : s.state = .stopped → s'.state = .stopped
  runs : s.state ≠ .open → ∀ run ∈ s'.runs, ∃ old ∈ s.runs, old.id = run.id

instance : IsPreorder Maintenance MaintenanceAfter where
  refl _ := ⟨id, id, id, fun _ run hrun => ⟨run, hrun, rfl⟩⟩
  trans _ _ _ h h' := by
    refine ⟨fun hu => h'.uncertain (h.uncertain hu), fun hs => h'.closed (h.closed hs),
      fun hs => h'.stopped (h.stopped hs), ?_⟩
    intro hs run hrun
    obtain ⟨middle, hmiddle, hid⟩ := h'.runs (h.closed hs) run hrun
    obtain ⟨old, hold, hid'⟩ := h.runs hs middle hmiddle
    exact ⟨old, hold, hid'.trans hid⟩

namespace MaintenanceAfter

variable {s s' : Maintenance}

/-- The state and the runs stay. -/
theorem of_same (hmono : s.uncertain = true → s'.uncertain = true) (hstate : s'.state = s.state)
    (hruns : s'.runs = s.runs) : MaintenanceAfter s s' := by
  refine ⟨hmono, ?_, ?_, ?_⟩
  · rw [hstate]
    exact id
  · rw [hstate]
    exact id
  · intro _ run hrun
    rw [hruns] at hrun
    exact ⟨run, hrun, rfl⟩

/-- One run changes. -/
theorem of_run {key : Nat} {old new : MaintenanceRun}
    (hmono : s.uncertain = true → s'.uncertain = true) (hstate : s'.state = s.state)
    (hruns : s'.runs = s.runs.set new) (hold : s.runs.find? key = some old)
    (hid : new.id = old.id) : MaintenanceAfter s s' := by
  have hframe : MaintenanceAfter s { s' with runs := s.runs } := of_same hmono hstate rfl
  refine ⟨hmono, hframe.closed, hframe.stopped, ?_⟩
  intro _ run hrun
  rw [hruns] at hrun
  rcases Table.mem_set_cases hrun with rfl | ⟨hother, _⟩
  · exact ⟨old, Table.mem_of_find? hold, hid.symm⟩
  · exact ⟨run, hother, rfl⟩

/-- `stop` moves on. -/
theorem of_stop {state : MaintenanceState} {stage : StopStage}
    (hmove : s.state = .open ∧ state = .draining ∨ s.state = .draining ∧ state ≠ .open) :
    MaintenanceAfter s { s with state := state, stop := stage } := by
  refine ⟨id, ?_, ?_, fun _ run hrun => ⟨run, hrun, rfl⟩⟩
  · rcases hmove with ⟨_, rfl⟩ | ⟨_, hstate⟩
    · simp
    · exact fun _ => hstate
  · rcases hmove with ⟨hopen, _⟩ | ⟨hdraining, _⟩
    · simp [hopen]
    · simp [hdraining]

theorem addEffect {key run : Nat} {kind : MainEffect} {body : Option Nat} {started : Bool}
    (hadd : s.addEffect key run kind body started = some s') : MaintenanceAfter s s' := by
  unfold Maintenance.addEffect at hadd
  split at hadd
  · cases hadd
  · obtain ⟨_, hadd⟩ := Option.ite_none_right_eq_some.mp hadd
    obtain ⟨effects, _, rfl⟩ := Option.map_eq_some_iff.mp hadd
    exact of_same id rfl rfl

theorem step {event : MaintenanceEvent} (hexec : event.exec s = some s') :
    MaintenanceAfter s s' := by
  have hraise : ∀ whether, s.uncertain = true → (s.uncertain || whether) = true := by
    intro whether hu
    simp [hu]
  have hraiseTwice : ∀ first second, s.uncertain = true →
      (s.uncertain || first || second) = true := by
    intro first second hu
    simp [hu]
  cases event with
  | run key =>
      obtain ⟨⟨hopen, _⟩, hexec⟩ := Option.ite_none_right_eq_some.mp hexec
      obtain ⟨runs, _, rfl⟩ := Option.map_eq_some_iff.mp hexec
      exact ⟨id, fun hs => absurd hopen hs, id, fun hs => absurd hopen hs⟩
  | admitCalled key =>
      obtain ⟨row, hrow, hstep⟩ := Option.bind_eq_some_iff.mp hexec
      obtain ⟨_, hsame⟩ := Option.ite_none_right_eq_some.mp hstep
      cases hsame
      exact of_run id rfl rfl hrow rfl
  | admitAnswered key answer =>
      obtain ⟨row, hrow, hstep⟩ := Option.bind_eq_some_iff.mp hexec
      obtain ⟨_, hstep⟩ := Option.ite_none_right_eq_some.mp hstep
      cases answer with
      | failed =>
          cases hstep
          exact of_run (hraise true) rfl rfl hrow rfl
      | mismatched =>
          cases hstep
          exact of_run (hraise true) rfl rfl hrow rfl
      | refused =>
          obtain ⟨_, hsame⟩ := Option.ite_none_left_eq_some.mp hstep
          cases hsame
          exact of_run id rfl rfl hrow rfl
      | leased =>
          obtain ⟨_, hsame⟩ := Option.ite_none_right_eq_some.mp hstep
          cases hsame
          exact of_run id rfl rfl hrow rfl
  | handled key outcome =>
      obtain ⟨row, hrow, hstep⟩ := Option.bind_eq_some_iff.mp hexec
      obtain ⟨_, hstep⟩ := Option.ite_none_right_eq_some.mp hstep
      dsimp only at hstep
      split at hstep
      · cases hstep
        exact of_run (hraise _) rfl rfl hrow rfl
      · cases hstep
        exact of_run (hraiseTwice _ _) rfl rfl hrow rfl
  | returnAnswered key recorded =>
      obtain ⟨row, hrow, hstep⟩ := Option.bind_eq_some_iff.mp hexec
      obtain ⟨_, hsame⟩ := Option.ite_none_right_eq_some.mp hstep
      cases hsame
      exact of_run (hraise _) rfl rfl hrow rfl
  | runDeleted key =>
      obtain ⟨row, hrow, hstep⟩ := Option.bind_eq_some_iff.mp hexec
      obtain ⟨_, hsame⟩ := Option.ite_none_right_eq_some.mp hstep
      cases hsame
      exact of_run id rfl rfl hrow rfl
  | effect => exact addEffect hexec
  | permitAnswered key answer =>
      obtain ⟨_, _, hstep⟩ := Option.bind_eq_some_iff.mp hexec
      obtain ⟨_, hstep⟩ := Option.ite_none_right_eq_some.mp hstep
      split at hstep
      · cases hstep
        exact of_same (hraise true) rfl rfl
      · split at hstep
        · split at hstep
          · cases hstep
            exact of_same id rfl rfl
          · cases hstep
            exact of_same (hraise true) rfl rfl
        · cases hstep
          exact of_same id rfl rfl
  | operationEnded key outcome =>
      obtain ⟨_, _, hstep⟩ := Option.bind_eq_some_iff.mp hexec
      obtain ⟨_, hstep⟩ := Option.ite_none_right_eq_some.mp hstep
      split at hstep
      · cases hstep
        exact of_same id rfl rfl
      · split at hstep
        · obtain ⟨_, hsame⟩ := Option.ite_none_right_eq_some.mp hstep
          cases hsame
          exact of_same id rfl rfl
        · cases hstep
          exact of_same (hraise _) rfl rfl
  | responded key hold body =>
      obtain ⟨row, _, hstep⟩ := Option.bind_eq_some_iff.mp hexec
      obtain ⟨_, hstep⟩ := Option.ite_none_right_eq_some.mp hstep
      split at hstep
      · obtain ⟨middle, hadd, hbodies⟩ := Option.bind_eq_some_iff.mp hstep
        obtain ⟨bodies, _, rfl⟩ := Option.map_eq_some_iff.mp hbodies
        have hsettling : MaintenanceAfter s
            (s.setEffect { row with stage := .settling, completed := some .fulfilled }) :=
          of_same id rfl rfl
        have hlast : MaintenanceAfter middle { middle with bodies := bodies } :=
          of_same id rfl rfl
        exact trans_of MaintenanceAfter hsettling
          (trans_of MaintenanceAfter (addEffect hadd) hlast)
      · cases hstep
        exact of_same id rfl rfl
  | settleAnswered key recorded =>
      obtain ⟨_, _, hstep⟩ := Option.bind_eq_some_iff.mp hexec
      obtain ⟨_, hsame⟩ := Option.ite_none_right_eq_some.mp hstep
      cases hsame
      exact of_same (hraise _) rfl rfl
  | effectDeleted key =>
      obtain ⟨_, _, hstep⟩ := Option.bind_eq_some_iff.mp hexec
      obtain ⟨_, hsame⟩ := Option.ite_none_right_eq_some.mp hstep
      cases hsame
      exact of_same id rfl rfl
  | read key result =>
      obtain ⟨_, _, hstep⟩ := Option.bind_eq_some_iff.mp hexec
      cases result with
      | chunk =>
          cases hstep
          exact of_same id rfl rfl
      | done =>
          cases hstep
          exact of_same id rfl rfl
      | failed =>
          cases hstep
          exact of_same (hraise true) rfl rfl
  | consumed key outcome =>
      obtain ⟨_, _, hstep⟩ := Option.bind_eq_some_iff.mp hexec
      cases hstep
      exact of_same (hraise _) rfl rfl
  | cancel body key threw =>
      obtain ⟨_, _, hstep⟩ := Option.bind_eq_some_iff.mp hexec
      obtain ⟨_, hstep⟩ := Option.ite_none_right_eq_some.mp hstep
      split at hstep
      · cases hstep
        exact of_same (hraise true) rfl rfl
      · exact addEffect hstep
  | unsupported =>
      cases hexec
      exact of_same (hraise true) rfl rfl
  | stop =>
      obtain ⟨hopen, hsame⟩ := Option.ite_none_right_eq_some.mp hexec
      cases hsame
      exact of_stop (Or.inl ⟨hopen, rfl⟩)
  | stopAnswered accepted =>
      obtain ⟨hguard, hexec⟩ := Option.ite_none_right_eq_some.mp hexec
      split at hexec
      · cases hexec
        exact of_same id rfl rfl
      · cases hexec
        exact of_stop (Or.inr ⟨hguard.2, by simp⟩)
  | allSettled =>
      simp only [MaintenanceEvent.exec] at hexec
      split at hexec
      · obtain ⟨hguard, hexec⟩ := Option.ite_none_right_eq_some.mp hexec
        split at hexec
        · cases hexec
          exact of_stop (Or.inr ⟨hguard.1, by simp⟩)
        · cases hexec
          exact of_same id rfl rfl
      · cases hexec
  | assessAnswered accepted =>
      obtain ⟨hguard, hexec⟩ := Option.ite_none_right_eq_some.mp hexec
      split at hexec
      · cases hexec
        exact of_same id rfl rfl
      · cases hexec
        exact of_stop (Or.inr ⟨hguard.2, by simp⟩)
  | stopEnds =>
      obtain ⟨hguard, hexec⟩ := Option.ite_none_right_eq_some.mp hexec
      split at hexec
      · cases hexec
        exact of_stop (Or.inr ⟨hguard.2, by simp⟩)
      · cases hexec
        exact of_stop (Or.inr ⟨hguard.2, by simp⟩)
  | stopExpires =>
      obtain ⟨hdraining, hsame⟩ := Option.ite_none_right_eq_some.mp hexec
      cases hsame
      exact of_stop (Or.inr ⟨hdraining, by simp⟩)

end MaintenanceAfter

/-! ## The drained state -/

/-- Every admitted invocation has returned, and every effect of theirs was permitted, has
completed and has been recorded. -/
structure Drained (s : Maintenance) : Prop where
  runs : ∀ run ∈ s.runs, run.stage = .settled ∧ (run.admitted = true → Returned run)
  effects : ∀ effect ∈ s.effects, effect.stage = .settled ∧ effect.permitted = true ∧
    effect.started = true ∧ effect.completed ≠ none ∧ effect.recorded = true
  bodies : ∀ body ∈ s.bodies, body.finished = true

/-- No effect of the later state is new, and none has started since. -/
def NoneStarted (s s' : Maintenance) : Prop :=
  ∀ effect ∈ s'.effects, ∃ old ∈ s.effects, old.id = effect.id ∧ old.started = effect.started

namespace Drained

variable {s s' : Maintenance}

/-- What `stop` found when it succeeded. -/
theorem of_stopEnds (h : DrainInv s) (hexec : MaintenanceEvent.stopEnds.exec s = some s')
    (hstopped : s'.state = .stopped) : Drained s' := by
  obtain ⟨_, hexec⟩ := Option.ite_none_right_eq_some.mp hexec
  split at hexec
  · cases hexec
    cases hstopped
  · next hguard =>
      cases hexec
      rw [not_or, not_not] at hguard
      obtain ⟨hcertain, hactive⟩ := hguard
      have hcertain : s.uncertain = false := by simpa using hcertain
      have hruns : ∀ run ∈ s.runs, run.stage = .settled := by
        intro run hrun
        apply (h.runs run hrun).active
        rw [Maintenance.activeRuns, List.map_eq_nil_iff] at hactive
        simpa using List.filter_eq_nil_iff.mp hactive run hrun
      have hreturned : ∀ run ∈ s.runs, run.admitted = true → Returned run := by
        intro run hrun hadmitted
        exact (h.runs run hrun).settled hcertain (hruns run hrun) hadmitted
      have heffects : ∀ effect ∈ s.effects, effect.stage = .settled := by
        intro effect heffect
        by_contra hpending
        obtain ⟨run, hrun, hleased⟩ := h.owned effect heffect
        have hmem := Table.mem_of_find? hrun
        have hopen := h.accepting effect heffect ((h.effects effect heffect).tracked hpending)
          run hrun
        have hclosed := (hreturned run hmem ((h.runs run hmem).admitted hleased)).closed
        cases hopen.symm.trans hclosed
      have hdone : ∀ effect ∈ s.effects, effect.permitted = true ∧ effect.started = true ∧
          effect.completed ≠ none ∧ effect.recorded = true := by
        intro effect heffect
        exact (h.effects effect heffect).settled hcertain (heffects effect heffect)
      refine ⟨?_, ?_, ?_⟩
      · intro run hrun
        exact ⟨hruns run hrun, hreturned run hrun⟩
      · intro effect heffect
        exact ⟨heffects effect heffect, hdone effect heffect⟩
      · intro body hbody
        obtain ⟨effect, heffect, _, _, hfinished⟩ := h.holds body hbody
        exact hfinished (hdone effect (Table.mem_of_find? heffect)).2.2.1

/-- No scope of a drained state accepts an effect. -/
theorem not_accepting (hinv : DrainInv s) (h : Drained s) {key : Nat} {run : MaintenanceRun}
    (hrun : s.runs.find? key = some run) : run.accepting = false := by
  have hmem := Table.mem_of_find? hrun
  by_contra hopen
  have hopen : run.accepting = true := by simpa using hopen
  have hsound := hinv.runs run hmem
  have hclosed := ((h.runs run hmem).2 (hsound.admitted (hsound.accepting hopen))).closed
  cases hopen.symm.trans hclosed

theorem addEffect_none (hinv : DrainInv s) (h : Drained s) {key run : Nat} {kind : MainEffect}
    {body : Option Nat} {started : Bool} : s.addEffect key run kind body started = none := by
  unfold Maintenance.addEffect
  split
  · rfl
  · next row hrow =>
      rw [if_neg]
      simp [not_accepting hinv h hrow]

/-- A finished body stays finished. -/
theorem finishBody (h : Drained s) (body : HeldBody) (whether : Bool) :
    Drained ((s.setBody { body with finished := true }).raise whether) ∧
      NoneStarted s ((s.setBody { body with finished := true }).raise whether) := by
  refine ⟨⟨h.runs, h.effects, ?_⟩, fun effect heffect => ⟨effect, heffect, rfl, rfl⟩⟩
  intro other hother
  rcases Table.mem_set_cases hother with rfl | ⟨hold, _⟩
  · rfl
  · exact h.bodies other hold

/-- A drained state stays drained, and nothing starts in it. -/
theorem step (hinv : DrainInv s) (h : Drained s) (hstate : s.state = .stopped)
    {event : MaintenanceEvent} (hexec : event.exec s = some s') :
    Drained s' ∧ NoneStarted s s' := by
  have hsame : Drained s ∧ NoneStarted s s :=
    ⟨h, fun effect heffect => ⟨effect, heffect, rfl, rfl⟩⟩
  have hrunStage : ∀ {key row}, s.runs.find? key = some row → row.stage = .settled :=
    fun hrow => (h.runs _ (Table.mem_of_find? hrow)).1
  have heffectStage : ∀ {key row}, s.effects.find? key = some row → row.stage = .settled :=
    fun hrow => (h.effects _ (Table.mem_of_find? hrow)).1
  cases event with
  | run => simp [MaintenanceEvent.exec, hstate] at hexec
  | admitCalled =>
      obtain ⟨row, hrow, hstep⟩ := Option.bind_eq_some_iff.mp hexec
      simp [hrunStage hrow] at hstep
  | admitAnswered =>
      obtain ⟨row, hrow, hstep⟩ := Option.bind_eq_some_iff.mp hexec
      simp [hrunStage hrow] at hstep
  | handled =>
      obtain ⟨row, hrow, hstep⟩ := Option.bind_eq_some_iff.mp hexec
      simp [hrunStage hrow] at hstep
  | returnAnswered =>
      obtain ⟨row, hrow, hstep⟩ := Option.bind_eq_some_iff.mp hexec
      simp [hrunStage hrow] at hstep
  | runDeleted key =>
      obtain ⟨row, hrow, hstep⟩ := Option.bind_eq_some_iff.mp hexec
      obtain ⟨_, hsettled⟩ := Option.ite_none_right_eq_some.mp hstep
      cases hsettled
      refine ⟨⟨?_, h.effects, h.bodies⟩, fun effect heffect => ⟨effect, heffect, rfl, rfl⟩⟩
      intro run hrun
      rcases Table.mem_set_cases hrun with rfl | ⟨hold, _⟩
      · obtain ⟨hstage, hreturned⟩ := h.runs row (Table.mem_of_find? hrow)
        refine ⟨hstage, ?_⟩
        intro hadmitted
        obtain ⟨hleased, houtcome, hclosed, hrecorded⟩ := hreturned hadmitted
        exact ⟨hleased, houtcome, hclosed, hrecorded⟩
      · exact h.runs run hold
  | effect =>
      simp only [MaintenanceEvent.exec, addEffect_none hinv h] at hexec
      cases hexec
  | permitAnswered =>
      obtain ⟨row, hrow, hstep⟩ := Option.bind_eq_some_iff.mp hexec
      simp [heffectStage hrow] at hstep
  | operationEnded =>
      obtain ⟨row, hrow, hstep⟩ := Option.bind_eq_some_iff.mp hexec
      simp [heffectStage hrow] at hstep
  | responded =>
      obtain ⟨row, hrow, hstep⟩ := Option.bind_eq_some_iff.mp hexec
      simp [heffectStage hrow] at hstep
  | settleAnswered =>
      obtain ⟨row, hrow, hstep⟩ := Option.bind_eq_some_iff.mp hexec
      simp [heffectStage hrow] at hstep
  | effectDeleted key =>
      obtain ⟨row, hrow, hstep⟩ := Option.bind_eq_some_iff.mp hexec
      obtain ⟨_, hsettled⟩ := Option.ite_none_right_eq_some.mp hstep
      cases hsettled
      have hmem := Table.mem_of_find? hrow
      refine ⟨⟨h.runs, ?_, h.bodies⟩, ?_⟩
      · intro effect heffect
        rcases Table.mem_set_cases heffect with rfl | ⟨hold, _⟩
        · exact h.effects row hmem
        · exact h.effects effect hold
      · intro effect heffect
        rcases Table.mem_set_cases heffect with rfl | ⟨hold, _⟩
        · exact ⟨row, hmem, rfl, rfl⟩
        · exact ⟨effect, hold, rfl, rfl⟩
  | read key result =>
      obtain ⟨_, _, hstep⟩ := Option.bind_eq_some_iff.mp hexec
      cases result with
      | chunk =>
          cases hstep
          exact hsame
      | done =>
          cases hstep
          obtain ⟨hdrained, hnone⟩ := h.finishBody _ false
          exact ⟨⟨hdrained.runs, hdrained.effects, hdrained.bodies⟩, hnone⟩
      | failed =>
          cases hstep
          exact h.finishBody _ _
  | consumed key outcome =>
      obtain ⟨_, _, hstep⟩ := Option.bind_eq_some_iff.mp hexec
      cases hstep
      exact h.finishBody _ _
  | cancel bodyKey key threw =>
      obtain ⟨_, _, hstep⟩ := Option.bind_eq_some_iff.mp hexec
      obtain ⟨hopen, _⟩ := Option.ite_none_right_eq_some.mp hstep
      obtain ⟨run, hrun, haccepting⟩ := (Option.any_eq_true _ _).mp hopen
      cases haccepting.symm.trans (not_accepting hinv h hrun)
  | unsupported =>
      cases hexec
      exact ⟨⟨h.runs, h.effects, h.bodies⟩, fun effect heffect => ⟨effect, heffect, rfl, rfl⟩⟩
  | stop => simp [MaintenanceEvent.exec, hstate] at hexec
  | stopAnswered => simp [MaintenanceEvent.exec, hstate] at hexec
  | allSettled =>
      simp only [MaintenanceEvent.exec] at hexec
      split at hexec
      · simp [hstate] at hexec
      · cases hexec
  | assessAnswered => simp [MaintenanceEvent.exec, hstate] at hexec
  | stopEnds => simp [MaintenanceEvent.exec, hstate] at hexec
  | stopExpires => simp [MaintenanceEvent.exec, hstate] at hexec

end Drained

/-! ## Runs -/

def MaintenanceStep (s : Maintenance) (event : MaintenanceEvent) (s' : Maintenance) : Prop :=
  event.exec s = some s'

def MaintenanceReachable (s : Maintenance) : Prop :=
  Reachable MaintenanceStep (fun start => start = newMaintenance) s

/-- A `stop` gave its disposition. -/
def StopSucceeds (move : Move Maintenance MaintenanceEvent) : Prop :=
  move.label = .stopEnds ∧ move.dst.state = .stopped

theorem MaintenanceReachable.drainInv {s : Maintenance} (h : MaintenanceReachable s) :
    DrainInv s := by
  refine Reachable.invariant h ?_ ?_
  · rintro _ rfl
    exact DrainInv.initially
  · intro _ _ _ hinv hstep
    exact hinv.step hstep

theorem MaintenanceAfter.run {s s' : Maintenance} {trace : List (Move Maintenance MaintenanceEvent)}
    (hrun : Run MaintenanceStep s trace s') : MaintenanceAfter s s' :=
  hrun.relates fun _ _ _ => MaintenanceAfter.step

/-- From a drained state on, it stays drained and nothing starts. -/
theorem Drained.run {s s' : Maintenance} (hs : MaintenanceReachable s) (h : Drained s)
    (hstate : s.state = .stopped) {trace : List (Move Maintenance MaintenanceEvent)}
    (hrun : Run MaintenanceStep s trace s') : Drained s' ∧ NoneStarted s s' := by
  induction hrun with
  | nil => exact ⟨h, fun effect heffect => ⟨effect, heffect, rfl, rfl⟩⟩
  | @snoc middle last trace event hfront hlast ih =>
      obtain ⟨hdrained, hnone⟩ := ih
      have hmiddle : MaintenanceReachable middle := Reachable.run hs hfront
      have hstopped := (MaintenanceAfter.run hfront).stopped hstate
      obtain ⟨hdrained', hnone'⟩ := Drained.step hmiddle.drainInv hdrained hstopped hlast
      refine ⟨hdrained', ?_⟩
      intro effect heffect
      obtain ⟨between, hbetween, hid, hstarted⟩ := hnone' effect heffect
      obtain ⟨old, hold, hid', hstarted'⟩ := hnone between hbetween
      exact ⟨old, hold, hid'.trans hid, hstarted'.trans hstarted⟩

/-- A success is a drained state. -/
theorem StopSucceeds.drained {move : Move Maintenance MaintenanceEvent}
    (hsrc : MaintenanceReachable move.src)
    (hstep : MaintenanceStep move.src move.label move.dst) (h : StopSucceeds move) :
    Drained move.dst := by
  obtain ⟨hlabel, hstopped⟩ := h
  unfold MaintenanceStep at hstep
  rw [hlabel] at hstep
  exact Drained.of_stopEnds hsrc.drainInv hstep hstopped

theorem StopSucceeds.source {move : Move Maintenance MaintenanceEvent}
    (hstep : MaintenanceStep move.src move.label move.dst) (h : StopSucceeds move) :
    move.src.state = .draining := by
  unfold MaintenanceStep at hstep
  rw [h.1] at hstep
  exact (Option.ite_none_right_eq_some.mp hstep).1.2

/-- In every run of one instance: when a `stop` succeeds, every admitted invocation has
returned fulfilled and every effect was permitted, has completed and has been recorded, and
so it stays; once the state is not open no run is added; an uncertainty stays; and no two
stops succeed. -/
theorem maintenance_drain {start last : Maintenance}
    {trace : List (Move Maintenance MaintenanceEvent)} (hstart : MaintenanceReachable start)
    (hrun : Run MaintenanceStep start trace last) :
    (∀ front move back, trace = front ++ move :: back → StopSucceeds move →
      Drained move.dst ∧ Drained last ∧ NoneStarted move.dst last) ∧
    (start.state ≠ .open → last.state ≠ .open ∧
      ∀ run ∈ last.runs, ∃ old ∈ start.runs, old.id = run.id) ∧
    (start.uncertain = true → last.uncertain = true) ∧
    trace.Pairwise fun earlier later => ¬ (StopSucceeds earlier ∧ StopSucceeds later) := by
  have hafter := MaintenanceAfter.run hrun
  refine ⟨?_, fun hclosed => ⟨hafter.closed hclosed, hafter.runs hclosed⟩, hafter.uncertain, ?_⟩
  · rintro front move back rfl hsucceeds
    obtain ⟨hfront, hstep, hback⟩ := hrun.around
    have hsrc : MaintenanceReachable move.src := Reachable.run hstart hfront
    have hdst : MaintenanceReachable move.dst := Reachable.extend hsrc hstep
    have hdrained := hsucceeds.drained hsrc hstep
    exact ⟨hdrained, hdrained.run hdst hsucceeds.2 hback⟩
  · clear hafter
    induction hrun with
    | nil => exact List.Pairwise.nil
    | @snoc middle last trace event hfront hlast ih =>
        rw [List.pairwise_append]
        refine ⟨ih, List.pairwise_singleton _ _, ?_⟩
        intro earlier hearlier later hlater hboth
        obtain rfl := List.mem_singleton.mp hlater
        obtain ⟨before, after, rfl⟩ := List.append_of_mem hearlier
        obtain ⟨_, _, hback⟩ := hfront.around
        -- the first success leaves a state that a second one cannot start from
        have hstopped := (MaintenanceAfter.run hback).stopped hboth.1.2
        cases hstopped.symm.trans (hboth.2.source hlast)

namespace MaintenanceSample

/-- One invocation with one effect, drained. -/
def events : List MaintenanceEvent :=
  [.run 1, .admitCalled 1, .admitAnswered 1 .leased, .effect 10 1 .d1, .permitAnswered 10 (some true),
    .stop, .operationEnded 10 .fulfilled, .settleAnswered 10 true, .effectDeleted 10,
    .handled 1 .fulfilled, .returnAnswered 1 true, .runDeleted 1, .stopAnswered true,
    .allSettled, .assessAnswered true]

end MaintenanceSample

/-- The drain of one invocation succeeds, and what the theorem says of it holds. -/
theorem maintenance_drain_sample :
    ∃ ready stopped, execAll (fun s event => MaintenanceEvent.exec s event) newMaintenance
        MaintenanceSample.events = some ready ∧
      MaintenanceEvent.stopEnds.exec ready = some stopped ∧ stopped.runs.rows ≠ [] ∧
      stopped.effects.rows ≠ [] ∧ Drained stopped := by
  have hready : (execAll (fun s event => MaintenanceEvent.exec s event) newMaintenance
      MaintenanceSample.events).isSome = true := by decide +kernel
  obtain ⟨ready, hready⟩ := Option.isSome_iff_exists.mp hready
  have hends : ((execAll (fun s event => MaintenanceEvent.exec s event) newMaintenance
      MaintenanceSample.events).bind fun s => MaintenanceEvent.stopEnds.exec s).map
        (fun s => (s.state, s.runs.rows.length, s.effects.rows.length)) =
      some (.stopped, 1, 1) := by decide +kernel
  rw [hready, Option.bind_some] at hends
  obtain ⟨stopped, hstop, hshape⟩ := Option.map_eq_some_iff.mp hends
  simp only [Prod.mk.injEq] at hshape
  obtain ⟨hstate, hruns, heffects⟩ := hshape
  have hreachable : MaintenanceReachable ready := by
    have hsteps : ∀ s event t, MaintenanceEvent.exec s event = some t →
        MaintenanceStep s (id event) t := fun _ _ _ => id
    exact ⟨newMaintenance, _, rfl, run_movesOf hsteps hready⟩
  have hends : MaintenanceStep ready .stopEnds stopped := hstop
  have hdrain := maintenance_drain hreachable (Run.single hends)
  refine ⟨ready, stopped, hready, hstop, ?_, ?_, ?_⟩
  · intro hnil
    simp [hnil] at hruns
  · intro hnil
    simp [hnil] at heffects
  · exact (hdrain.1 [] ⟨ready, .stopEnds, stopped⟩ [] rfl ⟨rfl, hstate⟩).1

end FlickrGroupAddr

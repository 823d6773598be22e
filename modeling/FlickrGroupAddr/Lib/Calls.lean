import FlickrGroupAddr.Lib.Workers

/-!
# Calls of a pool

What a worker has asked since it started its program, with the answers it saw.  A rule for
what may be asked after which answers holds in every run, as soon as the programs follow it.
-/

namespace Workers

set_option autoImplicit false

open Program Transition

variable {σ ι ω : Type} {Ans : ω → Type} [DecidableEq ι]

/-- The operations of one call with their answers, in order. -/
abbrev Call {ω : Type} (Ans : ω → Type) := List (Sigma Ans)

/-- A rule for what may be asked after which answers. -/
def callMonitor (allows : Call Ans → ω → Prop) : Monitor Ans (Call Ans) where
  allows := allows
  next call o answer := call ++ [⟨o, answer⟩]

/-- The call of a worker after a step. -/
def callAfter (i : ι) (call : Call Ans) : Act ι Ans → Call Ans
  | .start j | .crash j => if j = i then [] else call
  | .perform entry | .lose entry =>
      if entry.worker = i then call ++ [⟨entry.op, entry.answer⟩] else call
  | .external | .late _ => call

/-- The call a worker is in at the end of a trace. -/
def callOf (i : ι) (trace : List (Move (Pool σ ι Ans) (Act ι Ans))) : Call Ans :=
  trace.foldl (fun call move => callAfter i call move.label) []

@[simp] theorem callOf_nil (i : ι) :
    callOf i ([] : List (Move (Pool σ ι Ans) (Act ι Ans))) = [] := rfl

@[simp] theorem callOf_snoc (i : ι) (trace : List (Move (Pool σ ι Ans) (Act ι Ans)))
    (move : Move (Pool σ ι Ans) (Act ι Ans)) :
    callOf i (trace ++ [move]) = callAfter i (callOf i trace) move.label := by
  simp [callOf, List.foldl_append]

/-- A worker asked this, and this is what it saw. -/
def Act.tells (act : Act ι Ans) (entry : Entry ι Ans) : Prop :=
  act = .perform entry ∨ act = .lose entry

/-- A step ends a call, leaves it as it is, or adds what its worker saw. -/
theorem callAfter_cases (i : ι) (call : Call Ans) (act : Act ι Ans) :
    callAfter i call act = [] ∨ callAfter i call act = call ∨
      ∃ entry, act.tells entry ∧ entry.worker = i ∧
        callAfter i call act = call ++ [⟨entry.op, entry.answer⟩] := by
  cases act with
  | external | late o => exact Or.inr (Or.inl rfl)
  | start j | crash j =>
      by_cases hj : j = i
      · exact Or.inl (by simp [callAfter, hj])
      · exact Or.inr (Or.inl (by simp [callAfter, hj]))
  | perform entry =>
      by_cases hworker : entry.worker = i
      · exact Or.inr (Or.inr ⟨entry, Or.inl rfl, hworker, by simp [callAfter, hworker]⟩)
      · exact Or.inr (Or.inl (by simp [callAfter, hworker]))
  | lose entry =>
      by_cases hworker : entry.worker = i
      · exact Or.inr (Or.inr ⟨entry, Or.inr rfl, hworker, by simp [callAfter, hworker]⟩)
      · exact Or.inr (Or.inl (by simp [callAfter, hworker]))

/-- Only the worker that acts sees something new. -/
theorem mem_callAfter {i : ι} {call : Call Ans} {act : Act ι Ans} {asked : Sigma Ans}
    (h : asked ∈ callAfter i call act) :
    asked ∈ call ∨
      ∃ entry, act.tells entry ∧ entry.worker = i ∧ asked = ⟨entry.op, entry.answer⟩ := by
  rcases callAfter_cases i call act with hnone | hsame | ⟨entry, htells, hworker, hnew⟩
  · rw [hnone] at h
    cases h
  · rw [hsame] at h
    exact Or.inl h
  · rw [hnew] at h
    rcases List.mem_append.mp h with hold | hlast
    · exact Or.inl hold
    · exact Or.inr ⟨entry, htells, hworker, List.mem_singleton.mp hlast⟩

section Runs

variable {machine : Machine σ Ans} {init : σ → Prop} {start p : Pool σ ι Ans}
  {trace : List (Move (Pool σ ι Ans) (Act ι Ans))} {allows : Call Ans → ω → Prop}

/-- Every worker follows the rule from where its call is. -/
theorem run_follows (hprogram : ∀ program, machine.program program →
      Follows (callMonitor allows) (fun _ _ => True) [] program)
    (hstart : PoolInitial init start) (hrun : Run (PoolStep machine) start trace p) (i : ι) :
    Follows (callMonitor allows) (fun _ _ => True) (callOf i trace) (p.programs i) := by
  induction hrun with
  | nil =>
      rw [hstart.idle i]
      trivial
  | @snoc before after front act hrun hstep ih =>
      rw [callOf_snoc]
      cases hstep with
      | external => exact ih
      | late => exact ih
      | @start j program hidle hstarts =>
          by_cases hj : j = i
          · subst hj
            simp only [callAfter, if_true, Function.update_self]
            exact hprogram program hstarts
          · simp only [callAfter, if_neg hj, Function.update_of_ne (Ne.symm hj)]
            exact ih
      | @crash j =>
          by_cases hj : j = i
          · subst hj
            simp only [callAfter, if_true, Function.update_self]
            trivial
          · simp only [callAfter, if_neg hj, Function.update_of_ne (Ne.symm hj)]
            exact ih
      | @perform j o next answer store hasks hserve =>
          by_cases hj : j = i
          · subst hj
            rw [hasks] at ih
            simp only [callAfter, if_true, Function.update_self]
            exact ih.2 answer
          · simp only [callAfter, if_neg hj, Function.update_of_ne (Ne.symm hj)]
            exact ih
      | @lose j o next answer hasks hlost =>
          by_cases hj : j = i
          · subst hj
            rw [hasks] at ih
            simp only [callAfter, if_true, Function.update_self]
            exact ih.2 answer
          · simp only [callAfter, if_neg hj, Function.update_of_ne (Ne.symm hj)]
            exact ih

/-- What a worker asks is allowed after what its call has seen. -/
theorem run_asked (hprogram : ∀ program, machine.program program →
      Follows (callMonitor allows) (fun _ _ => True) [] program)
    (hstart : PoolInitial init start) {front back : List (Move (Pool σ ι Ans) (Act ι Ans))}
    {move : Move (Pool σ ι Ans) (Act ι Ans)} {entry : Entry ι Ans}
    (hrun : Run (PoolStep machine) start (front ++ move :: back) p)
    (htells : move.label.tells entry) : allows (callOf entry.worker front) entry.op := by
  obtain ⟨src, label, dst⟩ := move
  obtain ⟨hfront, hstep, _⟩ := hrun.around
  have hfollows := run_follows hprogram hstart hfront entry.worker
  dsimp only at hstep hfollows
  rcases htells with rfl | rfl
  · cases hstep with
    | perform hasks hserve =>
        rw [hasks] at hfollows
        exact hfollows.1
  · cases hstep with
    | lose hasks hlost =>
        rw [hasks] at hfollows
        exact hfollows.1

/-- Under a rule that a longer call still meets, a call bears out all that it asked. -/
theorem callOf_allowed (hprogram : ∀ program, machine.program program →
      Follows (callMonitor allows) (fun _ _ => True) [] program)
    (hmono : ∀ call more o, allows call o → allows (call ++ more) o)
    (hstart : PoolInitial init start) (hrun : Run (PoolStep machine) start trace p) (i : ι) :
    ∀ asked ∈ callOf i trace, allows (callOf i trace) asked.1 := by
  induction hrun with
  | nil => simp
  | @snoc before after front act hfront hstep ih =>
      intro asked hasked
      rw [callOf_snoc] at hasked ⊢
      rcases callAfter_cases i (callOf i front) act with hnone | hsame | ⟨entry, htells, rfl, hnew⟩
      · rw [hnone] at hasked
        cases hasked
      · rw [hsame] at hasked ⊢
        exact ih asked hasked
      · rw [hnew] at hasked ⊢
        rcases List.mem_append.mp hasked with hold | hlast
        · exact hmono _ _ _ (ih asked hold)
        · cases List.mem_singleton.mp hlast
          have hlast : Run (PoolStep machine) start (front ++ ⟨before, act, after⟩ :: []) after :=
            hfront.snoc hstep
          exact hmono _ _ _ (run_asked hprogram hstart hlast htells)

/-- What was left behind had been allowed when it was asked. -/
theorem run_late (hprogram : ∀ program, machine.program program →
      Follows (callMonitor allows) (fun _ _ => True) [] program)
    (hstart : PoolInitial init start) (hrun : Run (PoolStep machine) start trace p) :
    ∀ o ∈ p.late, ∃ i front back, trace = front ++ back ∧ allows (callOf i front) o := by
  induction hrun with
  | nil =>
      intro o ho
      rw [hstart.late] at ho
      cases ho
  | @snoc before after front act hrun hstep ih =>
      have hlater : ∀ o ∈ before.late, ∃ i first back,
          front ++ [⟨before, act, after⟩] = first ++ back ∧ allows (callOf i first) o := by
        intro o ho
        obtain ⟨i, first, back, hfront, hallows⟩ := ih o ho
        exact ⟨i, first, back ++ [⟨before, act, after⟩], by simp [hfront], hallows⟩
      cases hstep with
      | @lose i o next answer hasks hlost =>
          intro other hother
          rcases List.mem_cons.mp hother with rfl | hother
          · have hfollows := run_follows hprogram hstart hrun i
            rw [hasks] at hfollows
            exact ⟨i, front, _, rfl, hfollows.1⟩
          · exact hlater other hother
      | @late first back o answer store hlate hserve =>
          intro other hother
          apply hlater
          rw [hlate]
          rcases List.mem_append.mp hother with hother | hother
          · exact List.mem_append_left _ hother
          · exact List.mem_append_right _ (List.mem_cons_of_mem _ hother)
      | _ => exact hlater

/-- What takes effect had been allowed when it was asked. -/
theorem run_served (hprogram : ∀ program, machine.program program →
      Follows (callMonitor allows) (fun _ _ => True) [] program)
    (hstart : PoolInitial init start) {front back : List (Move (Pool σ ι Ans) (Act ι Ans))}
    {move : Move (Pool σ ι Ans) (Act ι Ans)} {o : ω}
    (hrun : Run (PoolStep machine) start (front ++ move :: back) p)
    (hserved : move.label.served = some o) :
    ∃ i first rest, front = first ++ rest ∧ allows (callOf i first) o := by
  obtain ⟨src, label, dst⟩ := move
  obtain ⟨hfront, hstep, _⟩ := hrun.around
  dsimp only at hstep hserved
  cases hstep with
  | @perform i o next answer store hasks hserve =>
      cases hserved
      have hfollows := run_follows hprogram hstart hfront i
      dsimp only at hfollows
      rw [hasks] at hfollows
      exact ⟨i, front, [], by simp, hfollows.1⟩
  | @late first rest o answer store hlate hserve =>
      cases hserved
      apply run_late hprogram hstart hfront
      dsimp only
      rw [hlate]
      exact List.mem_append_right _ List.mem_cons_self
  | _ => cases hserved

end Runs

/-- What a call has seen was asked in a step before. -/
theorem mem_callOf {i : ι} {trace : List (Move (Pool σ ι Ans) (Act ι Ans))} {o : ω} {answer : Ans o}
    (h : ⟨o, answer⟩ ∈ callOf i trace) :
    ∃ move ∈ trace, move.label.tells ⟨i, o, answer⟩ := by
  induction trace using List.reverseRecOn with
  | nil => cases h
  | append_singleton front move ih =>
      rw [callOf_snoc] at h
      have hlater : ⟨o, answer⟩ ∈ callOf i front →
          ∃ earlier ∈ front ++ [move], earlier.label.tells ⟨i, o, answer⟩ := by
        intro hmem
        obtain ⟨earlier, hearlier, htells⟩ := ih hmem
        exact ⟨earlier, List.mem_append_left _ hearlier, htells⟩
      have hnew : ∀ entry : Entry ι Ans, move.label.tells entry →
          ⟨o, answer⟩ ∈ (if entry.worker = i then callOf i front ++ [⟨entry.op, entry.answer⟩]
            else callOf i front) →
          ∃ earlier ∈ front ++ [move], earlier.label.tells ⟨i, o, answer⟩ := by
        intro entry htells hmem
        split at hmem
        · next hworker =>
            rcases List.mem_append.mp hmem with hold | hlast
            · exact hlater hold
            · obtain ⟨worker, op, given⟩ := entry
              cases hworker
              cases List.mem_singleton.mp hlast
              exact ⟨move, List.mem_append_right _ (List.mem_singleton_self _), htells⟩
        · exact hlater hmem
      cases hlabel : move.label with
      | perform entry =>
          rw [hlabel] at h
          exact hnew entry (Or.inl hlabel) h
      | lose entry =>
          rw [hlabel] at h
          exact hnew entry (Or.inr hlabel) h
      | start j =>
          rw [hlabel] at h
          simp only [callAfter] at h
          split at h
          · cases h
          · exact hlater h
      | crash j =>
          rw [hlabel] at h
          simp only [callAfter] at h
          split at h
          · cases h
          · exact hlater h
      | external =>
          rw [hlabel] at h
          exact hlater h
      | late o =>
          rw [hlabel] at h
          exact hlater h

section Performed

variable {machine : Machine σ Ans} {init : σ → Prop} {start p : Pool σ ι Ans}
  {trace : List (Move (Pool σ ι Ans) (Act ι Ans))}

/-- What is in the log was asked in a step. -/
theorem run_logged (hstart : PoolInitial init start) (hrun : Run (PoolStep machine) start trace p)
    {entry : Entry ι Ans} (hentry : entry ∈ p.log) :
    ∃ front move back, trace = front ++ move :: back ∧ move.label.tells entry := by
  induction hrun with
  | nil =>
      rw [hstart.log] at hentry
      cases hentry
  | @snoc before after trace act hrun hstep ih =>
      have hlater : entry ∈ before.log → ∃ front move back,
          trace ++ [⟨before, act, after⟩] = front ++ move :: back ∧ move.label.tells entry := by
        intro hmem
        obtain ⟨front, move, back, rfl, htells⟩ := ih hmem
        exact ⟨front, move, back ++ [⟨before, act, after⟩], by simp, htells⟩
      cases hstep with
      | perform =>
          rcases List.mem_cons.mp hentry with rfl | hold
          · exact ⟨trace, _, [], rfl, Or.inl rfl⟩
          · exact hlater hold
      | lose =>
          rcases List.mem_cons.mp hentry with rfl | hold
          · exact ⟨trace, _, [], rfl, Or.inr rfl⟩
          · exact hlater hold
      | _ => exact hlater hentry

/-- An answer that no lost call gives was given by the machine. -/
theorem run_performed (hrun : Run (PoolStep machine) start trace p)
    {move : Move (Pool σ ι Ans) (Act ι Ans)} (hmove : move ∈ trace) {entry : Entry ι Ans}
    (htells : move.label.tells entry) (hkept : ¬ machine.lost entry.op entry.answer) :
    move.label = .perform entry ∧
      machine.serve move.src.store entry.op entry.answer move.dst.store := by
  obtain ⟨front, back, rfl⟩ := List.append_of_mem hmove
  obtain ⟨_, hstep, _⟩ := hrun.around
  obtain ⟨src, label, dst⟩ := move
  dsimp only at hstep htells ⊢
  rcases htells with rfl | rfl
  · cases hstep with
    | perform _ hserve => exact ⟨rfl, hserve⟩
  · cases hstep with
    | lose _ hlost => exact absurd hlost hkept

end Performed

end Workers

import FlickrGroupAddr.NativeWakeup

/-!
# What the wake ledger keeps

Every transaction of the object changes its storage in one of ten ways.  A schedule takes
the next revision and an admission takes the due time off the work it admits, so a revision
is admitted once, and a due time leaves the work only by an admission, a newer schedule or
a deletion.
-/

namespace FlickrGroupAddr.NativeWakeup

set_option autoImplicit false

open KeyedTable Program Workers Transition Fallible

/-! ## What a transaction does -/

/-- What an answered operation shows of its change. -/
inductive WakeEvent where
  | scheduled (w : WakeWork)
  | admitted (t : WakeAdmission)
  | deleted
  | closed
  | reopened
  | other
deriving DecidableEq

/-- The changes of the storage. -/
inductive WakeChange (s : WakeStorage) : WakeEvent → WakeStorage → Prop
  | same : WakeChange s .other s
  | delivered : WakeChange s .other { s with alarm := none }
  | scheduled (value : WakeText) (due : Nat) (hopen : s.state = .open) :
      WakeChange s (.scheduled ⟨s.revision + 1, value, some due⟩)
        { s with
          work := some ⟨s.revision + 1, value, some due⟩
          revision := s.revision + 1
          alarm := some due }
  | admitted (w : WakeWork) (due : Nat) (executions : Table WakeExecution.id)
      (hopen : s.state = .open) (hw : s.work = some w) (hdue : w.due = some due)
      (hrow : s.executions.insert?
        ⟨s.sequence + 1, s.generation, w.revision, w.value, .admitted⟩ = some executions) :
      WakeChange s (.admitted ⟨s.sequence + 1, s.generation, w.revision, w.value⟩)
        { s with
          executions := executions
          work := some { w with due := none }
          sequence := s.sequence + 1
          alarm := none }
  | moved (e : WakeExecution) (state : ExecutionState) (hopen : s.state = .open)
      (he : s.executions.find? e.id = some e) (hstate : e.state = .admitted)
      (hmove : state = .cancelled ∨ state = .externalPending) :
      WakeChange s .other
        { s with executions := s.executions.modify e.id fun row => { row with state := state } }
  | settled (e : WakeExecution) (result : WakeOutcome) (results : Table WakeResult.id)
      (hopen : s.state = .open) (he : s.executions.find? e.id = some e) (hstate : e.isOpen)
      (hrow : s.results.insert? ⟨e.id, result⟩ = some results) :
      WakeChange s .other
        { s with
          executions := s.executions.modify e.id fun row => { row with state := .settled }
          results := results }
  | suspended (hopen : s.state = .open) : WakeChange s .other { s with admission := false }
  | deleted (hopen : s.state = .open) :
      WakeChange s .deleted { s with work := none, alarm := none }
  | closed (hopen : s.state = .open) (hdrained : ∀ e ∈ s.executions, ¬ e.isOpen)
      (hwork : ∀ w ∈ s.work, w.due = none) :
      WakeChange s .closed { s with generation := s.generation + 1, state := .closed }
  | reopened (hclosed : s.state = .closed) (hdrained : ∀ e ∈ s.executions, ¬ e.isOpen)
      (hwork : ∀ w ∈ s.work, w.due = none) :
      WakeChange s .reopened
        { s with generation := s.generation + 1, state := .open, admission := true }

section Transactions

variable {s s' : WakeStorage}

theorem opened_eq_ok {expected : Nat} {u : Unit} :
    s.opened expected = .ok u ↔
      counterInRange expected ∧ s.state = .open ∧ s.generation = expected := by
  simp [WakeStorage.opened, counter, bind_eq_ok]

theorem nextCounter_eq_ok {previous next : Nat} :
    nextCounter previous = .ok next ↔ previous < maxGeneration ∧ next = previous + 1 := by
  simp only [nextCounter, bind_eq_ok, require_eq_ok]
  constructor
  · rintro ⟨_, hle, _, hne, h⟩
    cases h
    exact ⟨Nat.lt_of_le_of_ne hle hne, rfl⟩
  · rintro ⟨hlt, rfl⟩
    exact ⟨(), hlt.le, (), hlt.ne, rfl⟩

theorem schedule_eq_ok {expected due revision : Nat} {value : WakeText}
    (h : s.schedule expected value due = .ok (revision, s')) :
    s.state = .open ∧ s.generation = expected ∧ revision = s.revision + 1 ∧
      s' = { s with
        work := some ⟨revision, value, some due⟩
        revision := revision
        alarm := some due } := by
  simp only [WakeStorage.schedule, bind_eq_ok, require_eq_ok, opened_eq_ok, nextCounter_eq_ok] at h
  obtain ⟨_, _, _, _, _, _, _, ⟨_, hopen, hgeneration⟩, _, _, _, ⟨_, rfl⟩, _, _, h⟩ := h
  cases h
  exact ⟨hopen, hgeneration, rfl, rfl⟩

theorem insertExecution_eq_ok {e : WakeExecution} (h : s.insertExecution e = .ok s') :
    ∃ executions, s.executions.insert? e = some executions ∧
      s' = { s with executions := executions } := by
  simp only [WakeStorage.insertExecution, bind_eq_ok] at h
  obtain ⟨_, _, h⟩ := h
  split at h
  · cases h
  · next executions hrow =>
      cases h
      exact ⟨executions, hrow, rfl⟩

theorem insertResult_eq_ok {r : WakeResult} (h : s.insertResult r = .ok s') :
    ∃ results, s.results.insert? r = some results ∧ s' = { s with results := results } := by
  simp only [WakeStorage.insertResult, bind_eq_ok] at h
  obtain ⟨_, _, h⟩ := h
  split at h
  · cases h
  · next results hrow =>
      cases h
      exact ⟨results, hrow, rfl⟩

theorem setExecution_eq_ok {id : Nat} {state : ExecutionState}
    (h : s.setExecution id state = .ok s') :
    s' = { s with
      executions := s.executions.modify id fun e => { e with state := state } } := by
  simp only [WakeStorage.setExecution, bind_eq_ok] at h
  obtain ⟨_, _, h⟩ := h
  cases h
  rfl

theorem dueWork_eq_ok {now : Nat} {found : Option WakeWork} (h : s.dueWork now = .ok found)
    {w : WakeWork} (hfound : found = some w) :
    s.work = some w ∧ ∃ due, w.due = some due ∧ due ≤ now := by
  unfold WakeStorage.dueWork at h
  split at h
  · cases h
    cases hfound
  · next stored hstored =>
      simp only [bind_eq_ok] at h
      obtain ⟨_, _, _, _, h⟩ := h
      split at h
      · cases h
        cases hfound
      · next due hdue =>
          simp only [bind_eq_ok] at h
          obtain ⟨_, _, h⟩ := h
          split at h
          · cases h
            cases hfound
          · next hreached =>
              cases h
              cases hfound
              exact ⟨hstored, due, hdue, Nat.not_lt.mp hreached⟩

/-- An admission takes the work that is due, or changes nothing. -/
theorem admitDue_eq_ok {expected now : Nat} {answer : Option WakeAdmission}
    (h : s.admitDue expected now = .ok (answer, s')) :
    (answer = none ∧ s' = s) ∨
    ∃ w due executions, s.state = .open ∧ s.work = some w ∧ w.due = some due ∧
      s.executions.insert? ⟨s.sequence + 1, s.generation, w.revision, w.value, .admitted⟩ =
        some executions ∧
      answer = some ⟨s.sequence + 1, s.generation, w.revision, w.value⟩ ∧
      s' = { s with
        executions := executions
        work := some { w with due := none }
        sequence := s.sequence + 1
        alarm := none } := by
  simp only [WakeStorage.admitDue, bind_eq_ok, require_eq_ok, opened_eq_ok] at h
  obtain ⟨_, ⟨_, hopen, rfl⟩, _, _, _, _, found, hfound, h⟩ := h
  split at h
  · cases h
    exact Or.inl ⟨rfl, rfl⟩
  · next w =>
      obtain ⟨hw, due, hdue, _⟩ := dueWork_eq_ok hfound rfl
      simp only [bind_eq_ok, nextCounter_eq_ok] at h
      obtain ⟨_, ⟨_, rfl⟩, _, _, admitted, hinsert, h⟩ := h
      obtain ⟨executions, hrow, rfl⟩ := insertExecution_eq_ok hinsert
      cases h
      exact Or.inr ⟨w, due, executions, hopen, hw, hdue, hrow, rfl, rfl⟩

theorem execution_eq_ok {t : WakeAdmission} {state : ExecutionState} {currentRevision : Bool}
    {u : Unit} (h : s.execution t state currentRevision = .ok u) :
    s.state = .open ∧
      s.executions.find? t.id = some ⟨t.id, t.generation, t.revision, t.value, state⟩ := by
  simp only [WakeStorage.execution, bind_eq_ok, require_eq_ok, opened_eq_ok] at h
  obtain ⟨_, _, _, ⟨_, hopen, _⟩, _, hrow, _⟩ := h
  exact ⟨hopen, hrow⟩

theorem complete_eq_ok {t : WakeAdmission} (h : s.complete t = .ok s') : WakeChange s .other s' := by
  simp only [WakeStorage.complete, bind_eq_ok] at h
  obtain ⟨_, hexecution, recorded, hresult, h⟩ := h
  obtain ⟨hopen, hrow⟩ := execution_eq_ok hexecution
  obtain ⟨results, hinsert, rfl⟩ := insertResult_eq_ok hresult
  rw [setExecution_eq_ok h]
  exact WakeChange.settled ⟨t.id, t.generation, t.revision, t.value, .admitted⟩ _ results hopen hrow
    (by simp [WakeExecution.isOpen]) hinsert

theorem settleExternal_eq_ok {t : WakeAdmission} {success : Bool}
    (h : s.settleExternal t success = .ok s') : WakeChange s .other s' := by
  simp only [WakeStorage.settleExternal, bind_eq_ok] at h
  obtain ⟨_, hexecution, recorded, hresult, h⟩ := h
  obtain ⟨hopen, hrow⟩ := execution_eq_ok hexecution
  obtain ⟨results, hinsert, rfl⟩ := insertResult_eq_ok hresult
  rw [setExecution_eq_ok h]
  exact WakeChange.settled ⟨t.id, t.generation, t.revision, t.value, .externalPending⟩ _ results
    hopen hrow (by simp [WakeExecution.isOpen]) hinsert

theorem cancel_eq_ok {t : WakeAdmission} (h : s.cancel t = .ok s') : WakeChange s .other s' := by
  simp only [WakeStorage.cancel, bind_eq_ok] at h
  obtain ⟨_, hexecution, h⟩ := h
  obtain ⟨hopen, hrow⟩ := execution_eq_ok hexecution
  rw [setExecution_eq_ok h]
  exact WakeChange.moved ⟨t.id, t.generation, t.revision, t.value, .admitted⟩ .cancelled hopen hrow
    rfl (Or.inl rfl)

theorem beginExternal_eq_ok {t : WakeAdmission} (h : s.beginExternal t = .ok s') :
    WakeChange s .other s' := by
  simp only [WakeStorage.beginExternal, bind_eq_ok] at h
  obtain ⟨_, hexecution, _, _, h⟩ := h
  obtain ⟨hopen, hrow⟩ := execution_eq_ok hexecution
  rw [setExecution_eq_ok h]
  exact WakeChange.moved ⟨t.id, t.generation, t.revision, t.value, .admitted⟩ .externalPending hopen
    hrow rfl (Or.inr rfl)

theorem suspendAdmission_eq_ok {expected : Nat} (h : s.suspendAdmission expected = .ok s') :
    s.state = .open ∧ s' = { s with admission := false } := by
  simp only [WakeStorage.suspendAdmission, bind_eq_ok, opened_eq_ok] at h
  obtain ⟨_, ⟨_, hopen, _⟩, h⟩ := h
  cases h
  exact ⟨hopen, rfl⟩

theorem deleteScheduled_eq_ok {expected : Nat} (h : s.deleteScheduled expected = .ok s') :
    s.state = .open ∧ s' = { s with work := none, alarm := none } := by
  simp only [WakeStorage.deleteScheduled, bind_eq_ok, opened_eq_ok] at h
  obtain ⟨_, ⟨_, hopen, _⟩, _, _, h⟩ := h
  cases h
  exact ⟨hopen, rfl⟩

theorem drained_eq_ok {u : Unit} :
    s.drained = .ok u ↔
      (∀ e ∈ s.executions, ¬ e.isOpen) ∧ ∀ w ∈ s.work, w.due = none := by
  simp [WakeStorage.drained, bind_eq_ok]

theorem transition_eq_ok {expected : Nat} {source target : ControlState}
    (h : s.transition expected source target = .ok s') :
    s.state = source ∧ s.generation = expected ∧
      s' = { s with generation := s.generation + 1, state := target } := by
  simp only [WakeStorage.transition, bind_eq_ok, require_eq_ok] at h
  obtain ⟨_, _, _, ⟨hgeneration, hstate⟩, _, _, h⟩ := h
  cases h
  exact ⟨hstate, hgeneration, rfl⟩

/-- What a close finds, and leaves. -/
theorem close_eq_ok {expected : Nat} (h : s.close expected = .ok s') :
    s.state = .open ∧ s.generation = expected ∧ (∀ e ∈ s.executions, ¬ e.isOpen) ∧
      (∀ w ∈ s.work, w.due = none) ∧ s.alarm = none ∧
      s' = { s with generation := s.generation + 1, state := .closed } := by
  simp only [WakeStorage.close, bind_eq_ok, require_eq_ok, drained_eq_ok, opened_eq_ok] at h
  obtain ⟨_, ⟨_, hopen, hgeneration⟩, _, _, _, ⟨hdrained, hwork⟩, _, halarm, h⟩ := h
  exact ⟨hopen, hgeneration, hdrained, hwork, halarm, (transition_eq_ok h).2.2⟩

theorem reopen_eq_ok {expected : Nat} (h : s.reopen expected = .ok s') :
    s.state = .closed ∧ s.generation = expected ∧ (∀ e ∈ s.executions, ¬ e.isOpen) ∧
      (∀ w ∈ s.work, w.due = none) ∧
      s' = { s with generation := s.generation + 1, state := .open, admission := true } := by
  simp only [WakeStorage.reopen, bind_eq_ok, require_eq_ok, drained_eq_ok] at h
  obtain ⟨_, ⟨hdrained, hwork⟩, _, _, reopened, htransition, h⟩ := h
  obtain ⟨hclosed, hgeneration, rfl⟩ := transition_eq_ok htransition
  cases h
  exact ⟨hclosed, hgeneration, hdrained, hwork, rfl⟩

end Transactions

/-! ## What an operation does -/

theorem transacts_eq_ok {α : Type} {s s' : WakeStorage} {transaction : Wake (α × WakeStorage)}
    {answer : Wake α} (h : transacts s transaction answer s') :
    (∃ result, transaction = .ok (result, s') ∧ answer = .ok result) ∨
    ∃ refusal, answer = .error refusal ∧ s' = s := by
  unfold transacts at h
  split at h
  · next refusal => exact Or.inr ⟨refusal, h⟩
  · next result after =>
      obtain ⟨hanswer, rfl⟩ := h
      exact Or.inl ⟨result, rfl, hanswer⟩

theorem silent_eq_ok {transaction : Wake WakeStorage} {u : Unit} {s' : WakeStorage}
    (h : silent transaction = .ok (u, s')) : transaction = .ok s' := by
  obtain ⟨after, htransaction, h⟩ := map_eq_ok.mp h
  cases h
  exact htransaction

/-- A silent transaction that committed, or was refused. -/
theorem silent_cases {s s' : WakeStorage} {transaction : Wake WakeStorage} {answer : Wake Unit}
    (h : transacts s (silent transaction) answer s') :
    (transaction = .ok s' ∧ answer = .ok ()) ∨ ∃ refusal, answer = .error refusal ∧ s' = s := by
  rcases transacts_eq_ok h with ⟨result, hcommit, hanswer⟩ | hrefused
  · exact Or.inl ⟨silent_eq_ok hcommit, hanswer⟩
  · exact Or.inr hrefused

/-- What the answer of an operation shows. -/
def wakeEvent : (o : WakeOp) → o.Answer → WakeEvent
  | .schedule _ value due, .ok revision => .scheduled ⟨revision, value, some due⟩
  | .admitDue _, .ok (some t) => .admitted t
  | .deleteScheduled _, .ok _ => .deleted
  | .close _, .ok _ => .closed
  | .reopen _, .ok _ => .reopened
  | _, _ => .other

/-- Every operation changes the storage in one of the ten ways, as its answer shows. -/
theorem serveWake_changes {s s' : WakeStorage} {o : WakeOp} {answer : o.Answer}
    (h : serveWake s o answer s') : WakeChange s (wakeEvent o answer) s' := by
  cases o with
  | control =>
      obtain ⟨_, rfl⟩ := h
      exact WakeChange.same
  | verify expected =>
      cases h
      exact WakeChange.same
  | checkNew generation =>
      obtain ⟨_, rfl⟩ := h
      exact WakeChange.same
  | bridge =>
      cases h
      exact WakeChange.same
  | schedule expected value due =>
      rcases transacts_eq_ok h with ⟨revision, hcommit, rfl⟩ | ⟨_, rfl, rfl⟩
      · obtain ⟨hopen, _, rfl, rfl⟩ := schedule_eq_ok hcommit
        exact WakeChange.scheduled value due hopen
      · exact WakeChange.same
  | admitDue expected =>
      obtain ⟨now, h⟩ := h
      rcases transacts_eq_ok h with ⟨admission, hcommit, rfl⟩ | ⟨_, rfl, rfl⟩
      · rcases admitDue_eq_ok hcommit with ⟨rfl, rfl⟩ |
          ⟨w, due, executions, hopen, hw, hdue, hrow, rfl, rfl⟩
        · exact WakeChange.same
        · exact WakeChange.admitted w due executions hopen hw hdue hrow
      · exact WakeChange.same
  | complete t =>
      rcases silent_cases h with ⟨hcommit, rfl⟩ | ⟨_, rfl, rfl⟩
      · exact complete_eq_ok hcommit
      · exact WakeChange.same
  | cancel t =>
      rcases silent_cases h with ⟨hcommit, rfl⟩ | ⟨_, rfl, rfl⟩
      · exact cancel_eq_ok hcommit
      · exact WakeChange.same
  | beginExternal t =>
      rcases silent_cases h with ⟨hcommit, rfl⟩ | ⟨_, rfl, rfl⟩
      · exact beginExternal_eq_ok hcommit
      · exact WakeChange.same
  | settleExternal t success =>
      rcases silent_cases h with ⟨hcommit, rfl⟩ | ⟨_, rfl, rfl⟩
      · exact settleExternal_eq_ok hcommit
      · exact WakeChange.same
  | suspendAdmission expected =>
      rcases silent_cases h with ⟨hcommit, rfl⟩ | ⟨_, rfl, rfl⟩
      · obtain ⟨hopen, rfl⟩ := suspendAdmission_eq_ok hcommit
        exact WakeChange.suspended hopen
      · exact WakeChange.same
  | deleteScheduled expected =>
      rcases silent_cases h with ⟨hcommit, rfl⟩ | ⟨_, rfl, rfl⟩
      · obtain ⟨hopen, rfl⟩ := deleteScheduled_eq_ok hcommit
        exact WakeChange.deleted hopen
      · exact WakeChange.same
  | close expected =>
      rcases silent_cases h with ⟨hcommit, rfl⟩ | ⟨_, rfl, rfl⟩
      · obtain ⟨hopen, _, hdrained, hwork, _, rfl⟩ := close_eq_ok hcommit
        exact WakeChange.closed hopen hdrained hwork
      · exact WakeChange.same
  | reopen expected =>
      rcases silent_cases h with ⟨hcommit, rfl⟩ | ⟨_, rfl, rfl⟩
      · obtain ⟨hclosed, _, hdrained, hwork, rfl⟩ := reopen_eq_ok hcommit
        exact WakeChange.reopened hclosed hdrained hwork
      · exact WakeChange.same

/-! ## The invariant -/

/-- Counters are ahead of the rows, due work was not admitted, and the results are those of the
settled executions. -/
structure WakeSound (s : WakeStorage) : Prop where
  revisions : ∀ e ∈ s.executions, e.revision ≤ s.revision
  scheduled : ∀ w ∈ s.work, w.revision ≤ s.revision
  pending : ∀ w ∈ s.work, w.due ≠ none → ∀ e ∈ s.executions, e.revision ≠ w.revision
  once : ∀ e ∈ s.executions, ∀ e' ∈ s.executions, e.revision = e'.revision → e = e'
  ids : ∀ e ∈ s.executions, e.id ≤ s.sequence
  results : ∀ id, (s.results.find? id).isSome = true ↔
    ∃ e, s.executions.find? id = some e ∧ e.state = .settled

namespace WakeSound

theorem initially : WakeSound bootstrapWake := by
  constructor
  · intro e he
    exact absurd he (Table.not_mem_empty e)
  · intro w hw
    cases hw
  · intro w hw
    cases hw
  · intro e he
    exact absurd he (Table.not_mem_empty e)
  · intro e he
    exact absurd he (Table.not_mem_empty e)
  · intro id
    simp [bootstrapWake]

/-- A change of the state of one execution. -/
theorem modified {s : WakeStorage} {id : Nat} {state : ExecutionState}
    {results : Table WakeResult.id} (h : WakeSound s)
    (hresults : ∀ id', (results.find? id').isSome = true ↔
      ∃ e, (s.executions.modify id fun e => { e with state := state }).find? id' = some e ∧
        e.state = .settled) :
    WakeSound { s with
      executions := s.executions.modify id fun e => { e with state := state }
      results := results } := by
  have hold : ∀ e' ∈ s.executions.modify id (fun e => { e with state := state }),
      ∃ e ∈ s.executions, e.id = e'.id ∧ e.revision = e'.revision := by
    intro e' he'
    obtain ⟨e, he, rfl⟩ := Table.mem_modify.mp he'
    refine ⟨e, he, ?_⟩
    split
    · exact ⟨rfl, rfl⟩
    · exact ⟨rfl, rfl⟩
  constructor
  · intro e' he'
    obtain ⟨e, he, _, hrevision⟩ := hold e' he'
    exact hrevision ▸ h.revisions e he
  · exact h.scheduled
  · intro w hw hdue e' he'
    obtain ⟨e, he, _, hrevision⟩ := hold e' he'
    exact hrevision ▸ h.pending w hw hdue e he
  · intro e' he' f' hf' hsame
    obtain ⟨e, he, hid, hrevision⟩ := hold e' he'
    obtain ⟨f, hf, hid', hrevision'⟩ := hold f' hf'
    have heq := h.once e he f hf (hrevision.trans (hsame.trans hrevision'.symm))
    apply Table.eq_of_key_eq he' hf'
    rw [← hid, ← hid', heq]
  · intro e' he'
    obtain ⟨e, he, hid, _⟩ := hold e' he'
    exact hid ▸ h.ids e he
  · exact hresults

theorem change {s s' : WakeStorage} {event : WakeEvent} (h : WakeSound s)
    (hchange : WakeChange s event s') :
    WakeSound s' := by
  cases hchange with
  | same => exact h
  | delivered => exact ⟨h.revisions, h.scheduled, h.pending, h.once, h.ids, h.results⟩
  | scheduled value due hopen =>
      refine ⟨?_, ?_, ?_, h.once, h.ids, h.results⟩
      · intro e he
        exact (h.revisions e he).trans (Nat.le_succ _)
      · intro w hw
        cases hw
        exact Nat.le_refl _
      · intro w hw _ e he heq
        cases hw
        have hle := h.revisions e he
        simp only at heq
        omega
  | admitted w due executions hopen hw hdue hrow =>
      have hmem : ∀ e, e ∈ executions ↔ e ∈ s.executions ∨
          e = ⟨s.sequence + 1, s.generation, w.revision, w.value, .admitted⟩ :=
        fun _ => Table.mem_insert? hrow
      have hfresh : ∀ e ∈ s.executions, e.revision ≠ w.revision :=
        h.pending w hw (by simp [hdue])
      constructor
      · intro e he
        rcases (hmem e).mp he with hold | rfl
        · exact h.revisions e hold
        · exact h.scheduled w hw
      · intro w' hw'
        cases hw'
        exact h.scheduled w hw
      · intro w' hw' hnone
        cases hw'
        exact absurd rfl hnone
      · intro e he e' he' hsame
        rcases (hmem e).mp he with hold | rfl
        · rcases (hmem e').mp he' with hold' | rfl
          · exact h.once e hold e' hold' hsame
          · exact absurd hsame (hfresh e hold)
        · rcases (hmem e').mp he' with hold' | rfl
          · exact absurd hsame.symm (hfresh e' hold')
          · rfl
      · intro e he
        rcases (hmem e).mp he with hold | rfl
        · exact (h.ids e hold).trans (Nat.le_succ _)
        · exact Nat.le_refl _
      · intro id
        rw [h.results id, Table.find?_insert? hrow]
        have hnone := (Table.insert?_eq_some hrow).1
        split
        · next hid =>
            rw [hid, hnone]
            simp
        · rfl
  | moved e state hopen he hstate hmove =>
      apply h.modified
      intro id
      rw [h.results id, Table.find?_modify]
      split
      · next hid =>
          subst hid
          rcases hmove with rfl | rfl
          · simp [he, hstate]
          · simp [he, hstate]
      · rfl
  | settled e result results hopen he hstate hrow =>
      apply h.modified
      intro id
      rw [Table.find?_insert? hrow, Table.find?_modify]
      split
      · next hid =>
          simp only [hid, he, Option.map_some]
          simp
      · exact h.results id
  | suspended hopen => exact ⟨h.revisions, h.scheduled, h.pending, h.once, h.ids, h.results⟩
  | deleted hopen =>
      refine ⟨h.revisions, ?_, ?_, h.once, h.ids, h.results⟩
      · intro w hw
        cases hw
      · intro w hw
        cases hw
  | closed hopen hdrained hwork =>
      exact ⟨h.revisions, h.scheduled, h.pending, h.once, h.ids, h.results⟩
  | reopened hclosed hdrained hwork =>
      exact ⟨h.revisions, h.scheduled, h.pending, h.once, h.ids, h.results⟩

end WakeSound

/-! ## Runs -/

section Runs

variable {ι : Type}

abbrev WakePool (ι : Type) := Pool WakeStorage ι WakeOp.Answer

abbrev WakeMove (ι : Type) := Move (WakePool ι) (Act ι WakeOp.Answer)

/-- What a step of the callers and the platform shows. -/
def moveEvent (move : WakeMove ι) : WakeEvent :=
  match move.label with
  | .perform entry => wakeEvent entry.op entry.answer
  | _ => .other

/-- The admission an event shows. -/
def WakeEvent.admission : WakeEvent → Option WakeAdmission
  | .admitted t => some t
  | _ => none

/-- The admission a step answers with. -/
def admissionOf (move : WakeMove ι) : Option WakeAdmission := (moveEvent move).admission

/-- The latest schedule after an event: a deletion takes it off, a newer one replaces it. -/
def scheduleAfter (last : Option WakeWork) : WakeEvent → Option WakeWork
  | .scheduled w => some w
  | .deleted => none
  | _ => last

/-- The latest schedule of a run that was not deleted. -/
def lastSchedule (trace : List (WakeMove ι)) : Option WakeWork :=
  trace.foldl (fun last move => scheduleAfter last (moveEvent move)) none

/-- The fixed part of an execution. -/
def WakeExecution.admission (e : WakeExecution) : WakeAdmission :=
  ⟨e.id, e.generation, e.revision, e.value⟩

/-- No answer is lost, so every step of the pool is a change of the storage. -/
theorem poolStep_changes [DecidableEq ι] {p p' : WakePool ι} {act : Act ι WakeOp.Answer}
    (hlate : p.late = []) (hstep : PoolStep wakeMachine p act p') :
    p'.late = [] ∧ WakeChange p.store (moveEvent ⟨p, act, p'⟩) p'.store := by
  cases hstep with
  | external h =>
      cases h
      exact ⟨hlate, WakeChange.delivered⟩
  | start hidle hprogram => exact ⟨hlate, WakeChange.same⟩
  | perform hasks hserve => exact ⟨hlate, serveWake_changes hserve⟩
  | lose hasks hlost => exact absurd hlost not_false
  | late hqueue hserve =>
      rw [hlate] at hqueue
      simp at hqueue
  | crash => exact ⟨hlate, WakeChange.same⟩

section Changes

variable {s s' : WakeStorage} {event : WakeEvent}

/-- A closed object changes no work, execution or result. -/
theorem WakeChange.frozen (h : WakeChange s event s') (hclosed : s.state = .closed) :
    s'.work = s.work ∧ s'.executions = s.executions ∧ s'.results = s.results := by
  cases h with
  | same => exact ⟨rfl, rfl, rfl⟩
  | delivered => exact ⟨rfl, rfl, rfl⟩
  | reopened => exact ⟨rfl, rfl, rfl⟩
  | scheduled _ _ hopen | admitted _ _ _ hopen | moved _ _ hopen | settled _ _ _ hopen
  | suspended hopen | deleted hopen | closed hopen =>
      rw [hclosed] at hopen
      cases hopen

/-- The generation counts the transitions. -/
theorem WakeChange.generation (h : WakeChange s event s') :
    (s'.state = s.state ∧ s'.generation = s.generation) ∨
    (s'.state ≠ s.state ∧ s'.generation = s.generation + 1) := by
  cases h with
  | closed hopen => exact Or.inr ⟨by simp [hopen], rfl⟩
  | reopened hclosed => exact Or.inr ⟨by simp [hclosed], rfl⟩
  | _ => exact Or.inl ⟨rfl, rfl⟩

/-- A close finds no open execution and no due work. -/
theorem WakeChange.drained (h : WakeChange s .closed s') :
    (∀ e ∈ s.executions, ¬ e.isOpen) ∧ ∀ w ∈ s.work, w.due = none := by
  cases h with
  | closed hopen hdrained hwork => exact ⟨hdrained, hwork⟩

/-- An object becomes closed only by a close. -/
theorem WakeChange.closes (h : WakeChange s event s') (hopen : s.state = .open)
    (hclosed : s'.state = .closed) : event = .closed := by
  cases h with
  | closed => rfl
  | reopened => cases hclosed
  | _ =>
      rw [hopen] at hclosed
      cases hclosed

/-- The execution rows are the admissions, in order. -/
theorem WakeChange.admissions (h : WakeChange s event s') :
    s'.executions.rows.map WakeExecution.admission =
      s.executions.rows.map WakeExecution.admission ++ event.admission.toList := by
  have hmodify : ∀ id state, (s.executions.modify id fun row : WakeExecution =>
      { row with state := state }).rows.map WakeExecution.admission =
        s.executions.rows.map WakeExecution.admission := by
    intro id state
    unfold Table.modify
    rw [List.map_map]
    apply List.map_congr_left
    intro e _
    simp only [Function.comp_apply]
    split
    · rfl
    · rfl
  cases h with
  | admitted w due executions hopen hw hdue hrow =>
      rw [(Table.insert?_eq_some hrow).2, List.map_append]
      rfl
  | moved e state => simp only [hmodify, WakeEvent.admission, Option.toList_none, List.append_nil]
  | settled e => simp only [hmodify, WakeEvent.admission, Option.toList_none, List.append_nil]
  | _ => simp only [WakeEvent.admission, Option.toList_none, List.append_nil]

/-- The latest schedule is the work, or an execution carries its revision and value. -/
def Tracked (last : Option WakeWork) (s : WakeStorage) : Prop :=
  ∀ w ∈ last, s.work = some w ∨
    ∃ e ∈ s.executions, e.revision = w.revision ∧ e.value = w.value

theorem Tracked.change {last : Option WakeWork} (h : Tracked last s)
    (hchange : WakeChange s event s') : Tracked (scheduleAfter last event) s' := by
  have hmodified : ∀ w ∈ last, ∀ id state, s.work = some w ∨
      ∃ e ∈ s.executions.modify id (fun row : WakeExecution => { row with state := state }),
        e.revision = w.revision ∧ e.value = w.value := by
    intro w hw id state
    rcases h w hw with hwork | ⟨e, he, hcarries⟩
    · exact Or.inl hwork
    · right
      refine ⟨if e.id = id then { e with state := state } else e,
        Table.mem_modify.mpr ⟨e, he, rfl⟩, ?_⟩
      split
      · exact hcarries
      · exact hcarries
  cases hchange with
  | scheduled value due hopen =>
      intro w hw
      exact Or.inl hw
  | deleted hopen =>
      intro w hw
      cases hw
  | admitted w due executions hopen hw hdue hrow =>
      intro w' hw'
      right
      rcases h w' hw' with hwork | ⟨e, he, hcarries⟩
      · cases hw.symm.trans hwork
        exact ⟨_, (Table.mem_insert? hrow).mpr (Or.inr rfl), rfl, rfl⟩
      · exact ⟨e, (Table.mem_insert? hrow).mpr (Or.inl he), hcarries⟩
  | moved e state => exact fun w hw => hmodified w hw e.id state
  | settled e result results => exact fun w hw => hmodified w hw e.id .settled
  | _ => exact h

end Changes

/-- What holds after a run of the callers and the platform. -/
structure WakeRun (trace : List (WakeMove ι)) (p : WakePool ι) : Prop where
  late : p.late = []
  sound : WakeSound p.store
  admissions : p.store.executions.rows.map WakeExecution.admission = trace.filterMap admissionOf
  tracked : Tracked (lastSchedule trace) p.store
  changes : ∀ move ∈ trace, WakeChange move.src.store (moveEvent move) move.dst.store

theorem wakeRun [DecidableEq ι] {start p : WakePool ι} {trace : List (WakeMove ι)}
    (hstart : PoolInitial (· = bootstrapWake) start) (hrun : Run (PoolStep wakeMachine) start trace p) :
    WakeRun trace p := by
  induction hrun with
  | nil =>
      have hstore : start.store = bootstrapWake := hstart.store
      constructor
      · exact hstart.late
      · rw [hstore]
        exact WakeSound.initially
      · rw [hstore]
        rfl
      · intro w hw
        cases hw
      · intro move hmove
        cases hmove
  | @snoc before after front act hrun hstep ih =>
      obtain ⟨hlate, hchange⟩ := poolStep_changes ih.late hstep
      constructor
      · exact hlate
      · exact ih.sound.change hchange
      · rw [hchange.admissions, ih.admissions, List.filterMap_append]
        congr 1
      · unfold lastSchedule
        rw [List.foldl_append]
        exact ih.tracked.change hchange
      · intro move hmove
        rcases List.mem_append.mp hmove with hearly | hlast
        · exact ih.changes move hearly
        · cases List.mem_singleton.mp hlast
          exact hchange

/-- What the ledger keeps, over a run that ends in `p`. -/
structure WakeLedger (trace : List (WakeMove ι)) (p : WakePool ι) : Prop where
  executions : p.store.executions.rows.map WakeExecution.admission = trace.filterMap admissionOf
  ids : ((trace.filterMap admissionOf).map WakeAdmission.id).Nodup
  revisions : ((trace.filterMap admissionOf).map WakeAdmission.revision).Nodup
  results : ∀ e ∈ p.store.executions,
    (p.store.results.rows.map WakeResult.id).count e.id = if e.state = .settled then 1 else 0
  owners : ∀ r ∈ p.store.results, ∃ e ∈ p.store.executions, e.id = r.id
  closes : ∀ move ∈ trace,
    move.src.store.state = .open → move.dst.store.state = .closed →
      (∀ e ∈ move.src.store.executions, ¬ e.isOpen) ∧
      ∀ w ∈ move.src.store.work, w.due = none
  frozen : ∀ move ∈ trace, move.src.store.state = .closed →
    move.dst.store.work = move.src.store.work ∧
    move.dst.store.executions = move.src.store.executions ∧
    move.dst.store.results = move.src.store.results
  generation : ∀ move ∈ trace,
    move.dst.store.generation =
      if move.dst.store.state = move.src.store.state then move.src.store.generation
      else move.src.store.generation + 1
  latest : ∀ w ∈ lastSchedule trace,
    p.store.work = some w ∨
    ∃ e ∈ p.store.executions, e.revision = w.revision ∧ e.value = w.value

namespace WakeRun

variable {trace : List (WakeMove ι)} {p : WakePool ι}

theorem ids_nodup (h : WakeRun trace p) :
    ((trace.filterMap admissionOf).map WakeAdmission.id).Nodup := by
  rw [← h.admissions, List.map_map]
  exact p.store.executions.nodup

theorem revisions_nodup (h : WakeRun trace p) :
    ((trace.filterMap admissionOf).map WakeAdmission.revision).Nodup := by
  rw [← h.admissions, List.map_map]
  have hrows : p.store.executions.rows.Nodup := List.Nodup.of_map _ p.store.executions.nodup
  apply hrows.map_on
  intro e he e' he' hsame
  exact h.sound.once e he e' he' hsame

/-- A settled execution has one result, any other has none. -/
theorem results_count (h : WakeRun trace p) {e : WakeExecution} (he : e ∈ p.store.executions) :
    (p.store.results.rows.map WakeResult.id).count e.id = if e.state = .settled then 1 else 0 := by
  rw [Table.count_key]
  congr 1
  rw [eq_iff_iff, h.sound.results e.id, Table.find?_of_mem he]
  simp

theorem result_owner (h : WakeRun trace p) {r : WakeResult} (hr : r ∈ p.store.results) :
    ∃ e ∈ p.store.executions, e.id = r.id := by
  have hsome : (p.store.results.find? r.id).isSome = true := by simp [Table.find?_of_mem hr]
  obtain ⟨e, hfound, _⟩ := (h.sound.results r.id).mp hsome
  exact ⟨e, Table.mem_of_find? hfound, Table.key_of_find? hfound⟩

end WakeRun

theorem wake_ledger [DecidableEq ι] {start p : WakePool ι} {trace : List (WakeMove ι)}
    (hstart : PoolInitial (· = bootstrapWake) start)
    (hrun : Run (PoolStep wakeMachine) start trace p) :
    WakeLedger trace p := by
  have h := wakeRun hstart hrun
  constructor
  · exact h.admissions
  · exact h.ids_nodup
  · exact h.revisions_nodup
  · intro e he
    exact h.results_count he
  · intro r hr
    exact h.result_owner hr
  · intro move hmove hopen hclosed
    have hchange := h.changes move hmove
    have hevent := hchange.closes hopen hclosed
    rw [hevent] at hchange
    exact hchange.drained
  · intro move hmove hclosed
    exact (h.changes move hmove).frozen hclosed
  · intro move hmove
    rcases (h.changes move hmove).generation with ⟨hstate, hgeneration⟩ | ⟨hstate, hgeneration⟩
    · rw [if_pos hstate, hgeneration]
    · rw [if_neg hstate, hgeneration]
  · exact h.tracked

end Runs

/-! ## A run -/

/-- The answer and the storage a transaction leaves. -/
def settle {α : Type} (s : WakeStorage) : Wake (α × WakeStorage) → Wake α × WakeStorage
  | .error refusal => (.error refusal, s)
  | .ok (result, after) => (.ok result, after)

theorem settle_transacts {α : Type} {s s' : WakeStorage} {transaction : Wake (α × WakeStorage)}
    {answer : Wake α} (h : settle s transaction = (answer, s')) : transacts s transaction answer s' := by
  unfold settle at h
  unfold transacts
  split at h
  · cases h
    exact ⟨rfl, rfl⟩
  · cases h
    exact ⟨rfl, rfl⟩

/-- An object at one time of its clock whose verifier confirms. -/
def wakeOracle (now : Nat) (s : WakeStorage) : (o : WakeOp) → Option (o.Answer × WakeStorage)
  | .control => some (.ok s.generation, s)
  | .schedule expected value due => some (settle s (s.schedule expected value due))
  | .admitDue expected => some (settle s (s.admitDue expected now))
  | .complete t => some (settle s (silent (s.complete t)))
  | .cancel t => some (settle s (silent (s.cancel t)))
  | .beginExternal t => some (settle s (silent (s.beginExternal t)))
  | .settleExternal t success => some (settle s (silent (s.settleExternal t success)))
  | .suspendAdmission expected => some (settle s (silent (s.suspendAdmission expected)))
  | .deleteScheduled expected => some (settle s (silent (s.deleteScheduled expected)))
  | .close expected => some (settle s (silent (s.close expected)))
  | .verify _ => some (.ok true, s)
  | .reopen expected => some (settle s (silent (s.reopen expected)))
  | .checkNew _ => none
  | .bridge => none

theorem wakeOracle_serve (now : Nat) (s : WakeStorage) (o : WakeOp) (answer : o.Answer)
    (s' : WakeStorage) (h : wakeOracle now s o = some (answer, s')) :
    wakeMachine.serve s o answer s' := by
  cases o with
  | control =>
      cases h
      exact ⟨rfl, rfl⟩
  | verify expected =>
      cases h
      exact rfl
  | checkNew generation => cases h
  | bridge => cases h
  | admitDue expected => exact ⟨now, settle_transacts (Option.some.inj h)⟩
  | _ => exact settle_transacts (Option.some.inj h)

/-- Opened, scheduled, woken by its alarm, scheduled again, stopped, cleared and closed. -/
def wakeMethods : List WakeMethod :=
  [.reopen 1, .schedule 2 [97] 5, .alarm, .schedule 2 [98] 30, .alarm, .suspendAdmission 2,
    .deleteScheduled 2, .close 2]

def wakeSample : WakePool Unit :=
  (Pool.idle bootstrapWake).playAll (wakeOracle 10) () 10 (wakeMethods.map WakeMethod.program)

theorem wakeSample_store :
    wakeSample.store.generation = 3 ∧ wakeSample.store.state = .closed ∧
    wakeSample.store.executions.rows = [⟨1, 2, 1, [97], .settled⟩] ∧
    wakeSample.store.results.rows = [⟨1, .completed [97]⟩] ∧ wakeSample.store.revision = 2 := by
  decide +kernel

theorem wake_ledger_sample :
    ∃ trace, Run (PoolStep wakeMachine) (Pool.idle bootstrapWake) trace wakeSample ∧
      WakeLedger trace wakeSample ∧
      trace.filterMap admissionOf = [⟨1, 2, 1, [97]⟩] ∧
      wakeSample.store.results.rows = [⟨1, .completed [97]⟩] := by
  have hprograms : ∀ program ∈ wakeMethods.map WakeMethod.program, wakeMachine.program program := by
    intro program hprogram
    obtain ⟨method, _, rfl⟩ := List.mem_map.mp hprogram
    exact ⟨method, rfl⟩
  obtain ⟨trace, hrun⟩ :=
    Pool.run_playAll (wakeOracle_serve 10) () 10 hprograms (Pool.idle bootstrapWake)
  have hledger := wake_ledger ⟨rfl, fun _ => rfl, rfl, rfl⟩ hrun
  obtain ⟨_, _, hexecutions, hresults, _⟩ := wakeSample_store
  refine ⟨trace, hrun, hledger, ?_, hresults⟩
  have hadmitted : wakeSample.store.executions.rows.map WakeExecution.admission =
      trace.filterMap admissionOf := hledger.executions
  rw [← hadmitted, hexecutions]
  rfl

end FlickrGroupAddr.NativeWakeup

import FlickrGroupAddr.NativeLifecycle
import Mathlib.Logic.Relation

/-!
# The log of the write gates

A gate is paused or enabled; every change raises its revision and leaves one event
for the new revision, by the statement that pauses it or by the triggers.  The
component is small enough to state on its own: a log is observed, paused and
enabled, and its invariant is that each revision has one event which says why.
-/

namespace FlickrGroupAddr

set_option autoImplicit false

open KeyedTable Relation

/-! ## Single rows -/

/-- The order that `ORDER BY` takes of a clock column. -/
abbrev clockOrder : Preorder Int := Int.instLinearOrder.toPreorder

local instance gateLogOrder : Preorder Int := clockOrder

/-- `ORDER BY … LIMIT 1` over rows that are all the same. -/
theorem argmax_of_unique {α : Type} {rows : List α} {f : α → Int} {row : α} (hmem : row ∈ rows)
    (hunique : ∀ other ∈ rows, other = row) : rows.argmax f = some row := by
  cases hmax : rows.argmax f with
  | none =>
      rw [List.argmax_eq_none.mp hmax] at hmem
      exact absurd hmem List.not_mem_nil
  | some other => rw [hunique other (List.argmax_mem hmax)]

/-! ## The log and its moves -/

/-- The gates and their events. -/
structure GateLog where
  gates : Table WriteGate.key
  events : List WriteGateEvent

/-- The reasons a paused gate can have. -/
def pauseReasons : List String :=
  ["gate_paused", "initially_paused", "unknown_code", "flickr_read_failure", "flickr_code_95",
    "flickr_code_96", "flickr_code_97", "flickr_code_98", "flickr_code_99", "flickr_code_100",
    "flickr_code_111", "flickr_code_112", "flickr_code_114", "flickr_code_115"]

/-- The event of a cause. -/
def PauseCause.event (cause : PauseCause) (key : GateKey) (revision : Nat)
    (now : ClockReading) : WriteGateEvent :=
  ⟨key, revision, cause.reason, cause.flickrCode, cause.attemptId, cause.artifactSha2_256, now.us⟩

/-- The causes the triggers record. -/
def observedCause : PauseCause := ⟨"initially_paused", none, none, none⟩
def pausedCause : PauseCause := ⟨"gate_paused", none, none, none⟩
def enabledCause : PauseCause := ⟨"gate_enabled", none, none, none⟩

namespace GateLog

theorem key_enabled (enabled : Bool) (old : WriteGate) :
    WriteGate.key { old with enabled := enabled, revision := old.revision + 1 } = old.key := rfl

/-- Set a gate and append the event of its new revision. -/
def move (g : GateLog) (gate : WriteGate) (enabled : Bool) (cause : PauseCause)
    (now : ClockReading) : GateLog where
  gates := g.gates.modify gate.key
    (fun old => { old with enabled := enabled, revision := old.revision + 1 })
    (key_enabled enabled)
  events := g.events ++ [cause.event gate.key (gate.revision + 1) now]

/-- A move that stops writes: a new gate starts paused, or an enabled one is paused. -/
inductive Stop (g : GateLog) : GateLog → Prop
  | observe {key : GateKey} {gates : Table WriteGate.key} {now : ClockReading} :
      g.gates.insert? ⟨key, false, 1⟩ = some gates →
      Stop g ⟨gates, g.events ++ [observedCause.event key 1 now]⟩
  | pause {gate : WriteGate} {cause : PauseCause} {now : ClockReading} :
      g.gates.find? gate.key = some gate → gate.enabled = true → cause.reason ∈ pauseReasons →
      Stop g (g.move gate false cause now)

/-- The move that enables a paused gate. -/
inductive Enable (key : GateKey) (g : GateLog) : GateLog → Prop
  | enable {gate : WriteGate} {now : ClockReading} :
      g.gates.find? key = some gate → gate.enabled = false →
      Enable key g (g.move gate true enabledCause now)

/-- The gates after a move. -/
theorem find?_move (g : GateLog) (gate : WriteGate) (enabled : Bool) (cause : PauseCause)
    (now : ClockReading) (key : GateKey) :
    (g.move gate enabled cause now).gates.find? key =
      if key = gate.key then (g.gates.find? key).map fun old =>
        { old with enabled := enabled, revision := old.revision + 1 }
      else g.gates.find? key :=
  Table.find?_modify_eq _ _ _ _

/-- Every event belongs to a gate and a revision it had, no revision has two, and
the present revision has one that says why the gate is paused. -/
structure WellFormed (g : GateLog) : Prop where
  positive : ∀ gate ∈ g.gates, 1 ≤ gate.revision
  bounded : ∀ event ∈ g.events, ∃ gate ∈ g.gates,
    gate.key = event.key ∧ event.revision ≤ gate.revision
  single : ∀ left ∈ g.events, ∀ right ∈ g.events, left.key = right.key →
    left.revision = right.revision → left = right
  observed : ∀ gate ∈ g.gates, ∃ event ∈ g.events, event.key = gate.key ∧
    event.revision = gate.revision ∧ (gate.enabled = false → event.reason ∈ pauseReasons)
  timed : ∀ event ∈ g.events, 0 ≤ event.createdAtUs ∧ event.createdAtUs ≤ maxClockUs

variable {g g' : GateLog} {gate : WriteGate} {cause : PauseCause} {now : ClockReading}

theorem WellFormed.initially : WellFormed ⟨.empty, []⟩ := by
  refine ⟨?_, ?_, ?_, ?_, ?_⟩
  · intro gate hgate
    exact absurd hgate (Table.not_mem_empty gate)
  · intro event hevent
    exact absurd hevent List.not_mem_nil
  · intro left hleft
    exact absurd hleft List.not_mem_nil
  · intro gate hgate
    exact absurd hgate (Table.not_mem_empty gate)
  · intro event hevent
    exact absurd hevent List.not_mem_nil

/-- No event is ahead of its gate. -/
theorem WellFormed.no_event_after (h : g.WellFormed) (hgate : gate ∈ g.gates)
    {event : WriteGateEvent} (hevent : event ∈ g.events) (hkey : event.key = gate.key) :
    event.revision ≤ gate.revision := by
  obtain ⟨other, hother, hsame, hle⟩ := h.bounded event hevent
  have hgates : other = gate := Table.eq_of_key_eq hother hgate (hsame.trans hkey)
  rw [← hgates]
  exact hle

/-- Appending an event that no other shares its key and revision with. -/
theorem single_append {events : List WriteGateEvent} {new : WriteGateEvent}
    (h : ∀ left ∈ events, ∀ right ∈ events, left.key = right.key →
      left.revision = right.revision → left = right)
    (hnew : ∀ event ∈ events, event.key = new.key → event.revision ≠ new.revision) :
    ∀ left ∈ events ++ [new], ∀ right ∈ events ++ [new], left.key = right.key →
      left.revision = right.revision → left = right := by
  intro left hleft right hright hkey hrevision
  simp only [List.mem_append, List.mem_singleton] at hleft hright
  rcases hleft with hleft | rfl
  · rcases hright with hright | rfl
    · exact h left hleft right hright hkey hrevision
    · exact absurd hrevision (hnew left hleft hkey)
  · rcases hright with hright | rfl
    · exact absurd hrevision.symm (hnew right hright hkey.symm)
    · rfl

theorem WellFormed.observe (h : g.WellFormed) {key : GateKey} {gates : Table WriteGate.key}
    (hinsert : g.gates.insert? ⟨key, false, 1⟩ = some gates) :
    WellFormed ⟨gates, g.events ++ [observedCause.event key 1 now]⟩ := by
  have hfresh := (Table.insert?_eq_some hinsert).1
  have hmem : ∀ gate, gate ∈ gates ↔ gate ∈ g.gates ∨ gate = ⟨key, false, 1⟩ := by
    intro gate
    exact Table.mem_insert? hinsert
  refine ⟨?_, ?_, ?_, ?_, ?_⟩
  · intro gate hgate
    rcases (hmem gate).mp hgate with hold | rfl
    · exact h.positive gate hold
    · exact le_refl _
  · intro event hevent
    rcases List.mem_append.mp hevent with hold | hnew
    · obtain ⟨gate, hgate, hrest⟩ := h.bounded event hold
      exact ⟨gate, (hmem gate).mpr (Or.inl hgate), hrest⟩
    · rw [List.mem_singleton.mp hnew]
      exact ⟨⟨key, false, 1⟩, (hmem _).mpr (Or.inr rfl), rfl, le_refl _⟩
  · apply single_append h.single
    -- the key is new, so no event has it
    intro event hevent hkey
    obtain ⟨gate, hgate, hsame, _⟩ := h.bounded event hevent
    exact absurd (hsame.trans hkey) (Table.find?_eq_none.mp hfresh gate hgate)
  · intro gate hgate
    rcases (hmem gate).mp hgate with hold | rfl
    · obtain ⟨event, hevent, hrest⟩ := h.observed gate hold
      exact ⟨event, List.mem_append_left _ hevent, hrest⟩
    · refine ⟨_, List.mem_append_right _ (List.mem_singleton_self _), rfl, rfl, fun _ => ?_⟩
      simp [observedCause, PauseCause.event, pauseReasons]
  · intro event hevent
    rcases List.mem_append.mp hevent with hold | hnew
    · exact h.timed event hold
    · rw [List.mem_singleton.mp hnew]
      exact ⟨now.nonneg, now.le_max⟩

theorem WellFormed.move (h : g.WellFormed) {enabled : Bool}
    (hfind : g.gates.find? gate.key = some gate)
    (hreason : enabled = false → cause.reason ∈ pauseReasons) :
    (g.move gate enabled cause now).WellFormed := by
  have hgate : gate ∈ g.gates := Table.mem_of_find? hfind
  have hself : (⟨gate.key, enabled, gate.revision + 1⟩ : WriteGate) ∈
      (g.move gate enabled cause now).gates :=
    Table.mem_of_find? ((g.find?_move _ _ _ _ _).trans ((if_pos rfl).trans (congrArg _ hfind)))
  have hkept : ∀ other ∈ g.gates, other.key ≠ gate.key →
      other ∈ (g.move gate enabled cause now).gates := by
    intro other hother hne
    exact Table.mem_of_find? ((g.find?_move _ _ _ _ _).trans
      ((if_neg hne).trans (Table.find?_of_mem hother)))
  have hcases : ∀ other ∈ (g.move gate enabled cause now).gates,
      (other ∈ g.gates ∧ other.key ≠ gate.key) ∨
        other = ⟨gate.key, enabled, gate.revision + 1⟩ := by
    intro other hother
    have hget := Table.find?_of_mem hother
    rw [g.find?_move] at hget
    by_cases hsame : other.key = gate.key
    · rw [if_pos hsame, hsame, hfind] at hget
      exact Or.inr (Option.some.inj hget).symm
    · rw [if_neg hsame] at hget
      exact Or.inl ⟨Table.mem_of_find? hget, hsame⟩
  refine ⟨?_, ?_, ?_, ?_, ?_⟩
  · intro other hother
    rcases hcases other hother with ⟨hold, _⟩ | rfl
    · exact h.positive other hold
    · simp
  · intro event hevent
    rcases List.mem_append.mp hevent with hold | hnew
    · obtain ⟨other, hother, hkey, hle⟩ := h.bounded event hold
      by_cases hsame : other.key = gate.key
      · refine ⟨_, hself, hsame.symm.trans hkey, ?_⟩
        exact Nat.le_succ_of_le (h.no_event_after hgate hold (hkey.symm.trans hsame))
      · exact ⟨other, hkept other hother hsame, hkey, hle⟩
    · rw [List.mem_singleton.mp hnew]
      exact ⟨_, hself, rfl, le_refl _⟩
  · apply single_append h.single
    intro event hevent hkey hrevision
    have hle := h.no_event_after hgate hevent hkey
    simp only [PauseCause.event] at hrevision
    omega
  · intro other hother
    rcases hcases other hother with ⟨hold, _⟩ | rfl
    · obtain ⟨event, hevent, hrest⟩ := h.observed other hold
      exact ⟨event, List.mem_append_left _ hevent, hrest⟩
    · exact ⟨_, List.mem_append_right _ (List.mem_singleton_self _), rfl, rfl, hreason⟩
  · intro event hevent
    rcases List.mem_append.mp hevent with hold | hnew
    · exact h.timed event hold
    · rw [List.mem_singleton.mp hnew]
      exact ⟨now.nonneg, now.le_max⟩

theorem Stop.wellFormed (hmove : Stop g g') (h : g.WellFormed) : g'.WellFormed := by
  cases hmove with
  | observe hinsert => exact h.observe hinsert
  | pause hfind _ hreason => exact h.move hfind fun _ => hreason

theorem Enable.wellFormed {key : GateKey} (hmove : Enable key g g') (h : g.WellFormed) :
    g'.WellFormed := by
  cases hmove with
  | enable hfind _ =>
      have hkey := Table.key_of_find? hfind
      subst hkey
      exact h.move hfind fun hfalse => absurd hfalse (by decide)

theorem stops_wellFormed (hmoves : ReflTransGen Stop g g') (h : g.WellFormed) :
    g'.WellFormed := by
  induction hmoves with
  | refl => exact h
  | tail _ hlast ih => exact hlast.wellFormed ih

/-! ### What a move keeps -/

/-- Events are only added, revisions never go back, and a new event is ahead of the
revision its gate had. -/
structure Grows (g g' : GateLog) : Prop where
  events : ∀ event ∈ g.events, event ∈ g'.events
  gates : ∀ key gate, g.gates.find? key = some gate →
    ∃ gate', g'.gates.find? key = some gate' ∧ gate.revision ≤ gate'.revision
  fresh : ∀ event ∈ g'.events, event ∈ g.events ∨
    ∀ gate, g.gates.find? event.key = some gate → gate.revision < event.revision

theorem Grows.refl (g : GateLog) : Grows g g where
  events _ h := h
  gates _ gate h := ⟨gate, h, le_refl _⟩
  fresh _ h := Or.inl h

theorem Grows.trans {g'' : GateLog} (h : Grows g g') (h' : Grows g' g'') : Grows g g'' where
  events event hevent := h'.events event (h.events event hevent)
  gates key gate hgate := by
    obtain ⟨middle, hmiddle, hle⟩ := h.gates key gate hgate
    obtain ⟨last, hlast, hle'⟩ := h'.gates key middle hmiddle
    exact ⟨last, hlast, hle.trans hle'⟩
  fresh event hevent := by
    rcases h'.fresh event hevent with hold | hnew
    · exact h.fresh event hold
    · right
      intro gate hgate
      obtain ⟨middle, hmiddle, hle⟩ := h.gates event.key gate hgate
      exact lt_of_le_of_lt hle (hnew middle hmiddle)

theorem Grows.move {enabled : Bool} (hfind : g.gates.find? gate.key = some gate) :
    Grows g (g.move gate enabled cause now) where
  events _ h := List.mem_append_left _ h
  gates key old hold := by
    rw [g.find?_move, hold]
    split
    · exact ⟨_, rfl, Nat.le_succ _⟩
    · exact ⟨old, rfl, le_refl _⟩
  fresh event hevent := by
    rcases List.mem_append.mp hevent with hold | hnew
    · exact Or.inl hold
    · right
      rw [List.mem_singleton.mp hnew]
      intro old hold
      have hsame : some gate = some old := hfind.symm.trans hold
      cases hsame
      exact Nat.lt_succ_self _

theorem Stop.grows (hmove : Stop g g') : Grows g g' := by
  cases hmove with
  | pause hfind _ _ => exact Grows.move hfind
  | observe hinsert =>
      have hfresh := (Table.insert?_eq_some hinsert).1
      constructor
      · intro event hevent
        exact List.mem_append_left _ hevent
      · intro key gate hgate
        refine ⟨gate, (Table.find?_insert? hinsert _).trans ((if_neg ?_).trans hgate), le_refl _⟩
        rintro rfl
        cases hfresh.symm.trans hgate
      · intro event hevent
        rcases List.mem_append.mp hevent with hold | hnew
        · exact Or.inl hold
        · right
          rw [List.mem_singleton.mp hnew]
          intro gate hgate
          cases hfresh.symm.trans hgate

theorem Enable.grows {key : GateKey} (hmove : Enable key g g') : Grows g g' := by
  cases hmove with
  | enable hfind _ =>
      have hkey := Table.key_of_find? hfind
      subst hkey
      exact Grows.move hfind

theorem stops_grow (hmoves : ReflTransGen Stop g g') : Grows g g' := by
  induction hmoves with
  | refl => exact Grows.refl g
  | tail _ hlast ih => exact ih.trans hlast.grows

/-- A paused gate stays as it is until it is enabled. -/
theorem Stop.paused_kept (hmove : Stop g g') (hfind : g.gates.find? gate.key = some gate)
    (hpaused : gate.enabled = false) : g'.gates.find? gate.key = some gate := by
  cases hmove with
  | observe hinsert =>
      refine (Table.find?_insert? hinsert _).trans ((if_neg ?_).trans hfind)
      intro hkey
      have hfresh := (Table.insert?_eq_some hinsert).1
      exact Table.find?_eq_none.mp hfresh gate (Table.mem_of_find? hfind) hkey
  | @pause other _ _ hother henabled =>
      refine (g.find?_move _ _ _ _ _).trans ((if_neg ?_).trans hfind)
      intro hkey
      rw [hkey, hother] at hfind
      cases hfind
      exact Bool.false_ne_true (hpaused.symm.trans henabled)

theorem stops_paused_kept (hmoves : ReflTransGen Stop g g')
    (hfind : g.gates.find? gate.key = some gate) (hpaused : gate.enabled = false) :
    g'.gates.find? gate.key = some gate := by
  induction hmoves with
  | refl => exact hfind
  | tail _ hlast ih => exact hlast.paused_kept ih hpaused

/-- Enabling one gate leaves the others. -/
theorem Enable.kept {key : GateKey} (hmove : Enable key g g') {other : GateKey}
    (hne : other ≠ key) : g'.gates.find? other = g.gates.find? other := by
  cases hmove with
  | enable hfind _ =>
      have hkey := Table.key_of_find? hfind
      subst hkey
      exact (g.find?_move _ _ _ _ _).trans (if_neg hne)

end GateLog

/-! ## The statements that move the log -/

namespace FlickrTables

/-- The log inside the tables. -/
def gateLog (f : FlickrTables) : GateLog := ⟨f.gates, f.gateEvents⟩

variable {f f' : FlickrTables} {key : GateKey} {now : ClockReading}

/-- The tables apart from the log. -/
structure SameRows (f f' : FlickrTables) : Prop where
  links : f'.links = f.links
  connections : f'.connections = f.connections
  credentials : f'.credentials = f.credentials
  operations : f'.operations = f.operations
  bindings : f'.bindings = f.bindings
  conformance : f'.conformance = f.conformance

theorem SameRows.refl (f : FlickrTables) : SameRows f f := ⟨rfl, rfl, rfl, rfl, rfl, rfl⟩

theorem SameRows.trans {f'' : FlickrTables} (h : SameRows f f') (h' : SameRows f' f'') :
    SameRows f f'' :=
  ⟨h'.links.trans h.links, h'.connections.trans h.connections,
    h'.credentials.trans h.credentials, h'.operations.trans h.operations,
    h'.bindings.trans h.bindings, h'.conformance.trans h.conformance⟩

theorem ensureGate_stop (f : FlickrTables) (key : GateKey) (now : ClockReading) :
    ReflTransGen GateLog.Stop f.gateLog (f.ensureGate key now.us).gateLog ∧
      SameRows f (f.ensureGate key now.us) := by
  unfold ensureGate
  split
  · exact ⟨ReflTransGen.refl, SameRows.refl f⟩
  · next hinsert =>
      exact ⟨ReflTransGen.single (GateLog.Stop.observe hinsert), rfl, rfl, rfl, rfl, rfl, rfl⟩

theorem gateTransition_of_event {enabled : Bool} {revision : Nat} {us : Us}
    (h : ∃ event ∈ f.gateEvents, event.key = key ∧ event.revision = revision) :
    f.gateTransition key enabled revision us = f := by
  unfold gateTransition
  apply if_pos
  simpa using h

theorem gateTransition_of_none {enabled : Bool} {revision : Nat} {us : Us}
    (h : ∀ event ∈ f.gateEvents, event.key = key → event.revision ≠ revision) :
    f.gateTransition key enabled revision us = f.addGateEvent key revision
      ⟨if enabled then "gate_enabled" else "gate_paused", none, none, none⟩ us := by
  unfold gateTransition
  apply if_neg
  simpa using h

theorem updateGate_of_some {gate : WriteGate} (hfind : f.gates.find? key = some gate)
    (enabled : Bool) (us : Us) :
    f.updateGate key enabled us =
      ({ f with
        gates := f.gates.modify key fun old =>
          { old with enabled := enabled, revision := old.revision + 1 } }).gateTransition
        key enabled (gate.revision + 1) us := by
  simp only [updateGate, hfind]

/-- The trigger adds the event of the new revision. -/
theorem updateGate_log (now : ClockReading) (h : f.gateLog.WellFormed) {gate : WriteGate}
    (hfind : f.gates.find? key = some gate) (enabled : Bool) :
    (f.updateGate key enabled now.us).gateLog =
        f.gateLog.move gate enabled (if enabled then enabledCause else pausedCause) now ∧
      SameRows f (f.updateGate key enabled now.us) := by
  have hkey := Table.key_of_find? hfind
  subst hkey
  rw [updateGate_of_some hfind, gateTransition_of_none]
  · refine ⟨?_, rfl, rfl, rfl, rfl, rfl, rfl⟩
    cases enabled <;> rfl
  · intro event hevent hkey hrevision
    have hle := h.no_event_after (Table.mem_of_find? hfind) hevent hkey
    omega

/-- A pause that brings its own event leaves the trigger nothing to add. -/
theorem updateGate_after_event (now : ClockReading) {gate : WriteGate}
    (hfind : f.gates.find? key = some gate) (cause : PauseCause) :
    ((f.addGateEvent key (gate.revision + 1) cause now.us).updateGate key false now.us).gateLog =
        f.gateLog.move gate false cause now ∧
      SameRows f ((f.addGateEvent key (gate.revision + 1) cause now.us).updateGate key false
        now.us) := by
  have hkey := Table.key_of_find? hfind
  subst hkey
  have hfind' : (f.addGateEvent gate.key (gate.revision + 1) cause now.us).gates.find? gate.key =
      some gate := hfind
  rw [updateGate_of_some hfind', gateTransition_of_event]
  · exact ⟨rfl, rfl, rfl, rfl, rfl, rfl, rfl⟩
  · exact ⟨_, List.mem_append_right _ (List.mem_singleton_self _), rfl, rfl⟩

/-- A pause moves the log by at most one event, the given one or that of the trigger. -/
theorem pauseGate_log (h : f.gateLog.WellFormed) (cause : Option PauseCause) :
    SameRows f (f.pauseGate key cause now.us) ∧
    ((f.pauseGate key cause now.us).gateLog = f.gateLog ∧
        (∀ gate ∈ f.gates.find? key, gate.enabled = false) ∨
      ∃ gate, f.gates.find? key = some gate ∧ gate.enabled = true ∧
        (f.pauseGate key cause now.us).gateLog =
          f.gateLog.move gate false (cause.getD pausedCause) now) := by
  unfold pauseGate
  split
  · next hnone =>
      rw [hnone]
      exact ⟨SameRows.refl f, Or.inl ⟨rfl, fun gate hgate => by cases hgate⟩⟩
  · next gate hfind =>
      split
      · next henabled =>
          split
          · obtain ⟨hlog, hrows⟩ := updateGate_log now h hfind false
            exact ⟨hrows, Or.inr ⟨gate, hfind, henabled, hlog⟩⟩
          · next cause =>
              obtain ⟨hlog, hrows⟩ := updateGate_after_event now hfind cause
              exact ⟨hrows, Or.inr ⟨gate, hfind, henabled, hlog⟩⟩
      · next hdisabled =>
          refine ⟨SameRows.refl f, Or.inl ⟨rfl, ?_⟩⟩
          rw [hfind]
          rintro other ⟨⟩
          exact Bool.eq_false_of_not_eq_true hdisabled

theorem pauseGate_stop (h : f.gateLog.WellFormed) {cause : Option PauseCause}
    (hcause : ∀ given ∈ cause, given.reason ∈ pauseReasons) :
    ReflTransGen GateLog.Stop f.gateLog (f.pauseGate key cause now.us).gateLog := by
  rcases (pauseGate_log h cause).2 with ⟨hsame, _⟩ | ⟨gate, hfind, henabled, hlog⟩
  · rw [hsame]
  · have hkey := Table.key_of_find? hfind
    subst hkey
    rw [hlog]
    refine ReflTransGen.single (GateLog.Stop.pause hfind henabled ?_)
    cases cause with
    | none => simp [pausedCause, pauseReasons]
    | some given => exact hcause given rfl

end FlickrTables

end FlickrGroupAddr

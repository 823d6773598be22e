import FlickrGroupAddr.Lib.Program
import FlickrGroupAddr.Lib.Transition
import Mathlib.Logic.Function.Basic

/-!
# Workers over one store

Any number of workers run programs against one store.  An operation of a worker takes
effect and is answered at once, or its answer is lost: then it is left behind and may
still take effect, once, at any later time.  A worker may stop between any two
operations and start again.

A watched pool forgets the programs and keeps what a monitor remembers of each.  When
the programs follow the monitor, every run of the workers is a run of the watched pool,
so a safety property of the workers is an invariant of the watched pool.
-/

namespace Workers

set_option autoImplicit false

open Program Transition

variable {σ ω ι S : Type} {Ans : ω → Type}

/-- How operations meet the store. -/
structure Machine (σ : Type) {ω : Type} (Ans : ω → Type) where
  /-- The operation takes effect with this answer. -/
  serve : σ → (o : ω) → Ans o → σ → Prop
  /-- What a caller sees whose answer is lost. -/
  lost : (o : ω) → Ans o → Prop
  /-- The store changes by itself. -/
  external : σ → σ → Prop
  /-- The programs a worker starts. -/
  program : Prog Ans Unit → Prop

/-- One operation of a worker, with the answer the worker saw. -/
structure Entry (ι : Type) {ω : Type} (Ans : ω → Type) where
  worker : ι
  op : ω
  answer : Ans op

/-- A pool of workers: the store, the program each still runs, the operations that were left
behind, and the log of the answered ones, newest first. -/
structure Pool (σ ι : Type) {ω : Type} (Ans : ω → Type) where
  store : σ
  programs : ι → Prog Ans Unit
  late : List ω
  log : List (Entry ι Ans)

/-- What happens in a pool. -/
inductive Act (ι : Type) {ω : Type} (Ans : ω → Type) where
  | external
  | start (i : ι)
  | perform (entry : Entry ι Ans)
  | lose (entry : Entry ι Ans)
  | late (o : ω)
  | crash (i : ι)

/-- The operation that takes effect. -/
def Act.served : Act ι Ans → Option ω
  | .perform entry => some entry.op
  | .late o => some o
  | _ => none

variable [DecidableEq ι]

/-- One step of a pool. -/
inductive PoolStep (machine : Machine σ Ans) : Pool σ ι Ans → Act ι Ans → Pool σ ι Ans → Prop
  | external {p : Pool σ ι Ans} {store : σ} (h : machine.external p.store store) :
      PoolStep machine p .external { p with store := store }
  | start {p : Pool σ ι Ans} {i : ι} {program : Prog Ans Unit} (hidle : p.programs i = .done ())
      (hprogram : machine.program program) :
      PoolStep machine p (.start i)
        { p with programs := Function.update p.programs i program }
  | perform {p : Pool σ ι Ans} {i : ι} {o : ω} {next : Ans o → Prog Ans Unit} {answer : Ans o}
      {store : σ} (hasks : p.programs i = .ask o next)
      (hserve : machine.serve p.store o answer store) :
      PoolStep machine p (.perform ⟨i, o, answer⟩)
        { p with
          store := store
          programs := Function.update p.programs i (next answer)
          log := ⟨i, o, answer⟩ :: p.log }
  | lose {p : Pool σ ι Ans} {i : ι} {o : ω} {next : Ans o → Prog Ans Unit} {answer : Ans o}
      (hasks : p.programs i = .ask o next) (hlost : machine.lost o answer) :
      PoolStep machine p (.lose ⟨i, o, answer⟩)
        { p with
          programs := Function.update p.programs i (next answer)
          late := o :: p.late
          log := ⟨i, o, answer⟩ :: p.log }
  | late {p : Pool σ ι Ans} {front back : List ω} {o : ω} {answer : Ans o} {store : σ}
      (hlate : p.late = front ++ o :: back) (hserve : machine.serve p.store o answer store) :
      PoolStep machine p (.late o) { p with store := store, late := front ++ back }
  | crash {p : Pool σ ι Ans} {i : ι} :
      PoolStep machine p (.crash i)
        { p with programs := Function.update p.programs i (.done ()) }

/-- Nobody runs yet, and nothing was asked. -/
structure PoolInitial (init : σ → Prop) (p : Pool σ ι Ans) : Prop where
  store : init p.store
  idle : ∀ i, p.programs i = .done ()
  late : p.late = []
  log : p.log = []

/-! ## Playing a program -/

/-- Let a worker start a program. -/
def Pool.startAt (p : Pool σ ι Ans) (i : ι) (program : Prog Ans Unit) : Pool σ ι Ans :=
  { p with programs := Function.update p.programs i program }

/-- Let a worker ask its next `n` operations, which an oracle answers. -/
def Pool.play (oracle : σ → (o : ω) → Option (Ans o × σ)) (i : ι) :
    Nat → Pool σ ι Ans → Pool σ ι Ans
  | 0, p => p
  | n + 1, p =>
      match p.programs i with
      | .done () => p
      | .ask o next =>
          match oracle p.store o with
          | none => p
          | some (answer, store) =>
              Pool.play oracle i n
                { p with
                  store := store
                  programs := Function.update p.programs i (next answer)
                  log := ⟨i, o, answer⟩ :: p.log }

/-- What an oracle plays that the machine bears out is a run. -/
theorem Pool.run_play {machine : Machine σ Ans} {oracle : σ → (o : ω) → Option (Ans o × σ)}
    (horacle : ∀ store o answer store', oracle store o = some (answer, store') →
      machine.serve store o answer store') (i : ι) (n : Nat) (p : Pool σ ι Ans) :
    ∃ trace, Run (PoolStep machine) p trace (p.play oracle i n) := by
  induction n generalizing p with
  | zero => exact ⟨[], Run.nil p⟩
  | succ n ih =>
      unfold Pool.play
      split
      · exact ⟨[], Run.nil p⟩
      · next o next hasks =>
          split
          · exact ⟨[], Run.nil p⟩
          · next answer store hanswer =>
              obtain ⟨trace, hrun⟩ := ih _
              have hstep := PoolStep.perform hasks (horacle _ _ _ _ hanswer)
              exact ⟨_, (Run.nil p |>.snoc hstep).append hrun⟩

/-- The moves of such a play. -/
def Pool.playMoves (oracle : σ → (o : ω) → Option (Ans o × σ)) (i : ι) :
    Nat → Pool σ ι Ans → List (Move (Pool σ ι Ans) (Act ι Ans))
  | 0, _ => []
  | n + 1, p =>
      match p.programs i with
      | .done () => []
      | .ask o next =>
          match oracle p.store o with
          | none => []
          | some (answer, store) =>
              let p' : Pool σ ι Ans :=
                { p with
                  store := store
                  programs := Function.update p.programs i (next answer)
                  log := ⟨i, o, answer⟩ :: p.log }
              ⟨p, .perform ⟨i, o, answer⟩, p'⟩ :: Pool.playMoves oracle i n p'

theorem Pool.run_playMoves {machine : Machine σ Ans}
    {oracle : σ → (o : ω) → Option (Ans o × σ)}
    (horacle : ∀ store o answer store', oracle store o = some (answer, store') →
      machine.serve store o answer store') (i : ι) (n : Nat) (p : Pool σ ι Ans) :
    Run (PoolStep machine) p (p.playMoves oracle i n) (p.play oracle i n) := by
  induction n generalizing p with
  | zero => exact Run.nil p
  | succ n ih =>
      unfold Pool.play Pool.playMoves
      split
      · exact Run.nil p
      · next o next hasks =>
          split
          · exact Run.nil p
          · next answer store hanswer =>
              exact Run.cons (PoolStep.perform hasks (horacle _ _ _ _ hanswer)) (ih _)

/-- Such a play leaves the other workers as they are. -/
theorem Pool.play_other (oracle : σ → (o : ω) → Option (Ans o × σ)) {i j : ι} (hother : j ≠ i)
    (n : Nat) (p : Pool σ ι Ans) : (p.play oracle i n).programs j = p.programs j := by
  induction n generalizing p with
  | zero => rfl
  | succ n ih =>
      unfold Pool.play
      split
      · rfl
      · split
        · rfl
        · rw [ih]
          exact Function.update_of_ne hother _ _

/-- A pool in which nothing was asked yet. -/
def Pool.idle (store : σ) : Pool σ ι Ans := ⟨store, fun _ => .done (), [], []⟩

/-- A worker of an idle pool starts a program and plays it. -/
theorem reachable_play {machine : Machine σ Ans} {init : σ → Prop}
    {oracle : σ → (o : ω) → Option (Ans o × σ)} {store : σ}
    (hstore : Reachable (PoolStep machine) (PoolInitial init) (Pool.idle store : Pool σ ι Ans))
    {program : Prog Ans Unit} (hprogram : machine.program program)
    (horacle : ∀ store o answer store', oracle store o = some (answer, store') →
      machine.serve store o answer store') (i : ι) (n : Nat) :
    Reachable (PoolStep machine) (PoolInitial init)
      (((Pool.idle store).startAt i program).play oracle i n) := by
  have hstarted := hstore.extend (@PoolStep.start _ _ _ _ _ machine _ i _ rfl hprogram)
  obtain ⟨trace, hrun⟩ := Pool.run_play horacle i n _
  exact hstarted.run hrun

/-- Let a worker run programs one after the other, leaving behind what it still ran. -/
def Pool.playAll (oracle : σ → (o : ω) → Option (Ans o × σ)) (i : ι) (n : Nat) :
    List (Prog Ans Unit) → Pool σ ι Ans → Pool σ ι Ans
  | [], p => p
  | program :: programs, p =>
      Pool.playAll oracle i n programs (((p.startAt i (.done ())).startAt i program).play oracle i n)

theorem Pool.run_playAll {machine : Machine σ Ans} {oracle : σ → (o : ω) → Option (Ans o × σ)}
    (horacle : ∀ store o answer store', oracle store o = some (answer, store') →
      machine.serve store o answer store') (i : ι) (n : Nat) {programs : List (Prog Ans Unit)}
    (hprograms : ∀ program ∈ programs, machine.program program) (p : Pool σ ι Ans) :
    ∃ trace, Run (PoolStep machine) p trace (p.playAll oracle i n programs) := by
  induction programs generalizing p with
  | nil => exact ⟨[], Run.nil p⟩
  | cons program programs ih =>
      have hcrash : PoolStep machine p (.crash i) (p.startAt i (.done ())) := PoolStep.crash
      have hstart : PoolStep machine (p.startAt i (.done ())) (.start i)
          ((p.startAt i (.done ())).startAt i program) :=
        PoolStep.start (by simp [startAt]) (hprograms program List.mem_cons_self)
      obtain ⟨played, hplayed⟩ := Pool.run_play horacle i n
        ((p.startAt i (.done ())).startAt i program)
      obtain ⟨rest, hrest⟩ := ih (fun later hlater => hprograms later (List.mem_cons_of_mem _ hlater))
        (((p.startAt i (.done ())).startAt i program).play oracle i n)
      exact ⟨_, (((Run.nil p).snoc hcrash).snoc hstart).append (hplayed.append hrest)⟩

/-! ## The watched pool -/

/-- A pool without its programs: of each worker only what its monitor remembers. -/
structure Watch (σ ι S : Type) {ω : Type} (Ans : ω → Type) where
  store : σ
  seen : ι → S
  late : List ω
  log : List (Entry ι Ans)

/-- One step of a watched pool: a worker may ask whatever its monitor allows. -/
inductive WatchStep (machine : Machine σ Ans) (m : Monitor Ans S) (start : S) :
    Watch σ ι S Ans → Act ι Ans → Watch σ ι S Ans → Prop
  | external {w : Watch σ ι S Ans} {store : σ} (h : machine.external w.store store) :
      WatchStep machine m start w .external { w with store := store }
  | start {w : Watch σ ι S Ans} {i : ι} :
      WatchStep machine m start w (.start i) { w with seen := Function.update w.seen i start }
  | perform {w : Watch σ ι S Ans} {i : ι} {o : ω} {answer : Ans o} {store : σ}
      (hallows : m.allows (w.seen i) o) (hserve : machine.serve w.store o answer store) :
      WatchStep machine m start w (.perform ⟨i, o, answer⟩)
        { w with
          store := store
          seen := Function.update w.seen i (m.next (w.seen i) o answer)
          log := ⟨i, o, answer⟩ :: w.log }
  | lose {w : Watch σ ι S Ans} {i : ι} {o : ω} {answer : Ans o} (hallows : m.allows (w.seen i) o)
      (hlost : machine.lost o answer) :
      WatchStep machine m start w (.lose ⟨i, o, answer⟩)
        { w with
          seen := Function.update w.seen i (m.next (w.seen i) o answer)
          late := o :: w.late
          log := ⟨i, o, answer⟩ :: w.log }
  | late {w : Watch σ ι S Ans} {front back : List ω} {o : ω} {answer : Ans o} {store : σ}
      (hlate : w.late = front ++ o :: back) (hserve : machine.serve w.store o answer store) :
      WatchStep machine m start w (.late o) { w with store := store, late := front ++ back }
  | crash {w : Watch σ ι S Ans} {i : ι} :
      WatchStep machine m start w (.crash i) { w with seen := Function.update w.seen i start }

/-- Every monitor is at the start, and nothing was asked. -/
structure WatchInitial (init : σ → Prop) (start : S) (w : Watch σ ι S Ans) :
    Prop where
  store : init w.store
  seen : ∀ i, w.seen i = start
  late : w.late = []
  log : w.log = []

/-- The watched pool shows the pool, and every program follows what its monitor remembers. -/
structure Watches (m : Monitor Ans S) (p : Pool σ ι Ans) (w : Watch σ ι S Ans) : Prop where
  store : w.store = p.store
  late : w.late = p.late
  log : w.log = p.log
  follows : ∀ i, Follows m (fun _ _ => True) (w.seen i) (p.programs i)

variable {machine : Machine σ Ans} {m : Monitor Ans S} {start : S}

theorem follows_update {programs : ι → Prog Ans Unit} {seen : ι → S} {i : ι}
    {program : Prog Ans Unit} {s : S}
    (h : ∀ j, Follows m (fun _ _ => True) (seen j) (programs j))
    (hi : Follows m (fun _ _ => True) s program) (j : ι) :
    Follows m (fun _ _ => True) (Function.update seen i s j)
      (Function.update programs i program j) := by
  by_cases hj : j = i
  · subst hj
    simp only [Function.update_self]
    exact hi
  · simp only [Function.update_of_ne hj]
    exact h j

/-- Every step of the pool is a step of the watched pool. -/
theorem Watches.step (hprogram : ∀ program, machine.program program →
    Follows m (fun _ _ => True) start program) {p p' : Pool σ ι Ans} {w : Watch σ ι S Ans}
    {act : Act ι Ans} (h : Watches m p w) (hstep : PoolStep machine p act p') :
    ∃ w', WatchStep machine m start w act w' ∧ Watches m p' w' := by
  obtain ⟨store, seen, late, log⟩ := w
  obtain ⟨rfl, rfl, rfl, hfollows⟩ := h
  cases hstep with
  | external hexternal =>
      exact ⟨_, WatchStep.external hexternal, rfl, rfl, rfl, hfollows⟩
  | start hidle hstarts =>
      exact ⟨_, WatchStep.start, rfl, rfl, rfl, follows_update hfollows (hprogram _ hstarts)⟩
  | @perform i o next answer store hasks hserve =>
      have hi := hfollows i
      rw [hasks] at hi
      exact ⟨_, WatchStep.perform hi.1 hserve, rfl, rfl, rfl,
        follows_update hfollows (hi.2 answer)⟩
  | @lose i o next answer hasks hlost =>
      have hi := hfollows i
      rw [hasks] at hi
      exact ⟨_, WatchStep.lose hi.1 hlost, rfl, rfl, rfl, follows_update hfollows (hi.2 answer)⟩
  | late hlate hserve =>
      exact ⟨_, WatchStep.late hlate hserve, rfl, rfl, rfl, hfollows⟩
  | crash =>
      exact ⟨_, WatchStep.crash, rfl, rfl, rfl, follows_update hfollows trivial⟩

/-- Every run of the pool is a run of the watched pool. -/
theorem Watches.run (hprogram : ∀ program, machine.program program →
    Follows m (fun _ _ => True) start program) {p p' : Pool σ ι Ans} {w : Watch σ ι S Ans}
    {trace : List (Move (Pool σ ι Ans) (Act ι Ans))} (h : Watches m p w)
    (hrun : Run (PoolStep machine) p trace p') :
    ∃ w' watched, Run (WatchStep machine m start) w watched w' ∧ Watches m p' w' := by
  induction hrun with
  | nil => exact ⟨w, [], Run.nil w, h⟩
  | snoc _ hlast ih =>
      obtain ⟨w₁, watched, hrun₁, h₁⟩ := ih
      obtain ⟨w₂, hstep, h₂⟩ := h₁.step hprogram hlast
      exact ⟨w₂, _, Run.snoc hrun₁ hstep, h₂⟩

/-- Every reachable pool is watched by a reachable one. -/
theorem watched (hprogram : ∀ program, machine.program program →
    Follows m (fun _ _ => True) start program) {init : σ → Prop} {p : Pool σ ι Ans}
    (h : Reachable (PoolStep machine) (PoolInitial init) p) :
    ∃ w, Reachable (WatchStep machine m start) (WatchInitial init start) w ∧ Watches m p w := by
  obtain ⟨first, trace, hfirst, hrun⟩ := h
  have hwatches : Watches m first (⟨first.store, fun _ => start, [], []⟩ : Watch σ ι S Ans) := by
    refine ⟨rfl, hfirst.late.symm, hfirst.log.symm, ?_⟩
    intro i
    rw [hfirst.idle i]
    trivial
  obtain ⟨w, watched, hwatched, hw⟩ := hwatches.run hprogram hrun
  exact ⟨w, ⟨_, watched, ⟨hfirst.store, fun _ => rfl, rfl, rfl⟩, hwatched⟩, hw⟩

/-! ## What the log bears out -/

/-- What the log holds while a monitor is at a state, and whenever a worker asks an
operation. -/
structure Testimony (m : Monitor Ans S) (start : S) (knows : ι → S → List (Entry ι Ans) → Prop)
    (asked : ι → ω → List (Entry ι Ans) → Prop) : Prop where
  start : ∀ i log, knows i start log
  kept : ∀ i s log entry, knows i s log → knows i s (entry :: log)
  next : ∀ i s log o answer, knows i s log → m.allows s o →
    knows i (m.next s o answer) (⟨i, o, answer⟩ :: log)
  asks : ∀ i s log o, knows i s log → m.allows s o → asked i o log
  stands : ∀ i o log entry, asked i o log → asked i o (entry :: log)

/-- Every entry of the log is borne out by the entries before it. -/
def BorneOut (asked : ι → ω → List (Entry ι Ans) → Prop) : List (Entry ι Ans) → Prop
  | [] => True
  | entry :: log => asked entry.worker entry.op log ∧ BorneOut asked log

omit [DecidableEq ι] in
theorem BorneOut.split {asked : ι → ω → List (Entry ι Ans) → Prop}
    {front back : List (Entry ι Ans)} {entry : Entry ι Ans}
    (h : BorneOut asked (front ++ entry :: back)) : asked entry.worker entry.op back := by
  induction front with
  | nil => exact h.1
  | cons first rest ih => exact ih h.2

/-- The log bears out every monitor, every operation that was left behind, and itself. -/
structure Testified (knows : ι → S → List (Entry ι Ans) → Prop)
    (asked : ι → ω → List (Entry ι Ans) → Prop) (w : Watch σ ι S Ans) : Prop where
  knows : ∀ i, knows i (w.seen i) w.log
  late : ∀ o ∈ w.late, ∃ i, asked i o w.log
  log : BorneOut asked w.log

namespace Testimony

variable {knows : ι → S → List (Entry ι Ans) → Prop} {asked : ι → ω → List (Entry ι Ans) → Prop}
  {w w' : Watch σ ι S Ans} {act : Act ι Ans}

theorem update (h : Testimony m start knows asked) {seen : ι → S} {log : List (Entry ι Ans)}
    {i : ι} {o : ω} {answer : Ans o} (hknows : ∀ j, knows j (seen j) log)
    (hallows : m.allows (seen i) o) (j : ι) :
    knows j (Function.update seen i (m.next (seen i) o answer) j) (⟨i, o, answer⟩ :: log) := by
  by_cases hj : j = i
  · subst hj
    rw [Function.update_self]
    exact h.next j (seen j) log o answer (hknows j) hallows
  · rw [Function.update_of_ne hj]
    exact h.kept j (seen j) log _ (hknows j)

theorem reset (h : Testimony m start knows asked) {seen : ι → S} {log : List (Entry ι Ans)}
    {i : ι} (hknows : ∀ j, knows j (seen j) log) (j : ι) :
    knows j (Function.update seen i start j) log := by
  by_cases hj : j = i
  · subst hj
    rw [Function.update_self]
    exact h.start j log
  · rw [Function.update_of_ne hj]
    exact hknows j

/-- Every step keeps the testimony. -/
theorem step (h : Testimony m start knows asked) (hw : Testified knows asked w)
    (hstep : WatchStep machine m start w act w') : Testified knows asked w' := by
  have hlate : ∀ entry, ∀ o ∈ w.late, ∃ i, asked i o (entry :: w.log) := by
    intro entry o ho
    obtain ⟨i, hi⟩ := hw.late o ho
    exact ⟨i, h.stands i o _ entry hi⟩
  cases hstep with
  | external => exact ⟨hw.knows, hw.late, hw.log⟩
  | start => exact ⟨h.reset hw.knows, hw.late, hw.log⟩
  | @perform i o answer store hallows _ =>
      exact ⟨h.update hw.knows hallows, hlate _, h.asks i _ _ _ (hw.knows i) hallows, hw.log⟩
  | @lose i o answer hallows _ =>
      have hasked := h.asks i _ _ o (hw.knows i) hallows
      refine ⟨h.update hw.knows hallows, ?_, hasked, hw.log⟩
      intro other hother
      rcases List.mem_cons.mp hother with rfl | hother
      · exact ⟨i, h.stands i _ _ _ hasked⟩
      · exact hlate _ other hother
  | @late front back o _ _ hsplit _ =>
      refine ⟨hw.knows, ?_, hw.log⟩
      intro other hother
      apply hw.late
      rw [hsplit]
      rcases List.mem_append.mp hother with hother | hother
      · exact List.mem_append_left _ hother
      · exact List.mem_append_right _ (List.mem_cons_of_mem _ hother)
  | crash => exact ⟨h.reset hw.knows, hw.late, hw.log⟩

omit [DecidableEq ι] in
theorem initially (h : Testimony m start knows asked) {init : σ → Prop}
    (hw : WatchInitial init start w) : Testified knows asked w := by
  refine ⟨?_, ?_, ?_⟩
  · intro i
    rw [hw.seen i]
    exact h.start i _
  · intro o ho
    rw [hw.late] at ho
    cases ho
  · rw [hw.log]
    trivial

theorem testified (h : Testimony m start knows asked) {init : σ → Prop}
    (hw : Reachable (WatchStep machine m start) (WatchInitial init start) w) :
    Testified knows asked w :=
  Reachable.invariant hw (fun _ => h.initially) fun _ _ _ => h.step

/-- What holds of the store and the log at the start, and what every operation that the log
bears out keeps, holds of every reachable watched pool. -/
theorem recorded (h : Testimony m start knows asked) {init : σ → Prop}
    (recorded : σ → List (Entry ι Ans) → Prop) (hinit : ∀ store, init store → recorded store [])
    (hlog : ∀ store log entry, recorded store log → recorded store (entry :: log))
    (hexternal : ∀ store store' log, machine.external store store' → recorded store log →
      recorded store' log)
    (hserve : ∀ store i o answer store' log, machine.serve store o answer store' →
      asked i o log → recorded store log → recorded store' log)
    (hw : Reachable (WatchStep machine m start) (WatchInitial init start) w) :
    recorded w.store w.log := by
  have hall : Testified knows asked w ∧ recorded w.store w.log := by
    apply Reachable.invariant hw
    · intro first hfirst
      refine ⟨h.initially hfirst, ?_⟩
      rw [hfirst.log]
      exact hinit _ hfirst.store
    · intro before act after hbefore hstep
      obtain ⟨hbefore, hrecorded⟩ := hbefore
      refine ⟨h.step hbefore hstep, ?_⟩
      cases hstep with
      | external hchange => exact hexternal _ _ _ hchange hrecorded
      | @perform i o answer store hallows hanswer =>
          apply hlog
          exact hserve _ i o answer _ _ hanswer (h.asks i _ _ _ (hbefore.knows i) hallows) hrecorded
      | lose => exact hlog _ _ _ hrecorded
      | @late front back o answer store hlate hanswer =>
          have ho : o ∈ before.late := by
            rw [hlate]
            exact List.mem_append_right _ List.mem_cons_self
          obtain ⟨i, hasked⟩ := hbefore.late o ho
          exact hserve _ i o answer _ _ hanswer hasked hrecorded
      | _ => exact hrecorded
  exact hall.2

end Testimony

/-- Every answer in the log is one an operation can get. -/
theorem answered {good : (o : ω) → Ans o → Prop} {init : σ → Prop} {w : Watch σ ι S Ans}
    (hserve : ∀ store o answer store', machine.serve store o answer store' → good o answer)
    (hlost : ∀ o answer, machine.lost o answer → good o answer)
    (hw : Reachable (WatchStep machine m start) (WatchInitial init start) w) :
    ∀ entry ∈ w.log, good entry.op entry.answer := by
  apply Reachable.invariant hw
  · intro first hfirst entry hentry
    rw [hfirst.log] at hentry
    cases hentry
  · intro before act after hbefore hstep
    have hnew : ∀ (i : ι) (o : ω) (answer : Ans o), good o answer →
        ∀ entry ∈ (⟨i, o, answer⟩ :: before.log : List (Entry ι Ans)),
          good entry.op entry.answer := by
      intro i o answer hgood entry hentry
      rcases List.mem_cons.mp hentry with rfl | hentry
      · exact hgood
      · exact hbefore entry hentry
    cases hstep with
    | perform _ hanswer => exact hnew _ _ _ (hserve _ _ _ _ hanswer)
    | lose _ hanswer => exact hnew _ _ _ (hlost _ _ hanswer)
    | _ => exact hbefore

end Workers

import FlickrGroupAddr.AlbumWrites
import FlickrGroupAddr.Lib.Workers

/-!
# Workers over the album tables

What the pools of the three album workers share: an operation of a worker is a batch of
its store, and every other album call may come between two operations.
-/

namespace FlickrGroupAddr

set_option autoImplicit false

open Transition Workers Relation

/-- A batch ran, with this answer; one that aborts throws and changes nothing. -/
def batchServed {ε α : Type} (db : AlbumDb) (batch : Batch α) : Except ε α → AlbumDb → Prop
  | .ok answer, db' => batch = some (db', answer)
  | .error _, db' => batch = none ∧ db' = db

theorem batchServed.writes {ε α : Type} {part : Option AlbumPart} {db db' : AlbumDb}
    {batch : Batch α} {answer : Except ε α} (h : batchServed db batch answer db')
    (hbatch : ∀ answer, batch = some (db', answer) → AlbumWrites part db db') :
    AlbumWrites part db db' := by
  cases answer with
  | ok answer => exact hbatch answer h
  | error e =>
      rw [h.2]

/-- Another call of an album store. -/
def otherAlbumCall (part : AlbumPart) (db db' : AlbumDb) : Prop :=
  ∃ move : AlbumMove, move.call.part ≠ some part ∧ AlbumStep db move db'

/-- Whatever happens in the pool, the tables change by row writes only. -/
structure AlbumMachine {ω : Type} {Ans : ω → Type} (machine : Machine AlbumDb Ans) : Prop where
  serve : ∀ db o answer db', machine.serve db o answer db' → ∃ part, AlbumWrites part db db'
  external : ∀ db db', machine.external db db' → ∃ part, AlbumWrites part db db'

namespace AlbumMachine

variable {ω ι : Type} {Ans : ω → Type} {machine : Machine AlbumDb Ans} [DecidableEq ι]

theorem step (h : AlbumMachine machine) {p p' : Pool AlbumDb ι Ans} {act : Act ι Ans}
    (hstep : PoolStep machine p act p') : ∃ part, AlbumWrites part p.store p'.store := by
  cases hstep with
  | external hexternal => exact h.external _ _ hexternal
  | perform _ hserve => exact h.serve _ _ _ _ hserve
  | late _ hserve => exact h.serve _ _ _ _ hserve
  | _ => exact ⟨none, ReflTransGen.refl⟩

/-- What holds of the empty tables and every row write keeps holds in every reachable pool. -/
theorem invariant (h : AlbumMachine machine) (inv : AlbumDb → Prop) (hempty : inv emptyAlbumDb)
    (hwrite : ∀ part db db', AlbumWrite part db db' → inv db → inv db')
    {p : Pool AlbumDb ι Ans} (hp : Reachable (PoolStep machine) (PoolInitial AlbumInitial) p) :
    inv p.store := by
  obtain ⟨first, trace, hfirst, hrun⟩ := hp
  have hstart : inv first.store := by
    rw [hfirst.store]
    exact hempty
  clear hfirst
  induction hrun with
  | nil => exact hstart
  | snoc _ hlast ih =>
      obtain ⟨part, hwrites⟩ := h.step hlast
      exact AlbumWrites.keeps hwrite ih hwrites

/-- A preorder that every row write respects relates the ends of a run. -/
theorem relates (h : AlbumMachine machine) {rel : AlbumDb → AlbumDb → Prop}
    [IsPreorder AlbumDb rel] (hwrite : ∀ part db db', AlbumWrite part db db' → rel db db')
    {p p' : Pool AlbumDb ι Ans} {trace : List (Move (Pool AlbumDb ι Ans) (Act ι Ans))}
    (hrun : Run (PoolStep machine) p trace p') : rel p.store p'.store := by
  induction hrun with
  | nil => exact refl_of rel _
  | snoc _ hlast ih =>
      obtain ⟨part, hwrites⟩ := h.step hlast
      exact trans_of rel ih (AlbumWrites.relates hwrite hwrites)

end AlbumMachine

/-- Album calls of another part lead from the empty tables to an idle pool. -/
theorem reachable_calls {ω ι : Type} {Ans : ω → Type} {machine : Machine AlbumDb Ans}
    [DecidableEq ι] {part : AlbumPart} (hexternal : machine.external = otherAlbumCall part)
    {moves : List AlbumMove} (hother : ∀ move ∈ moves, move.call.part ≠ some part) {db : AlbumDb}
    (h : execAll AlbumMove.exec emptyAlbumDb moves = some db) :
    Reachable (PoolStep machine) (PoolInitial AlbumInitial) (Pool.idle db : Pool AlbumDb ι Ans) := by
  have hrun : ∀ before : AlbumDb, execAll AlbumMove.exec before moves = some db →
      ∃ trace, Run (PoolStep machine) (Pool.idle before : Pool AlbumDb ι Ans) trace
        (Pool.idle db) := by
    clear h
    induction moves with
    | nil =>
        intro before hexec
        cases hexec
        exact ⟨[], Run.nil _⟩
    | cons move rest ih =>
        intro before hexec
        obtain ⟨middle, hfirst, hrest⟩ := Option.bind_eq_some_iff.mp hexec
        have hmove : machine.external before middle := by
          rw [hexternal]
          exact ⟨move, hother move List.mem_cons_self, Option.some.inj hfirst⟩
        obtain ⟨trace, hrun⟩ := ih (fun m hm => hother m (List.mem_cons_of_mem _ hm)) middle hrest
        exact ⟨_, Run.cons (PoolStep.external hmove) hrun⟩
  obtain ⟨trace, hrun⟩ := hrun emptyAlbumDb h
  have hinitial : PoolInitial AlbumInitial (Pool.idle emptyAlbumDb : Pool AlbumDb ι Ans) :=
    ⟨rfl, fun _ => rfl, rfl, rfl⟩
  exact ⟨_, trace, hinitial, hrun⟩

end FlickrGroupAddr

import FlickrGroupAddr.Lib.Calls

/-!
# Calls and their replies

A worker runs a program with a result and tells the result at its end.  So a run shows what
every call replied, and a rule that the program follows to its result holds of the replies.
-/

namespace Workers

set_option autoImplicit false

open Program Transition

variable {σ ι ω ρ : Type} {Ans : ω → Type} [DecidableEq ι]

/-- An operation of a program, or its result. -/
inductive Exchange (ω ρ : Type) where
  | ask (o : ω)
  | reply (result : ρ)

abbrev Exchange.Answer (ρ : Type) (Ans : ω → Type) : Exchange ω ρ → Type
  | .ask o => Ans o
  | .reply _ => Unit

/-- The program, which tells its result. -/
def replying : Prog Ans ρ → Prog (Exchange.Answer ρ Ans) Unit
  | .done result => .ask (.reply result) .done
  | .ask o next => .ask (.ask o) fun answer => replying (next answer)

/-- How operations and replies meet the store. -/
def serveExchange (serve : σ → (o : ω) → Ans o → σ → Prop) (s : σ) :
    (x : Exchange ω ρ) → Exchange.Answer ρ Ans x → σ → Prop
  | .ask o, answer, s' => serve s o answer s'
  | .reply _, _, s' => s' = s

def lostExchange (lost : (o : ω) → Ans o → Prop) :
    (x : Exchange ω ρ) → Exchange.Answer ρ Ans x → Prop
  | .ask o, answer => lost o answer
  | .reply _, _ => True

/-- The machine whose workers run these programs and tell their results. -/
def Machine.replying (serve : σ → (o : ω) → Ans o → σ → Prop) (lost : (o : ω) → Ans o → Prop)
    (external : σ → σ → Prop) (programs : Prog Ans ρ → Prop) :
    Machine σ (Exchange.Answer ρ Ans) where
  serve := serveExchange serve
  lost := lostExchange lost
  external := external
  program p := ∃ q, programs q ∧ p = Workers.replying q

/-! ## What a call asked -/

/-- The operations of a call, without its reply. -/
def askedOf : Call (Exchange.Answer ρ Ans) → Call Ans
  | [] => []
  | ⟨.ask o, answer⟩ :: call => ⟨o, answer⟩ :: askedOf call
  | ⟨.reply _, _⟩ :: call => askedOf call

@[simp] theorem askedOf_nil : askedOf ([] : Call (Exchange.Answer ρ Ans)) = [] := rfl

@[simp] theorem askedOf_snoc (call : Call (Exchange.Answer ρ Ans)) (o : ω) (answer : Ans o) :
    askedOf (call ++ [⟨.ask o, answer⟩]) = askedOf call ++ [⟨o, answer⟩] := by
  induction call with
  | nil => rfl
  | cons first rest ih =>
      obtain ⟨x, given⟩ := first
      cases x with
      | ask o' => simp [askedOf, ih]
      | reply result => simp [askedOf, ih]

theorem mem_askedOf {call : Call (Exchange.Answer ρ Ans)} {o : ω} {answer : Ans o} :
    ⟨o, answer⟩ ∈ askedOf call ↔ ⟨.ask o, answer⟩ ∈ call := by
  induction call with
  | nil => simp
  | cons first rest ih =>
      obtain ⟨x, given⟩ := first
      cases x with
      | ask o' =>
          rw [askedOf, List.mem_cons, List.mem_cons, ih]
          constructor
          · rintro (h | h)
            · cases h
              exact Or.inl rfl
            · exact Or.inr h
          · rintro (h | h)
            · cases h
              exact Or.inl rfl
            · exact Or.inr h
      | reply result =>
          rw [askedOf, List.mem_cons, ih]
          constructor
          · exact Or.inr
          · rintro (h | h)
            · cases h
            · exact h

/-- A rule for the operations of a program and for its result, as a rule for exchanges. -/
def replyRule (allows : Call Ans → ω → Prop) (replies : ρ → Call Ans → Prop)
    (call : Call (Exchange.Answer ρ Ans)) : Exchange ω ρ → Prop
  | .ask o => allows (askedOf call) o
  | .reply result => replies result (askedOf call)

variable {allows : Call Ans → ω → Prop} {replies : ρ → Call Ans → Prop}

theorem follows_replying {q : Prog Ans ρ} {call : Call (Exchange.Answer ρ Ans)}
    (h : Follows (callMonitor allows) replies (askedOf call) q) :
    Follows (callMonitor (replyRule allows replies)) (fun _ _ => True) call (replying q) := by
  induction q generalizing call with
  | done result => exact ⟨h, fun _ => trivial⟩
  | ask o next ih =>
      refine ⟨h.1, ?_⟩
      intro answer
      apply ih
      have hnext := h.2 answer
      change Follows _ _ (askedOf call ++ [⟨o, answer⟩]) _ at hnext
      rw [← askedOf_snoc] at hnext
      exact hnext

section Runs

variable {serve : σ → (o : ω) → Ans o → σ → Prop} {lost : (o : ω) → Ans o → Prop}
  {external : σ → σ → Prop} {programs : Prog Ans ρ → Prop} {init : σ → Prop}
  {start p : Pool σ ι (Exchange.Answer ρ Ans)}
  {trace front back : List (Move (Pool σ ι (Exchange.Answer ρ Ans))
    (Act ι (Exchange.Answer ρ Ans)))}
  {move : Move (Pool σ ι (Exchange.Answer ρ Ans)) (Act ι (Exchange.Answer ρ Ans))}

theorem run_exchanged
    (hprograms : ∀ q, programs q → Follows (callMonitor allows) replies [] q)
    (hstart : PoolInitial init start)
    (hrun : Run (PoolStep (Machine.replying serve lost external programs)) start
      (front ++ move :: back) p)
    {entry : Entry ι (Exchange.Answer ρ Ans)} (htells : move.label.tells entry) :
    replyRule allows replies (callOf entry.worker front) entry.op := by
  apply run_asked _ hstart hrun htells
  rintro program ⟨q, hq, rfl⟩
  apply follows_replying
  exact hprograms q hq

/-- What a call was told, and cannot have been told by a lost answer, is what an operation
of the run was answered. -/
theorem askedOf_served
    (hrun : Run (PoolStep (Machine.replying serve lost external programs)) start trace p)
    {i : ι} {o : ω} {answer : Ans o} (h : ⟨o, answer⟩ ∈ askedOf (callOf i trace))
    (hheard : ¬ lost o answer) :
    ∃ move ∈ trace, move.label = .perform ⟨i, .ask o, answer⟩ ∧
      serve move.src.store o answer move.dst.store := by
  obtain ⟨move, hmove, htells⟩ := mem_callOf (mem_askedOf.mp h)
  obtain ⟨front, back, rfl⟩ := List.append_of_mem hmove
  obtain ⟨src, label, dst⟩ := move
  obtain ⟨_, hstep, _⟩ := hrun.around
  dsimp only at htells hstep
  refine ⟨_, hmove, ?_⟩
  rcases htells with rfl | rfl
  · cases hstep with
    | perform _ hserve => exact ⟨rfl, hserve⟩
  · cases hstep with
    | lose _ hlost => exact absurd hlost hheard

end Runs

end Workers

/-!
# Programs under a monitor

A program asks one operation after the other and goes on with the answers, whatever
they are.  A monitor watches the operations and the answers of a program and says, from
what it saw, which operation may come next.  `Follows` is the weakest precondition of a
program against a monitor; its rules take a program apart along its text.
-/

namespace Program

set_option autoImplicit false

variable {ω : Type} {Ans : ω → Type} {S ε α β : Type}

/-- A program that asks operations of `ω` and ends with a result. -/
inductive Prog {ω : Type} (Ans : ω → Type) (α : Type) where
  | done (result : α)
  | ask (o : ω) (next : Ans o → Prog Ans α)

namespace Prog

def bind (p : Prog Ans α) (f : α → Prog Ans β) : Prog Ans β :=
  match p with
  | .done result => f result
  | .ask o next => .ask o fun answer => (next answer).bind f

instance : Monad (Prog Ans) where
  pure := .done
  bind := bind

/-- Ask one operation. -/
def query (o : ω) : Prog Ans (Ans o) := .ask o .done

end Prog

/-- What a monitor remembers of a program, and what it lets the program ask. -/
structure Monitor {ω : Type} (Ans : ω → Type) (S : Type) where
  allows : S → ω → Prop
  next : S → (o : ω) → Ans o → S

/-- Every operation the program asks from here on is one the monitor allows, and the program
ends as `post` says. -/
def Follows (m : Monitor Ans S) (post : α → S → Prop) : S → Prog Ans α → Prop
  | s, .done result => post result s
  | s, .ask o next => m.allows s o ∧ ∀ answer, Follows m post (m.next s o answer) (next answer)

variable {m : Monitor Ans S} {s : S}

@[simp] theorem follows_pure {post : α → S → Prop} {result : α} :
    Follows m post s (pure result) ↔ post result s := Iff.rfl

@[simp] theorem follows_query {o : ω} {post : Ans o → S → Prop} :
    Follows m post s (Prog.query o) ↔
      m.allows s o ∧ ∀ answer, post answer (m.next s o answer) := Iff.rfl

@[simp] theorem follows_bind {post : β → S → Prop} {p : Prog Ans α} {f : α → Prog Ans β} :
    Follows m post s (p >>= f) ↔ Follows m (fun result t => Follows m post t (f result)) s p := by
  induction p generalizing s with
  | done result => rfl
  | ask o next ih =>
      constructor
      · rintro ⟨hallows, hnext⟩
        exact ⟨hallows, fun answer => (ih answer).mp (hnext answer)⟩
      · rintro ⟨hallows, hnext⟩
        exact ⟨hallows, fun answer => (ih answer).mpr (hnext answer)⟩

/-- The rule of consequence. -/
theorem Follows.imp {post post' : α → S → Prop} {p : Prog Ans α}
    (h : Follows m post s p) (hpost : ∀ result t, post result t → post' result t) :
    Follows m post' s p := by
  induction p generalizing s with
  | done result => exact hpost result s h
  | ask o next ih => exact ⟨h.1, fun answer => ih answer (h.2 answer)⟩

/-- Two rules at once. -/
def Monitor.and {S' : Type} (m : Monitor Ans S) (m' : Monitor Ans S') : Monitor Ans (S × S') where
  allows s o := m.allows s.1 o ∧ m'.allows s.2 o
  next s o answer := (m.next s.1 o answer, m'.next s.2 o answer)

theorem Follows.fst {S' : Type} {m' : Monitor Ans S'} {s : S × S'} {post : α → S × S' → Prop}
    {post' : α → S → Prop} {p : Prog Ans α} (h : Follows (m.and m') post s p)
    (hpost : ∀ result t, post result t → post' result t.1) : Follows m post' s.1 p := by
  induction p generalizing s with
  | done result => exact hpost result s h
  | ask o next ih => exact ⟨h.1.1, fun answer => ih answer (h.2 answer)⟩

theorem Follows.snd {S' : Type} {m' : Monitor Ans S'} {s : S × S'} {post : α → S × S' → Prop}
    {post' : α → S' → Prop} {p : Prog Ans α} (h : Follows (m.and m') post s p)
    (hpost : ∀ result t, post result t → post' result t.2) : Follows m' post' s.2 p := by
  induction p generalizing s with
  | done result => exact hpost result s h
  | ask o next ih => exact ⟨h.1.2, fun answer => ih answer (h.2 answer)⟩

/-! ## Programs that may throw -/

/-- A program that ends with a result or throws. -/
abbrev Throws {ω : Type} (Ans : ω → Type) (ε : Type) := ExceptT ε (Prog Ans)

/-- Ask an operation whose answer may be an exception. -/
def attempt (p : Prog Ans (Except ε α)) : Throws Ans ε α := ExceptT.mk p

/-- Both ends of a program that may throw. -/
def ends (post : α → S → Prop) (thrown : ε → S → Prop) : Except ε α → S → Prop
  | .ok result, t => post result t
  | .error e, t => thrown e t

/-- The program follows the monitor, to a result of `post` or an exception of `thrown`. -/
def Runs (m : Monitor Ans S) (post : α → S → Prop) (thrown : ε → S → Prop)
    (s : S) (x : Throws Ans ε α) : Prop :=
  Follows m (ends post thrown) s x.run

variable {post : α → S → Prop} {thrown : ε → S → Prop}

@[simp] theorem runs_pure {result : α} :
    Runs m post thrown s (pure result : Throws Ans ε α) ↔ post result s := Iff.rfl

@[simp] theorem runs_throw {e : ε} :
    Runs m post thrown s (throw e : Throws Ans ε α) ↔ thrown e s := Iff.rfl

@[simp] theorem runs_attempt {p : Prog Ans (Except ε α)} :
    Runs m post thrown s (attempt p) ↔ Follows m (ends post thrown) s p := Iff.rfl

@[simp] theorem runs_bind {x : Throws Ans ε α} {f : α → Throws Ans ε β}
    {post : β → S → Prop} :
    Runs m post thrown s (x >>= f) ↔
      Runs m (fun result t => Runs m post thrown t (f result)) thrown s x := by
  have hends : ∀ (result : Except ε α) (t : S),
      Follows m (ends post thrown) t (ExceptT.bindCont f result) ↔
        ends (fun result t => Runs m post thrown t (f result)) thrown result t := by
    intro result t
    cases result with
    | ok result => rfl
    | error e => rfl
  have hbind : Runs m post thrown s (x >>= f) ↔
      Follows m (fun result t => Follows m (ends post thrown) t (ExceptT.bindCont f result)) s
        x.run :=
    follows_bind
  rw [hbind]
  constructor
  · intro h
    exact h.imp fun result t => (hends result t).mp
  · intro h
    exact h.imp fun result t => (hends result t).mpr

@[simp] theorem runs_map {x : Throws Ans ε α} {f : α → β} {post : β → S → Prop} :
    Runs m post thrown s (f <$> x) ↔
      Runs m (fun result t => post (f result) t) thrown s x := by
  have hends : ∀ (result : Except ε α) (t : S),
      Follows m (ends post thrown) t (match result with
        | .ok a => pure (.ok (f a))
        | .error e => pure (.error e) : Prog Ans (Except ε β)) ↔
        ends (fun result t => post (f result) t) thrown result t := by
    intro result t
    cases result with
    | ok result => rfl
    | error e => rfl
  have hmap : Runs m post thrown s (f <$> x) ↔
      Follows m (fun result t => Follows m (ends post thrown) t (match result with
        | .ok a => pure (.ok (f a))
        | .error e => pure (.error e))) s x.run :=
    follows_bind
  rw [hmap]
  constructor
  · intro h
    exact h.imp fun result t => (hends result t).mp
  · intro h
    exact h.imp fun result t => (hends result t).mpr

/-- A program that catches what the other one ends with. -/
@[simp] theorem runs_lift {p : Prog Ans α} :
    Runs m post thrown s (ExceptT.lift p) ↔ Follows m post s p :=
  follows_bind

theorem Runs.imp {post' : α → S → Prop} {thrown' : ε → S → Prop}
    {x : Throws Ans ε α} (h : Runs m post thrown s x)
    (hpost : ∀ result t, post result t → post' result t)
    (hthrown : ∀ e t, thrown e t → thrown' e t) : Runs m post' thrown' s x := by
  apply Follows.imp h
  intro result t hresult
  cases result with
  | ok result => exact hpost result t hresult
  | error e => exact hthrown e t hresult

/-- Go on from an exception. -/
def rescue (x : Throws Ans ε α) (handler : ε → Throws Ans ε α) : Throws Ans ε α :=
  ExceptT.mk do
    match ← x.run with
    | .ok result => pure (.ok result)
    | .error e => (handler e).run

@[simp] theorem runs_rescue {x : Throws Ans ε α} {handler : ε → Throws Ans ε α} :
    Runs m post thrown s (rescue x handler) ↔
      Runs m post (fun e t => Runs m post thrown t (handler e)) s x := by
  have hends : ∀ (result : Except ε α) (t : S),
      Follows m (ends post thrown) t (match result with
        | .ok a => pure (.ok a)
        | .error e => (handler e).run : Prog Ans (Except ε α)) ↔
        ends post (fun e t => Runs m post thrown t (handler e)) result t := by
    intro result t
    cases result with
    | ok result => rfl
    | error e => rfl
  have hbind : Runs m post thrown s (rescue x handler) ↔
      Follows m (fun result t => Follows m (ends post thrown) t (match result with
        | .ok a => pure (.ok a)
        | .error e => (handler e).run)) s x.run :=
    follows_bind
  rw [hbind]
  constructor
  · intro h
    exact Follows.imp h fun result t => (hends result t).mp
  · intro h
    exact Follows.imp h fun result t => (hends result t).mpr

end Program

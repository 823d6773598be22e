import FlickrGroupAddr.GoogleKeys

/-!
# Refreshes of the keys

One owner at a time holds the lease of the row, and only that owner changes the keys.  A
fetch that fails is followed by a cooldown; one that succeeds is not, so keys that are asked
for and never found are fetched again at once.
-/

namespace FlickrGroupAddr

set_option autoImplicit false

open Program Workers Transition

/-! ## What a call may ask -/

/-- The call drew this owner and was told that its claim won. -/
def OwnsLease (owner : Token) (call : Call KeyOp.Answer) : Prop :=
  ⟨.randomUUID, owner⟩ ∈ call ∧ ∃ force, ⟨.claim owner force, .ok true⟩ ∈ call

/-- A call claims under the owner it drew, and fetches and writes only after its claim won. -/
def keyRule (call : Call KeyOp.Answer) : KeyOp → Prop
  | .claim owner _ => ⟨.randomUUID, owner⟩ ∈ call
  | .fetch => ∃ owner, OwnsLease owner call
  | .publish owner .. | .cool owner => OwnsLease owner call
  | _ => True

theorem OwnsLease.append {owner : Token} {call : Call KeyOp.Answer} (h : OwnsLease owner call)
    (more : Call KeyOp.Answer) : OwnsLease owner (call ++ more) := by
  obtain ⟨hdrawn, force, hwon⟩ := h
  exact ⟨List.mem_append_left _ hdrawn, force, List.mem_append_left _ hwon⟩

section Rules

variable {runtime : GoogleRuntime} {call : Call KeyOp.Answer} {owner : Token}

abbrev KeyRuns {α : Type} (post : α → Call KeyOp.Answer → Prop)
    (thrown : KeyFault → Call KeyOp.Answer → Prop) (call : Call KeyOp.Answer) (x : KeyThrows α) :
    Prop :=
  Runs (callMonitor keyRule) post thrown call x

/-- The call follows the rule, whatever it ends with. -/
abbrev KeyRunsOn {α : Type} (call : Call KeyOp.Answer) (x : KeyThrows α) : Prop :=
  KeyRuns (fun _ _ => True) (fun _ _ => True) call x

open GoogleKeys

theorem keyPresent_runs {α : Type} {value : Option α} {post : α → Call KeyOp.Answer → Prop}
    {thrown : KeyFault → Call KeyOp.Answer → Prop} (hpost : ∀ found, post found call)
    (hthrown : thrown .invalid call) : KeyRuns post thrown call (present value) := by
  cases value with
  | none => exact hthrown
  | some found => exact hpost found

theorem keyAssert_runs {p : Prop} [Decidable p] {post : Unit → Call KeyOp.Answer → Prop}
    {thrown : KeyFault → Call KeyOp.Answer → Prop} (hpost : post () call)
    (hthrown : thrown .invalid call) : KeyRuns post thrown call (GoogleKeys.assert p) := by
  unfold GoogleKeys.assert
  split
  · exact hpost
  · exact hthrown

/-- Whatever ends a fetch, its owner still owns the lease. -/
theorem fetched_runs (howns : OwnsLease owner call) :
    KeyRuns (fun _ _ => True) (fun _ later => OwnsLease owner later) call
      (fetched runtime owner) := by
  unfold fetched
  rw [KeyRuns, runs_bind]
  refine ⟨⟨owner, howns⟩, ?_⟩
  intro answer
  have howns := howns.append [⟨.fetch, answer⟩]
  cases answer with
  | error fault => exact howns
  | ok answer =>
  show Runs _ _ _ _ (_ >>= _)
  rw [runs_bind]
  refine keyPresent_runs ?_ howns
  intro freshness
  rw [runs_bind]
  refine keyPresent_runs ?_ howns
  intro certs
  rw [runs_bind]
  refine ⟨trivial, ?_⟩
  intro jitter
  have howns := howns.append [⟨.jitter, jitter⟩]
  refine ⟨howns, ?_⟩
  intro written
  have howns := howns.append [⟨.publish owner certs _ _, written⟩]
  cases written with
  | error fault => exact howns
  | ok _ => trivial

theorem attempted_runs (howns : OwnsLease owner call) :
    KeyRunsOn call (attempted runtime owner) := by
  unfold attempted
  rw [KeyRunsOn, KeyRuns, Runs]
  refine follows_bind.mpr ?_
  refine Follows.imp (fetched_runs howns) ?_
  intro result later hresult
  cases result with
  | ok _ => trivial
  | error fault =>
      refine ⟨hresult, ?_⟩
      intro cooled
      cases cooled <;> trivial

theorem refreshGoogleKeys_runs {force : Bool} :
    KeyRunsOn call (refreshGoogleKeys runtime force) := by
  unfold refreshGoogleKeys
  rw [KeyRunsOn, KeyRuns, runs_bind]
  refine ⟨trivial, ?_⟩
  intro owner
  show Runs _ _ _ _ (_ >>= _)
  rw [runs_bind]
  refine ⟨List.mem_append_right _ (List.mem_singleton_self _), ?_⟩
  intro won
  cases won with
  | error fault => trivial
  | ok won =>
      cases won with
      | false => trivial
      | true =>
          apply attempted_runs
          refine ⟨?_, force, List.mem_append_right _ (List.mem_singleton_self _)⟩
          exact List.mem_append_left _ (List.mem_append_right _ (List.mem_singleton_self _))

theorem joinRefresh_runs (rounds : Nat) : KeyRunsOn call (joinRefresh rounds) := by
  induction rounds generalizing call with
  | zero => trivial
  | succ rounds ih =>
      unfold joinRefresh
      rw [KeyRunsOn, KeyRuns, runs_bind]
      refine ⟨trivial, ?_⟩
      intro current
      cases current with
      | error fault => trivial
      | ok current =>
          show Runs _ _ _ _ (ite _ _ _)
          split
          · trivial
          · rw [runs_bind]
            exact ⟨trivial, fun _ => ih⟩

theorem currentKeys_runs {kid : String} : KeyRunsOn call (currentKeys runtime kid) := by
  unfold currentKeys
  rw [KeyRunsOn, KeyRuns, runs_bind]
  refine ⟨trivial, ?_⟩
  intro current
  cases current with
  | error fault => trivial
  | ok current =>
      show Runs _ _ _ _ (ite _ _ _)
      split
      · trivial
      · rw [runs_bind]
        refine Runs.imp refreshGoogleKeys_runs ?_ (fun _ _ => id)
        intro _ later _
        rw [runs_bind]
        refine Runs.imp (joinRefresh_runs 20) ?_ (fun _ _ => id)
        intro _ last _
        refine ⟨trivial, ?_⟩
        intro read
        cases read <;> trivial

theorem payload_runs {credential audience : String} {header : Option AssertionHeader} :
    KeyRunsOn call (payload runtime credential header audience) := by
  unfold payload
  rw [KeyRunsOn, KeyRuns, runs_bind]
  refine keyAssert_runs ?_ trivial
  rw [runs_bind]
  refine keyPresent_runs ?_ trivial
  intro header
  rw [runs_bind]
  refine keyPresent_runs ?_ trivial
  intro kid
  rw [runs_bind]
  refine keyAssert_runs ?_ trivial
  rw [runs_bind]
  refine Runs.imp currentKeys_runs ?_ (fun _ _ => id)
  intro current later _
  rw [runs_bind]
  refine keyAssert_runs ?_ trivial
  rw [runs_bind]
  refine ⟨trivial, ?_⟩
  intro verified
  cases verified <;> trivial

/-- Every program of the machine follows the rule. -/
theorem keyPrograms (program : KeyProg Unit) (h : (keyMachine runtime).program program) :
    Follows (callMonitor keyRule) (fun _ _ => True) [] program := by
  rcases h with rfl | ⟨credential, header, audience, nonceDigest, rfl⟩
  · refine follows_bind.mpr ?_
    exact Follows.imp refreshGoogleKeys_runs fun _ _ _ => trivial
  · unfold validateGoogleIdentity
    refine follows_bind.mpr ?_
    refine Follows.imp payload_runs ?_
    intro result later _
    cases result with
    | error fault => exact ⟨trivial, fun _ => trivial⟩
    | ok found => exact ⟨trivial, fun _ => trivial⟩

end Rules

/-! ## What a move does to the row -/

section Moves

variable {runtime : GoogleRuntime} {start p p' : Pool KeyStore Nat KeyOp.Answer}
  {trace : List (Move (Pool KeyStore Nat KeyOp.Answer) (Act Nat KeyOp.Answer))}
  {act : Act Nat KeyOp.Answer}

/-- A move is what one operation does to the store, or leaves it alone. -/
theorem keyStep_store (h : PoolStep (keyMachine runtime) p act p') :
    (∃ o answer, act.served = some o ∧ serveKeys p.store o answer p'.store) ∨
      act.served = none ∧ p'.store = p.store := by
  cases h with
  | external hexternal => exact Or.inr ⟨rfl, hexternal⟩
  | start => exact Or.inr ⟨rfl, rfl⟩
  | perform hasks hserve => exact Or.inl ⟨_, _, rfl, hserve⟩
  | lose => exact Or.inr ⟨rfl, rfl⟩
  | late hlate hserve => exact Or.inl ⟨_, _, rfl, hserve⟩
  | crash => exact Or.inr ⟨rfl, rfl⟩

/-- The operations that write the row, with the reading of their statement. -/
inductive KeyWrite (s : KeyStore) : KeyOp → KeyStore → Prop
  | won {owner : Token} {force : Bool} {now : Us} {cache : KeyCache} :
      s.cache.claim owner force now = some cache →
      KeyWrite s (.claim owner force)
        { s with
          cache := cache
          clock := now
          forced := if force then now :: s.forced else s.forced }
  | published {owner : Token} {certs : GoogleCerts} {expiresIn refreshIn : Nat} {now : Us} :
      s.cache.refreshOwner = some owner →
      KeyWrite s (.publish owner certs expiresIn refreshIn)
        (s.wrote ⟨some certs, now + expiresIn, now + refreshIn, none, 0⟩ now)
  | cooled {owner : Token} {now : Us} :
      s.cache.refreshOwner = some owner →
      KeyWrite s (.cool owner)
        (s.wrote
          { s.cache with
            refreshAfterUs := now + KeyCache.cooldownUs
            refreshUntilUs := now + KeyCache.cooldownUs
            refreshOwner := none } now)

/-- An operation writes the row, or it leaves the row and the forced claims alone. -/
theorem serveKeys_cases {s s' : KeyStore} {o : KeyOp} {answer : o.Answer}
    (h : serveKeys s o answer s') :
    KeyWrite s o s' ∨ s'.cache = s.cache ∧ s'.forced = s.forced := by
  cases o with
  | cache =>
      obtain ⟨now, _, rfl⟩ := h
      exact Or.inr ⟨rfl, rfl⟩
  | randomUUID =>
      obtain ⟨_, rfl⟩ := h
      exact Or.inr ⟨rfl, rfl⟩
  | claim owner force =>
      obtain ⟨now, _, rfl⟩ := h
      unfold KeyStore.claimed
      split
      · exact Or.inr ⟨rfl, rfl⟩
      · next cache hcache => exact Or.inl (KeyWrite.won hcache)
  | publish owner certs expiresIn refreshIn =>
      obtain ⟨now, _, rfl⟩ := h
      unfold KeyCache.publish
      split
      · next howner => exact Or.inl (KeyWrite.published howner)
      · exact Or.inr ⟨rfl, rfl⟩
  | cool owner =>
      obtain ⟨now, _, rfl⟩ := h
      unfold KeyCache.cool
      split
      · next howner => exact Or.inl (KeyWrite.cooled howner)
      · exact Or.inr ⟨rfl, rfl⟩
  | fetch | jitter | wait | verify | respond =>
      cases h
      exact Or.inr ⟨rfl, rfl⟩

theorem KeyCache.claim_eq_some {cache after : KeyCache} {owner : Token} {force : Bool} {now : Us}
    (h : cache.claim owner force now = some after) :
    cache.refreshUntilUs ≤ now ∧
      after = { cache with refreshOwner := some owner, refreshUntilUs := now + leaseUs } := by
  obtain ⟨⟨hfree, _⟩, h⟩ := Option.ite_none_right_eq_some.mp h
  cases h
  exact ⟨hfree, rfl⟩

/-- A move that changes the keys or their expiry writes what the current owner fetched. -/
theorem keys_changed (h : PoolStep (keyMachine runtime) p act p')
    (hchanged : p'.store.cache.keysJson ≠ p.store.cache.keysJson ∨
      p'.store.cache.expiresAtUs ≠ p.store.cache.expiresAtUs) :
    ∃ owner certs expiresIn refreshIn,
      act.served = some (.publish owner certs expiresIn refreshIn) ∧
        p.store.cache.refreshOwner = some owner := by
  rcases keyStep_store h with ⟨o, answer, hserved, hserve⟩ | ⟨_, hkept⟩
  · rcases serveKeys_cases hserve with hwrite | ⟨hcache, _⟩
    · generalize hs : p.store = s at hwrite hchanged ⊢
      generalize hs' : p'.store = s' at hwrite hchanged
      cases hwrite with
      | won hclaim =>
          obtain ⟨_, rfl⟩ := KeyCache.claim_eq_some hclaim
          simp at hchanged
      | published howner => exact ⟨_, _, _, _, hserved, howner⟩
      | cooled => simp [KeyStore.wrote] at hchanged
    · rw [hcache] at hchanged
      simp at hchanged
  · rw [hkept] at hchanged
    simp at hchanged

/-! ## One owner -/

/-- An owner is drawn once, by one call. -/
structure OwnersDrawn (p : Pool KeyStore Nat KeyOp.Answer)
    (trace : List (Move (Pool KeyStore Nat KeyOp.Answer) (Act Nat KeyOp.Answer))) : Prop where
  drawn : ∀ i owner, ⟨.randomUUID, owner⟩ ∈ callOf i trace → owner ∈ p.store.drawn
  once : ∀ i j owner, ⟨.randomUUID, owner⟩ ∈ callOf i trace →
    ⟨.randomUUID, owner⟩ ∈ callOf j trace → i = j

theorem serveKeys_drawn {s s' : KeyStore} {o : KeyOp} {answer : o.Answer}
    (h : serveKeys s o answer s') : s.drawn ⊆ s'.drawn := by
  cases o with
  | cache | publish | cool =>
      obtain ⟨now, _, rfl⟩ := h
      exact List.Subset.refl _
  | randomUUID =>
      obtain ⟨_, rfl⟩ := h
      exact List.subset_cons_self _ _
  | claim owner force =>
      obtain ⟨now, _, rfl⟩ := h
      unfold KeyStore.claimed
      split <;> exact List.Subset.refl _
  | fetch | jitter | wait | verify | respond =>
      cases h
      exact List.Subset.refl _

theorem keyStep_drawn (h : PoolStep (keyMachine runtime) p act p') :
    p.store.drawn ⊆ p'.store.drawn := by
  rcases keyStep_store h with ⟨o, answer, _, hserve⟩ | ⟨_, hkept⟩
  · exact serveKeys_drawn hserve
  · rw [hkept]
    exact List.Subset.refl _

/-- A draw is told once, and is new. -/
theorem keyStep_draws {entry : Entry Nat KeyOp.Answer} {owner : Token}
    (h : PoolStep (keyMachine runtime) p act p') (htells : act.tells entry)
    (hdraws : (⟨.randomUUID, owner⟩ : Sigma KeyOp.Answer) = ⟨entry.op, entry.answer⟩) :
    owner ∉ p.store.drawn ∧ owner ∈ p'.store.drawn := by
  obtain ⟨worker, op, answer⟩ := entry
  cases hdraws
  rcases htells with rfl | rfl
  · cases h with
    | perform hasks hserve =>
        obtain ⟨hfresh, hstore⟩ := hserve
        refine ⟨hfresh, ?_⟩
        dsimp only at hstore ⊢
        rw [hstore]
        exact List.mem_cons_self
  · cases h with
    | lose hasks hlost => exact hlost.elim

theorem ownersDrawn (hrun : Run (PoolStep (keyMachine runtime)) start trace p) : OwnersDrawn p trace := by
  induction hrun with
  | nil => constructor <;> simp
  | @snoc before after front act hfront hstep ih =>
      have hold : ∀ i asked, asked ∈ callOf i (front ++ [⟨before, act, after⟩]) →
          asked ∈ callOf i front ∨ ∃ entry, act.tells entry ∧ entry.worker = i ∧
            asked = ⟨entry.op, entry.answer⟩ := by
        intro i asked hasked
        rw [callOf_snoc] at hasked
        exact mem_callAfter hasked
      constructor
      · intro i owner howner
        rcases hold i _ howner with hbefore | ⟨entry, htells, _, hdraws⟩
        · exact keyStep_drawn hstep (ih.drawn i owner hbefore)
        · exact (keyStep_draws hstep htells hdraws).2
      · intro i j owner hi hj
        rcases hold i _ hi with hi | ⟨entry, htells, hworker, hdraws⟩
        · rcases hold j _ hj with hj | ⟨entry', htells', hworker', hdraws'⟩
          · exact ih.once i j owner hi hj
          · exact absurd (ih.drawn i owner hi) (keyStep_draws hstep htells' hdraws').1
        · rcases hold j _ hj with hj | ⟨entry', htells', hworker', _⟩
          · exact absurd (ih.drawn j owner hj) (keyStep_draws hstep htells hdraws).1
          · rw [← hworker, ← hworker']
            rcases htells with rfl | rfl <;> rcases htells' with h | h <;> cases h <;> rfl

theorem keyRule_append (call more : Call KeyOp.Answer) (o : KeyOp) (h : keyRule call o) :
    keyRule (call ++ more) o := by
  cases o with
  | claim owner force => exact List.mem_append_left _ h
  | fetch =>
      obtain ⟨owner, howns⟩ := h
      exact ⟨owner, howns.append more⟩
  | publish | cool => exact OwnsLease.append h more
  | _ => trivial

/-- The worker was told that its claim won, and its owner is in the row. -/
def HoldsLease (p : Pool KeyStore Nat KeyOp.Answer)
    (trace : List (Move (Pool KeyStore Nat KeyOp.Answer) (Act Nat KeyOp.Answer))) (i : Nat) :
    Prop :=
  ∃ owner force, p.store.cache.refreshOwner = some owner ∧
    ⟨.claim owner force, .ok true⟩ ∈ callOf i trace

/-- At most one worker holds the lease. -/
theorem holdsLease_unique (hstart : PoolInitial KeyStore.Initial start)
    (hrun : Run (PoolStep (keyMachine runtime)) start trace p) {i j : Nat}
    (hi : HoldsLease p trace i) (hj : HoldsLease p trace j) : i = j := by
  obtain ⟨owner, force, howner, hclaim⟩ := hi
  obtain ⟨owner', force', howner', hclaim'⟩ := hj
  cases howner.symm.trans howner'
  have hallowed := callOf_allowed keyPrograms keyRule_append hstart hrun
  exact (ownersDrawn hrun).once i j owner (hallowed i _ hclaim) (hallowed j _ hclaim')

/-! ## Forced fetches -/

/-- The operation leaves a row that a forced claim can take at once: it is the write of the
owner's keys, or a forced claim that takes over the lease of an owner that never finished. -/
def reopens (cache : KeyCache) (now : Us) : Option KeyOp → Bool
  | some (.publish owner _ _ _) => decide (cache.refreshOwner = some owner)
  | some (.claim _ true) => cache.refreshOwner.isSome && decide (cache.refreshUntilUs ≤ now)
  | _ => false

/-- The clock goes forward, and less than a cooldown after a forced claim no keys are written
and no abandoned lease is taken over by force. -/
def Paced (move : Move (Pool KeyStore Nat KeyOp.Answer) (Act Nat KeyOp.Answer)) : Prop :=
  move.src.store.clock ≤ move.dst.store.clock ∧
    ∀ last ∈ move.src.store.forced.head?,
      move.dst.store.clock < last + KeyCache.cooldownUs →
        reopens move.src.store.cache move.dst.store.clock move.label.served = false

instance (move : Move (Pool KeyStore Nat KeyOp.Answer) (Act Nat KeyOp.Answer)) :
    Decidable (Paced move) :=
  inferInstanceAs (Decidable (_ ∧ ∀ last ∈ move.src.store.forced.head?, _ → _))

/-- Forced claims, newest first, are a cooldown apart. -/
def Separated (forced : List Us) : Prop :=
  forced.Pairwise fun later earlier => earlier + KeyCache.cooldownUs ≤ later

instance (forced : List Us) : Decidable (Separated forced) :=
  inferInstanceAs (Decidable (List.Pairwise _ _))

/-- The last forced claim is a cooldown ago, or a lease is out, or the row is closed until
the cooldown is over. -/
structure Cooling (s : KeyStore) : Prop where
  past : ∀ last ∈ s.forced, last ≤ s.clock
  closed : ∀ last ∈ s.forced.head?, last + KeyCache.cooldownUs ≤ s.clock ∨
    s.cache.refreshOwner.isSome = true ∨ last + KeyCache.cooldownUs ≤ s.cache.refreshUntilUs
  separated : Separated s.forced

/-- A claim that is a cooldown after the newest is one after every other. -/
theorem Separated.cons {forced : List Us} (h : Separated forced) {now : Us}
    (hnow : ∀ last ∈ forced.head?, last + KeyCache.cooldownUs ≤ now) :
    Separated (now :: forced) := by
  refine List.pairwise_cons.mpr ⟨?_, h⟩
  intro earlier hearlier
  cases forced with
  | nil => cases hearlier
  | cons last rest =>
      have hlast := hnow last rfl
      rcases List.mem_cons.mp hearlier with rfl | hrest
      · exact hlast
      · have hbefore := (List.pairwise_cons.mp h).1 earlier hrest
        have hwait : (0 : Int) ≤ KeyCache.cooldownUs := by decide
        exact hbefore.trans ((Int.le_add_of_nonneg_right hwait).trans hlast)

/-- A paced move keeps the forced claims apart. -/
theorem Cooling.step (hcooling : Cooling p.store) (h : PoolStep (keyMachine runtime) p act p')
    (hpaced : Paced ⟨p, act, p'⟩) : Cooling p'.store := by
  obtain ⟨hforward, hclosed⟩ := hpaced
  dsimp only at hforward hclosed
  have hkept : p'.store.cache = p.store.cache → p'.store.forced = p.store.forced →
      Cooling p'.store := by
    intro hcache hforced
    refine ⟨?_, ?_, by rw [hforced]; exact hcooling.separated⟩
    · intro last hlast
      rw [hforced] at hlast
      exact (hcooling.past last hlast).trans hforward
    · intro last hlast
      rw [hforced] at hlast
      rw [hcache]
      exact (hcooling.closed last hlast).imp_left fun hpast => hpast.trans hforward
  rcases keyStep_store h with ⟨o, answer, hserved, hserve⟩ | ⟨_, hsame⟩
  · rcases serveKeys_cases hserve with hwrite | ⟨hcache, hforced⟩
    · rw [hserved] at hclosed
      generalize p.store = s at hwrite hcooling hclosed hforward
      generalize p'.store = s' at hwrite hclosed hforward ⊢
      have hpast : ∀ last ∈ s.forced, last ≤ s'.clock :=
        fun last hlast => (hcooling.past last hlast).trans hforward
      cases hwrite with
      | @won owner force now cache hclaim =>
          obtain ⟨hfree, rfl⟩ := KeyCache.claim_eq_some hclaim
          cases force with
          | false => exact ⟨hpast, fun _ _ => Or.inr (Or.inl rfl), hcooling.separated⟩
          | true =>
              refine ⟨?_, fun _ _ => Or.inr (Or.inl rfl), ?_⟩
              · intro last hlast
                rcases List.mem_cons.mp hlast with rfl | hlast
                · exact le_rfl
                · exact hpast last hlast
              · apply hcooling.separated.cons
                intro last hlast
                by_contra hearly
                have hopen := hclosed last hlast (not_le.mp hearly)
                simp only [reopens, hfree, decide_true, Bool.and_true] at hopen
                rcases hcooling.closed last hlast with hover | howner | huntil
                · exact hearly (hover.trans hforward)
                · rw [hopen] at howner
                  cases howner
                · exact hearly (huntil.trans hfree)
      | @published owner certs expiresIn refreshIn now howner =>
          refine ⟨hpast, ?_, hcooling.separated⟩
          intro last hlast
          left
          by_contra hearly
          have hopen := hclosed last hlast (not_le.mp hearly)
          simp [reopens, howner] at hopen
      | @cooled owner now howner =>
          refine ⟨hpast, ?_, hcooling.separated⟩
          intro last hlast
          have hlastPast := hpast last (List.mem_of_mem_head? hlast)
          right
          right
          exact Int.add_le_add_right hlastPast _
    · exact hkept hcache hforced
  · exact hkept (by rw [hsame]) (by rw [hsame])

theorem cooling_run (hstart : PoolInitial KeyStore.Initial start)
    (hrun : Run (PoolStep (keyMachine runtime)) start trace p)
    (hpaced : ∀ move ∈ trace, Paced move) : Cooling p.store := by
  refine @Run.invariant _ _ _ (fun p => Cooling p.store) _ _ _ hrun ?_ ?_
  · obtain ⟨_, _, hforced⟩ := hstart.store
    constructor <;> simp [hforced, Separated]
  · intro move hmem hcooling hstep
    exact hcooling.step hstep (hpaced move hmem)

end Moves

/-- The lease of the row has one holder, and keys change only when the owner in the row writes
what it fetched: a cooldown, a late write and a crash leave them as they are.  Fetches that
unknown keys force are a cooldown apart in every run in which, less than a cooldown after a
forced claim, no owner writes keys and no abandoned lease is taken over by force. -/
theorem google_key_refresh {runtime : GoogleRuntime} {start p : Pool KeyStore Nat KeyOp.Answer}
    {trace : List (Move (Pool KeyStore Nat KeyOp.Answer) (Act Nat KeyOp.Answer))}
    (hstart : PoolInitial KeyStore.Initial start)
    (hrun : Run (PoolStep (keyMachine runtime)) start trace p) :
    (∀ i j, HoldsLease p trace i → HoldsLease p trace j → i = j) ∧
      (∀ move ∈ trace,
        move.dst.store.cache.keysJson ≠ move.src.store.cache.keysJson ∨
          move.dst.store.cache.expiresAtUs ≠ move.src.store.cache.expiresAtUs →
        ∃ owner certs expiresIn refreshIn,
          move.label.served = some (.publish owner certs expiresIn refreshIn) ∧
            move.src.store.cache.refreshOwner = some owner ∧
            ∃ i front rest, trace = front ++ rest ∧ OwnsLease owner (callOf i front)) ∧
      ((∀ move ∈ trace, Paced move) → Separated p.store.forced) := by
  refine ⟨fun i j => holdsLease_unique hstart hrun, ?_, ?_⟩
  · intro move hmem hchanged
    obtain ⟨front, back, htrace⟩ := List.append_of_mem hmem
    rw [htrace] at hrun
    obtain ⟨_, hstep, _⟩ := hrun.around
    obtain ⟨owner, certs, expiresIn, refreshIn, hserved, howner⟩ := keys_changed hstep hchanged
    obtain ⟨i, first, rest, hfront, howns⟩ := run_served keyPrograms hstart hrun hserved
    exact ⟨owner, certs, expiresIn, refreshIn, hserved, howner, i, first, rest ++ move :: back,
      by rw [htrace, hfront, List.append_assoc], howns⟩
  · intro hpaced
    exact (cooling_run hstart hrun hpaced).separated

namespace KeySample

/-- A runtime that tells every key as one text. -/
def runtime : GoogleRuntime := ⟨fun _ => some "pem", id, id⟩

/-- One fetched key, good for an hour. -/
def fetchedKeys : KeyAnswer where
  maxAge := some 3600
  age := some 0
  body := .object [("keys", .array [.object
    [("kid", .text "current"), ("kty", .text "RSA"), ("alg", .text "RS256"), ("use", .text "sig"),
      ("n", .text "AQAB"), ("e", .text "AQAB")]])]

def firstOwner : Token := ⟨"owner-1", Eq.refl true⟩
def secondOwner : Token := ⟨"owner-2", Eq.refl true⟩

def freshOwner (s : KeyStore) : Token := if s.drawn = [] then firstOwner else secondOwner

/-- A database that reads its clock every `tick`, and a provider that answers so. -/
def oracle (fetched : Except KeyFault KeyAnswer) (tick : Us) (s : KeyStore) :
    (o : KeyOp) → Option (o.Answer × KeyStore)
  | .cache => some (.ok (s.cache, s.clock + tick), s.wrote s.cache (s.clock + tick))
  | .randomUUID =>
      if freshOwner s ∈ s.drawn then none
      else some (freshOwner s, { s with drawn := freshOwner s :: s.drawn })
  | .claim owner force =>
      some (.ok (s.claimed owner force (s.clock + tick)).1,
        (s.claimed owner force (s.clock + tick)).2)
  | .fetch => some (fetched, s)
  | .jitter => some (0, s)
  | .publish owner certs expiresIn refreshIn =>
      some (.ok (), s.wrote (s.cache.publish owner certs expiresIn refreshIn (s.clock + tick))
        (s.clock + tick))
  | .cool owner =>
      some (.ok (), s.wrote (s.cache.cool owner (s.clock + tick)) (s.clock + tick))
  | .wait => some ((), s)
  | .verify .. => some (.error .invalid, s)
  | .respond _ => some ((), s)

theorem oracle_serve (fetched : Except KeyFault KeyAnswer) (tick : Us) (s : KeyStore) (o : KeyOp)
    (answer : o.Answer) (s' : KeyStore) (h : oracle fetched tick s o = some (answer, s')) :
    (keyMachine runtime).serve s o answer s' := by
  cases o with
  | randomUUID =>
      obtain ⟨hfresh, h⟩ := Option.ite_none_left_eq_some.mp h
      cases h
      exact ⟨hfresh, rfl⟩
  | cache | claim | publish | cool =>
      cases h
      exact ⟨_, rfl, rfl⟩
  | fetch | jitter | wait | verify | respond =>
      cases h
      exact rfl

def start : KeyStore := ⟨.fresh, 0, [], []⟩

/-- The verification of a token whose header names this key. -/
def verification (kid : String) : KeyProg Unit :=
  GoogleKeys.validateGoogleIdentity runtime "assertion" (some ⟨"RS256", some kid, false⟩)
    "audience" "nonce"

/-- One verification after the other, each by a worker of its own. -/
def verified (fetched : Except KeyFault KeyAnswer) (tick : Us) :
    Pool KeyStore Nat KeyOp.Answer × List (Move (Pool KeyStore Nat KeyOp.Answer)
      (Act Nat KeyOp.Answer)) :=
  let before : Pool KeyStore Nat KeyOp.Answer := Pool.idle start
  let first := before.startAt 0 (verification "invented-1")
  let between := first.play (oracle fetched tick) 0 12
  let second := between.startAt 1 (verification "invented-2")
  (second.play (oracle fetched tick) 1 12,
    (⟨before, .start 0, first⟩ :: first.playMoves (oracle fetched tick) 0 12) ++
      ⟨between, .start 1, second⟩ :: second.playMoves (oracle fetched tick) 1 12)

theorem run_verified (fetched : Except KeyFault KeyAnswer) (tick : Us) :
    Run (PoolStep (keyMachine runtime)) (Pool.idle start) (verified fetched tick).2
      (verified fetched tick).1 := by
  have hprogram : ∀ kid, (keyMachine runtime).program (verification kid) :=
    fun kid => Or.inr ⟨_, _, _, _, rfl⟩
  have hplay := Pool.run_playMoves (oracle_serve fetched tick) 0 12
    ((Pool.idle start).startAt 0 (verification "invented-1"))
  have hfirst := Run.cons (PoolStep.start rfl (hprogram "invented-1")) hplay
  have hplay' := Pool.run_playMoves (oracle_serve fetched tick) 1 12
    ((((Pool.idle start).startAt 0 (verification "invented-1")).play (oracle fetched tick) 0 12).startAt
      1 (verification "invented-2"))
  have hidle := Pool.play_other (oracle fetched tick) (Nat.one_ne_zero) 12
    ((Pool.idle start).startAt 0 (verification "invented-1"))
  exact hfirst.append (Run.cons (PoolStep.start hidle (hprogram "invented-2")) hplay')

end KeySample

/-- Two tokens with unknown keys, and a provider that does not answer. -/
theorem google_key_refresh_cooled :
    (KeySample.verified (.error .unavailable) 30000000).1.store.forced = [210000000, 60000000] ∧
      Separated (KeySample.verified (.error .unavailable) 30000000).1.store.forced := by
  have hstart : PoolInitial KeyStore.Initial
      (Pool.idle KeySample.start : Pool KeyStore Nat KeyOp.Answer) :=
    ⟨⟨rfl, rfl, rfl⟩, fun _ => rfl, rfl, rfl⟩
  have hpaced : ∀ move ∈ (KeySample.verified (.error .unavailable) 30000000).2, Paced move := by
    decide +kernel
  exact ⟨by decide +kernel,
    (google_key_refresh hstart (KeySample.run_verified _ _)).2.2 hpaced⟩

/-- Keys fetched for one invented id leave the row free, and another invented id forces the
next fetch five seconds later. -/
theorem forced_after_success :
    ∃ (start p : Pool KeyStore Nat KeyOp.Answer) (trace : List _),
      PoolInitial KeyStore.Initial start ∧
        Run (PoolStep (keyMachine KeySample.runtime)) start trace p ∧
        p.store.forced = [7000000, 2000000] ∧ ¬ Separated p.store.forced := by
  refine ⟨Pool.idle KeySample.start, (KeySample.verified (.ok KeySample.fetchedKeys) 1000000).1, _,
    ⟨⟨rfl, rfl, rfl⟩, fun _ => rfl, rfl, rfl⟩, KeySample.run_verified _ _, ?_, ?_⟩
  · decide +kernel
  · decide +kernel

end FlickrGroupAddr

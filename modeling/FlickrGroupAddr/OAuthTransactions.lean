import FlickrGroupAddr.FlickrOAuth
import FlickrGroupAddr.Lib.Calls
import FlickrGroupAddr.Lib.Handoff

/-!
# Transactions of the authorization

A transaction owns its slot until it is retired and only moves forward; the callback that
claimed it is the only one to exchange its token and to write the credential it gets.
-/

namespace FlickrGroupAddr

set_option autoImplicit false

open KeyedTable Program Workers Transition Handoff

/-! ## Phases -/

namespace OAuthPhase

/-- The phases in their order; a transaction left for repair stays there. -/
def rank : OAuthPhase → Nat
  | .initializing => 0
  | .ready => 1
  | .exchanging => 2
  | .consumed => 3
  | .retiring => 4
  | .retired => 5
  | .repairRequired => 6

/-- One phase may follow another. -/
def next : OAuthPhase → OAuthPhase → Bool
  | .initializing, .ready | .initializing, .repairRequired => true
  | .ready, .exchanging | .ready, .retiring => true
  | .exchanging, .consumed | .exchanging, .repairRequired => true
  | .consumed, .retiring | .retiring, .retired => true
  | _, _ => false

theorem rank_lt_of_next {before after : OAuthPhase} (h : before.next after = true) :
    before.rank < after.rank := by
  cases before <;> cases after <;> first | exact absurd h (by decide) | decide

/-- The phases that a claim leads to. -/
def claimed (phase : OAuthPhase) : Bool := decide (2 ≤ phase.rank)

end OAuthPhase

/-! ## What a call may ask -/

/-- How far a callback is with the transaction it claimed. -/
inductive OAuthStage where
  | over
  | claimed (id : Token)
  | exchanged (id : Token)
deriving DecidableEq

namespace OAuthStage

/-- The stage after an answer. -/
def next (stage : OAuthStage) : Sigma OAuthOp.Answer → OAuthStage
  | ⟨.claim id _, .ok true⟩ => .claimed id
  | ⟨.accessToken id .., _⟩ => .exchanged id
  | ⟨.writeGrant .., _⟩ => .over
  | _ => stage

/-- The transaction whose token the callback may exchange. -/
def exchanges? : OAuthStage → Option Token
  | .claimed id => some id
  | .exchanged _ | .over => none

/-- The transaction whose credential the callback may write. -/
def grants? : OAuthStage → Option Token
  | .claimed id | .exchanged id => some id
  | .over => none

end OAuthStage

def stageOf (call : Call OAuthOp.Answer) : OAuthStage := call.foldl OAuthStage.next .over

@[simp] theorem stageOf_snoc (call : Call OAuthOp.Answer) (asked : Sigma OAuthOp.Answer) :
    stageOf (call ++ [asked]) = (stageOf call).next asked := by
  simp [stageOf, List.foldl_append]

/-- A token is exchanged after the claim and a credential written after the exchange, by the
call that was told of them; a retirement starts from the phase that was read. -/
def oauthRule (call : Call OAuthOp.Answer) : OAuthOp → Prop
  | .repair _ phase => phase = .initializing ∨ phase = .exchanging
  | .retire id phase _ => ∃ row, ⟨.retirable id, .ok (some row)⟩ ∈ call ∧ row.phase = phase
  | .accessToken id .. => stageOf call = .claimed id
  | .writeGrant id .. => stageOf call = .exchanged id
  | _ => True

section Rules

variable {digest : String → String} {call : Call OAuthOp.Answer}

abbrev OAuthRuns {α : Type} (post : α → Call OAuthOp.Answer → Prop)
    (thrown : OAuthFault → Call OAuthOp.Answer → Prop) (call : Call OAuthOp.Answer)
    (x : OAuthThrows α) : Prop :=
  Runs (callMonitor oauthRule) post thrown call x

/-- The call follows the rule, whatever it ends with. -/
abbrev OAuthRunsOn {α : Type} (call : Call OAuthOp.Answer) (x : OAuthThrows α) : Prop :=
  OAuthRuns (fun _ _ => True) (fun _ _ => True) call x

open FlickrOAuth

theorem observeStagedSlot_runs {slot : Nat} {expected : SlotPayload} (attempts : Nat) :
    OAuthRunsOn call (observeStagedSlot slot expected attempts) := by
  induction attempts generalizing call with
  | zero => trivial
  | succ attempts ih =>
      unfold observeStagedSlot
      rw [OAuthRunsOn, OAuthRuns, runs_bind, runs_rescue, runs_map]
      refine ⟨trivial, ?_⟩
      intro observed
      have hrest : ∀ (found : Option SlotPayload) (later : Call OAuthOp.Answer),
          OAuthRunsOn later (if found = some expected then pure () else do
            if 0 < attempts then drawn (Prog.query OAuthOp.pause) else pure ()
            observeStagedSlot slot expected attempts) := by
        intro found later
        split
        · trivial
        · show Runs _ _ _ _ (ite _ _ _)
          split
          · exact ⟨trivial, fun _ => ih⟩
          · exact ih
      cases observed with
      | error fault => exact hrest none _
      | ok payload => exact hrest (some payload) _

theorem stageRequest_runs {application : OAuthApplication} {state : String}
    {row : OAuthTransaction} : OAuthRunsOn call (stageRequest digest application state row) := by
  unfold stageRequest
  rw [OAuthRunsOn, OAuthRuns, runs_bind]
  refine ⟨trivial, ?_⟩
  intro answer
  cases answer with
  | error fault => trivial
  | ok pair =>
      show Runs _ _ _ _ (_ >>= _)
      rw [runs_bind]
      refine ⟨trivial, ?_⟩
      intro written
      cases written with
      | error fault => trivial
      | ok _ =>
          show Runs _ _ _ _ (_ >>= _)
          rw [runs_bind]
          refine Runs.imp (observeStagedSlot_runs 16) ?_ (fun _ _ => id)
          intro _ later _
          rw [runs_bind]
          refine ⟨trivial, ?_⟩
          intro updated
          cases updated with
          | error fault => trivial
          | ok updated =>
              show Runs _ _ _ _ (ite _ _ _)
              split <;> trivial

theorem startFlickrOAuth_runs {session : SessionAuthority} {revision : Int} :
    OAuthRunsOn call (startFlickrOAuth digest session revision) := by
  unfold startFlickrOAuth
  split
  · trivial
  · rw [OAuthRunsOn, OAuthRuns, runs_bind]
    refine ⟨trivial, ?_⟩
    intro application
    cases application with
    | error fault => trivial
    | ok application =>
        show Runs _ _ _ _ (_ >>= _)
        rw [runs_bind]
        refine ⟨trivial, fun transactionId => ?_⟩
        show Runs _ _ _ _ (_ >>= _)
        rw [runs_bind]
        refine ⟨trivial, fun state => ?_⟩
        show Runs _ _ _ _ (_ >>= _)
        rw [runs_bind]
        refine ⟨trivial, fun generation => ?_⟩
        show Runs _ _ _ _ (_ >>= _)
        rw [runs_bind, runs_rescue]
        refine ⟨trivial, ?_⟩
        intro row
        cases row with
        | error fault => trivial
        | ok row =>
            show Runs _ _ _ _ (rescue _ _)
            rw [runs_rescue]
            refine Runs.imp stageRequest_runs (fun _ _ => id) ?_
            intro fault later _
            rw [runs_bind]
            refine ⟨Or.inl rfl, ?_⟩
            intro repaired
            cases repaired <;> trivial

/-- Only the callback that exchanged the token gets to the write. -/
theorem dispatchLifecycle_runs {id operationId : Token} {candidate : OAuthPair}
    (hstage : stageOf call = .exchanged id) :
    OAuthRunsOn call (FlickrOAuth.dispatchLifecycle id operationId candidate) := by
  unfold FlickrOAuth.dispatchLifecycle
  rw [OAuthRunsOn, OAuthRuns, runs_bind]
  refine ⟨trivial, ?_⟩
  intro found
  cases found with
  | error fault => trivial
  | ok found =>
      cases found with
      | none => trivial
      | some op =>
          show Runs _ _ _ _ (ite _ _ _)
          split
          · trivial
          · split
            · trivial
            · rw [runs_bind, runs_rescue, runs_map]
              refine ⟨trivial, ?_⟩
              intro dispatched
              cases dispatched with
              | error fault => trivial
              | ok _ =>
                  show Runs _ _ _ _ (ite _ _ _)
                  rw [if_pos rfl, runs_rescue, runs_map]
                  refine ⟨?_, ?_⟩
                  · show stageOf _ = _
                    rw [callMonitor, stageOf_snoc, stageOf_snoc, hstage]
                    rfl
                  · intro written
                    cases written with
                    | ok _ => trivial
                    | error fault =>
                        show Runs _ _ _ _ (_ >>= _)
                        rw [runs_bind, runs_rescue]
                        refine ⟨trivial, ?_⟩
                        intro marked
                        cases marked <;> trivial

theorem exchange_runs {row : OAuthTransaction} {pair : OAuthPair} {verifier : String}
    {ownerSub : Option String} (hstage : stageOf call = .claimed row.transactionId) :
    OAuthRunsOn call (exchange row pair verifier ownerSub) := by
  unfold exchange
  rw [OAuthRunsOn, OAuthRuns, runs_bind]
  refine ⟨trivial, ?_⟩
  intro application
  cases application with
  | error fault => trivial
  | ok application =>
  show Runs _ _ _ _ (_ >>= _)
  rw [runs_bind]
  refine ⟨(stageOf_snoc _ _).trans hstage, ?_⟩
  intro candidate
  cases candidate with
  | error fault => trivial
  | ok candidate =>
  show Runs _ _ _ _ (_ >>= _)
  rw [runs_bind]
  refine ⟨trivial, ?_⟩
  intro owner
  cases owner with
  | error fault => trivial
  | ok owner =>
  cases owner with
  | none => trivial
  | some owner =>
  show Runs _ _ _ _ (_ >>= _)
  rw [runs_bind]
  refine ⟨trivial, ?_⟩
  intro verified
  cases verified with
  | error fault => trivial
  | ok _ =>
  show Runs _ _ _ _ (_ >>= _)
  rw [runs_bind]
  refine ⟨trivial, ?_⟩
  intro begun
  cases begun with
  | error fault => trivial
  | ok operationId =>
  show Runs _ _ _ _ (_ >>= _)
  rw [runs_bind]
  refine ⟨trivial, ?_⟩
  intro linked
  cases linked with
  | error fault => trivial
  | ok linked =>
  show Runs _ _ _ _ (_ >>= _)
  rw [runs_bind]
  have hexchanged : stageOf (((((((call ++ [⟨.application, .ok application⟩]) ++
      [⟨.accessToken row.transactionId application pair verifier, .ok candidate⟩]) ++
      [⟨.owner row.userId, .ok (some owner)⟩]) ++
      [⟨.verifyCandidate candidate row.generation owner, .ok ()⟩]) ++
      [⟨.beginLifecycle row.userId row.expectedRevision
        (ownerSub.map fun sub => (row.sessionId, sub)), .ok operationId⟩]) ++
      [⟨.linkOperation row.transactionId operationId, .ok linked⟩])) =
        .exchanged row.transactionId := by
    simp only [stageOf_snoc]
    rfl
  refine Runs.imp (dispatchLifecycle_runs hexchanged) ?_ (fun _ _ h => h)
  intro _ later _
  rw [runs_bind]
  refine ⟨trivial, ?_⟩
  intro activated
  cases activated with
  | error fault => trivial
  | ok activated =>
  show Runs _ _ _ _ (_ >>= _)
  rw [runs_bind]
  refine ⟨trivial, ?_⟩
  intro consumed
  cases consumed <;> trivial

/-- A callback exchanges the token of the transaction it claimed. -/
theorem completeFlickrOAuth_runs {state token verifier : String} {ownerSub : Option String} :
    OAuthRunsOn call (completeFlickrOAuth digest state token verifier ownerSub) := by
  unfold completeFlickrOAuth
  split
  · trivial
  rw [OAuthRunsOn, OAuthRuns, runs_bind]
  refine ⟨trivial, ?_⟩
  intro row
  cases row with
  | error fault => trivial
  | ok row =>
  cases row with
  | none => trivial
  | some row =>
  show Runs _ _ _ _ (_ >>= _)
  rw [runs_bind, runs_rescue]
  refine ⟨trivial, ?_⟩
  intro payload
  cases payload with
  | error fault => trivial
  | ok payload =>
  dsimp only [Follows, ends]
  cases stagedSecret row token payload with
  | none => trivial
  | some tokenSecret =>
  show Runs _ _ _ _ (_ >>= _)
  rw [runs_bind]
  refine ⟨trivial, ?_⟩
  intro claimed
  cases claimed with
  | error fault => trivial
  | ok claimed =>
  cases claimed with
  | false => trivial
  | true =>
      show Runs _ _ _ _ (rescue _ _)
      rw [runs_rescue]
      refine Runs.imp (exchange_runs ?_) (fun _ _ h => h) ?_
      · rw [callMonitor, stageOf_snoc]
        rfl
      · intro fault last _
        rw [runs_bind]
        refine ⟨Or.inr rfl, ?_⟩
        intro repaired
        cases repaired <;> trivial

theorem observeOAuthRetirement_runs {id : Token} :
    OAuthRunsOn call (observeOAuthRetirement id) := by
  unfold observeOAuthRetirement
  rw [OAuthRunsOn, OAuthRuns, runs_bind]
  refine ⟨trivial, ?_⟩
  intro row
  cases row with
  | error fault => trivial
  | ok row =>
  cases row with
  | none => trivial
  | some row =>
  show Runs _ _ _ _ (rescue _ _)
  rw [runs_rescue, runs_bind]
  refine ⟨trivial, ?_⟩
  intro payload
  cases payload with
  | error fault => trivial
  | ok payload =>
      show Runs _ _ _ _ (ite _ _ _)
      split
      · rw [runs_map]
        refine ⟨trivial, ?_⟩
        intro retired
        cases retired <;> trivial
      · trivial

theorem retireOAuthSlot_runs {id : Token} : OAuthRunsOn call (retireOAuthSlot id) := by
  unfold retireOAuthSlot
  rw [OAuthRunsOn, OAuthRuns, runs_bind]
  refine ⟨trivial, ?_⟩
  intro row
  cases row with
  | error fault => trivial
  | ok row =>
  cases row with
  | none => trivial
  | some row =>
  show Runs _ _ _ _ (_ >>= _)
  rw [runs_bind]
  refine ⟨trivial, fun generation => ?_⟩
  show Runs _ _ _ _ (_ >>= _)
  rw [runs_bind]
  refine ⟨⟨row, ?_, rfl⟩, ?_⟩
  · exact List.mem_append_left _ (List.mem_append_right _ (List.mem_singleton_self _))
  · intro claimed
    cases claimed with
    | error fault => trivial
    | ok claimed =>
        cases claimed with
        | false => trivial
        | true =>
            show Runs _ _ _ _ (_ >>= _)
            rw [runs_bind, runs_rescue]
            refine ⟨trivial, ?_⟩
            intro written
            cases written with
            | error fault => exact observeOAuthRetirement_runs
            | ok _ => exact observeOAuthRetirement_runs

theorem maintainAll_runs (transactions : List (Token × OAuthPhase)) :
    OAuthRunsOn call (maintainAll transactions) := by
  induction transactions generalizing call with
  | nil => trivial
  | cons tx rest ih =>
      obtain ⟨id, phase⟩ := tx
      unfold maintainAll
      show Runs _ _ _ _ (ite _ _ _)
      split
      · exact runs_bind.mpr (Runs.imp observeOAuthRetirement_runs (fun _ _ _ => ih) fun _ _ h => h)
      · exact runs_bind.mpr (Runs.imp retireOAuthSlot_runs (fun _ _ _ => ih) fun _ _ h => h)

theorem maintainNativeCredentials_runs : OAuthRunsOn call maintainNativeCredentials := by
  unfold maintainNativeCredentials
  rw [OAuthRunsOn, OAuthRuns, runs_bind]
  refine ⟨trivial, ?_⟩
  intro transactions
  cases transactions with
  | error fault => trivial
  | ok transactions => exact maintainAll_runs transactions

/-- Every program of the machine follows the rule. -/
theorem oauthPrograms (program : Prog OAuthOp.Answer Unit)
    (h : (oauthMachine digest).program program) :
    Follows (callMonitor oauthRule) (fun _ _ => True) [] program := by
  rcases h with ⟨session, revision, rfl⟩ | ⟨state, token, verifier, ownerSub, rfl⟩ | ⟨id, rfl⟩ |
    ⟨id, rfl⟩ | rfl
  · exact follows_bind.mpr (Follows.imp startFlickrOAuth_runs fun _ _ _ => trivial)
  · exact follows_bind.mpr (Follows.imp completeFlickrOAuth_runs fun _ _ _ => trivial)
  · exact follows_bind.mpr (Follows.imp retireOAuthSlot_runs fun _ _ _ => trivial)
  · exact follows_bind.mpr (Follows.imp observeOAuthRetirement_runs fun _ _ _ => trivial)
  · exact follows_bind.mpr (Follows.imp maintainNativeCredentials_runs fun _ _ _ => trivial)

end Rules

/-! ## What an operation does to the transactions -/

/-- The phases that an update leads from and to. -/
def OAuthOp.change : OAuthOp → Option (Token × OAuthPhase × OAuthPhase)
  | .ready id _ => some (id, .initializing, .ready)
  | .repair id phase => some (id, phase, .repairRequired)
  | .claim id _ => some (id, .ready, .exchanging)
  | .linkOperation id _ => some (id, .exchanging, .exchanging)
  | .consume id => some (id, .exchanging, .consumed)
  | .retire id phase _ => some (id, phase, .retiring)
  | .retired id _ => some (id, .retiring, .retired)
  | _ => none

/-- An operation leaves the transactions alone, starts one in a free slot, or changes one. -/
inductive TransactionMove (s : OAuthStore) (o : OAuthOp) (s' : OAuthStore) : Prop
  | kept : s'.transactions = s.transactions → TransactionMove s o s'
  | started {row : OAuthTransaction} :
      s.freeSlot = some row.slot → row.phase = .initializing →
      s.transactions.insert? row = some s'.transactions → TransactionMove s o s'
  | changed {id : Token} {before after : OAuthPhase} {row row' : OAuthTransaction} :
      o.change = some (id, before, after) → s.transactions.find? id = some row →
      row.phase = before → row.mayBecome row' → row'.phase = after →
      (∀ other, s'.transactions.find? other =
        if other = id then some row' else s.transactions.find? other) →
      TransactionMove s o s'

section Moves

variable {s s' : OAuthStore} {o : OAuthOp}

theorem commits_kept {α : Type} {result : Except OAuthFault (α × OAuthStore)}
    {answer : Except OAuthFault α} (h : commits s result answer s')
    (hkept : ∀ value t, result = .ok (value, t) → t.transactions = s.transactions) :
    s'.transactions = s.transactions := by
  rcases h with ⟨value, hresult, _⟩ | ⟨_, _, _, rfl⟩
  · exact hkept value s' hresult
  · rfl

theorem lifecycle_kept {α : Type} {value : α} {flickr : Option FlickrTables} :
    ∀ value' t, lifecycle s value flickr = .ok (value', t) → t.transactions = s.transactions := by
  intro value' t h
  unfold lifecycle at h
  split at h
  · cases h
  · cases h
    rfl

/-- An update that went through found a row in the phase it asks for. -/
theorem update_move {id : Token} {p : OAuthTransaction → Bool}
    {f : OAuthTransaction → OAuthTransaction} {before after : OAuthPhase}
    {answer : Except OAuthFault Bool} (hf : ∀ row, (f row).transactionId = row.transactionId)
    (h : commits s (s.update id p f hf) answer s') (hchange : o.change = some (id, before, after))
    (hphases : ∀ row, s.transactions.find? id = some row → p row = true →
      row.phase = before ∧ (f row).phase = after) : TransactionMove s o s' := by
  rcases h with ⟨value, hresult, _⟩ | ⟨_, _, _, rfl⟩
  · unfold OAuthStore.update at hresult
    split at hresult
    · cases hresult
      exact .kept rfl
    · next row hrow =>
        split at hresult
        · next hp =>
            split at hresult
            · next hmay =>
                cases hresult
                obtain ⟨hbefore, hafter⟩ := hphases row hrow hp
                refine .changed hchange hrow hbefore hmay hafter ?_
                intro other
                dsimp only
                rw [Table.find?_modify]
                split
                · next hid => rw [hid, hrow, Option.map_some]
                · rfl
            · cases hresult
        · cases hresult
          exact .kept rfl
  · exact .kept rfl

theorem start_move {id generation : Token} {stateDigest : String} {session : SessionAuthority}
    {revision : Int} {now : Us} {answer : Except OAuthFault OAuthTransaction}
    (h : commits s (s.start id generation stateDigest session revision now) answer s') :
    TransactionMove s o s' := by
  rcases h with ⟨value, hresult, _⟩ | ⟨_, _, _, rfl⟩
  · unfold OAuthStore.start at hresult
    split at hresult
    · split at hresult
      · cases hresult
      · next slot hslot =>
          dsimp only at hresult
          split at hresult
          · split at hresult
            · cases hresult
            · next hinsert =>
                cases hresult
                exact .started hslot rfl hinsert
          · cases hresult
    · cases hresult
  · exact .kept rfl

/-- Every operation is one of the moves. -/
theorem serveOAuth_move {answer : o.Answer} (h : serveOAuth s o answer s') :
    TransactionMove s o s' := by
  cases o with
  | start id generation stateDigest session revision =>
      obtain ⟨now, h⟩ := h
      exact start_move h
  | ready id tokenDigest =>
      obtain ⟨now, h⟩ := h
      exact update_move _ h rfl fun _ _ hp => ⟨(of_decide_eq_true hp).1, rfl⟩
  | repair id phase =>
      exact update_move _ h rfl fun _ _ hp => ⟨of_decide_eq_true hp, rfl⟩
  | claim id ownerSub =>
      obtain ⟨now, h⟩ := h
      exact update_move _ h rfl fun _ _ hp => ⟨(of_decide_eq_true hp).1, rfl⟩
  | linkOperation id operationId =>
      exact update_move _ h rfl fun _ _ hp => ⟨of_decide_eq_true hp, of_decide_eq_true hp⟩
  | consume id =>
      exact update_move _ h rfl fun _ _ hp => ⟨of_decide_eq_true hp, rfl⟩
  | retire id phase generation =>
      exact update_move _ h rfl fun _ _ hp => ⟨of_decide_eq_true hp, rfl⟩
  | retired id generation =>
      have h : commits s (s.retired id generation) answer s' := h
      unfold OAuthStore.retired at h
      split at h
      · next hguard =>
          obtain ⟨row, hrow, hretiring, _, _⟩ := hguard
          refine update_move _ h rfl ?_
          intro found hfound _
          cases hfound.symm.trans hrow
          exact ⟨hretiring, rfl⟩
      · exact .kept (commits_kept h (by simp))
  | lookup stateDigest tokenDigest =>
      obtain ⟨now, _, rfl⟩ := h
      exact .kept rfl
  | retirable id =>
      obtain ⟨now, _, rfl⟩ := h
      exact .kept rfl
  | retiring id | owner userId | operation operationId =>
      obtain ⟨_, rfl⟩ := h
      exact .kept rfl
  | beginLifecycle userId revision authority =>
      obtain ⟨operationId, generation, now, h⟩ := h
      refine .kept (commits_kept h ?_)
      unfold OAuthStore.beginLifecycle
      split
      · exact lifecycle_kept
      · simp
  | dispatch operationId | markUncertain operationId =>
      exact .kept (commits_kept h lifecycle_kept)
  | reconcile operationId =>
      rcases h with ⟨permission, now, h⟩ | ⟨_, rfl⟩
      · exact .kept (commits_kept h lifecycle_kept)
      · exact .kept rfl
  | maintained =>
      obtain ⟨now, rfl, _⟩ := h
      exact .kept rfl
  | _ =>
      cases h
      exact .kept rfl

/-! ### Slots -/

/-- Transactions that are not retired own distinct slots, out of five. -/
structure OAuthStore.SlotsOwned (s : OAuthStore) : Prop where
  bound : ∀ row ∈ s.transactions, row.slot < 5
  single : ∀ row ∈ s.transactions, ∀ other ∈ s.transactions, row.phase ≠ .retired →
    other.phase ≠ .retired → row.slot = other.slot → row = other

theorem freeSlot_eq_some {slot : Nat} (h : s.freeSlot = some slot) :
    slot < 5 ∧ ∀ row ∈ s.transactions, row.slot = slot → row.phase = .retired := by
  unfold OAuthStore.freeSlot at h
  have hfree := List.find?_some h
  exact ⟨List.mem_range.mp (List.mem_of_find?_eq_some h), of_decide_eq_true hfree⟩

/-- A row after a change is one there was, or the changed one. -/
theorem mem_changed {id : Token} {row' : OAuthTransaction}
    (hchanged : ∀ other, s'.transactions.find? other =
      if other = id then some row' else s.transactions.find? other)
    {found : OAuthTransaction} (hfound : found ∈ s'.transactions) :
    found = row' ∨ found ∈ s.transactions ∧ found.transactionId ≠ id := by
  have hfind := Table.find?_of_mem hfound
  rw [hchanged] at hfind
  split at hfind
  · exact Or.inl (Option.some.inj hfind).symm
  · next hid => exact Or.inr ⟨Table.mem_of_find? hfind, hid⟩

theorem TransactionMove.slotsOwned (h : TransactionMove s o s') (howned : s.SlotsOwned) :
    s'.SlotsOwned := by
  obtain ⟨hbound, hsingle⟩ := howned
  cases h with
  | kept hkept =>
      constructor
      · rw [hkept]
        exact hbound
      · rw [hkept]
        exact hsingle
  | @started row hslot _ hinsert =>
      obtain ⟨hlt, hfree⟩ := freeSlot_eq_some hslot
      constructor
      · intro found hfound
        rcases (Table.mem_insert? hinsert).mp hfound with hold | rfl
        · exact hbound found hold
        · exact hlt
      · intro found hfound other hother hfoundOpen hotherOpen hsame
        rcases (Table.mem_insert? hinsert).mp hfound with hold | rfl
        · rcases (Table.mem_insert? hinsert).mp hother with hold' | rfl
          · exact hsingle found hold other hold' hfoundOpen hotherOpen hsame
          · exact absurd (hfree found hold hsame) hfoundOpen
        · rcases (Table.mem_insert? hinsert).mp hother with hold' | rfl
          · exact absurd (hfree other hold' hsame.symm) hotherOpen
          · rfl
  | @changed id before after row row' _ hrow _ hmay _ hchanged =>
      obtain ⟨hmem, hid⟩ := Table.find?_eq_some.mp hrow
      obtain ⟨_, _, _, _, hslot, _, _, _, _, hretired⟩ := hmay
      have hopen : row'.phase ≠ .retired → row.phase ≠ .retired := mt hretired
      constructor
      · intro found hfound
        rcases mem_changed hchanged hfound with rfl | ⟨hold, _⟩
        · rw [hslot]
          exact hbound row hmem
        · exact hbound found hold
      · intro found hfound other hother hfoundOpen hotherOpen hsame
        rcases mem_changed hchanged hfound with rfl | ⟨hold, hne⟩
        · rcases mem_changed hchanged hother with rfl | ⟨hold', hne'⟩
          · rfl
          · have hone := hsingle row hmem other hold' (hopen hfoundOpen) hotherOpen
              (hslot.symm.trans hsame)
            rw [← hone] at hne'
            exact absurd hid hne'
        · rcases mem_changed hchanged hother with rfl | ⟨hold', hne'⟩
          · have hone := hsingle found hold row hmem hfoundOpen (hopen hotherOpen)
              (hsame.trans hslot)
            rw [hone] at hne
            exact absurd hid hne
          · exact hsingle found hold other hold' hfoundOpen hotherOpen hsame

/-- Five slots, so at most five transactions own one. -/
theorem OAuthStore.SlotsOwned.live_length (h : s.SlotsOwned) (now : Us) :
    (s.live now).length ≤ 5 := by
  have hopen : ∀ row ∈ s.live now, row ∈ s.transactions ∧ row.phase ≠ .retired := by
    intro row hrow
    obtain ⟨hmem, hlive⟩ := List.mem_filter.mp hrow
    obtain ⟨_, hphase⟩ := of_decide_eq_true hlive
    refine ⟨hmem, ?_⟩
    intro hretired
    simp [hretired] at hphase
  have hrows : (s.live now).Nodup := (List.Nodup.of_map _ s.transactions.nodup).filter _
  have hslots : ((s.live now).map OAuthTransaction.slot).Nodup := by
    apply hrows.map_on
    intro row hrow other hother hsame
    obtain ⟨hmem, hphase⟩ := hopen row hrow
    obtain ⟨hmem', hphase'⟩ := hopen other hother
    exact h.single row hmem other hmem' hphase hphase' hsame
  have hsub : (s.live now).map OAuthTransaction.slot ⊆ List.range 5 := by
    intro slot hslot
    obtain ⟨row, hrow, rfl⟩ := List.mem_map.mp hslot
    exact List.mem_range.mpr (h.bound row (hopen row hrow).1)
  have hlength := hslots.length_le_of_subset hsub
  rwa [List.length_map, List.length_range] at hlength

/-! ### Claims -/

/-- The transaction was claimed, or is past where it could be. -/
def OAuthStore.Claimed (s : OAuthStore) (id : Token) : Prop :=
  ∃ row ∈ s.transactions.find? id, row.phase.claimed = true

theorem TransactionMove.claimed (h : TransactionMove s o s') {id : Token} (hclaimed : s.Claimed id) :
    s'.Claimed id := by
  obtain ⟨row, hrow, hphase⟩ := hclaimed
  cases h with
  | kept hkept => exact ⟨row, by rw [hkept]; exact hrow, hphase⟩
  | started _ _ hinsert =>
      refine ⟨row, ?_, hphase⟩
      rw [Table.find?_insert? hinsert]
      split
      · next hid =>
          rw [hid, (Table.insert?_eq_some hinsert).1] at hrow
          cases hrow
      · exact hrow
  | @changed moved before after old new hchange hold hbefore _ hafter hchanged =>
      unfold OAuthStore.Claimed
      rw [hchanged]
      split
      · next hid =>
          rw [hid] at hrow
          cases hold.symm.trans hrow
          refine ⟨new, rfl, ?_⟩
          rw [hafter]
          rw [hbefore] at hphase
          cases o <;> simp only [OAuthOp.change, Option.some.injEq, Prod.mk.injEq,
            reduceCtorEq] at hchange
          all_goals
            obtain ⟨_, rfl, rfl⟩ := hchange
            first | rfl | exact absurd hphase (by decide)
      · exact ⟨row, hrow, hphase⟩

/-- A caller that is told of its claim found the transaction ready. -/
theorem claim_told {id : Token} {ownerSub : Option String}
    (h : serveOAuth s (.claim id ownerSub) (.ok true) s') : ¬ s.Claimed id ∧ s'.Claimed id := by
  obtain ⟨now, h⟩ := h
  rcases h with ⟨value, hresult, hvalue⟩ | ⟨_, _, hanswer, _⟩
  · cases hvalue
    unfold OAuthStore.claim OAuthStore.update at hresult
    split at hresult
    · cases hresult
    · next row hrow =>
        split at hresult
        · next hp =>
            split at hresult
            · cases hresult
              obtain ⟨hready, _⟩ := of_decide_eq_true hp
              constructor
              · rintro ⟨found, hfound, hphase⟩
                cases hfound.symm.trans hrow
                rw [hready] at hphase
                cases hphase
              · refine ⟨{ row with phase := .exchanging }, ?_, rfl⟩
                dsimp only
                rw [Table.find?_modify, if_pos rfl, hrow]
                rfl
            · cases hresult
        · cases hresult
  · cases hanswer

end Moves

/-! ## Runs -/

section Runs

variable {ι : Type} [DecidableEq ι] {digest : String → String}
  {start p : Pool OAuthStore ι OAuthOp.Answer}
  {trace : List (Move (Pool OAuthStore ι OAuthOp.Answer) (Act ι OAuthOp.Answer))}

/-- A retirement starts from a phase that could be retired when it was read. -/
theorem retirable_told {i : ι} {id : Token} {row : OAuthTransaction}
    (hrun : Run (PoolStep (oauthMachine digest)) start trace p)
    (h : ⟨.retirable id, .ok (some row)⟩ ∈ callOf i trace) :
    row.phase = .consumed ∨ row.phase = .ready := by
  obtain ⟨move, hmove, htells⟩ := mem_callOf h
  obtain ⟨front, back, rfl⟩ := List.append_of_mem hmove
  obtain ⟨_, hstep, _⟩ := hrun.around
  obtain ⟨src, label, dst⟩ := move
  dsimp only at hstep htells
  rcases htells with rfl | rfl
  · cases hstep with
    | perform hasks hserve =>
        obtain ⟨now, hanswer, _⟩ := hserve
        have hselected := (Except.ok.inj hanswer).symm
        obtain ⟨_, hretirable⟩ := Option.filter_eq_some_iff.mp hselected
        rcases of_decide_eq_true hretirable with hconsumed | ⟨hready, _⟩
        · exact Or.inl hconsumed
        · exact Or.inr hready
  · cases hstep with
    | lose hasks hlost => cases hlost

/-- What takes effect leaves a phase or follows an edge. -/
theorem change_next {front back : List (Move (Pool OAuthStore ι OAuthOp.Answer)
      (Act ι OAuthOp.Answer))} {move : Move (Pool OAuthStore ι OAuthOp.Answer)
      (Act ι OAuthOp.Answer)} {o : OAuthOp} {id : Token} {before after : OAuthPhase}
    (hstart : PoolInitial OAuthStore.Initial start)
    (hrun : Run (PoolStep (oauthMachine digest)) start (front ++ move :: back) p)
    (hserved : move.label.served = some o) (hchange : o.change = some (id, before, after)) :
    before = after ∨ before.next after = true := by
  obtain ⟨i, first, rest, rfl, hallows⟩ := run_served oauthPrograms hstart hrun hserved
  cases o with
  | repair other phase =>
      cases hchange
      rcases hallows with rfl | rfl
      · exact Or.inr rfl
      · exact Or.inr rfl
  | retire other phase generation =>
      cases hchange
      obtain ⟨row, hmem, rfl⟩ := hallows
      obtain ⟨hfront, _, _⟩ := hrun.around
      obtain ⟨middle, hfirst, _⟩ := hfront.split
      rcases retirable_told hfirst hmem with hphase | hphase
      · rw [hphase]
        exact Or.inr rfl
      · rw [hphase]
        exact Or.inr rfl
  | linkOperation other operationId =>
      cases hchange
      exact Or.inl rfl
  | ready | claim | consume | retired =>
      cases hchange
      exact Or.inr rfl
  | _ => cases hchange

/-- Every step leaves the transactions alone but for one move. -/
theorem poolStep_move {act : Act ι OAuthOp.Answer} {p' : Pool OAuthStore ι OAuthOp.Answer}
    (h : PoolStep (oauthMachine digest) p act p') :
    p'.store.transactions = p.store.transactions ∨
      ∃ o, act.served = some o ∧ TransactionMove p.store o p'.store := by
  cases h with
  | external hexternal => exact Or.inl hexternal
  | perform _ hserve => exact Or.inr ⟨_, rfl, serveOAuth_move hserve⟩
  | late _ hserve => exact Or.inr ⟨_, rfl, serveOAuth_move hserve⟩
  | _ => exact Or.inl rfl

theorem poolStep_slotsOwned {act : Act ι OAuthOp.Answer} {p' : Pool OAuthStore ι OAuthOp.Answer}
    (howned : p.store.SlotsOwned) (h : PoolStep (oauthMachine digest) p act p') :
    p'.store.SlotsOwned := by
  rcases poolStep_move h with hkept | ⟨o, _, hmove⟩
  · exact (TransactionMove.kept (o := .pause) hkept).slotsOwned howned
  · exact hmove.slotsOwned howned

theorem OAuthStore.Initial.slotsOwned {s : OAuthStore} (h : s.Initial) : s.SlotsOwned := by
  constructor
  · intro row hrow
    rw [h] at hrow
    cases hrow
  · intro row hrow
    rw [h] at hrow
    cases hrow

theorem run_slotsOwned (hstart : PoolInitial OAuthStore.Initial start)
    (hrun : Run (PoolStep (oauthMachine digest)) start trace p) : p.store.SlotsOwned := by
  induction hrun with
  | nil => exact hstart.store.slotsOwned
  | snoc _ hlast ih => exact poolStep_slotsOwned ih hlast

/-- A transaction stays, and keeps its phase or takes an edge. -/
def Advances (s s' : OAuthStore) : Prop :=
  ∀ row ∈ s.transactions, ∃ row' ∈ s'.transactions,
    row.mayBecome row' ∧ (row'.phase = row.phase ∨ row.phase.next row'.phase = true)

/-- A transaction that was not there is initializing. -/
def StartsFresh (s s' : OAuthStore) : Prop :=
  ∀ row' ∈ s'.transactions, s.transactions.find? row'.transactionId = none →
    row'.phase = .initializing

theorem OAuthTransaction.mayBecome_refl (row : OAuthTransaction) : row.mayBecome row :=
  ⟨rfl, rfl, rfl, rfl, rfl, rfl, rfl, rfl, fun _ => rfl, id⟩

theorem run_advances (hstart : PoolInitial OAuthStore.Initial start)
    (hrun : Run (PoolStep (oauthMachine digest)) start trace p) :
    ∀ move ∈ trace, Advances move.src.store move.dst.store ∧
      StartsFresh move.src.store move.dst.store := by
  intro move hmem
  obtain ⟨front, back, rfl⟩ := List.append_of_mem hmem
  obtain ⟨_, hstep, _⟩ := hrun.around
  rcases poolStep_move hstep with hkept | ⟨o, hserved, hmove⟩
  · constructor
    · intro row hrow
      exact ⟨row, by rw [hkept]; exact hrow, row.mayBecome_refl, Or.inl rfl⟩
    · intro row' hrow' hnone
      rw [hkept] at hrow'
      cases hnone.symm.trans (Table.find?_of_mem hrow')
  · cases hmove with
    | kept hkept =>
        constructor
        · intro row hrow
          exact ⟨row, by rw [hkept]; exact hrow, row.mayBecome_refl, Or.inl rfl⟩
        · intro row' hrow' hnone
          rw [hkept] at hrow'
          cases hnone.symm.trans (Table.find?_of_mem hrow')
    | started _ hinitializing hinsert =>
        constructor
        · intro row hrow
          exact ⟨row, (Table.mem_insert? hinsert).mpr (Or.inl hrow), row.mayBecome_refl,
            Or.inl rfl⟩
        · intro row' hrow' hnone
          rcases (Table.mem_insert? hinsert).mp hrow' with hold | rfl
          · cases hnone.symm.trans (Table.find?_of_mem hold)
          · exact hinitializing
    | @changed id before after old new hchange hold hbefore hmay hafter hchanged =>
        have hnext := change_next hstart hrun hserved hchange
        constructor
        · intro row hrow
          by_cases hid : row.transactionId = id
          · cases (Table.find?_of_mem hrow).symm.trans (hid ▸ hold)
            refine ⟨new, Table.mem_of_find? (k := id) ?_, hmay, ?_⟩
            · rw [hchanged, if_pos rfl]
            · rw [hafter, hbefore]
              exact hnext.imp Eq.symm fun h => h
          · refine ⟨row, Table.mem_of_find? (k := row.transactionId) ?_, row.mayBecome_refl,
              Or.inl rfl⟩
            rw [hchanged, if_neg hid]
            exact Table.find?_of_mem hrow
        · intro row' hrow' hnone
          have hfind := Table.find?_of_mem hrow'
          rw [hchanged] at hfind
          split at hfind
          · next hid =>
              rw [hid, hold] at hnone
              cases hnone
          · cases hnone.symm.trans hfind

/-- A transaction only gets to a later phase. -/
def Forward (s s' : OAuthStore) : Prop :=
  ∀ row ∈ s.transactions, ∃ row' ∈ s'.transactions,
    row.mayBecome row' ∧ row.phase.rank ≤ row'.phase.rank

theorem Advances.forward {s s' : OAuthStore} (h : Advances s s') : Forward s s' := by
  intro row hrow
  obtain ⟨row', hrow', hmay, hphase⟩ := h row hrow
  refine ⟨row', hrow', hmay, ?_⟩
  rcases hphase with hsame | hnext
  · exact Nat.le_of_eq (congrArg OAuthPhase.rank hsame.symm)
  · exact Nat.le_of_lt (OAuthPhase.rank_lt_of_next hnext)

theorem OAuthTransaction.mayBecome_trans {a b c : OAuthTransaction} (h : a.mayBecome b)
    (h' : b.mayBecome c) : a.mayBecome c := by
  obtain ⟨h₁, h₂, h₃, h₄, h₅, h₆, h₇, h₈, hdigest, hretired⟩ := h
  obtain ⟨h₁', h₂', h₃', h₄', h₅', h₆', h₇', h₈', hdigest', hretired'⟩ := h'
  refine ⟨h₁'.trans h₁, h₂'.trans h₂, h₃'.trans h₃, h₄'.trans h₄, h₅'.trans h₅, h₆'.trans h₆,
    h₇'.trans h₇, h₈'.trans h₈, ?_, fun h => hretired' (hretired h)⟩
  intro hsome
  have hkept := hdigest hsome
  rw [← hkept] at hsome
  exact (hdigest' hsome).trans hkept

instance : IsPreorder OAuthStore Forward where
  refl _ := fun row hrow => ⟨row, hrow, row.mayBecome_refl, Nat.le_refl _⟩
  trans _ _ _ h h' := by
    intro row hrow
    obtain ⟨middle, hmiddle, hmay, hrank⟩ := h row hrow
    obtain ⟨last, hlast, hmay', hrank'⟩ := h' middle hmiddle
    exact ⟨last, hlast, OAuthTransaction.mayBecome_trans hmay hmay', Nat.le_trans hrank hrank'⟩

instance : IsPreorder (Pool OAuthStore ι OAuthOp.Answer) fun q p => Forward q.store p.store where
  refl q := refl_of Forward q.store
  trans _ _ _ h h' := trans_of Forward h h'

/-- From every state of a run on, each transaction only gets to later phases. -/
theorem run_forward (hstart : PoolInitial OAuthStore.Initial start)
    (hrun : Run (PoolStep (oauthMachine digest)) start trace p) :
    ∀ q ∈ visited start trace, Forward q.store p.store := by
  intro q hq
  refine @Run.visited_relates _ _ _ (fun q p => Forward q.store p.store) _ _ _ _ _ hrun ?_ hq
  intro move hmove
  exact (run_advances hstart hrun move hmove).1.forward

end Runs

/-! ## The callback that claimed a transaction -/

/-- The transaction whose token an operation exchanges. -/
def OAuthOp.exchanges? : OAuthOp → Option Token
  | .accessToken id .. => some id
  | _ => none

/-- The transaction whose credential an operation writes. -/
def OAuthOp.grants? : OAuthOp → Option Token
  | .writeGrant id .. => some id
  | _ => none

/-- What was handed off, newest first. -/
def handedOff {ι : Type} (handed? : OAuthOp → Option Token)
    (log : List (Entry ι OAuthOp.Answer)) : List Token :=
  log.filterMap fun entry => handed? entry.op

/-- A key that a claim gives a callback and that handing off takes from it. -/
structure HandsOff (held? : OAuthStage → Option Token) (handed? : OAuthOp → Option Token) :
    Prop where
  free : held? .over = none
  taken : ∀ id, held? (.claimed id) = some id
  claims : ∀ id ownerSub, handed? (.claim id ownerSub) = none
  quiet : ∀ call o answer, oauthRule call o → handed? o = none →
    (∀ id ownerSub, (⟨o, answer⟩ : Sigma OAuthOp.Answer) ≠ ⟨.claim id ownerSub, .ok true⟩) →
    ∀ k, held? ((stageOf call).next ⟨o, answer⟩) = some k → held? (stageOf call) = some k
  handed : ∀ call o answer k, oauthRule call o → handed? o = some k →
    held? (stageOf call) = some k ∧ held? ((stageOf call).next ⟨o, answer⟩) = none

theorem OAuthStage.next_quiet {stage : OAuthStage} {o : OAuthOp} {answer : o.Answer}
    (hclaim : ∀ id ownerSub,
      (⟨o, answer⟩ : Sigma OAuthOp.Answer) ≠ ⟨.claim id ownerSub, .ok true⟩)
    (hexchange : o.exchanges? = none) (hgrant : o.grants? = none) :
    stage.next ⟨o, answer⟩ = stage := by
  cases o with
  | claim id ownerSub =>
      cases answer with
      | error fault => rfl
      | ok claimed =>
          cases claimed with
          | false => rfl
          | true => exact absurd rfl (hclaim id ownerSub)
  | accessToken => cases hexchange
  | writeGrant => cases hgrant
  | _ => rfl

theorem exchanges_handsOff : HandsOff OAuthStage.exchanges? OAuthOp.exchanges? where
  free := rfl
  taken _ := rfl
  claims _ _ := rfl
  quiet call o answer _ hnone hclaim k hheld := by
    cases hgrant : o.grants? with
    | none => rwa [OAuthStage.next_quiet hclaim hnone hgrant] at hheld
    | some id =>
        cases o <;> cases hgrant
        cases hheld
  handed call o answer k hrule hsome := by
    cases o <;> cases hsome
    have hstage : stageOf call = .claimed k := hrule
    exact ⟨by rw [hstage]; rfl, rfl⟩

theorem grants_handsOff : HandsOff OAuthStage.grants? OAuthOp.grants? where
  free := rfl
  taken _ := rfl
  claims _ _ := rfl
  quiet call o answer hrule hnone hclaim k hheld := by
    cases hexchange : o.exchanges? with
    | none => rwa [OAuthStage.next_quiet hclaim hexchange hnone] at hheld
    | some id =>
        cases o <;> cases hexchange
        have hstage : stageOf call = .claimed id := hrule
        rw [hstage]
        exact hheld
  handed call o answer k hrule hsome := by
    cases o <;> cases hsome
    have hstage : stageOf call = .exchanged k := hrule
    exact ⟨by rw [hstage]; rfl, rfl⟩

section Watches

variable {ι : Type} [DecidableEq ι] {digest : String → String}
  {held? : OAuthStage → Option Token} {handed? : OAuthOp → Option Token}

/-- Only who holds a transaction hands it off, and that once. -/
def HeldOnce (held? : OAuthStage → Option Token) (handed? : OAuthOp → Option Token)
    (w : Watch OAuthStore ι (Call OAuthOp.Answer) OAuthOp.Answer) : Prop :=
  Handoff.Once (fun call => held? (stageOf call)) w.store.Claimed w.seen
    (handedOff handed? w.log)

theorem claimed_of_kept {s s' : OAuthStore} (h : s'.transactions = s.transactions) (id : Token)
    (hclaimed : s.Claimed id) : s'.Claimed id :=
  (TransactionMove.kept (o := .pause) h).claimed hclaimed

/-- A worker saw an answer that does not tell it of a claim. -/
theorem HandsOff.answered (hands : HandsOff held? handed?)
    {w : Watch OAuthStore ι (Call OAuthOp.Answer) OAuthOp.Answer} {i : ι} {o : OAuthOp}
    {answer : o.Answer} {marked : Token → Prop} (hw : HeldOnce held? handed? w)
    (hallows : oauthRule (w.seen i) o) (hmarked : ∀ id, w.store.Claimed id → marked id)
    (hclaim : ∀ id ownerSub,
      (⟨o, answer⟩ : Sigma OAuthOp.Answer) ≠ ⟨.claim id ownerSub, .ok true⟩) :
    Handoff.Once (fun call => held? (stageOf call)) marked
      (Function.update w.seen i (w.seen i ++ [⟨o, answer⟩]))
      (handedOff handed? (⟨i, o, answer⟩ :: w.log)) := by
  have hmono := Handoff.Once.mono hw hmarked
  cases hsome : handed? o with
  | none =>
      simp only [handedOff, List.filterMap_cons, hsome]
      apply hmono.move
      intro k hk
      rw [stageOf_snoc] at hk
      exact hands.quiet _ _ _ hallows hsome hclaim k hk
  | some k =>
      obtain ⟨hheld, hnone⟩ := hands.handed _ o answer k hallows hsome
      simp only [handedOff, List.filterMap_cons, hsome]
      apply hmono.handOff hheld
      rw [stageOf_snoc]
      exact hnone

theorem HandsOff.step (hands : HandsOff held? handed?)
    {w w' : Watch OAuthStore ι (Call OAuthOp.Answer) OAuthOp.Answer} {act : Act ι OAuthOp.Answer}
    (hw : HeldOnce held? handed? w)
    (hstep : WatchStep (oauthMachine digest) (callMonitor oauthRule) [] w act w') :
    HeldOnce held? handed? w' := by
  cases hstep with
  | external hexternal => exact Handoff.Once.mono hw (claimed_of_kept hexternal)
  | start => exact Handoff.Once.drop hw hands.free
  | crash => exact Handoff.Once.drop hw hands.free
  | late _ hserve =>
      exact Handoff.Once.mono hw fun id => (serveOAuth_move hserve).claimed
  | @lose i o answer hallows hlost =>
      refine hands.answered hw hallows (fun _ h => h) ?_
      rintro id ownerSub htold
      cases htold
      cases hlost
  | @perform i o answer store hallows hserve =>
      have hkept : ∀ id, w.store.Claimed id → store.Claimed id :=
        fun id => (serveOAuth_move hserve).claimed
      by_cases hclaim : ∃ id ownerSub,
          (⟨o, answer⟩ : Sigma OAuthOp.Answer) = ⟨.claim id ownerSub, .ok true⟩
      · obtain ⟨id, ownerSub, htold⟩ := hclaim
        cases htold
        obtain ⟨hfree, hmarked⟩ := claim_told hserve
        have htaken : held? (stageOf (w.seen i ++ [⟨.claim id ownerSub, .ok true⟩])) = some id := by
          rw [stageOf_snoc]
          exact hands.taken id
        show Handoff.Once _ _ _ (handedOff _ _)
        simp only [handedOff, List.filterMap_cons, hands.claims]
        exact Handoff.Once.take hw hfree hkept hmarked htaken
      · simp only [not_exists] at hclaim
        exact hands.answered hw hallows hkept hclaim

/-- No run hands a transaction off twice. -/
theorem HandsOff.nodup (hands : HandsOff held? handed?) {p : Pool OAuthStore ι OAuthOp.Answer}
    (h : Reachable (PoolStep (oauthMachine digest)) (PoolInitial OAuthStore.Initial) p) :
    (handedOff handed? p.log).Nodup := by
  obtain ⟨w, hw, hwatches⟩ := watched oauthPrograms h
  have honce : HeldOnce held? handed? w := by
    refine hw.invariant ?_ ?_
    · intro first hfirst
      unfold HeldOnce
      rw [hfirst.log]
      apply Handoff.Once.initially
      intro i
      rw [hfirst.seen i]
      exact hands.free
    · intro before act after hbefore hstep
      exact hands.step hbefore hstep
  rw [← hwatches.log]
  exact honce.nodup

end Watches

/-- Whatever starts, calls back, expires or is cleaned up in whatever order, at most five
transactions are live and those not retired own distinct slots; every transaction keeps what
it was started with and only takes an edge to its next phase; its token is exchanged at most
once, and at most one credential is written for it. -/
theorem oauth_transactions {ι : Type} [DecidableEq ι] {digest : String → String}
    {start p : Pool OAuthStore ι OAuthOp.Answer}
    {trace : List (Move (Pool OAuthStore ι OAuthOp.Answer) (Act ι OAuthOp.Answer))}
    (hstart : PoolInitial OAuthStore.Initial start)
    (hrun : Run (PoolStep (oauthMachine digest)) start trace p) :
    (∀ q ∈ visited start trace, (∀ now, (q.store.live now).length ≤ 5) ∧
      q.store.SlotsOwned ∧ Forward q.store p.store) ∧
    (∀ move ∈ trace, Advances move.src.store move.dst.store ∧
      StartsFresh move.src.store move.dst.store) ∧
    (handedOff OAuthOp.exchanges? p.log).Nodup ∧ (handedOff OAuthOp.grants? p.log).Nodup := by
  have hreach : Reachable (PoolStep (oauthMachine digest)) (PoolInitial OAuthStore.Initial) p :=
    ⟨start, trace, hstart, hrun⟩
  refine ⟨?_, run_advances hstart hrun, exchanges_handsOff.nodup hreach,
    grants_handsOff.nodup hreach⟩
  intro q hq
  obtain ⟨⟨front, hfront⟩, _⟩ := hrun.mem_visited hq
  have howned := run_slotsOwned hstart hfront
  exact ⟨howned.live_length, howned, run_forward hstart hrun q hq⟩

namespace OAuthSample

def user : Token := ⟨"user-1", Eq.refl true⟩
def session : Token := ⟨"session-1", Eq.refl true⟩
def transaction : Token := ⟨"transaction-1", Eq.refl true⟩

/-- One user who is signed in, with an account that was never connected. -/
def store : OAuthStore where
  transactions := .empty
  sessions :=
    { users := [user]
      principals := ⟨[⟨user, "sub-1", 1⟩], by decide⟩
      sessions := ⟨[⟨session, "digest", user, "csrf", 0, 0, none, 1, session⟩], by decide⟩
      logins := .empty
      seeds := ⟨[], [], [], false⟩
      drawn := [] }
  flickr :=
    { links := ⟨[⟨user, "owner", 1, .paused⟩], by decide⟩
      connections := ⟨[⟨user, .unlinked, .absent, none, false, none⟩], by decide⟩
      credentials := .empty
      operations := .empty
      bindings := .empty
      gates := .empty
      gateEvents := []
      conformance := .empty }

def committed {α : Type} (s : OAuthStore) :
    Except OAuthFault (α × OAuthStore) → Option (Except OAuthFault α × OAuthStore)
  | .ok (value, s') => some (.ok value, s')
  | .error fault => some (.error fault, s)

theorem commits_committed {α : Type} {s s' : OAuthStore}
    {result : Except OAuthFault (α × OAuthStore)} {answer : Except OAuthFault α}
    (h : committed s result = some (answer, s')) : commits s result answer s' := by
  cases result with
  | ok value =>
      cases h
      exact Or.inl ⟨_, rfl, rfl⟩
  | error fault =>
      cases h
      exact Or.inr ⟨fault, rfl, rfl, rfl⟩

/-- What the slot of a transaction holds. -/
def payload (s : OAuthStore) (slot : Nat) : SlotPayload :=
  match s.transactions.rows.find? fun row => decide (row.slot = slot) with
  | none => .other
  | some row =>
      match row.retirementGeneration with
      | none => .staged row.generation.text row.transactionId.text "token" (some "secret")
      | some generation => .retirement generation.text

/-- A database whose clock stands still, and a Flickr that answers every request. -/
def oracle (s : OAuthStore) : (o : OAuthOp) → Option (o.Answer × OAuthStore)
  | .application => some (.ok ⟨"key", "secret"⟩, s)
  | .randomUUID => some (transaction, s)
  | .randomToken => some ("AAAAAAAAAAAAAAAAAAAAAAAAAAAAAAAAAAAAAAAAAAA", s)
  | .start id generation stateDigest session revision =>
      committed s (s.start id generation stateDigest session revision 0)
  | .requestToken .. => some (.ok ⟨"token", "secret"⟩, s)
  | .writeSlot .. => some (.ok (), s)
  | .readSlot slot => some (.ok (payload s slot), s)
  | .pause => some ((), s)
  | .ready id tokenDigest => committed s (s.ready id tokenDigest 0)
  | .repair id phase => committed s (s.repair id phase)
  | .lookup stateDigest tokenDigest => some (.ok (s.lookup stateDigest tokenDigest 0), s)
  | .claim id ownerSub => committed s (s.claim id ownerSub 0)
  | .accessToken .. => some (.ok ⟨"granted", "secret"⟩, s)
  | .owner userId => some (.ok ((s.flickr.links.find? userId).map FlickrLink.ownerNsid), s)
  | .verifyCandidate .. => some (.ok (), s)
  | .beginLifecycle userId revision authority =>
      committed s (s.beginLifecycle userId revision authority transaction transaction 0)
  | .linkOperation id operationId => committed s (s.linkOperation id operationId)
  | .operation operationId => some (.ok (s.flickr.operations.find? operationId), s)
  | .dispatch operationId => committed s (lifecycle s () (s.flickr.dispatchLifecycle operationId))
  | .writeGrant .. => some (.ok (), s)
  | .markUncertain operationId =>
      committed s (lifecycle s () (s.flickr.markUncertain operationId))
  | .reconcile operationId =>
      committed s (lifecycle s true (s.flickr.reconcileLifecycle operationId .write 0))
  | .consume id => committed s (s.consume id)
  | .retirable id => some (.ok (s.selected id (OAuthStore.retirable 0)), s)
  | .retire id phase generation => committed s (s.retire id phase generation)
  | .retiring id => some (.ok (s.selected id fun row => decide (row.phase = .retiring)), s)
  | .retired id generation => committed s (s.retired id generation)
  | .maintained => some (.ok [], s)

theorem oracle_serve (s : OAuthStore) (o : OAuthOp) (answer : o.Answer) (s' : OAuthStore)
    (h : oracle s o = some (answer, s')) : (oauthMachine id).serve s o answer s' := by
  cases o with
  | start | ready | claim => exact ⟨0, commits_committed h⟩
  | repair | linkOperation | consume | retire | retired | dispatch | markUncertain =>
      exact commits_committed h
  | beginLifecycle => exact ⟨transaction, transaction, 0, commits_committed h⟩
  | reconcile => exact Or.inl ⟨.write, 0, commits_committed h⟩
  | lookup | retirable =>
      cases h
      exact ⟨0, rfl, rfl⟩
  | retiring | owner | operation =>
      cases h
      exact ⟨rfl, rfl⟩
  | maintained =>
      cases h
      exact ⟨0, rfl, [], rfl, fun _ h => absurd h List.not_mem_nil⟩
  | _ =>
      cases h
      exact rfl

/-- The start of an authorization, its callback, and the retirement of its slot. -/
def starting : Prog OAuthOp.Answer Unit := do
  discard (FlickrOAuth.startFlickrOAuth id ⟨session, user⟩ 1).run

def callback : Prog OAuthOp.Answer Unit := do
  discard (FlickrOAuth.completeFlickrOAuth id "AAAAAAAAAAAAAAAAAAAAAAAAAAAAAAAAAAAAAAAAAAA" "token"
    "verifier" (some "sub-1")).run

def retirement : Prog OAuthOp.Answer Unit := do
  discard (FlickrOAuth.retireOAuthSlot transaction).run

/-- One authorization, whose callback comes twice, and the cleanup. -/
def served : Pool OAuthStore Nat OAuthOp.Answer :=
  (Pool.idle store).playAll oracle 0 20 [starting, callback, callback, retirement]

theorem run_served :
    ∃ trace, Run (PoolStep (oauthMachine id)) (Pool.idle store) trace served := by
  refine Pool.run_playAll oracle_serve 0 20 ?_ (Pool.idle store)
  intro program hprogram
  simp only [List.mem_cons, List.not_mem_nil, or_false] at hprogram
  rcases hprogram with rfl | rfl | rfl | rfl
  · exact Or.inl ⟨_, _, rfl⟩
  · exact Or.inr (Or.inl ⟨_, _, _, _, rfl⟩)
  · exact Or.inr (Or.inl ⟨_, _, _, _, rfl⟩)
  · exact Or.inr (Or.inr (Or.inl ⟨_, rfl⟩))

end OAuthSample

/-- The second callback finds the transaction consumed: one exchange and one credential. -/
theorem oauth_transactions_sample :
    handedOff OAuthOp.exchanges? OAuthSample.served.log = [OAuthSample.transaction] ∧
      handedOff OAuthOp.grants? OAuthSample.served.log = [OAuthSample.transaction] ∧
      (OAuthSample.served.store.live 0).length ≤ 5 ∧
      Forward OAuthSample.store OAuthSample.served.store := by
  have hstart : PoolInitial OAuthStore.Initial
      (Pool.idle OAuthSample.store : Pool OAuthStore Nat OAuthOp.Answer) :=
    ⟨rfl, fun _ => rfl, rfl, rfl⟩
  obtain ⟨trace, hrun⟩ := OAuthSample.run_served
  obtain ⟨hvisited, _⟩ := oauth_transactions hstart hrun
  have hfirst := hvisited (Pool.idle OAuthSample.store) List.mem_cons_self
  refine ⟨by decide +kernel, by decide +kernel, by decide +kernel, hfirst.2.2⟩

end FlickrGroupAddr

import FlickrGroupAddr.NativeLifecycle
import FlickrGroupAddr.BrowserSessions
import FlickrGroupAddr.Lib.Workers

/-!
# Authorizing the Flickr account

The transactions of `flickr_oauth.ts` (`0008_flickr_oauth.sql`).  A transaction owns one of
five secret slots until it is retired; a callback claims it once before it exchanges the
request token, and gives the new credential to the lifecycle.  Flickr and the secret store
answer anything.
-/

namespace FlickrGroupAddr

set_option autoImplicit false

open KeyedTable Program Workers

/-! ## Transactions -/

inductive OAuthPhase where
  | initializing
  | ready
  | exchanging
  | consumed
  | repairRequired
  | retiring
  | retired
deriving DecidableEq

/-- `flickr_oauth_transactions`. -/
structure OAuthTransaction where
  transactionId : Token
  userId : Token
  sessionId : Token
  stateDigest : String
  requestTokenDigest : Option String
  slot : Nat
  generation : Token
  expectedRevision : Int
  phase : OAuthPhase
  createdAtUs : Us
  operationId : Option Token
  retirementGeneration : Option Token
deriving DecidableEq

/-- The expiry that the `CHECK` ties to the creation. -/
def OAuthTransaction.expiresAtUs (row : OAuthTransaction) : Us := row.createdAtUs + 300000000

/-- Neither expired nor finished. -/
def OAuthTransaction.live (now : Us) (row : OAuthTransaction) : Bool :=
  decide (now < row.expiresAtUs ∧ row.phase ∉ [OAuthPhase.consumed, .retiring, .retired])

/-- `oauth_immutable`. -/
def OAuthTransaction.mayBecome (old new : OAuthTransaction) : Prop :=
  new.transactionId = old.transactionId ∧ new.userId = old.userId ∧
    new.sessionId = old.sessionId ∧ new.stateDigest = old.stateDigest ∧ new.slot = old.slot ∧
    new.generation = old.generation ∧ new.expectedRevision = old.expectedRevision ∧
    new.createdAtUs = old.createdAtUs ∧
    (old.requestTokenDigest ≠ none → new.requestTokenDigest = old.requestTokenDigest) ∧
    (old.phase = .retired → new.phase = .retired)

instance (old new : OAuthTransaction) : Decidable (old.mayBecome new) :=
  inferInstanceAs (Decidable (_ ∧ _ ∧ _ ∧ _ ∧ _ ∧ _ ∧ _ ∧ _ ∧ _ ∧ _))

/-- Why a step throws. -/
inductive OAuthFault where
  | failed
  | staleConnection
  | startUnavailable
  | stagingUnconfirmed
deriving DecidableEq

/-- The tables the steps read and write. -/
structure OAuthStore where
  transactions : Table OAuthTransaction.transactionId
  sessions : SessionDb
  flickr : FlickrTables

namespace OAuthStore

/-! ## Statements -/

/-- The transactions of which `OAuthTransaction.live` holds. -/
def live (s : OAuthStore) (now : Us) : List OAuthTransaction :=
  s.transactions.rows.filter (OAuthTransaction.live now)

/-- The guard of a start, but for the number of transactions. -/
def startApproved (s : OAuthStore) (session : SessionAuthority) (revision : Int) (now : Us) :
    Prop :=
  (∃ row ∈ s.sessions.sessions.find? session.sessionId, row.userId = session.userId ∧
    row.active now = true) ∧
  (∃ link ∈ s.flickr.links.find? session.userId, (link.linkRevision : Int) = revision) ∧
  ∃ connection ∈ s.flickr.connections.find? session.userId, connection.operationId = none ∧
    connection.state ∉ [ConnectionStatus.replacing, .repairRequired, .disconnecting]

instance (s : OAuthStore) (session : SessionAuthority) (revision : Int) (now : Us) :
    Decidable (s.startApproved session revision now) :=
  inferInstanceAs (Decidable ((∃ row ∈ s.sessions.sessions.find? session.sessionId, _ ∧ _) ∧
    (∃ link ∈ s.flickr.links.find? session.userId, _) ∧
    ∃ connection ∈ s.flickr.connections.find? session.userId, _ ∧ _))

/-- The first slot that no transaction owns. -/
def freeSlot (s : OAuthStore) : Option Nat :=
  (List.range 5).find? fun slot =>
    decide (∀ row ∈ s.transactions, row.slot = slot → row.phase = .retired)

/-- The batch of `startFlickrOAuth`, with the constraints of its insert. -/
def start (s : OAuthStore) (id generation : Token) (stateDigest : String)
    (session : SessionAuthority) (revision : Int) (now : Us) :
    Except OAuthFault (OAuthTransaction × OAuthStore) :=
  if s.startApproved session revision now ∧ (s.live now).length < 5 then
    match s.freeSlot with
    | none => .error .failed
    | some slot =>
        let row : OAuthTransaction :=
          { transactionId := id
            userId := session.userId
            sessionId := session.sessionId
            stateDigest := stateDigest
            requestTokenDigest := none
            slot := slot
            generation := generation
            expectedRevision := revision
            phase := .initializing
            createdAtUs := now
            operationId := none
            retirementGeneration := none }
        if ∀ other ∈ s.transactions, other.stateDigest ≠ stateDigest ∧
            other.generation ≠ generation ∧ (other.slot = slot → other.phase = .retired) then
          match s.transactions.insert? row with
          | none => .error .failed
          | some transactions => .ok (row, { s with transactions := transactions })
        else .error .failed
  else .error .failed

/-- `UPDATE flickr_oauth_transactions SET … WHERE transaction_id=… AND …`, and whether a row
was there. -/
def update (s : OAuthStore) (id : Token) (p : OAuthTransaction → Bool)
    (f : OAuthTransaction → OAuthTransaction)
    (hf : ∀ row, (f row).transactionId = row.transactionId := by intro _; rfl) :
    Except OAuthFault (Bool × OAuthStore) :=
  match s.transactions.find? id with
  | none => .ok (false, s)
  | some row =>
      if p row = true then
        if row.mayBecome (f row) then
          .ok (true, { s with transactions := s.transactions.modify id f hf })
        else .error .failed
      else .ok (false, s)

/-- The payload was staged: `initializing` to `ready`. -/
def ready (s : OAuthStore) (id : Token) (tokenDigest : String) (now : Us) :
    Except OAuthFault (Bool × OAuthStore) :=
  s.update id (fun row => decide (row.phase = .initializing ∧ now < row.expiresAtUs))
    fun row => { row with phase := .ready, requestTokenDigest := some tokenDigest }

/-- The failed start or exchange is left for repair. -/
def repair (s : OAuthStore) (id : Token) (phase : OAuthPhase) :
    Except OAuthFault (Bool × OAuthStore) :=
  s.update id (fun row => decide (row.phase = phase)) fun row =>
    { row with phase := .repairRequired }

/-- The session of a transaction is active, and its principal the owner if one is named. -/
def sessionHolds (s : OAuthStore) (sessionId : Token) (ownerSub : Option String) (now : Us) :
    Prop :=
  ∃ row ∈ s.sessions.sessions.find? sessionId, row.active now = true ∧
    ∃ principal ∈ s.sessions.principals.find? row.userId,
      ∀ sub ∈ ownerSub, principal.googleSub = sub

instance (s : OAuthStore) (sessionId : Token) (ownerSub : Option String) (now : Us) :
    Decidable (s.sessionHolds sessionId ownerSub now) :=
  inferInstanceAs (Decidable (∃ row ∈ s.sessions.sessions.find? sessionId, _ ∧
    ∃ principal ∈ s.sessions.principals.find? row.userId, ∀ sub ∈ ownerSub, _))

/-- The claim of a callback: `ready` to `exchanging`. -/
def claim (s : OAuthStore) (id : Token) (ownerSub : Option String) (now : Us) :
    Except OAuthFault (Bool × OAuthStore) :=
  s.update id
    (fun row => decide (row.phase = .ready ∧ now < row.expiresAtUs ∧
      s.sessionHolds row.sessionId ownerSub now))
    fun row => { row with phase := .exchanging }

/-- The operation of a claimed transaction. -/
def linkOperation (s : OAuthStore) (id operationId : Token) :
    Except OAuthFault (Bool × OAuthStore) :=
  s.update id (fun row => decide (row.phase = .exchanging)) fun row =>
    { row with operationId := some operationId }

/-- The exchange is over: `exchanging` to `consumed`. -/
def consume (s : OAuthStore) (id : Token) : Except OAuthFault (Bool × OAuthStore) :=
  s.update id (fun row => decide (row.phase = .exchanging)) fun row =>
    { row with phase := .consumed }

/-- What `retireOAuthSlot` may retire. -/
def retirable (now : Us) (row : OAuthTransaction) : Bool :=
  decide (row.phase = .consumed ∨ row.phase = .ready ∧ row.expiresAtUs ≤ now)

/-- The claim of a retirement, from the phase it was read in. -/
def retire (s : OAuthStore) (id : Token) (phase : OAuthPhase) (generation : Token) :
    Except OAuthFault (Bool × OAuthStore) :=
  s.update id (fun row => decide (row.phase = phase)) fun row =>
    { row with phase := .retiring, retirementGeneration := some generation }

/-- The batch of `observeOAuthRetirement`: its guard wants the retirement it observed. -/
def retired (s : OAuthStore) (id : Token) (generation : Option Token) :
    Except OAuthFault (Bool × OAuthStore) :=
  if ∃ row ∈ s.transactions.find? id, row.phase = .retiring ∧ generation ≠ none ∧
      row.retirementGeneration = generation then
    s.update id (fun _ => true) fun row => { row with phase := .retired }
  else .error .failed

/-- The transaction of a callback: ready, unexpired, and of an active session whose user still
has the link revision it started with. -/
def lookup (s : OAuthStore) (stateDigest tokenDigest : String) (now : Us) :
    Option OAuthTransaction :=
  s.transactions.rows.find? fun row =>
    decide (row.stateDigest = stateDigest ∧ row.requestTokenDigest = some tokenDigest ∧
      row.phase = .ready ∧ now < row.expiresAtUs ∧
      (∃ session ∈ s.sessions.sessions.find? row.sessionId, session.active now = true) ∧
      ∃ link ∈ s.flickr.links.find? row.userId, (link.linkRevision : Int) = row.expectedRevision)

/-- The transaction, if it is in the state that a statement asks for. -/
def selected (s : OAuthStore) (id : Token) (p : OAuthTransaction → Bool) :
    Option OAuthTransaction :=
  (s.transactions.find? id).filter p

end OAuthStore

/-! ## Programs -/

structure OAuthApplication where
  consumerKey : String
  consumerSecret : String

structure OAuthPair where
  token : String
  tokenSecret : String

/-- What a slot holds: a staged request token, with exactly its five keys, a retirement, or
something else. -/
inductive SlotPayload where
  | staged (generation transactionId token : String) (tokenSecret : Option String)
  | retirement (generation : String)
  | other
deriving DecidableEq

inductive OAuthOp where
  | application
  | randomUUID
  | randomToken
  | start (id generation : Token) (stateDigest : String) (session : SessionAuthority)
      (revision : Int)
  | requestToken (application : OAuthApplication) (state : String)
  | writeSlot (slot : Nat) (payload : SlotPayload)
  | readSlot (slot : Nat)
  | pause
  | ready (id : Token) (tokenDigest : String)
  | repair (id : Token) (phase : OAuthPhase)
  | lookup (stateDigest tokenDigest : String)
  | claim (id : Token) (ownerSub : Option String)
  | accessToken (id : Token) (application : OAuthApplication) (pair : OAuthPair)
      (verifier : String)
  | owner (userId : Token)
  | verifyCandidate (pair : OAuthPair) (generation : Token) (owner : String)
  | beginLifecycle (userId : Token) (revision : Int) (authority : Option (Token × String))
  | linkOperation (id operationId : Token)
  | operation (operationId : Token)
  | dispatch (operationId : Token)
  | writeGrant (id operationId : Token) (generation : Token) (pair : OAuthPair)
  | markUncertain (operationId : Token)
  | reconcile (operationId : Token)
  | consume (id : Token)
  | retirable (id : Token)
  | retire (id : Token) (phase : OAuthPhase) (generation : Token)
  | retiring (id : Token)
  | retired (id : Token) (generation : Option Token)
  | maintained

abbrev OAuthOp.Answer : OAuthOp → Type
  | .application => Except OAuthFault OAuthApplication
  | .randomUUID => Token
  | .randomToken => String
  | .start .. => Except OAuthFault OAuthTransaction
  | .requestToken .. | .accessToken .. => Except OAuthFault OAuthPair
  | .readSlot _ => Except OAuthFault SlotPayload
  | .pause => Unit
  | .ready .. | .repair .. | .claim .. | .linkOperation .. | .consume _ | .retire .. |
    .retired .. | .reconcile _ => Except OAuthFault Bool
  | .lookup .. | .retirable _ | .retiring _ => Except OAuthFault (Option OAuthTransaction)
  | .owner _ => Except OAuthFault (Option String)
  | .beginLifecycle .. => Except OAuthFault Token
  | .operation _ => Except OAuthFault (Option LifecycleOperation)
  | .maintained => Except OAuthFault (List (Token × OAuthPhase))
  | .writeSlot .. | .verifyCandidate .. | .dispatch _ | .writeGrant .. | .markUncertain _ =>
      Except OAuthFault Unit

abbrev OAuthThrows := Throws OAuthOp.Answer OAuthFault

/-- What `startFlickrOAuth` answers. -/
structure OAuthStart where
  authorizationTransactionId : Token
  token : String
  expiresAt : Us

namespace FlickrOAuth

/-- Ask an operation that does not throw. -/
def drawn {α : Type} (p : Prog OAuthOp.Answer α) : OAuthThrows α := attempt (Except.ok <$> p)

/-- `observeStagedSlot`: so many reads, with a pause between two of them. -/
def observeStagedSlot (slot : Nat) (expected : SlotPayload) : Nat → OAuthThrows Unit
  | 0 => throw .stagingUnconfirmed
  | attempts + 1 => do
      let observed ← rescue (some <$> attempt (Prog.query (OAuthOp.readSlot slot)))
        fun _ => pure none
      if observed = some expected then pure ()
      else do
        if 0 < attempts then drawn (Prog.query OAuthOp.pause) else pure ()
        observeStagedSlot slot expected attempts

/-- A start after its row is there. -/
def stageRequest (digest : String → String) (application : OAuthApplication) (state : String)
    (row : OAuthTransaction) : OAuthThrows OAuthStart := do
  let pair ← attempt (Prog.query (OAuthOp.requestToken application state))
  let payload := SlotPayload.staged row.generation.text row.transactionId.text pair.token
    (some pair.tokenSecret)
  attempt (Prog.query (OAuthOp.writeSlot row.slot payload))
  observeStagedSlot row.slot payload 16
  let updated ← attempt (Prog.query (OAuthOp.ready row.transactionId (digest pair.token)))
  if updated = true then pure ⟨row.transactionId, pair.token, row.expiresAtUs⟩
  else throw .failed

/-- `startFlickrOAuth`. -/
def startFlickrOAuth (digest : String → String) (session : SessionAuthority) (revision : Int) :
    OAuthThrows OAuthStart :=
  if ¬ isSafeInteger revision ∨ revision < 1 then throw .staleConnection
  else do
    let application ← attempt (Prog.query OAuthOp.application)
    let id ← drawn (Prog.query OAuthOp.randomUUID)
    let state ← drawn (Prog.query OAuthOp.randomToken)
    let generation ← drawn (Prog.query OAuthOp.randomUUID)
    let row ← rescue
      (attempt (Prog.query (OAuthOp.start id generation (digest state) session revision)))
      fun _ => throw .startUnavailable
    rescue (stageRequest digest application state row) fun _ => do
      let _ ← attempt (Prog.query (OAuthOp.repair id .initializing))
      throw .startUnavailable

/-- `/^[A-Za-z0-9_-]{43}$/`. -/
def isState (state : String) : Bool :=
  decide (state.length = 43) &&
    state.toList.all fun c => c.isAlphanum || c == '_' || c == '-'

/-- A candidate that the lifecycle takes. -/
def validCandidate (pair : OAuthPair) : Prop :=
  pair.token ≠ "" ∧ pair.tokenSecret ≠ "" ∧ utf16Length pair.token ≤ 2048 ∧
    utf16Length pair.tokenSecret ≤ 2048 ∧
    ∀ c ∈ pair.token.toList ++ pair.tokenSecret.toList, 32 < c.toNat ∧ c.toNat ≠ 127

instance (pair : OAuthPair) : Decidable (validCandidate pair) :=
  have : Decidable (∀ c ∈ pair.token.toList ++ pair.tokenSecret.toList,
      32 < c.toNat ∧ c.toNat ≠ 127) := List.decidableBAll _ _
  inferInstanceAs (Decidable (_ ∧ _ ∧ _ ∧ _ ∧ _))

/-- `dispatchLifecycle`, for the operation of a callback. -/
def dispatchLifecycle (id operationId : Token) (candidate : OAuthPair) : OAuthThrows Bool := do
  match ← attempt (Prog.query (OAuthOp.operation operationId)) with
  | none => pure false
  | some op =>
      if op.phase ≠ .prepared then pure false
      else if op.kind = .replace ∧ ¬ validCandidate candidate then throw .failed
      else do
        let dispatched ← rescue
          ((fun _ => true) <$> attempt (Prog.query (OAuthOp.dispatch operationId)))
          fun _ => pure false
        if dispatched = true then
          rescue
            ((fun _ => true) <$>
              attempt (Prog.query (OAuthOp.writeGrant id operationId op.generation candidate)))
            fun _ => do
              rescue (attempt (Prog.query (OAuthOp.markUncertain operationId))) fun _ => pure ()
              pure false
        else pure false

/-- A callback after its claim. -/
def exchange (row : OAuthTransaction) (pair : OAuthPair) (verifier : String)
    (ownerSub : Option String) : OAuthThrows Bool := do
  let application ← attempt (Prog.query OAuthOp.application)
  let candidate ← attempt
    (Prog.query (OAuthOp.accessToken row.transactionId application pair verifier))
  match ← attempt (Prog.query (OAuthOp.owner row.userId)) with
  | none => throw .failed
  | some owner => do
      attempt (Prog.query (OAuthOp.verifyCandidate candidate row.generation owner))
      let operationId ← attempt (Prog.query (OAuthOp.beginLifecycle row.userId
        row.expectedRevision (ownerSub.map fun sub => (row.sessionId, sub))))
      let _ ← attempt (Prog.query (OAuthOp.linkOperation row.transactionId operationId))
      let _ ← dispatchLifecycle row.transactionId operationId candidate
      let activated ← attempt (Prog.query (OAuthOp.reconcile operationId))
      let _ ← attempt (Prog.query (OAuthOp.consume row.transactionId))
      pure activated

/-- The secret that was staged for the request token of a callback. -/
def stagedSecret (row : OAuthTransaction) (token : String) : SlotPayload → Option String
  | .staged generation transactionId staged tokenSecret =>
      if generation = row.generation.text ∧ transactionId = row.transactionId.text ∧
          staged = token then tokenSecret
      else none
  | .retirement _ | .other => none

/-- `completeFlickrOAuth`. -/
def completeFlickrOAuth (digest : String → String) (state token verifier : String)
    (ownerSub : Option String) : OAuthThrows Bool :=
  if isState state = false ∨ token = "" ∨ 2048 < utf16Length token ∨ verifier = "" ∨
      2048 < utf16Length verifier then pure false
  else do
    match ← attempt (Prog.query (OAuthOp.lookup (digest state) (digest token))) with
    | none => pure false
    | some row => do
        let payload ← rescue (attempt (Prog.query (OAuthOp.readSlot row.slot)))
          fun _ => pure .other
        match stagedSecret row token payload with
        | none => pure false
        | some tokenSecret => do
            let claimed ← attempt (Prog.query (OAuthOp.claim row.transactionId ownerSub))
            if claimed = true then
              rescue (exchange row ⟨token, tokenSecret⟩ verifier ownerSub) fun _ => do
                let _ ← attempt (Prog.query (OAuthOp.repair row.transactionId .exchanging))
                pure false
            else pure false

/-- `observeOAuthRetirement`. -/
def observeOAuthRetirement (id : Token) : OAuthThrows Bool := do
  match ← attempt (Prog.query (OAuthOp.retiring id)) with
  | none => pure false
  | some row =>
      rescue
        (do
          let payload ← attempt (Prog.query (OAuthOp.readSlot row.slot))
          if (row.retirementGeneration.map fun generation =>
              SlotPayload.retirement generation.text) = some payload then
            (fun _ => true) <$>
              attempt (Prog.query (OAuthOp.retired id row.retirementGeneration))
          else pure false)
        fun _ => pure false

/-- `retireOAuthSlot`. -/
def retireOAuthSlot (id : Token) : OAuthThrows Bool := do
  match ← attempt (Prog.query (OAuthOp.retirable id)) with
  | none => pure false
  | some row => do
      let generation ← drawn (Prog.query OAuthOp.randomUUID)
      let claimed ← attempt (Prog.query (OAuthOp.retire id row.phase generation))
      if claimed = true then do
        rescue (attempt (Prog.query (OAuthOp.writeSlot row.slot (.retirement generation.text))))
          fun _ => pure ()
        observeOAuthRetirement id
      else pure false

/-- The transactions of a maintenance, one after the other. -/
def maintainAll : List (Token × OAuthPhase) → OAuthThrows Unit
  | [] => pure ()
  | (id, phase) :: rest => do
      let _ ← if phase = .retiring then observeOAuthRetirement id else retireOAuthSlot id
      maintainAll rest

/-- The slots' part of `maintainNativeCredentials`. -/
def maintainNativeCredentials : OAuthThrows Unit := do
  let transactions ← attempt (Prog.query OAuthOp.maintained)
  maintainAll transactions

end FlickrOAuth

/-! ## The system -/

/-- A statement answers and commits, or fails and leaves the tables. -/
def commits {α : Type} (s : OAuthStore) (result : Except OAuthFault (α × OAuthStore))
    (answer : Except OAuthFault α) (s' : OAuthStore) : Prop :=
  (∃ value, result = .ok (value, s') ∧ answer = .ok value) ∨
    ∃ fault, result = .error fault ∧ answer = .error fault ∧ s' = s

/-- The new tables of the lifecycle, or a failure. -/
def lifecycle {α : Type} (s : OAuthStore) (value : α) (flickr : Option FlickrTables) :
    Except OAuthFault (α × OAuthStore) :=
  match flickr with
  | none => .error .failed
  | some flickr => .ok (value, { s with flickr := flickr })

/-- The batch of `beginLifecycle` for a replacement, with the session that its guard asks for. -/
def OAuthStore.beginLifecycle (s : OAuthStore) (userId : Token) (revision : Int)
    (authority : Option (Token × String)) (operationId generation : Token) (now : Us) :
    Except OAuthFault (Token × OAuthStore) :=
  if ∀ held ∈ authority, (∃ row ∈ s.sessions.sessions.find? held.1, row.userId = userId) ∧
      s.sessionHolds held.1 (some held.2) now then
    lifecycle s operationId
      (s.flickr.beginLifecycle userId revision .replace operationId generation now)
  else .error .failed

/-- How an operation meets the tables; each statement has a reading of its own. -/
def serveOAuth (s : OAuthStore) : (o : OAuthOp) → o.Answer → OAuthStore → Prop
  | .start id generation stateDigest session revision, answer, s' =>
      ∃ now, commits s (s.start id generation stateDigest session revision now) answer s'
  | .ready id tokenDigest, answer, s' => ∃ now, commits s (s.ready id tokenDigest now) answer s'
  | .repair id phase, answer, s' => commits s (s.repair id phase) answer s'
  | .claim id ownerSub, answer, s' => ∃ now, commits s (s.claim id ownerSub now) answer s'
  | .linkOperation id operationId, answer, s' =>
      commits s (s.linkOperation id operationId) answer s'
  | .consume id, answer, s' => commits s (s.consume id) answer s'
  | .retire id phase generation, answer, s' => commits s (s.retire id phase generation) answer s'
  | .retired id generation, answer, s' => commits s (s.retired id generation) answer s'
  | .lookup stateDigest tokenDigest, answer, s' =>
      ∃ now, answer = .ok (s.lookup stateDigest tokenDigest now) ∧ s' = s
  | .retirable id, answer, s' =>
      ∃ now, answer = .ok (s.selected id (OAuthStore.retirable now)) ∧ s' = s
  | .retiring id, answer, s' =>
      answer = .ok (s.selected id fun row => decide (row.phase = .retiring)) ∧ s' = s
  | .owner userId, answer, s' =>
      answer = .ok ((s.flickr.links.find? userId).map FlickrLink.ownerNsid) ∧ s' = s
  | .beginLifecycle userId revision authority, answer, s' =>
      ∃ operationId generation now,
        commits s (s.beginLifecycle userId revision authority operationId generation now) answer s'
  | .operation operationId, answer, s' =>
      answer = .ok (s.flickr.operations.find? operationId) ∧ s' = s
  | .dispatch operationId, answer, s' =>
      commits s (lifecycle s () (s.flickr.dispatchLifecycle operationId)) answer s'
  | .markUncertain operationId, answer, s' =>
      commits s (lifecycle s () (s.flickr.markUncertain operationId)) answer s'
  | .reconcile operationId, answer, s' =>
      (∃ permission now,
        commits s (lifecycle s true (s.flickr.reconcileLifecycle operationId permission now))
          answer s') ∨
        answer = .ok false ∧ s' = s
  | .maintained, answer, s' =>
      ∃ now : Us, s' = s ∧ ∃ found, answer = .ok found ∧ ∀ tx ∈ found,
        ∃ row ∈ s.transactions.find? tx.1, row.phase = tx.2 ∧
          (row.phase = .retiring ∨ OAuthStore.retirable now row = true)
  | .application, _, s' | .randomUUID, _, s' | .randomToken, _, s' | .requestToken .., _, s' |
    .writeSlot .., _, s' | .readSlot _, _, s' | .pause, _, s' | .accessToken .., _, s' |
    .verifyCandidate .., _, s' | .writeGrant .., _, s' => s' = s

/-- What a caller sees of a statement that failed or whose answer is lost. -/
def lostOAuth : (o : OAuthOp) → o.Answer → Prop
  | .start .., answer => answer = .error .failed
  | .ready .., answer => answer = .error .failed
  | .repair .., answer => answer = .error .failed
  | .claim .., answer => answer = .error .failed
  | .linkOperation .., answer => answer = .error .failed
  | .consume _, answer => answer = .error .failed
  | .retire .., answer => answer = .error .failed
  | .retired .., answer => answer = .error .failed
  | .lookup .., answer => answer = .error .failed
  | .retirable _, answer => answer = .error .failed
  | .retiring _, answer => answer = .error .failed
  | .owner _, answer => answer = .error .failed
  | .beginLifecycle .., answer => answer = .error .failed
  | .operation _, answer => answer = .error .failed
  | .dispatch _, answer => answer = .error .failed
  | .markUncertain _, answer => answer = .error .failed
  | .reconcile _, answer => answer = .error .failed
  | .maintained, answer => answer = .error .failed
  | .application, _ | .randomUUID, _ | .randomToken, _ | .requestToken .., _ | .writeSlot .., _ |
    .readSlot _, _ | .pause, _ | .accessToken .., _ | .verifyCandidate .., _ |
    .writeGrant .., _ => False

/-- Any number of starts, callbacks and retirements; whatever else is stored may change in
between. -/
def oauthMachine (digest : String → String) : Machine OAuthStore OAuthOp.Answer where
  serve := serveOAuth
  lost := lostOAuth
  external s s' := s'.transactions = s.transactions
  program p :=
    (∃ session revision,
      p = (do discard (FlickrOAuth.startFlickrOAuth digest session revision).run)) ∨
    (∃ state token verifier ownerSub,
      p = (do discard (FlickrOAuth.completeFlickrOAuth digest state token verifier ownerSub).run)) ∨
    (∃ id, p = (do discard (FlickrOAuth.retireOAuthSlot id).run)) ∨
    (∃ id, p = (do discard (FlickrOAuth.observeOAuthRetirement id).run)) ∨
    p = (do discard FlickrOAuth.maintainNativeCredentials.run)

/-- Before the first authorization. -/
def OAuthStore.Initial (s : OAuthStore) : Prop := s.transactions = .empty

end FlickrGroupAddr

import FlickrGroupAddr.PluginCodes
import FlickrGroupAddr.GroupPages

/-!
# Browser sessions

The batches of `browser_sessions.ts` and `session_inventory.ts` on the principals, their
sessions and the login transactions (`0007_browser_auth.sql`).  A batch reads its clock
once, and commits or fails as a whole.  Audit events are left out.
-/

namespace FlickrGroupAddr

set_option autoImplicit false

open KeyedTable

/-! ## Tables -/

/-- `revocation_reason`. -/
inductive RevocationReason where
  | reauthenticated
  | userLogout
  | userRevoked
  | userRevokedOthers
deriving DecidableEq

/-- `admin_sessions`; the instant and the reason of a revocation are null together. -/
structure BrowserSession where
  sessionId : Token
  tokenDigest : String
  userId : Token
  csrfToken : String
  createdAtUs : Us
  lastActivityAtUs : Us
  revocation : Option (Us × RevocationReason)
  revision : Nat
  correlationId : Token
deriving DecidableEq

namespace BrowserSession

/-- The expiry that the `CHECK` ties to the creation. -/
def expiresAtUs (row : BrowserSession) : Us := row.createdAtUs + 86400000000

/-- `revoked_at_us IS NULL AND expires_at_us>NOW`. -/
def active (row : BrowserSession) (now : Us) : Bool :=
  row.revocation.isNone && decide (now < row.expiresAtUs)

/-- The row after `SET revoked_at_us=…,revocation_reason=…,revision=revision+1`. -/
def revoke (now : Us) (reason : RevocationReason) (row : BrowserSession) : BrowserSession :=
  { row with revocation := some (now, reason), revision := row.revision + 1 }

end BrowserSession

/-- `admin_principals`. -/
structure Principal where
  userId : Token
  googleSub : String
  sessionSetRevision : Nat
deriving DecidableEq

/-- `google_login_transactions`; a transaction with a bound session and its user is a
reauthentication, every other one an initial login. -/
structure LoginTransaction where
  stateDigest : String
  nonceDigest : String
  bound : Option (Token × Token)
  createdAtUs : Us
  consumedAtUs : Option Us
deriving DecidableEq

def LoginTransaction.expiresAtUs (row : LoginTransaction) : Us := row.createdAtUs + 300000000

/-- What a login with an owner creates for its user where it is missing: the paused link, the
unlinked connection and the closed write gates. -/
structure FlickrSeeds where
  links : List (Token × String)
  connections : List Token
  userGates : List Token
  deploymentGate : Bool
deriving DecidableEq

/-- The tables; `drawn` are the states drawn so far. -/
structure SessionDb where
  users : List Token
  principals : Table Principal.userId
  sessions : Table BrowserSession.sessionId
  logins : Table LoginTransaction.stateDigest
  seeds : FlickrSeeds
  drawn : List String
deriving DecidableEq

/-- `AdminSession`, as far as the operations read it. -/
structure SessionAuthority where
  sessionId : Token
  userId : Token
deriving DecidableEq

/-- `BrowserAuthError`, by its code. -/
structure BrowserAuthError where
  code : String
deriving DecidableEq

namespace BrowserAuthError

def unauthorized : BrowserAuthError := ⟨"unauthorized"⟩
def invalidRequest : BrowserAuthError := ⟨"invalid_request"⟩
def currentSession : BrowserAuthError := ⟨"current_session_requires_logout"⟩
def staleRevision : BrowserAuthError := ⟨"stale_session_revision"⟩
def staleSet : BrowserAuthError := ⟨"stale_session_set"⟩
def unavailable : BrowserAuthError := ⟨"service_unavailable"⟩

end BrowserAuthError

namespace SessionDb

/-! ## Statements -/

/-- Revoke the sessions of which `p` holds. -/
def updateSessions (db : SessionDb) (p : BrowserSession → Bool) (now : Us)
    (reason : RevocationReason) : Except BatchFailure SessionDb := do
  require .checkConstraint (∀ row ∈ db.sessions, p row = true → row.revision < maxSafeInteger)
  .ok { db with sessions := db.sessions.modifyWhere p (BrowserSession.revoke now reason) }

/-- `UPDATE admin_principals SET session_set_revision=session_set_revision+1`. -/
def raiseRevision (db : SessionDb) (p : Principal → Bool) : Except BatchFailure SessionDb := do
  require .checkConstraint
    (∀ row ∈ db.principals, p row = true → row.sessionSetRevision < maxSafeInteger)
  .ok { db with
    principals := db.principals.modifyWhere p fun row =>
      { row with sessionSetRevision := row.sessionSetRevision + 1 } }

/-- The principal of a subject, which `google_sub UNIQUE` makes the only one. -/
def principalOf (db : SessionDb) (googleSub : String) : Option Principal :=
  db.principals.rows.find? fun row => row.googleSub = googleSub

/-! ## Logins -/

/-- The insert of `startLogin`, whose `WHERE` wants the bound session to be active. -/
def startLogin (db : SessionDb) (stateDigest nonceDigest : String)
    (bound : Option SessionAuthority) (now : Us) : Except BrowserAuthError SessionDb :=
  if ∀ current ∈ bound, ∃ row ∈ db.sessions.find? current.sessionId,
      row.userId = current.userId ∧ row.active now = true then
    match db.logins.insert? ⟨stateDigest, nonceDigest,
        bound.map fun current => (current.sessionId, current.userId), now, none⟩ with
    | none => .error .unavailable
    | some logins => .ok { db with logins := logins, drawn := stateDigest :: db.drawn }
  else .error .unauthorized

end SessionDb

/-- `LoginCommit`. -/
structure LoginCommit where
  stateDigest : String
  nonceDigest : String
  googleSub : String
  ownerSub : String
  ownerNsid : Option String

/-- What `createLogin` draws. -/
structure LoginDraws where
  tokenDigest : String
  sessionId : Token
  userId : Token
  csrfToken : String
  transactionId : Token

/-- The four inserts for a user, each where the row is missing. -/
def FlickrSeeds.ensure (seeds : FlickrSeeds) (userId : Token) (nsid : String) : FlickrSeeds where
  links := if seeds.links.any (fun link => link.1 == userId) then seeds.links
    else seeds.links ++ [(userId, nsid)]
  connections := if userId ∈ seeds.connections then seeds.connections
    else seeds.connections ++ [userId]
  userGates := if userId ∈ seeds.userGates then seeds.userGates else seeds.userGates ++ [userId]
  deploymentGate := true

namespace SessionDb

/-- The guard of a login: the transaction is open, and the session it is bound to is active
and of the subject. -/
def loginApproved (db : SessionDb) (input : LoginCommit) (now : Us) : Prop :=
  ∃ login ∈ db.logins.find? input.stateDigest,
    login.nonceDigest = input.nonceDigest ∧ login.consumedAtUs = none ∧
      now < login.expiresAtUs ∧
      ∀ bound ∈ login.bound, ∃ row ∈ db.sessions.find? bound.1,
        row.userId = bound.2 ∧ row.active now = true ∧
          ∃ principal ∈ db.principals.find? row.userId, principal.googleSub = input.googleSub

instance (db : SessionDb) (input : LoginCommit) (now : Us) :
    Decidable (db.loginApproved input now) :=
  inferInstanceAs (Decidable (∃ login ∈ db.logins.find? input.stateDigest,
    _ ∧ _ ∧ _ ∧ ∀ bound ∈ login.bound, ∃ row ∈ db.sessions.find? bound.1,
      _ ∧ _ ∧ ∃ principal ∈ db.principals.find? row.userId, _))

/-- The user and the principal of a subject, unless it has them. -/
def ensurePrincipal (db : SessionDb) (googleSub : String) (userId : Token) :
    Except BatchFailure SessionDb :=
  match db.principalOf googleSub with
  | some _ => .ok db
  | none => do
      require .other (userId ∉ db.users)
      match db.principals.insert? ⟨userId, googleSub, 1⟩ with
      | none => .error .other
      | some principals => .ok { db with users := userId :: db.users, principals := principals }

/-- What a login with an owner creates besides. -/
def seedFlickr (db : SessionDb) (input : LoginCommit) : SessionDb :=
  match db.principalOf input.googleSub, input.ownerNsid with
  | some principal, some nsid => { db with seeds := db.seeds.ensure principal.userId nsid }
  | _, _ => db

/-- The session is the one that the transaction of this state is bound to. -/
def isBound (db : SessionDb) (stateDigest : String) (row : BrowserSession) : Bool :=
  decide (((db.logins.find? stateDigest).bind LoginTransaction.bound).map Prod.fst =
    some row.sessionId)

/-- `INSERT INTO admin_sessions … SELECT … FROM admin_principals WHERE google_sub=…`. -/
def openSession (db : SessionDb) (input : LoginCommit) (draws : LoginDraws) (now : Us) :
    Except BatchFailure SessionDb :=
  match db.principalOf input.googleSub with
  | none => .ok db
  | some principal => do
      require .other (∀ row ∈ db.sessions, row.tokenDigest ≠ draws.tokenDigest)
      match db.sessions.insert? ⟨draws.sessionId, draws.tokenDigest, principal.userId,
          draws.csrfToken, now, now, none, 1, draws.transactionId⟩ with
      | none => .error .other
      | some sessions => .ok { db with sessions := sessions }

/-- `UPDATE google_login_transactions SET consumed_at_us=NOW`. -/
def consume (db : SessionDb) (stateDigest : String) (now : Us) : SessionDb :=
  { db with
    logins := db.logins.modify stateDigest fun row => { row with consumedAtUs := some now } }

/-- `createLogin`. -/
def createLogin (db : SessionDb) (input : LoginCommit) (draws : LoginDraws) (now : Us) :
    Except BatchFailure SessionDb := do
  require .checkConstraint (db.loginApproved input now)
  let known ← db.ensurePrincipal input.googleSub draws.userId
  let seeded := known.seedFlickr input
  let rotated ← seeded.updateSessions
    (fun row => seeded.isBound input.stateDigest row && row.revocation.isNone) now .reauthenticated
  let opened ← rotated.openSession input draws now
  let raised ← opened.raiseRevision fun row => row.googleSub == input.googleSub
  .ok (raised.consume input.stateDigest now)

/-- `finishLogin`: only the owner gets a session. -/
def finishLogin (db : SessionDb) (input : LoginCommit) (draws : LoginDraws) (now : Us) :
    Except BrowserAuthError SessionDb :=
  if input.googleSub = input.ownerSub then
    match db.createLogin input draws now with
    | .ok db' => .ok db'
    | .error _ => .error .unavailable
  else .error .unauthorized

/-! ## Revocations -/

/-- `revokeCurrent`, which `logoutBrowser` runs. -/
def revokeCurrent (db : SessionDb) (tokenDigest : String) (now : Us) :
    Except BatchFailure SessionDb := do
  let raised ← db.raiseRevision fun principal =>
    decide (∃ row ∈ db.sessions, row.tokenDigest = tokenDigest ∧ row.revocation = none ∧
      row.userId = principal.userId)
  raised.updateSessions (fun row => row.tokenDigest == tokenDigest && row.revocation.isNone) now
    .userLogout

/-- The session of a user with this id, if it is active. -/
def isTarget (current : SessionAuthority) (target : String) (now : Us) (row : BrowserSession) :
    Bool :=
  decide (row.userId = current.userId ∧ row.sessionId.text = target) && row.active now

/-- An active session of the user other than the current one. -/
def isOther (current : SessionAuthority) (now : Us) (row : BrowserSession) : Bool :=
  decide (row.userId = current.userId ∧ row.sessionId ≠ current.sessionId) && row.active now

/-- The answer to a batch; a failed `CHECK` is its guard. -/
def answered (stale : BrowserAuthError) (result : Except BatchFailure SessionDb) :
    Except BrowserAuthError SessionDb :=
  match result with
  | .ok db => .ok db
  | .error .checkConstraint => .error stale
  | .error .other => .error .unavailable

/-- `revokeSession`. -/
def revokeSession (db : SessionDb) (current : SessionAuthority) (target : String) (revision : Int)
    (now : Us) : Except BrowserAuthError SessionDb :=
  if target = current.sessionId.text then .error .currentSession
  else if ¬ isSafeInteger revision ∨ revision < 1 ∨ 128 < utf16Length target then
    .error .invalidRequest
  else answered .staleRevision do
    require .checkConstraint (¬ ∃ row ∈ db.sessions, isTarget current target now row = true ∧
      (row.revision : Int) ≠ revision)
    let raised ← db.raiseRevision fun principal =>
      decide (principal.userId = current.userId ∧
        ∃ row ∈ db.sessions, isTarget current target now row = true)
    raised.updateSessions (isTarget current target now) now .userRevoked

/-- `revokeOtherSessions`. -/
def revokeOtherSessions (db : SessionDb) (current : SessionAuthority) (revision count : Int)
    (now : Us) : Except BrowserAuthError SessionDb :=
  if ¬ isSafeInteger revision ∨ revision < 1 ∨ ¬ isSafeInteger count ∨ count < 0 then
    .error .invalidRequest
  else answered .staleSet do
    require .checkConstraint
      ((∃ principal ∈ db.principals.find? current.userId,
          (principal.sessionSetRevision : Int) = revision) ∧
        ((db.sessions.rows.countP (isOther current now) : Nat) : Int) = count)
    let raised ← db.raiseRevision fun principal =>
      decide (principal.userId = current.userId ∧ 0 < count)
    raised.updateSessions (isOther current now) now .userRevokedOthers

/-! ## Upkeep -/

/-- The update of `authenticateBrowser`, at most once in five minutes. -/
def recordActivity (db : SessionDb) (sessionId : Token) (now : Us) : SessionDb :=
  { db with
    sessions := db.sessions.modifyWhere
      (fun row => decide (row.sessionId = sessionId) && row.active now &&
        decide (row.lastActivityAtUs ≤ now - 300000000))
      fun row => { row with lastActivityAtUs := now } }

/-- A login transaction that the cleanup may delete. -/
def oldLogin (now : Us) (row : LoginTransaction) : Bool :=
  decide (row.consumedAtUs.getD row.expiresAtUs < now - 86400000000)

/-- A session that the cleanup may delete. -/
def oldSession (now : Us) (row : BrowserSession) : Bool :=
  decide (max row.expiresAtUs ((row.revocation.map Prod.fst).getD 0) < now - 2592000000000)

/-- The two statements of `cleanupAuthentication` on these tables; `logins` and `sessions`
are what its `LIMIT`s select. -/
def cleanup (db : SessionDb) (logins : List String) (sessions : List Token) (now : Us) :
    SessionDb :=
  let kept := db.logins.deleteWhere fun row =>
    oldLogin now row && decide (row.stateDigest ∈ logins.take 500)
  { db with
    logins := kept
    sessions := db.sessions.deleteWhere fun row =>
      oldSession now row && decide (row.sessionId ∈ sessions.take 500) &&
        kept.rows.all fun login => decide (login.bound.map Prod.fst ≠ some row.sessionId) }

end SessionDb

/-! ## The system -/

/-- The operations that write these tables. -/
inductive SessionCall where
  | startLogin (stateDigest nonceDigest : String) (bound : Option SessionAuthority)
  | finishLogin (input : LoginCommit) (draws : LoginDraws)
  | logout (tokenDigest : String)
  | revokeSession (current : SessionAuthority) (target : String) (revision : Int)
  | revokeOthers (current : SessionAuthority) (revision count : Int)
  | activity (sessionId : Token)
  | cleanup (logins : List String) (sessions : List Token)

/-- What a call commits at one reading of the clock, if it commits. -/
def SessionCall.commit (db : SessionDb) (now : Us) : SessionCall → Option SessionDb
  | .startLogin stateDigest nonceDigest bound =>
      (db.startLogin stateDigest nonceDigest bound now).toOption
  | .finishLogin input draws => (db.finishLogin input draws now).toOption
  | .logout tokenDigest => (db.revokeCurrent tokenDigest now).toOption
  | .revokeSession current target revision =>
      (db.revokeSession current target revision now).toOption
  | .revokeOthers current revision count =>
      (db.revokeOtherSessions current revision count now).toOption
  | .activity sessionId => some (db.recordActivity sessionId now)
  | .cleanup logins sessions => some (db.cleanup logins sessions now)

/-- A state of a login is drawn once. -/
def SessionCall.fresh (db : SessionDb) : SessionCall → Prop
  | .startLogin stateDigest _ _ => stateDigest ∉ db.drawn
  | _ => True

instance (db : SessionDb) (call : SessionCall) : Decidable (call.fresh db) := by
  cases call <;> unfold SessionCall.fresh <;> infer_instance

/-- One step: a batch, whoever sent it and however old its reads are, commits or leaves the
tables as they are. -/
inductive SessionStep : SessionDb → SessionCall × Us → SessionDb → Prop
  | commit {db db' : SessionDb} {call : SessionCall} {now : Us} :
      call.fresh db → call.commit db now = some db' → SessionStep db (call, now) db'
  | refuse {db : SessionDb} {call : SessionCall} {now : Us} : SessionStep db (call, now) db

/-- Before the first login. -/
def SessionDb.Initial (db : SessionDb) : Prop :=
  db.principals = .empty ∧ db.sessions = .empty ∧ db.logins = .empty ∧ db.drawn = []

end FlickrGroupAddr

import FlickrGroupAddr.BrowserSessions
import FlickrGroupAddr.Lib.Fallible
import FlickrGroupAddr.Lib.Transition

/-!
# The active sessions of a user

Whatever changes the active sessions of a user raises the revision of that user, so one
revision stands for one set of sessions, but for those that expire.
-/

namespace FlickrGroupAddr

set_option autoImplicit false

open KeyedTable Transition

/-! ## Sets of sessions -/

/-- What decides whether a session is active. -/
structure SessionCore where
  sessionId : Token
  expiresAtUs : Us
  revocation : Option (Us × RevocationReason)
deriving DecidableEq

def SessionCore.active (core : SessionCore) (now : Us) : Bool :=
  core.revocation.isNone && decide (now < core.expiresAtUs)

def BrowserSession.core (row : BrowserSession) : SessionCore :=
  ⟨row.sessionId, row.expiresAtUs, row.revocation⟩

/-- The revision of a user, 0 before the first login. -/
def setRevision (principals : Table Principal.userId) (userId : Token) : Nat :=
  ((principals.find? userId).map Principal.sessionSetRevision).getD 0

/-- The sessions of a user. -/
def sessionCores (sessions : Table BrowserSession.sessionId) (userId : Token) :
    List SessionCore :=
  (sessions.rows.filter fun row => row.userId = userId).map BrowserSession.core

namespace SessionDb

def revisionOf (db : SessionDb) (userId : Token) : Nat := setRevision db.principals userId

def cores (db : SessionDb) (userId : Token) : List SessionCore := sessionCores db.sessions userId

/-- The active sessions of a user. -/
def activeSessions (db : SessionDb) (userId : Token) (now : Us) : List Token :=
  ((db.cores userId).filter fun core => core.active now).map SessionCore.sessionId

/-- The active sessions of a user other than the current one. -/
def otherSessions (db : SessionDb) (current : SessionAuthority) (now : Us) : List Token :=
  (db.activeSessions current.userId now).filter fun id => id ≠ current.sessionId

/-! ## What a step can do -/

/-- The principals with that of a subject, which a first login creates. -/
inductive Ensured (db : SessionDb) (googleSub : String) :
    Table Principal.userId → Principal → Prop
  | found {principal : Principal} :
      db.principalOf googleSub = some principal → Ensured db googleSub db.principals principal
  | created {principals : Table Principal.userId} {userId : Token} :
      db.principalOf googleSub = none →
      db.principals.insert? ⟨userId, googleSub, 1⟩ = some principals →
      Ensured db googleSub principals ⟨userId, googleSub, 1⟩

theorem userId_raised (row : Principal) :
    { row with sessionSetRevision := row.sessionSetRevision + 1 : Principal }.userId = row.userId :=
  rfl

/-- The row of the principal after `session_set_revision=session_set_revision+1`. -/
def raised (principals : Table Principal.userId) (p : Principal → Bool) : Table Principal.userId :=
  principals.modifyWhere p
    (fun row => { row with sessionSetRevision := row.sessionSetRevision + 1 }) userId_raised

/-- What a login changes: its transaction is consumed, the session this is bound to revoked,
a session opened, and the revision of the subject raised. -/
inductive LoggedIn (db : SessionDb) (now : Us) (input : LoginCommit) (draws : LoginDraws)
    (db' : SessionDb) : Prop
  | intro {principals : Table Principal.userId} {principal : Principal} :
      db.loginApproved input now →
      Ensured db input.googleSub principals principal →
      (db.sessions.modifyWhere
          (fun row => db.isBound input.stateDigest row && row.revocation.isNone)
          (BrowserSession.revoke now .reauthenticated)).insert?
        ⟨draws.sessionId, draws.tokenDigest, principal.userId, draws.csrfToken, now, now, none, 1,
          draws.transactionId⟩ = some db'.sessions →
      db'.principals = raised principals (fun row => row.googleSub == input.googleSub) →
      db'.logins = db.logins.modify input.stateDigest
        (fun row => { row with consumedAtUs := some now }) →
      db'.drawn = db.drawn →
      LoggedIn db now input draws db'

/-- What one call changes at one reading of the clock. -/
inductive Effect (db : SessionDb) (now : Us) : SessionCall → SessionDb → Prop
  | kept {call : SessionCall} : Effect db now call db
  | started {stateDigest nonceDigest : String} {bound : Option SessionAuthority}
      {logins : Table LoginTransaction.stateDigest} {login : LoginTransaction} :
      stateDigest ∉ db.drawn → login.stateDigest = stateDigest → login.consumedAtUs = none →
      db.logins.insert? login = some logins →
      Effect db now (.startLogin stateDigest nonceDigest bound)
        { db with logins := logins, drawn := stateDigest :: db.drawn }
  | loggedIn {input : LoginCommit} {draws : LoginDraws} {db' : SessionDb} :
      LoggedIn db now input draws db' → Effect db now (.finishLogin input draws) db'
  | revoked {call : SessionCall} {p : BrowserSession → Bool} {q : Principal → Bool}
      {reason : RevocationReason} :
      reason ≠ .reauthenticated →
      (∀ row ∈ db.sessions, p row = true → row.revocation = none ∧
        ∀ principal ∈ db.principals.find? row.userId, q principal = true) →
      Effect db now call
        { db with
          principals := raised db.principals q
          sessions := db.sessions.modifyWhere p (BrowserSession.revoke now reason) }
  | seen {sessionId : Token} : Effect db now (.activity sessionId) (db.recordActivity sessionId now)
  | cleaned {logins : List String} {sessions : List Token} :
      Effect db now (.cleanup logins sessions) (db.cleanup logins sessions now)

section Effects

variable {db db' : SessionDb} {now : Us}

theorem updateSessions_eq_ok {p : BrowserSession → Bool} {reason : RevocationReason}
    (h : db.updateSessions p now reason = .ok db') :
    db' = { db with sessions := db.sessions.modifyWhere p (BrowserSession.revoke now reason) } := by
  obtain ⟨_, _, h⟩ := Fallible.bind_eq_ok.mp h
  cases h
  rfl

theorem raiseRevision_eq_ok {p : Principal → Bool} (h : db.raiseRevision p = .ok db') :
    db' = { db with principals := raised db.principals p } := by
  obtain ⟨_, _, h⟩ := Fallible.bind_eq_ok.mp h
  cases h
  rfl

theorem ensurePrincipal_eq_ok {googleSub : String} {userId : Token}
    (h : db.ensurePrincipal googleSub userId = .ok db') :
    ∃ principal, Ensured db googleSub db'.principals principal ∧
      db'.principalOf googleSub = some principal ∧ db'.sessions = db.sessions ∧
        db'.logins = db.logins ∧ db'.drawn = db.drawn := by
  unfold ensurePrincipal at h
  split at h
  · next principal hfound =>
      cases h
      exact ⟨principal, .found hfound, hfound, rfl, rfl, rfl⟩
  · next hnone =>
      obtain ⟨_, _, h⟩ := Fallible.bind_eq_ok.mp h
      cases hinsert : db.principals.insert? ⟨userId, googleSub, 1⟩ with
      | none =>
          rw [hinsert] at h
          cases h
      | some principals =>
          rw [hinsert] at h
          cases h
          refine ⟨_, .created hnone hinsert, ?_, rfl, rfl, rfl⟩
          unfold principalOf at hnone ⊢
          rw [(Table.insert?_eq_some hinsert).2, List.find?_append, hnone]
          simp

theorem openSession_eq_ok {input : LoginCommit} {draws : LoginDraws} {principal : Principal}
    (h : db.openSession input draws now = .ok db')
    (hprincipal : db.principalOf input.googleSub = some principal) :
    ∃ sessions, db.sessions.insert? ⟨draws.sessionId, draws.tokenDigest, principal.userId,
        draws.csrfToken, now, now, none, 1, draws.transactionId⟩ = some sessions ∧
      db' = { db with sessions := sessions } := by
  unfold openSession at h
  rw [hprincipal] at h
  obtain ⟨_, _, h⟩ := Fallible.bind_eq_ok.mp h
  split at h
  · cases h
  · next sessions hinsert =>
      cases h
      exact ⟨sessions, hinsert, rfl⟩

theorem createLogin_eq_ok {input : LoginCommit} {draws : LoginDraws}
    (h : db.createLogin input draws now = .ok db') : LoggedIn db now input draws db' := by
  obtain ⟨_, happroved, h⟩ := Fallible.bind_eq_ok.mp h
  obtain ⟨known, hknown, h⟩ := Fallible.bind_eq_ok.mp h
  obtain ⟨rotated, hrotated, h⟩ := Fallible.bind_eq_ok.mp h
  obtain ⟨opened, hopened, h⟩ := Fallible.bind_eq_ok.mp h
  obtain ⟨last, hlast, h⟩ := Fallible.bind_eq_ok.mp h
  cases h
  obtain ⟨principal, hensured, hprincipal, hsessions, hlogins, hdrawn⟩ :=
    ensurePrincipal_eq_ok hknown
  have hseeded : (known.seedFlickr input).principals = known.principals ∧
      (known.seedFlickr input).sessions = db.sessions ∧
      (known.seedFlickr input).logins = db.logins ∧ (known.seedFlickr input).drawn = db.drawn := by
    unfold seedFlickr
    split
    · exact ⟨rfl, hsessions, hlogins, hdrawn⟩
    · exact ⟨rfl, hsessions, hlogins, hdrawn⟩
  generalize known.seedFlickr input = seeded at hseeded hrotated
  obtain ⟨hprincipals, hsessions, hlogins, hdrawn⟩ := hseeded
  cases updateSessions_eq_ok hrotated
  cases raiseRevision_eq_ok hlast
  have hfound : seeded.principalOf input.googleSub = some principal := by
    unfold principalOf at hprincipal ⊢
    rw [hprincipals]
    exact hprincipal
  obtain ⟨sessions, hinsert, rfl⟩ := openSession_eq_ok hopened hfound
  have hbound : seeded.isBound input.stateDigest = db.isBound input.stateDigest := by
    funext row
    simp only [isBound, hlogins]
  rw [hbound] at hinsert
  dsimp only at hinsert
  rw [hsessions] at hinsert
  refine .intro (require_eq_ok.mp happroved) hensured hinsert ?_ ?_ hdrawn
  · simp only [consume, hprincipals]
  · simp only [consume, hlogins]

theorem answered_eq_ok {stale : BrowserAuthError} {result : Except BatchFailure SessionDb}
    (h : answered stale result = .ok db') : result = .ok db' := by
  unfold answered at h
  split at h
  · cases h
    rfl
  · cases h
  · cases h

theorem revokeCurrent_effect {call : SessionCall} {tokenDigest : String}
    (h : db.revokeCurrent tokenDigest now = .ok db') : Effect db now call db' := by
  obtain ⟨raised, hraised, h⟩ := Fallible.bind_eq_ok.mp h
  cases raiseRevision_eq_ok hraised
  cases updateSessions_eq_ok h
  refine .revoked (by decide) ?_
  intro row hrow hp
  simp only [Bool.and_eq_true, beq_iff_eq, Option.isNone_iff_eq_none] at hp
  refine ⟨hp.2, ?_⟩
  intro principal hprincipal
  have huser : principal.userId = row.userId := Table.key_of_find? hprincipal
  exact decide_eq_true ⟨row, hrow, hp.1, hp.2, huser.symm⟩

theorem active_unrevoked {row : BrowserSession} (h : row.active now = true) :
    row.revocation = none := by
  simp only [BrowserSession.active, Bool.and_eq_true, Option.isNone_iff_eq_none] at h
  exact h.1

theorem revokeSession_effect {call : SessionCall} {current : SessionAuthority} {target : String}
    {revision : Int} (h : db.revokeSession current target revision now = .ok db') :
    Effect db now call db' := by
  unfold revokeSession at h
  split at h
  · cases h
  split at h
  · cases h
  obtain ⟨_, _, h⟩ := Fallible.bind_eq_ok.mp (answered_eq_ok h)
  obtain ⟨raised, hraised, h⟩ := Fallible.bind_eq_ok.mp h
  cases raiseRevision_eq_ok hraised
  cases updateSessions_eq_ok h
  refine .revoked (by decide) ?_
  intro row hrow hp
  have htarget := hp
  simp only [isTarget, Bool.and_eq_true, decide_eq_true_eq] at hp
  refine ⟨active_unrevoked hp.2, ?_⟩
  intro principal hprincipal
  have huser : principal.userId = row.userId := Table.key_of_find? hprincipal
  exact decide_eq_true ⟨huser.trans hp.1.1, row, hrow, htarget⟩

/-- What a committed revocation of the others did. -/
theorem revokeOthers_eq_ok {current : SessionAuthority} {revision count : Int}
    (h : db.revokeOtherSessions current revision count now = .ok db') :
    (∃ principal ∈ db.principals.find? current.userId,
      (principal.sessionSetRevision : Int) = revision) ∧
      ((db.sessions.rows.countP (isOther current now) : Nat) : Int) = count ∧
      db' = { db with
        principals := raised db.principals fun principal =>
          decide (principal.userId = current.userId ∧ 0 < count)
        sessions := db.sessions.modifyWhere (isOther current now)
          (BrowserSession.revoke now .userRevokedOthers) } := by
  unfold revokeOtherSessions at h
  split at h
  · cases h
  obtain ⟨_, hguard, h⟩ := Fallible.bind_eq_ok.mp (answered_eq_ok h)
  obtain ⟨raised, hraised, h⟩ := Fallible.bind_eq_ok.mp h
  cases raiseRevision_eq_ok hraised
  cases updateSessions_eq_ok h
  obtain ⟨hrevision, hcount⟩ := require_eq_ok.mp hguard
  exact ⟨hrevision, hcount, rfl⟩

theorem revokeOthers_effect {call : SessionCall} {current : SessionAuthority}
    {revision count : Int} (h : db.revokeOtherSessions current revision count now = .ok db') :
    Effect db now call db' := by
  obtain ⟨_, hcount, rfl⟩ := revokeOthers_eq_ok h
  refine .revoked (by decide) ?_
  intro row hrow hp
  have hpositive : 0 < db.sessions.rows.countP (isOther current now) :=
    List.countP_pos_iff.mpr ⟨row, hrow, hp⟩
  simp only [isOther, Bool.and_eq_true, decide_eq_true_eq] at hp
  refine ⟨active_unrevoked hp.2, ?_⟩
  intro principal hprincipal
  have huser : principal.userId = row.userId := Table.key_of_find? hprincipal
  refine decide_eq_true ⟨huser.trans hp.1.1, ?_⟩
  rw [← hcount]
  exact Int.natCast_pos.mpr hpositive

theorem startLogin_effect {stateDigest nonceDigest : String} {bound : Option SessionAuthority}
    (hfresh : stateDigest ∉ db.drawn)
    (h : db.startLogin stateDigest nonceDigest bound now = .ok db') :
    Effect db now (.startLogin stateDigest nonceDigest bound) db' := by
  unfold startLogin at h
  split at h
  · split at h
    · cases h
    · next hinsert =>
        cases h
        exact .started hfresh rfl rfl hinsert
  · cases h

theorem finishLogin_effect {input : LoginCommit} {draws : LoginDraws}
    (h : db.finishLogin input draws now = .ok db') :
    Effect db now (.finishLogin input draws) db' := by
  unfold finishLogin at h
  split at h
  · split at h
    · next hlogin =>
        cases h
        exact .loggedIn (createLogin_eq_ok hlogin)
    · cases h
  · cases h

/-- Every step is one of the effects. -/
theorem step_effect {call : SessionCall} (h : SessionStep db (call, now) db') :
    Effect db now call db' := by
  cases h with
  | refuse => exact .kept
  | commit hfresh hcommit =>
      cases call with
      | startLogin => exact startLogin_effect hfresh (Fallible.eq_ok_of_toOption hcommit)
      | finishLogin => exact finishLogin_effect (Fallible.eq_ok_of_toOption hcommit)
      | logout => exact revokeCurrent_effect (Fallible.eq_ok_of_toOption hcommit)
      | revokeSession => exact revokeSession_effect (Fallible.eq_ok_of_toOption hcommit)
      | revokeOthers => exact revokeOthers_effect (Fallible.eq_ok_of_toOption hcommit)
      | activity =>
          cases hcommit
          exact .seen
      | cleanup =>
          cases hcommit
          exact .cleaned

end Effects

/-! ## Revisions -/

section Revisions

variable {principals principals' : Table Principal.userId} {userId : Token}
  {p : Principal → Bool}

theorem setRevision_raised :
    setRevision (raised principals p) userId =
      setRevision principals userId +
        if ∃ row ∈ principals.find? userId, p row = true then 1 else 0 := by
  have hraised := Table.find?_modifyWhere principals p
    (fun row => { row with sessionSetRevision := row.sessionSetRevision + 1 }) userId
  unfold setRevision raised
  rw [hraised]
  cases hfind : principals.find? userId with
  | none => simp
  | some row => by_cases hp : p row = true <;> simp [hp]

theorem Ensured.kept {db : SessionDb} {googleSub : String} {principal row : Principal}
    (h : Ensured db googleSub principals principal) (hrow : db.principals.find? userId = some row) :
    principals.find? userId = some row := by
  cases h with
  | found => exact hrow
  | created _ hinsert =>
      rw [Table.find?_insert? hinsert]
      split
      · next hkey =>
          rw [hkey] at hrow
          rw [(Table.insert?_eq_some hinsert).1] at hrow
          cases hrow
      · exact hrow

theorem principalOf_eq_some {db : SessionDb} {googleSub : String} {principal : Principal}
    (h : db.principalOf googleSub = some principal) :
    principal ∈ db.principals ∧ principal.googleSub = googleSub := by
  unfold principalOf at h
  have hsub := List.find?_some h
  exact ⟨List.mem_of_find?_eq_some h, of_decide_eq_true hsub⟩

theorem Ensured.principal {db : SessionDb} {googleSub : String} {principal : Principal}
    (h : Ensured db googleSub principals principal) :
    principals.find? principal.userId = some principal ∧ principal.googleSub = googleSub := by
  cases h with
  | found hfound =>
      obtain ⟨hmem, hsub⟩ := principalOf_eq_some hfound
      exact ⟨Table.find?_of_mem hmem, hsub⟩
  | created _ hinsert =>
      refine ⟨?_, rfl⟩
      rw [Table.find?_insert? hinsert]
      simp

/-- A user whose principal is not of the subject keeps the revision. -/
theorem Ensured.revision {db : SessionDb} {googleSub : String} {principal : Principal}
    (h : Ensured db googleSub principals principal) (hother : userId ≠ principal.userId) :
    setRevision principals userId = db.revisionOf userId := by
  cases h with
  | found => rfl
  | created _ hinsert =>
      unfold setRevision revisionOf setRevision
      rw [Table.find?_insert? hinsert, if_neg hother]

theorem Ensured.revision_le {db : SessionDb} {googleSub : String} {principal : Principal}
    (h : Ensured db googleSub principals principal) :
    db.revisionOf userId ≤ setRevision principals userId := by
  cases hrow : db.principals.find? userId with
  | none => simp [revisionOf, setRevision, hrow]
  | some row => simp [revisionOf, setRevision, hrow, h.kept hrow]

end Revisions

/-! ## Sessions of a user -/

section Cores

variable {sessions sessions' : Table BrowserSession.sessionId} {userId : Token}

/-- An update that leaves the sessions of a user as they are. -/
theorem sessionCores_modifyWhere {p : BrowserSession → Bool} {f : BrowserSession → BrowserSession}
    (huser : ∀ row, (f row).userId = row.userId)
    (hcore : ∀ row ∈ sessions, row.userId = userId → p row = true → (f row).core = row.core)
    (hf : ∀ row, (f row).sessionId = row.sessionId := by intro _; rfl) :
    sessionCores (sessions.modifyWhere p f hf) userId = sessionCores sessions userId := by
  have hkeeps : ∀ row, (if p row = true then f row else row).userId = row.userId := by
    intro row
    split
    · exact huser row
    · rfl
  simp only [sessionCores, Table.modifyWhere, List.filter_map, List.map_map]
  have hfilter : (fun row : BrowserSession => decide (row.userId = userId)) ∘
      (fun row => if p row = true then f row else row) = fun row => decide (row.userId = userId) := by
    funext row
    simp only [Function.comp_apply, hkeeps]
  rw [hfilter]
  apply List.map_congr_left
  intro row hrow
  obtain ⟨hmem, hof⟩ := List.mem_filter.mp hrow
  simp only [Function.comp_apply]
  split
  · next hp => exact hcore row hmem (of_decide_eq_true hof) hp
  · rfl

theorem sessionCores_insert? {row : BrowserSession} (h : sessions.insert? row = some sessions')
    (hother : row.userId ≠ userId) : sessionCores sessions' userId = sessionCores sessions userId := by
  simp [sessionCores, (Table.insert?_eq_some h).2, List.filter_append, hother]

theorem sessionCores_deleteWhere {p : BrowserSession → Bool} :
    (sessionCores (sessions.deleteWhere p) userId).Sublist (sessionCores sessions userId) :=
  (List.filter_sublist.filter _).map _

theorem core_active (row : BrowserSession) (now : Us) : row.core.active now = row.active now := rfl

end Cores

section Counting

variable {db db' : SessionDb} {now : Us} {call : SessionCall} {userId : Token}

/-- The revision of the user rises, or no session is active that was not and the others are
those there were, but for some that were not active. -/
def Counted (db db' : SessionDb) (userId : Token) (now : Us) : Prop :=
  db.revisionOf userId < db'.revisionOf userId ∨
    db'.revisionOf userId = db.revisionOf userId ∧
      (db'.cores userId).Sublist (db.cores userId) ∧
        db'.activeSessions userId now = db.activeSessions userId now

theorem counted_of_cores (hrevision : db'.revisionOf userId = db.revisionOf userId)
    (hcores : db'.cores userId = db.cores userId) : Counted db db' userId now := by
  refine Or.inr ⟨hrevision, ?_, ?_⟩
  · rw [hcores]
  · simp only [activeSessions, hcores]

/-- The session a login rotates is active, and of the subject. -/
theorem bound_of_approved {input : LoginCommit} (h : db.loginApproved input now)
    {row : BrowserSession} (hrow : row ∈ db.sessions)
    (hbound : db.isBound input.stateDigest row = true) :
    row.active now = true ∧
      ∃ principal ∈ db.principals.find? row.userId, principal.googleSub = input.googleSub := by
  obtain ⟨login, hlogin, _, _, _, hrotates⟩ := h
  have hlogin : db.logins.find? input.stateDigest = some login := hlogin
  simp only [isBound, hlogin, Option.bind_some, decide_eq_true_eq, Option.map_eq_some_iff] at hbound
  obtain ⟨bound, hnamed, hid⟩ := hbound
  obtain ⟨found, hfound, _, hactive, principal, hprincipal, hsub⟩ := hrotates bound hnamed
  have hfound : db.sessions.find? row.sessionId = some found := hid ▸ hfound
  rw [Table.find?_of_mem hrow] at hfound
  cases hfound
  exact ⟨hactive, principal, hprincipal, hsub⟩

theorem oldSession_inactive {row : BrowserSession} (h : oldSession now row = true) :
    row.active now = false := by
  unfold oldSession at h
  have hold := (le_max_left row.expiresAtUs _).trans_lt (of_decide_eq_true h)
  have hexpired : ¬ now < row.expiresAtUs := by
    intro hlive
    have hback : now - 2592000000000 < now := Int.sub_lt_self _ (by decide)
    exact absurd ((hlive.trans hold).trans hback) (lt_irrefl _)
  simp [BrowserSession.active, hexpired]

theorem Effect.counted (h : Effect db now call db') (userId : Token)
    (howned : ∀ row ∈ db.sessions, db.principals.find? row.userId ≠ none) :
    Counted db db' userId now := by
  cases h with
  | kept => exact counted_of_cores rfl rfl
  | started => exact counted_of_cores rfl rfl
  | @loggedIn input draws _ hlogin =>
      obtain @⟨principals, principal, happroved, hensured, hinsert, hprincipals, _, _⟩ := hlogin
      have hrevision : db'.revisionOf userId = setRevision principals userId +
          if ∃ row ∈ principals.find? userId, (row.googleSub == input.googleSub) = true then 1
          else 0 := by
        unfold revisionOf
        rw [hprincipals]
        exact setRevision_raised
      by_cases hof : ∃ row ∈ principals.find? userId, (row.googleSub == input.googleSub) = true
      · left
        rw [if_pos hof] at hrevision
        rw [hrevision]
        exact Nat.lt_succ_of_le hensured.revision_le
      · obtain ⟨hprincipal, hsub⟩ := hensured.principal
        have hother : userId ≠ principal.userId := by
          rintro rfl
          exact hof ⟨principal, hprincipal, beq_iff_eq.mpr hsub⟩
        apply counted_of_cores
        · rw [hrevision, if_neg hof]
          exact hensured.revision hother
        · unfold cores
          rw [sessionCores_insert? hinsert hother.symm]
          refine sessionCores_modifyWhere ?_ ?_
          · exact fun _ => rfl
          intro row hrow huser hp
          rw [Bool.and_eq_true] at hp
          obtain ⟨_, bound, hbound, hboundSub⟩ := bound_of_approved happroved hrow hp.1
          rw [huser] at hbound
          exact absurd ⟨bound, hensured.kept hbound, beq_iff_eq.mpr hboundSub⟩ hof
  | @revoked _ p q reason _ hrevokes =>
      have hrevision : setRevision (raised db.principals q) userId = setRevision db.principals userId +
          if ∃ row ∈ db.principals.find? userId, q row = true then 1 else 0 :=
        setRevision_raised
      by_cases hof : ∃ row ∈ db.principals.find? userId, q row = true
      · left
        rw [if_pos hof] at hrevision
        show setRevision db.principals userId < setRevision (raised db.principals q) userId
        rw [hrevision]
        exact Nat.lt_succ_self _
      · rw [if_neg hof] at hrevision
        refine counted_of_cores hrevision ?_
        refine sessionCores_modifyWhere ?_ ?_
        · exact fun _ => rfl
        intro row hrow huser hp
        obtain ⟨principal, hprincipal⟩ := Option.ne_none_iff_exists'.mp (howned row hrow)
        have hraised := (hrevokes row hrow hp).2 principal hprincipal
        rw [huser] at hprincipal
        exact absurd ⟨principal, hprincipal, hraised⟩ hof
  | seen =>
      refine counted_of_cores rfl ?_
      refine sessionCores_modifyWhere ?_ ?_
      · exact fun _ => rfl
      · exact fun _ _ _ _ => rfl
  | cleaned =>
      refine Or.inr ⟨rfl, sessionCores_deleteWhere, ?_⟩
      simp only [activeSessions, cores, sessionCores, cleanup, Table.deleteWhere, List.filter_map,
        List.filter_filter, List.map_map]
      congr 1
      apply List.filter_congr
      intro row _
      cases hold : oldSession now row with
      | false => simp
      | true => simp [core_active, oldSession_inactive hold]

end Counting

/-! ## Invariants -/

/-- One principal for a subject, a principal for every session, and logins with drawn
states. -/
structure Sound (db : SessionDb) : Prop where
  subjects : (db.principals.rows.map Principal.googleSub).Nodup
  owned : ∀ row ∈ db.sessions, db.principals.find? row.userId ≠ none
  drawn : ∀ login ∈ db.logins, login.stateDigest ∈ db.drawn

theorem Initial.sound {db : SessionDb} (h : db.Initial) : db.Sound := by
  obtain ⟨hprincipals, hsessions, hlogins, _⟩ := h
  constructor
  · simp [hprincipals, Table.empty]
  · simp [hsessions]
  · simp [hlogins]

section Invariants

variable {db db' : SessionDb} {now : Us} {call : SessionCall}

theorem raised_subjects {principals : Table Principal.userId} {p : Principal → Bool} :
    (raised principals p).rows.map Principal.googleSub =
      principals.rows.map Principal.googleSub := by
  simp only [raised, Table.modifyWhere, List.map_map]
  apply List.map_congr_left
  intro row _
  simp only [Function.comp_apply]
  split <;> rfl

theorem raised_find? {principals : Table Principal.userId} {p : Principal → Bool} {userId : Token}
    (h : principals.find? userId ≠ none) : (raised principals p).find? userId ≠ none := by
  have hraised := Table.find?_modifyWhere principals p
    (fun row => { row with sessionSetRevision := row.sessionSetRevision + 1 }) userId
  unfold raised
  rw [hraised]
  cases hfind : principals.find? userId with
  | none => exact absurd hfind h
  | some row => simp

theorem Ensured.subjects {googleSub : String} {principals : Table Principal.userId}
    {principal : Principal} (h : Ensured db googleSub principals principal)
    (hsubjects : (db.principals.rows.map Principal.googleSub).Nodup) :
    (principals.rows.map Principal.googleSub).Nodup := by
  cases h with
  | found => exact hsubjects
  | @created _ userId hnone hinsert =>
      rw [(Table.insert?_eq_some hinsert).2, List.map_append, List.map_singleton]
      refine List.nodup_append.mpr ⟨hsubjects, List.nodup_singleton _, ?_⟩
      intro known hknown new hnew hsame
      obtain ⟨row, hrow, rfl⟩ := List.mem_map.mp hknown
      rw [List.mem_singleton] at hnew
      have hother := List.find?_eq_none.mp hnone row hrow
      exact hother (decide_eq_true (hsame.trans hnew))

/-- Every session of a table that an update does not add to has the user of one before. -/
theorem owned_modifyWhere {sessions : Table BrowserSession.sessionId} {p : BrowserSession → Bool}
    {f : BrowserSession → BrowserSession} {principals : Table Principal.userId}
    (huser : ∀ row, (f row).userId = row.userId)
    (h : ∀ row ∈ sessions, principals.find? row.userId ≠ none)
    (hf : ∀ row, (f row).sessionId = row.sessionId := by intro _; rfl) :
    ∀ row ∈ sessions.modifyWhere p f hf, principals.find? row.userId ≠ none := by
  intro row hrow
  obtain ⟨old, hold, rfl⟩ := Table.mem_modifyWhere.mp hrow
  split
  · rw [huser]
    exact h old hold
  · exact h old hold

theorem Effect.sound (h : Effect db now call db') (hsound : db.Sound) : db'.Sound := by
  obtain ⟨hsubjects, howned, hdrawn⟩ := hsound
  cases h with
  | kept => exact ⟨hsubjects, howned, hdrawn⟩
  | started _ hstate _ hinsert =>
      refine ⟨hsubjects, howned, ?_⟩
      intro login hlogin
      rcases (Table.mem_insert? hinsert).mp hlogin with hold | rfl
      · exact List.mem_cons_of_mem _ (hdrawn login hold)
      · rw [hstate]
        exact List.mem_cons_self
  | loggedIn hlogin =>
      obtain ⟨_, hensured, hinsert, hprincipals, hlogins, hkept⟩ := hlogin
      have hknown : ∀ userId, db.principals.find? userId ≠ none →
          db'.principals.find? userId ≠ none := by
        intro userId hfound
        obtain ⟨principal, hprincipal⟩ := Option.ne_none_iff_exists'.mp hfound
        rw [hprincipals]
        apply raised_find?
        rw [hensured.kept hprincipal]
        exact Option.some_ne_none _
      refine ⟨?_, ?_, ?_⟩
      · rw [hprincipals, raised_subjects]
        exact hensured.subjects hsubjects
      · intro row hrow
        rcases (Table.mem_insert? hinsert).mp hrow with hold | rfl
        · obtain ⟨old, hmem, rfl⟩ := Table.mem_modifyWhere.mp hold
          split
          · exact hknown _ (howned old hmem)
          · exact hknown _ (howned old hmem)
        · rw [hprincipals]
          apply raised_find?
          rw [hensured.principal.1]
          exact Option.some_ne_none _
      · intro login hlogin
        rw [hlogins] at hlogin
        rw [hkept]
        rcases Table.mem_modify_cases hlogin with ⟨hold, _⟩ | ⟨old, hold, rfl⟩
        · exact hdrawn login hold
        · exact hdrawn old (Table.mem_of_find? hold)
  | revoked _ hrevokes =>
      refine ⟨?_, ?_, hdrawn⟩
      · rw [raised_subjects]
        exact hsubjects
      · refine owned_modifyWhere ?_ ?_
        · exact fun _ => rfl
        · exact fun row hrow => raised_find? (howned row hrow)
  | seen =>
      refine ⟨hsubjects, ?_, hdrawn⟩
      refine owned_modifyWhere ?_ ?_
      · exact fun _ => rfl
      · exact howned
  | cleaned =>
      refine ⟨hsubjects, ?_, ?_⟩
      · intro row hrow
        exact howned row (List.mem_filter.mp hrow).1
      · intro login hlogin
        exact hdrawn login (List.mem_filter.mp hlogin).1

end Invariants

end SessionDb

end FlickrGroupAddr

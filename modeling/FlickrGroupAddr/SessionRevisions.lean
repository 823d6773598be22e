import FlickrGroupAddr.SessionSets

/-!
# Runs of the browser sessions

What a caller saw at a revision is what a later batch at that revision meets, and a login
transaction opens one session.
-/

namespace FlickrGroupAddr

set_option autoImplicit false

open KeyedTable Transition

namespace SessionDb

/-! ## One revision, one set -/

section Sets

variable {db db' : SessionDb} {current : SessionAuthority} {now : Us}

theorem mem_cores {userId : Token} {core : SessionCore} :
    core ∈ db.cores userId ↔ ∃ row ∈ db.sessions, row.userId = userId ∧ row.core = core := by
  simp [cores, sessionCores, Table.mem_def, and_assoc]

/-- A session has one row. -/
theorem cores_nodup (userId : Token) :
    ((db.cores userId).map SessionCore.sessionId).Nodup := by
  have hids : (db.cores userId).map SessionCore.sessionId =
      (db.sessions.rows.filter fun row => row.userId = userId).map BrowserSession.sessionId := by
    simp only [cores, sessionCores, List.map_map]
    rfl
  rw [hids]
  exact (List.filter_sublist.map _).nodup db.sessions.nodup

theorem mem_otherSessions {id : Token} :
    id ∈ db.otherSessions current now ↔
      ∃ core ∈ db.cores current.userId, core.active now = true ∧ core.sessionId = id ∧
        id ≠ current.sessionId := by
  simp only [otherSessions, activeSessions, List.mem_filter, List.mem_map, decide_eq_true_eq]
  constructor
  · rintro ⟨⟨core, ⟨hcore, hactive⟩, rfl⟩, hother⟩
    exact ⟨core, hcore, hactive, rfl, hother⟩
  · rintro ⟨core, hcore, hactive, rfl, hother⟩
    exact ⟨⟨core, ⟨hcore, hactive⟩, rfl⟩, hother⟩

theorem otherSessions_eq :
    db.otherSessions current now =
      (db.sessions.rows.filter (isOther current now)).map BrowserSession.sessionId := by
  simp only [otherSessions, activeSessions, cores, sessionCores, List.filter_map, List.map_map,
    List.filter_filter]
  refine congrArg (List.map BrowserSession.sessionId) ?_
  apply List.filter_congr
  intro row _
  rw [Bool.eq_iff_iff]
  simp only [Function.comp_apply, core_active, isOther, Bool.and_eq_true, decide_eq_true_eq]
  constructor
  · rintro ⟨hother, hactive, huser⟩
    exact ⟨⟨huser, hother⟩, hactive⟩
  · rintro ⟨⟨huser, hother⟩, hactive⟩
    exact ⟨hother, hactive, huser⟩

theorem mem_activeSessions {userId id : Token} :
    id ∈ db.activeSessions userId now ↔
      ∃ row ∈ db.sessions, row.userId = userId ∧ row.active now = true ∧ row.sessionId = id := by
  simp only [activeSessions, List.mem_map, List.mem_filter, mem_cores]
  constructor
  · rintro ⟨core, ⟨⟨row, hrow, huser, rfl⟩, hactive⟩, rfl⟩
    exact ⟨row, hrow, huser, hactive, rfl⟩
  · rintro ⟨row, hrow, huser, hactive, rfl⟩
    exact ⟨row.core, ⟨⟨row, hrow, huser, rfl⟩, hactive⟩, rfl⟩

theorem otherSessions_length :
    (db.otherSessions current now).length = db.sessions.rows.countP (isOther current now) := by
  rw [otherSessions_eq, List.length_map, List.countP_eq_length_filter]

/-- The row is revoked with the others exactly if its id is among them. -/
theorem isOther_iff {row : BrowserSession} (hrow : row ∈ db.sessions) :
    isOther current now row = true ↔ row.sessionId ∈ db.otherSessions current now := by
  rw [otherSessions_eq, List.mem_map]
  constructor
  · intro h
    exact ⟨row, List.mem_filter.mpr ⟨hrow, h⟩, rfl⟩
  · rintro ⟨found, hfound, hid⟩
    obtain ⟨hmem, h⟩ := List.mem_filter.mp hfound
    rw [← Table.eq_of_key_eq hmem hrow hid]
    exact h

theorem otherSessions_sublist (h : (db'.cores current.userId).Sublist (db.cores current.userId)) :
    (db'.otherSessions current now).Sublist (db.otherSessions current now) :=
  ((h.filter _).map _).filter _

/-- What is active later was active before. -/
theorem otherSessions_earlier {earlier : Us} (h : earlier ≤ now) :
    (db.otherSessions current now).Sublist (db.otherSessions current earlier) := by
  refine (List.Sublist.map _ ?_).filter _
  apply List.monotone_filter_right
  intro core hactive
  simp only [SessionCore.active, Bool.and_eq_true, decide_eq_true_eq] at hactive ⊢
  exact ⟨hactive.1, h.trans_lt hactive.2⟩

/-- The revision of a user never falls, and while it stays no session is added or revoked. -/
structure Since (userId : Token) (db db' : SessionDb) : Prop where
  revision : db.revisionOf userId ≤ db'.revisionOf userId
  cores : db'.revisionOf userId = db.revisionOf userId →
    (db'.cores userId).Sublist (db.cores userId)

theorem Since.refl (userId : Token) (db : SessionDb) : Since userId db db :=
  ⟨le_rfl, fun _ => List.Sublist.refl _⟩

theorem Since.trans {userId : Token} {middle : SessionDb} (h : Since userId db middle)
    (h' : Since userId middle db') : Since userId db db' := by
  refine ⟨h.revision.trans h'.revision, ?_⟩
  intro hsame
  have hmiddle : middle.revisionOf userId = db.revisionOf userId :=
    le_antisymm (hsame ▸ h'.revision) h.revision
  exact (h'.cores (hsame.trans hmiddle.symm)).trans (h.cores hmiddle)

theorem Counted.since {userId : Token} (h : Counted db db' userId now) : Since userId db db' := by
  rcases h with hraised | ⟨hsame, hcores, _⟩
  · exact ⟨hraised.le, fun hsame => absurd hsame hraised.ne'⟩
  · exact ⟨hsame.ge, fun _ => hcores⟩

end Sets

section Runs

variable {start db : SessionDb} {trace : List (Move SessionDb (SessionCall × Us))}

theorem sound_run (hsound : start.Sound) (hrun : Run SessionStep start trace db) : db.Sound := by
  refine hrun.invariant hsound ?_
  rintro ⟨src, ⟨call, now⟩, dst⟩ _ hsrc hstep
  exact (step_effect hstep).sound hsrc

/-- From one state of a run to a later one. -/
theorem since_run (userId : Token) (hsound : start.Sound) (hrun : Run SessionStep start trace db) :
    Since userId start db := by
  induction hrun with
  | nil => exact Since.refl userId _
  | @snoc middle last front label hfront hstep ih =>
      obtain ⟨call, now⟩ := label
      have howned := (sound_run hsound hfront).owned
      exact ih.trans ((step_effect hstep).counted userId howned).since

end Runs

/-! ## Revoking the others -/

/-- The batch revoked the other sessions: those that were active at the revision its caller
named, in every state of the run with that revision.  `since` leaves out the sessions that
were deleted after their expiry; `shown` has the ones that a caller counted. -/
structure RevokedOthers (earlier : List SessionDb) (src dst : SessionDb)
    (current : SessionAuthority) (revision count : Int) (now : Us) : Prop where
  named : (src.revisionOf current.userId : Int) = revision
  counted : ((src.otherSessions current now).length : Int) = count
  revoked : ∀ id, dst.sessions.find? id = (src.sessions.find? id).map fun row =>
    if id ∈ src.otherSessions current now then row.revoke now .userRevokedOthers else row
  since : ∀ db ∈ earlier, (db.revisionOf current.userId : Int) = revision → ∀ id,
    id ∈ src.otherSessions current now ↔
      id ∈ db.otherSessions current now ∧
        id ∈ (src.cores current.userId).map SessionCore.sessionId
  shown : ∀ db ∈ earlier, (db.revisionOf current.userId : Int) = revision → ∀ seen ≤ now,
    ((db.otherSessions current seen).length : Int) = count →
      db.otherSessions current seen = src.otherSessions current now

theorem revokedOthers {start src dst : SessionDb}
    {front : List (Move SessionDb (SessionCall × Us))} {current : SessionAuthority}
    {revision count : Int} {now : Us} (hsound : start.Sound)
    (hrun : Run SessionStep start front src)
    (h : src.revokeOtherSessions current revision count now = .ok dst) :
    RevokedOthers (visited start front) src dst current revision count now := by
  obtain ⟨⟨principal, hprincipal, hrevision⟩, hcount, rfl⟩ := revokeOthers_eq_ok h
  have hnamed : (src.revisionOf current.userId : Int) = revision := by
    have hfound : src.principals.find? current.userId = some principal := hprincipal
    simpa [revisionOf, setRevision, hfound] using hrevision
  have hlength : ((src.otherSessions current now).length : Int) = count := by
    rw [otherSessions_length]
    exact hcount
  have hcores : ∀ db ∈ visited start front, (db.revisionOf current.userId : Int) = revision →
      (src.cores current.userId).Sublist (db.cores current.userId) := by
    intro db hdb hsame
    obtain ⟨⟨before, hbefore⟩, after, hafter⟩ := hrun.mem_visited hdb
    have hsince := since_run current.userId (sound_run hsound hbefore) hafter
    apply hsince.cores
    exact Int.ofNat.inj (hnamed.trans hsame.symm)
  refine ⟨hnamed, hlength, ?_, ?_, ?_⟩
  · intro id
    have hfind := Table.find?_modifyWhere src.sessions (isOther current now)
      (BrowserSession.revoke now .userRevokedOthers) id
    dsimp only
    rw [hfind]
    cases hfind : src.sessions.find? id with
    | none => rfl
    | some row =>
        obtain ⟨hrow, rfl⟩ := Table.find?_eq_some.mp hfind
        simp only [Option.map_some, isOther_iff hrow]
  · intro db hdb hsame id
    have hsub := hcores db hdb hsame
    constructor
    · intro hid
      refine ⟨(otherSessions_sublist hsub).subset hid, ?_⟩
      obtain ⟨core, hcore, _, rfl, _⟩ := mem_otherSessions.mp hid
      exact List.mem_map_of_mem hcore
    · rintro ⟨hid, hkept⟩
      obtain ⟨core, hcore, hactive, rfl, hother⟩ := mem_otherSessions.mp hid
      obtain ⟨found, hfound, hsameId⟩ := List.mem_map.mp hkept
      have hone : found = core :=
        List.inj_on_of_nodup_map (cores_nodup current.userId) (hsub.subset hfound) hcore hsameId
      rw [hone] at hfound
      exact mem_otherSessions.mpr ⟨core, hfound, hactive, rfl, hother⟩
  · intro db hdb hsame seen hseen hshown
    have hsub := (otherSessions_sublist (hcores db hdb hsame)).trans
      (otherSessions_earlier hseen)
    exact (hsub.eq_of_length (Int.ofNat.inj (hlength.trans hshown.symm))).symm

/-! ## Logins -/

/-- The login transaction of this state was open before and is consumed after. -/
def Consumed (src dst : SessionDb) (login : LoginTransaction) : Prop :=
  login ∈ src.logins ∧ login.consumedAtUs = none ∧
    ∃ used ∈ dst.logins, used.stateDigest = login.stateDigest ∧ used.consumedAtUs ≠ none

/-- A login does all of its work or none. -/
structure Rotates (src dst : SessionDb) (now : Us) : Prop where
  /-- What consumes a transaction opens a session, and revokes the one it is bound to. -/
  together : ∀ login, Consumed src dst login →
    ∃ new ∈ dst.sessions, src.sessions.find? new.sessionId = none ∧ new.active now = true ∧
      ∀ bound ∈ login.bound, new.userId = bound.2 ∧ bound.1 ∈ src.activeSessions bound.2 now ∧
        ∃ old ∈ dst.sessions.find? bound.1, old.revocation = some (now, .reauthenticated)
  /-- What opens a session consumes a transaction. -/
  opened : ∀ new ∈ dst.sessions, src.sessions.find? new.sessionId = none →
    ∃ login, Consumed src dst login
  /-- What revokes a session for a reauthentication consumes a transaction bound to it. -/
  rotated : ∀ old ∈ src.sessions, old.revocation = none →
    ∀ row ∈ dst.sessions.find? old.sessionId,
      row.revocation.map Prod.snd = some RevocationReason.reauthenticated →
        ∃ login, Consumed src dst login ∧ login.bound.map Prod.fst = some old.sessionId

section Logins

variable {db db' : SessionDb} {now : Us} {call : SessionCall}

/-- A step that keeps the old logins, adds open ones, and opens no session. -/
theorem rotates_of_quiet
    (hlogins : ∀ login ∈ db'.logins, login ∈ db.logins ∨ login.consumedAtUs = none)
    (hsessions : ∀ row ∈ db'.sessions, db.sessions.find? row.sessionId ≠ none)
    (hreasons : ∀ old ∈ db.sessions, old.revocation = none →
      ∀ row ∈ db'.sessions.find? old.sessionId,
        row.revocation.map Prod.snd ≠ some RevocationReason.reauthenticated) :
    Rotates db db' now := by
  refine ⟨?_, ?_, ?_⟩
  · rintro login ⟨hlogin, hopen, used, hused, hstate, hconsumed⟩
    rcases hlogins used hused with hold | hnew
    · rw [Table.eq_of_key_eq hold hlogin hstate] at hconsumed
      exact absurd hopen hconsumed
    · exact absurd hnew hconsumed
  · intro new hnew hmissing
    exact absurd hmissing (hsessions new hnew)
  · intro old hold hopen row hrow hreason
    exact absurd hreason (hreasons old hold hopen row hrow)

theorem find?_ne_none {row : BrowserSession} (h : row ∈ db.sessions) :
    db.sessions.find? row.sessionId ≠ none := by
  rw [Table.find?_of_mem h]
  exact Option.some_ne_none _

/-- An update of sessions for another reason. -/
theorem rotates_of_modifyWhere {p : BrowserSession → Bool} {f : BrowserSession → BrowserSession}
    (hf : ∀ row, (f row).sessionId = row.sessionId)
    (hsessions : db'.sessions = db.sessions.modifyWhere p f hf) (hlogins : db'.logins = db.logins)
    (hreason : ∀ row ∈ db.sessions, row.revocation = none →
      (f row).revocation.map Prod.snd ≠ some RevocationReason.reauthenticated) :
    Rotates db db' now := by
  have hold : ∀ row ∈ db'.sessions, ∃ old ∈ db.sessions, old.sessionId = row.sessionId ∧
      (row = f old ∨ row = old) := by
    intro row hrow
    rw [hsessions] at hrow
    obtain ⟨old, hold, rfl⟩ := Table.mem_modifyWhere.mp hrow
    refine ⟨old, hold, ?_⟩
    split
    · exact ⟨(hf old).symm, Or.inl rfl⟩
    · exact ⟨rfl, Or.inr rfl⟩
  refine rotates_of_quiet ?_ ?_ ?_
  · intro login hlogin
    rw [hlogins] at hlogin
    exact Or.inl hlogin
  · intro row hrow
    obtain ⟨old, hmem, hid, _⟩ := hold row hrow
    rw [← hid]
    exact find?_ne_none hmem
  · intro old hmem hopen row hrow
    obtain ⟨hrow, hid⟩ := Table.find?_eq_some.mp hrow
    obtain ⟨before, hbefore, hsame, hrow⟩ := hold row hrow
    have hone : before = old := Table.eq_of_key_eq hbefore hmem (hsame.trans hid)
    rw [hone] at hrow
    rcases hrow with rfl | rfl
    · exact hreason old hmem hopen
    · simp [hopen]

/-- The transaction of a login is open before it and consumed after it. -/
theorem LoggedIn.consumed {input : LoginCommit} {draws : LoginDraws}
    (h : LoggedIn db now input draws db') :
    ∃ login, db.logins.find? input.stateDigest = some login ∧ Consumed db db' login := by
  obtain ⟨⟨login, hlogin, _, hopen, _⟩, _, _, _, hlogins, _⟩ := h
  have hfound : db.logins.find? input.stateDigest = some login := hlogin
  obtain ⟨hmem, hstate⟩ := Table.find?_eq_some.mp hfound
  have hused : db'.logins.find? input.stateDigest =
      some { login with consumedAtUs := some now } := by
    rw [hlogins, Table.find?_modify, if_pos rfl, hfound]
    rfl
  exact ⟨login, hfound, hmem, hopen, _, Table.mem_of_find? hused, rfl, Option.some_ne_none _⟩

/-- A login consumes only its own transaction. -/
theorem LoggedIn.consumed_eq {input : LoginCommit} {draws : LoginDraws}
    (h : LoggedIn db now input draws db') {login : LoginTransaction}
    (hconsumed : Consumed db db' login) : db.logins.find? input.stateDigest = some login := by
  obtain ⟨_, _, _, _, hlogins, _⟩ := h
  obtain ⟨hmem, hopen, used, hused, hstate, hspent⟩ := hconsumed
  rw [hlogins] at hused
  rcases Table.mem_modify_cases hused with ⟨hold, _⟩ | ⟨old, hold, rfl⟩
  · rw [Table.eq_of_key_eq hold hmem hstate] at hspent
    exact absurd hopen hspent
  · rw [hold]
    obtain ⟨hmemOld, _⟩ := Table.find?_eq_some.mp hold
    exact congrArg some (Table.eq_of_key_eq hmemOld hmem hstate)

/-- The session that a login opens. -/
def newSession (draws : LoginDraws) (userId : Token) (now : Us) : BrowserSession :=
  ⟨draws.sessionId, draws.tokenDigest, userId, draws.csrfToken, now, now, none, 1,
    draws.transactionId⟩

theorem newSession_active (draws : LoginDraws) (userId : Token) (now : Us) :
    (newSession draws userId now).active now = true := by
  have hlive : now < now + 86400000000 := Int.lt_add_of_pos_right now (by decide)
  exact decide_eq_true hlive

/-- A session after a login: the one it opened, or one there was, which is revoked if the
transaction is bound to it. -/
theorem LoggedIn.sessions {input : LoginCommit} {draws : LoginDraws}
    (h : LoggedIn db now input draws db') :
    ∃ principal : Principal, principal.googleSub = input.googleSub ∧
      (∀ bound, (∃ other ∈ db.principals.find? bound, other.googleSub = input.googleSub) →
        db.Sound → principal.userId = bound) ∧
      db.sessions.find? draws.sessionId = none ∧
        db'.sessions.find? draws.sessionId = some (newSession draws principal.userId now) ∧
        ∀ id ≠ draws.sessionId, db'.sessions.find? id = (db.sessions.find? id).map fun row =>
          if (db.isBound input.stateDigest row && row.revocation.isNone) = true then
            row.revoke now .reauthenticated else row := by
  obtain @⟨principals, principal, _, hensured, hinsert, _, _, _⟩ := h
  obtain ⟨hprincipal, hsub⟩ := hensured.principal
  have hrotated := Table.find?_modifyWhere db.sessions
    (fun row => db.isBound input.stateDigest row && row.revocation.isNone)
    (BrowserSession.revoke now .reauthenticated)
  refine ⟨principal, hsub, ?_, ?_, ?_, ?_⟩
  · rintro bound ⟨other, hother, hotherSub⟩ hsound
    have hkept := hensured.kept hother
    have hone : principal = other := by
      apply List.inj_on_of_nodup_map (hensured.subjects hsound.subjects)
      · exact Table.mem_of_find? hprincipal
      · exact Table.mem_of_find? hkept
      · exact hsub.trans hotherSub.symm
    rw [hone]
    exact Table.key_of_find? hkept
  · have hfresh := (Table.insert?_eq_some hinsert).1
    rw [hrotated, Option.map_eq_none_iff] at hfresh
    exact hfresh
  · rw [Table.find?_insert? hinsert, if_pos rfl]
    rfl
  · intro id hid
    rw [Table.find?_insert? hinsert, if_neg hid]
    exact hrotated id

/-- A login opens one session. -/
theorem LoggedIn.opens {input : LoginCommit} {draws : LoginDraws}
    (h : LoggedIn db now input draws db') {row : BrowserSession} (hrow : row ∈ db'.sessions)
    (hnew : db.sessions.find? row.sessionId = none) : row.sessionId = draws.sessionId := by
  obtain ⟨_, _, _, _, _, hothers⟩ := h.sessions
  by_contra hother
  have hfound := hothers row.sessionId hother
  rw [Table.find?_of_mem hrow, hnew] at hfound
  cases hfound

/-- A login rotates the session its transaction is bound to. -/
theorem LoggedIn.rotates {input : LoginCommit} {draws : LoginDraws}
    (h : LoggedIn db now input draws db') (hsound : db.Sound) : Rotates db db' now := by
  obtain ⟨principal, _, huser, hfresh, hnew, hothers⟩ := h.sessions
  refine ⟨?_, ?_, ?_⟩
  · intro login hconsumed
    have hlogin := h.consumed_eq hconsumed
    refine ⟨newSession draws principal.userId now, Table.mem_of_find? hnew, hfresh,
      newSession_active _ _ _, ?_⟩
    intro bound hbound
    obtain ⟨⟨approved, happroved, _, _, _, hrotates⟩, _⟩ := h
    cases hlogin.symm.trans happroved
    obtain ⟨row, hrow, hof, hactive, other, hother, hsub⟩ := hrotates bound hbound
    obtain ⟨hmem, hid⟩ := Table.find?_eq_some.mp hrow
    have howner : principal.userId = bound.2 := hof ▸ huser row.userId ⟨other, hother, hsub⟩ hsound
    have hdistinct : bound.1 ≠ draws.sessionId := by
      intro hsame
      rw [hsame, hfresh] at hrow
      cases hrow
    have hisBound : db.isBound input.stateDigest row = true := by
      have hnamed : login.bound = some bound := hbound
      simp [isBound, hlogin, hnamed, hid]
    refine ⟨howner, mem_activeSessions.mpr ⟨row, hmem, hof, hactive, hid⟩, ?_⟩
    refine ⟨row.revoke now .reauthenticated, ?_, rfl⟩
    rw [hothers bound.1 hdistinct, hrow]
    simp [hisBound, active_unrevoked hactive]
  · intro new _ _
    obtain ⟨login, _, hconsumed⟩ := h.consumed
    exact ⟨login, hconsumed⟩
  · intro old hold hopen row hrow hreason
    have hdistinct : old.sessionId ≠ draws.sessionId := by
      intro hsame
      have hfound := Table.find?_of_mem hold
      rw [hsame, hfresh] at hfound
      cases hfound
    rw [hothers old.sessionId hdistinct, Table.find?_of_mem hold] at hrow
    obtain ⟨login, hlogin, hconsumed⟩ := h.consumed
    refine ⟨login, hconsumed, ?_⟩
    by_cases hbound : db.isBound input.stateDigest old = true
    · simpa [isBound, hlogin] using hbound
    · cases hrow
      simp [hbound, hopen] at hreason

theorem Effect.rotates (h : Effect db now call db') (hsound : db.Sound) : Rotates db db' now := by
  have hkept : ∀ old ∈ db.sessions, old.revocation = none →
      ∀ row ∈ db.sessions.find? old.sessionId,
        row.revocation.map Prod.snd ≠ some RevocationReason.reauthenticated := by
    intro old hold hopen row hrow
    rw [Table.find?_of_mem hold] at hrow
    cases hrow
    simp [hopen]
  cases h with
  | kept =>
      exact rotates_of_quiet (fun _ => Or.inl) (fun _ => find?_ne_none) hkept
  | started _ _ hopen hinsert =>
      refine rotates_of_quiet ?_ (fun _ => find?_ne_none) hkept
      intro login hlogin
      rcases (Table.mem_insert? hinsert).mp hlogin with hold | rfl
      · exact Or.inl hold
      · exact Or.inr hopen
  | loggedIn hlogin => exact hlogin.rotates hsound
  | revoked hreason hrevokes =>
      refine rotates_of_modifyWhere ?_ rfl rfl ?_
      · exact fun _ => rfl
      · intro row hrow hopen
        simp [BrowserSession.revoke, hreason]
  | seen =>
      refine rotates_of_modifyWhere ?_ rfl rfl ?_
      · exact fun _ => rfl
      · intro row hrow hopen
        simp [hopen]
  | cleaned =>
      refine rotates_of_quiet ?_ ?_ ?_
      · intro login hlogin
        exact Or.inl (List.mem_filter.mp hlogin).1
      · intro row hrow
        exact find?_ne_none (List.mem_filter.mp hrow).1
      · intro old hold hopen row hrow
        obtain ⟨hmem, hid⟩ := Table.find?_eq_some.mp hrow
        have hsame : row = old := Table.eq_of_key_eq (List.mem_filter.mp hmem).1 hold hid
        simp [hsame, hopen]

end Logins

/-! ## One session for a transaction -/

/-- The sessions that a step opens. -/
def opened (src dst : SessionDb) : List Token :=
  (dst.sessions.rows.map BrowserSession.sessionId).filter fun id =>
    decide (src.sessions.find? id = none)

end SessionDb

/-- The call completes the login of this state. -/
def SessionCall.finishes (stateDigest : String) : SessionCall → Bool
  | .finishLogin input _ => input.stateDigest == stateDigest
  | _ => false

namespace SessionDb

/-- The sessions that a run opened for the login of this state. -/
def produced (stateDigest : String) (trace : List (Move SessionDb (SessionCall × Us))) :
    List Token :=
  trace.flatMap fun move =>
    if move.label.1.finishes stateDigest then opened move.src move.dst else []

/-- The login of this state was started and is over. -/
def Spent (db : SessionDb) (stateDigest : String) : Prop :=
  stateDigest ∈ db.drawn ∧
    ∀ login ∈ db.logins.find? stateDigest, login.consumedAtUs ≠ none

section Produced

variable {db db' : SessionDb} {now : Us} {call : SessionCall} {stateDigest : String}

/-- A login opens at most one session. -/
theorem LoggedIn.opened_length {input : LoginCommit} {draws : LoginDraws}
    (h : LoggedIn db now input draws db') : (opened db db').length ≤ 1 := by
  have hnodup : (opened db db').Nodup := db'.sessions.nodup.filter _
  have hone : ∀ id ∈ opened db db', id = draws.sessionId := by
    intro id hid
    obtain ⟨hmem, hmissing⟩ := List.mem_filter.mp hid
    obtain ⟨row, hrow, rfl⟩ := List.mem_map.mp hmem
    exact h.opens hrow (of_decide_eq_true hmissing)
  exact (List.nodup_replicate.mp (List.eq_replicate_of_mem hone ▸ hnodup))

theorem opened_eq_nil (h : ∀ row ∈ db'.sessions, db.sessions.find? row.sessionId ≠ none) :
    opened db db' = [] := by
  apply List.filter_eq_nil_iff.mpr
  intro id hid hmissing
  obtain ⟨row, hrow, rfl⟩ := List.mem_map.mp hid
  exact h row hrow (of_decide_eq_true hmissing)

/-- What finishes a login opens no session, or is the login of this state. -/
theorem Effect.finishes (h : Effect db now call db')
    (hfinishes : call.finishes stateDigest = true) :
    opened db db' = [] ∨ ∃ input draws, input.stateDigest = stateDigest ∧
      LoggedIn db now input draws db' := by
  cases h with
  | kept => exact Or.inl (opened_eq_nil fun _ => find?_ne_none)
  | started => cases hfinishes
  | loggedIn hlogin => exact Or.inr ⟨_, _, beq_iff_eq.mp hfinishes, hlogin⟩
  | @revoked _ p q reason =>
      left
      apply opened_eq_nil
      intro row hrow
      have hupdated : row ∈ db.sessions.modifyWhere p (BrowserSession.revoke now reason) := hrow
      obtain ⟨old, hold, rfl⟩ := Table.mem_modifyWhere.mp hupdated
      have hid : (if p old = true then BrowserSession.revoke now reason old else old).sessionId =
          old.sessionId := by
        split <;> rfl
      rw [hid]
      exact find?_ne_none hold
  | seen => cases hfinishes
  | cleaned => cases hfinishes

theorem Effect.spent (h : Effect db now call db') (hspent : db.Spent stateDigest) :
    db'.Spent stateDigest := by
  obtain ⟨hdrawn, hover⟩ := hspent
  cases h with
  | kept | revoked | seen => exact ⟨hdrawn, hover⟩
  | started hfresh hstate _ hinsert =>
      refine ⟨List.mem_cons_of_mem _ hdrawn, ?_⟩
      intro login hlogin
      rw [Table.find?_insert? hinsert, hstate] at hlogin
      split at hlogin
      · next hsame => exact absurd (hsame ▸ hdrawn) hfresh
      · exact hover login hlogin
  | loggedIn hlogin =>
      obtain ⟨_, _, _, _, hlogins, hkept⟩ := hlogin
      refine ⟨hkept ▸ hdrawn, ?_⟩
      intro login hlogin
      rw [hlogins, Table.find?_modify] at hlogin
      split at hlogin
      · obtain ⟨old, _, rfl⟩ := Option.map_eq_some_iff.mp hlogin
        exact Option.some_ne_none _
      · exact hover login hlogin
  | cleaned =>
      refine ⟨hdrawn, ?_⟩
      intro login hlogin
      obtain ⟨hmem, hstate⟩ := Table.find?_eq_some.mp hlogin
      exact hover login (Table.find?_eq_some.mpr ⟨(List.mem_filter.mp hmem).1, hstate⟩)

/-- A login ends its transaction, which was open. -/
theorem LoggedIn.spent {input : LoginCommit} {draws : LoginDraws}
    (h : LoggedIn db now input draws db') (hsound : db.Sound) :
    ¬ db.Spent input.stateDigest ∧ db'.Spent input.stateDigest := by
  obtain ⟨login, hlogin, hmem, hopen, used, hused, hstate, hspent⟩ := h.consumed
  have hdigest : login.stateDigest = input.stateDigest := Table.key_of_find? hlogin
  constructor
  · rintro ⟨_, hover⟩
    exact hover login hlogin hopen
  · obtain ⟨_, _, _, _, _, hkept⟩ := h
    refine ⟨?_, ?_⟩
    · rw [hkept, ← hdigest]
      exact hsound.drawn login hmem
    · intro found hfound
      have hone : found = used := by
        apply Table.eq_of_key_eq (Table.mem_of_find? hfound) hused
        exact (Table.key_of_find? hfound).trans (hdigest.symm.trans hstate.symm)
      rw [hone]
      exact hspent

theorem produced_run {start : SessionDb} {trace : List (Move SessionDb (SessionCall × Us))}
    (hsound : start.Sound) (hrun : Run SessionStep start trace db) :
    (produced stateDigest trace).length ≤ 1 ∧
      (produced stateDigest trace ≠ [] → db.Spent stateDigest) := by
  induction hrun with
  | nil => simp [produced]
  | @snoc src dst front label hfront hstep ih =>
      obtain ⟨hlength, hspent⟩ := ih
      obtain ⟨call, now⟩ := label
      have heffect := step_effect hstep
      have hsplit : produced stateDigest (front ++ [⟨src, (call, now), dst⟩]) =
          produced stateDigest front ++
            if call.finishes stateDigest then opened src dst else [] := by
        simp [produced]
      have hquiet : (if call.finishes stateDigest then opened src dst else []) = [] →
          (produced stateDigest (front ++ [⟨src, (call, now), dst⟩])).length ≤ 1 ∧
            (produced stateDigest (front ++ [⟨src, (call, now), dst⟩]) ≠ [] →
              dst.Spent stateDigest) := by
        intro hnone
        rw [hsplit, hnone, List.append_nil]
        exact ⟨hlength, fun hsome => heffect.spent (hspent hsome)⟩
      by_cases hfinishes : call.finishes stateDigest = true
      · rcases heffect.finishes hfinishes with hnone | ⟨input, draws, rfl, hlogin⟩
        · exact hquiet (by rw [hnone, ite_self])
        · obtain ⟨hopen, hover⟩ := hlogin.spent (sound_run hsound hfront)
          have hfirst : produced input.stateDigest front = [] := by
            by_contra hsome
            exact hopen (hspent hsome)
          refine ⟨?_, fun _ => hover⟩
          rw [hsplit, hfirst, List.nil_append, if_pos hfinishes]
          exact hlogin.opened_length
      · exact hquiet (if_neg hfinishes)

end Produced

end SessionDb

open SessionDb

/-- What changes the active sessions of a user raises the revision of that user.  Revoking the
others revokes the sessions that were active at the revision the caller named, or nothing.  A
reauthentication revokes the session it is bound to and opens the next one together, and a
login transaction opens at most one session. -/
theorem browser_session_sets {start db : SessionDb}
    {trace : List (Move SessionDb (SessionCall × Us))} (hstart : start.Initial)
    (hrun : Run SessionStep start trace db) :
    (∀ move ∈ trace, ∀ userId,
      move.dst.activeSessions userId move.label.2 ≠ move.src.activeSessions userId move.label.2 →
        move.src.revisionOf userId < move.dst.revisionOf userId) ∧
      (∀ front move back current revision count, trace = front ++ move :: back →
        move.label.1 = .revokeOthers current revision count → move.dst = move.src ∨
          RevokedOthers (visited start front) move.src move.dst current revision count
            move.label.2) ∧
      (∀ move ∈ trace, Rotates move.src move.dst move.label.2) ∧
      ∀ stateDigest, (produced stateDigest trace).length ≤ 1 := by
  have hsound := hstart.sound
  have hmoves : ∀ move ∈ trace, move.src.Sound ∧
      Effect move.src move.label.2 move.label.1 move.dst := by
    intro move hmem
    obtain ⟨front, back, rfl⟩ := List.append_of_mem hmem
    obtain ⟨hfront, hstep, _⟩ := hrun.around
    exact ⟨sound_run hsound hfront, step_effect hstep⟩
  refine ⟨?_, ?_, ?_, ?_⟩
  · intro move hmem userId hchanged
    obtain ⟨hsrc, heffect⟩ := hmoves move hmem
    rcases heffect.counted userId hsrc.owned with hraised | ⟨_, _, hsame⟩
    · exact hraised
    · exact absurd hsame hchanged
  · rintro front ⟨src, ⟨call, now⟩, dst⟩ back current revision count rfl hcall
    obtain ⟨hfront, hstep, _⟩ := hrun.around
    dsimp only at hcall hfront ⊢
    cases hcall
    cases hstep with
    | refuse => exact Or.inl rfl
    | commit _ hcommit =>
        exact Or.inr (revokedOthers hsound hfront (Fallible.eq_ok_of_toOption hcommit))
  · intro move hmem
    obtain ⟨hsrc, heffect⟩ := hmoves move hmem
    exact heffect.rotates hsrc
  · intro stateDigest
    exact (produced_run hsound hrun).1

namespace SessionSample

def firstSession : Token := ⟨"session-1", Eq.refl true⟩
def secondSession : Token := ⟨"session-2", Eq.refl true⟩
def thirdSession : Token := ⟨"session-3", Eq.refl true⟩
def owner : Token := ⟨"user-1", Eq.refl true⟩
def spareUser : Token := ⟨"user-2", Eq.refl true⟩
def transaction : Token := ⟨"transaction-1", Eq.refl true⟩

def start : SessionDb := ⟨[], .empty, .empty, .empty, ⟨[], [], [], false⟩, []⟩

def input (stateDigest : String) : LoginCommit := ⟨stateDigest, "nonce", "sub", "sub", none⟩

def draws (tokenDigest : String) (sessionId userId : Token) : LoginDraws :=
  ⟨tokenDigest, sessionId, userId, "csrf", transaction⟩

/-- Two logins, a reauthentication of the first session, and the others revoked from the session
it opened. -/
def calls : List (SessionCall × Us) :=
  [(.startLogin "state-1" "nonce" none, 1), (.finishLogin (input "state-1")
      (draws "token-1" firstSession owner), 2),
    (.startLogin "state-2" "nonce" none, 3), (.finishLogin (input "state-2")
      (draws "token-2" secondSession spareUser), 4),
    (.startLogin "state-3" "nonce" (some ⟨firstSession, owner⟩), 5), (.finishLogin (input "state-3")
      (draws "token-3" thirdSession spareUser), 6),
    (.revokeOthers ⟨thirdSession, owner⟩ 4 1, 7)]

/-- One call, if it commits. -/
def exec (db : SessionDb) (call : SessionCall × Us) : Option SessionDb :=
  if call.1.fresh db then call.1.commit db call.2 else none

theorem exec_step (db : SessionDb) (call : SessionCall × Us) (db' : SessionDb)
    (h : exec db call = some db') : SessionStep db (id call) db' := by
  obtain ⟨hfresh, hcommit⟩ := Option.ite_none_right_eq_some.mp h
  exact SessionStep.commit hfresh hcommit

def final : SessionDb := (execAll exec start calls).getD start

def trace : List (Move SessionDb (SessionCall × Us)) := movesOf exec id start calls

end SessionSample

theorem browser_session_sets_sample :
    Run SessionStep SessionSample.start SessionSample.trace SessionSample.final ∧
      SessionSample.final.activeSessions SessionSample.owner 8 = [SessionSample.thirdSession] ∧
      SessionSample.final.revisionOf SessionSample.owner = 5 ∧
      produced "state-3" SessionSample.trace = [SessionSample.thirdSession] ∧
      (∀ move ∈ SessionSample.trace, Rotates move.src move.dst move.label.2) := by
  have hexec : execAll SessionSample.exec SessionSample.start SessionSample.calls =
      some SessionSample.final := by decide +kernel
  have hrun := run_movesOf SessionSample.exec_step hexec
  have hsets := browser_session_sets ⟨rfl, rfl, rfl, rfl⟩ hrun
  have hfacts : SessionSample.final.activeSessions SessionSample.owner 8 =
        [SessionSample.thirdSession] ∧
      SessionSample.final.revisionOf SessionSample.owner = 5 ∧
      produced "state-3" SessionSample.trace = [SessionSample.thirdSession] := by decide +kernel
  exact ⟨hrun, hfacts.1, hfacts.2.1, hfacts.2.2, hsets.2.2.1⟩

end FlickrGroupAddr

import FlickrGroupAddr.Lib.Tickets
import FlickrGroupAddr.UploadAuthorizations

/-!
# Upload authorizations are fenced

A call that answers with a signature has read one authority at its start, read it again
after the secrets, and committed at an instant when the same four reads would still have
given it.  The call is told by the operations its worker asked, with the answers.
-/

namespace FlickrGroupAddr

set_option autoImplicit false

open KeyedTable Program Workers Transition

/-! ## The commit -/

/-- Every read of the authority would give this now. -/
structure FencedBy (s : UploadStore) (auth : AdmissionAuth) (a : UploadAuthority) : Prop where
  credential : s.credential auth = some a.credential
  grant : linkedGrant s.db auth = some { a.grant with userId := a.credential.userId }
  connection : s.connectionAvailable a.credential.userId = true
  gates : s.currentGates a.credential.userId = some a.gates

section Commit

variable {s s' : UploadStore} {auth : AdmissionAuth} {a : UploadAuthority} {authorizationId : Token}
  {now issuedAtUs : Us}

theorem authorityGuard_fenced (h : s.authorityGuard auth a) : FencedBy s auth a := by
  obtain ⟨⟨installation, hinstallation, huser, hactive, hplugin, hrevision, version, hversion,
    hcurrent, howner, hstate, hdigest⟩, ⟨link, hlink, native, hnative, hlinked, hnsid, hlinkRevision,
    hnativeRevision, hgeneration, hoperation, hverified⟩, ⟨connection, hconnection, havailable⟩,
    ⟨deployment, hdeployment, hdenabled, hdrevision⟩, ⟨gate, hgate, hgenabled, hgrevision⟩⟩ := h
  rw [Option.mem_def] at hinstallation hversion hlink hnative hconnection hdeployment hgate
  have hid : installation.installationId = auth.installationId := Table.key_of_find? hinstallation
  have hversionId : version.versionId = a.credential.versionId := Table.key_of_find? hversion
  have hfound : installation.currentVersionId.bind s.db.versions.find? = some version := by
    rw [hcurrent, hversionId]
    exact hversion
  have hplugged : currentPlugin s.db auth.installationId installation version := by
    refine ⟨hinstallation, hactive, hplugin, hcurrent, ?_, howner.trans hid, hstate⟩
    rw [hversionId]
    exact hversion
  have hrows : grantRows s.db auth.installationId = some (installation, version, link, native) := by
    have husable : usableLink s.db installation.userId link native := by
      rw [huser]
      exact ⟨hlink, hnative, hlinked, hnativeRevision, hoperation, hverified⟩
    unfold grantRows
    rw [hinstallation]
    dsimp only
    rw [hfound, huser, hlink, hnative]
    dsimp only
    rw [← huser, if_pos ⟨hplugged, husable⟩]
  constructor
  · unfold UploadStore.credential
    rw [hinstallation]
    dsimp only
    rw [hfound]
    dsimp only
    rw [if_pos ⟨hplugged, hdigest⟩, huser, hversionId, hrevision]
  · unfold linkedGrant
    rw [hrows]
    simp [hdigest, huser, hnsid, hlinkRevision, hgeneration]
  · simp [UploadStore.connectionAvailable, hconnection, havailable]
  · have hd : s.gateRevision .deployment = some a.gates.deploymentRevision := by
      simp [UploadStore.gateRevision, hdeployment, Option.filter, hdenabled, hdrevision]
    have hu : s.gateRevision (.user a.credential.userId) = some a.gates.userRevision := by
      simp [UploadStore.gateRevision, hgate, Option.filter, hgenabled, hgrevision]
    simp [UploadStore.currentGates, hd, hu]

/-- A committed batch was fenced, and left the row and its audit event. -/
theorem issue_eq_some (h : s.issue auth a authorizationId now = some (s', issuedAtUs)) :
    FencedBy s auth a ∧
    s.authorizations.insert? (UploadStore.issuedRow auth a authorizationId issuedAtUs) =
      some s'.authorizations ∧
    s'.audit = s.audit ++ [⟨a.credential.userId, .issued, authorizationId⟩] := by
  unfold UploadStore.issue at h
  split at h
  · next hguard =>
      obtain ⟨authorizations, hinsert, h⟩ := Option.map_eq_some_iff.mp h
      cases h
      exact ⟨authorityGuard_fenced hguard.1, hinsert, rfl⟩
  · cases h

end Commit

/-! ## Calls -/

/-- The reads of an authority. -/
def authorityCall (auth : AdmissionAuth) (a : UploadAuthority) : Call UploadOp.Answer :=
  [⟨.credential auth, .ok (some a.credential)⟩, ⟨.linkedGrant auth, .ok (some a.grant)⟩,
    ⟨.connection a.grant.userId, .ok true⟩, ⟨.gates a.credential.userId, .ok (some a.gates)⟩]

/-- The call of an issued authorization. -/
def issuedCall (auth : AdmissionAuth) (a : UploadAuthority) (grantSecret applicationSecret : JsonValue)
    (nonce : String) (authorizationId : Token) (issuedAtUs : Us) : Call UploadOp.Answer :=
  authorityCall auth a ++
    [⟨.grantSecret, .ok grantSecret⟩, ⟨.applicationSecret, .ok applicationSecret⟩,
      ⟨.linkedGrant auth, .ok (some a.grant)⟩] ++
    authorityCall auth a ++
    [⟨.nonce, nonce⟩, ⟨.randomId, authorizationId⟩,
      ⟨.issue auth a authorizationId, .ok (some issuedAtUs)⟩]

/-- The call read one authority twice, and its envelope is signed with the pair of exactly the
generation of its grant. -/
structure IssuedBy (signer : UploadSigner) (call : Call UploadOp.Answer) (auth : AdmissionAuth)
    (a : UploadAuthority) (authorizationId : Token) (issuedAtUs : Us) (envelope : UploadEnvelope) :
    Prop where
  signed : ∃ grantSecret applicationSecret nonce metadata pair app,
    call = issuedCall auth a grantSecret applicationSecret nonce authorizationId issuedAtUs ∧
      grantPair a.grant.generation grantSecret = some pair ∧
      applicationPair applicationSecret = some app ∧
      signer.sign metadata pair app nonce = some envelope

/-- No commit of the call is known to have gone through. -/
def Unissued (call : Call UploadOp.Answer) : Prop :=
  ∀ auth a authorizationId issuedAtUs,
    (⟨.issue auth a authorizationId, .ok (some issuedAtUs)⟩ : Sigma UploadOp.Answer) ∉ call

/-- What a call may answer. -/
def uploadRule (signer : UploadSigner) (call : Call UploadOp.Answer) : UploadOp → Prop
  | .respond (.issued authorizationId issuedAtUs envelope) =>
      ∃ auth a, IssuedBy signer call auth a authorizationId issuedAtUs envelope
  | .respond (.failed _) | .respond .serviceUnavailable => Unissued call
  | _ => True

namespace Unissued

theorem nil : Unissued [] := fun _ _ _ _ h => List.not_mem_nil h

/-- An operation that is no commit. -/
theorem asked {call : Call UploadOp.Answer} (h : Unissued call) (o : UploadOp) (answer : o.Answer)
    (ho : ∀ auth a authorizationId, o ≠ .issue auth a authorizationId) :
    Unissued (call ++ [⟨o, answer⟩]) := by
  intro auth a authorizationId issuedAtUs hmem
  rcases List.mem_append.mp hmem with hold | hnew
  · exact h auth a authorizationId issuedAtUs hold
  · obtain ⟨hissue, _⟩ := Sigma.mk.inj_iff.mp (List.mem_singleton.mp hnew)
    exact ho auth a authorizationId hissue.symm

/-- A commit that threw, or whose answer was lost. -/
theorem unconfirmed {call : Call UploadOp.Answer} (h : Unissued call) (auth : AdmissionAuth)
    (a : UploadAuthority) (authorizationId : Token) (answer : Except UploadFault (Option Us))
    (hanswer : ∀ issuedAtUs, answer ≠ .ok (some issuedAtUs)) :
    Unissued (call ++ [⟨.issue auth a authorizationId, answer⟩]) := by
  intro auth' a' authorizationId' issuedAtUs hmem
  rcases List.mem_append.mp hmem with hold | hnew
  · exact h auth' a' authorizationId' issuedAtUs hold
  · cases List.mem_singleton.mp hnew
    exact hanswer issuedAtUs rfl

end Unissued

/-! ## The request follows the rule -/

section Rules

variable {signer : UploadSigner} {auth : AdmissionAuth} {call : Call UploadOp.Answer}

abbrev IssueRuns {α : Type} (signer : UploadSigner) (post : α → Call UploadOp.Answer → Prop)
    (call : Call UploadOp.Answer) (x : UploadThrows α) : Prop :=
  Runs (callMonitor (uploadRule signer)) post (fun _ later => Unissued later) call x

open UploadIssue

theorem currentUploadGrant_runs {post : Option GrantSnapshot → Call UploadOp.Answer → Prop}
    (hcall : Unissued call) (hnone : ∀ later, Unissued later → post none later)
    (hsome : ∀ grant, Unissued (call ++ [⟨.linkedGrant auth, .ok (some grant)⟩,
        ⟨.connection grant.userId, .ok true⟩]) →
      post (some grant) (call ++ [⟨.linkedGrant auth, .ok (some grant)⟩,
        ⟨.connection grant.userId, .ok true⟩])) :
    IssueRuns signer post call (currentUploadGrant auth) := by
  unfold currentUploadGrant
  rw [IssueRuns, runs_bind]
  refine ⟨trivial, ?_⟩
  intro answer
  have hlinked := hcall.asked (.linkedGrant auth) answer (by simp)
  cases answer with
  | error fault => exact hlinked
  | ok grant =>
      cases grant with
      | none => exact hnone _ hlinked
      | some grant =>
          refine ⟨trivial, ?_⟩
          intro available
          have havailable := hlinked.asked (.connection grant.userId) available (by simp)
          cases available with
          | error fault => exact havailable
          | ok available =>
              cases available with
              | false => exact hnone _ havailable
              | true =>
                  have hgrant := hsome grant
                  rw [← List.singleton_append, ← List.append_assoc] at hgrant
                  exact hgrant havailable

theorem assert_runs {p : Prop} [Decidable p] {fault : UploadFault}
    {post : Unit → Call UploadOp.Answer → Prop} (hcall : Unissued call) (hpost : p → post () call) :
    IssueRuns signer post call (assert p fault) := by
  unfold assert
  split
  · next hp => exact hpost hp
  · exact hcall

theorem present_runs {α : Type} {value : Option α} {fault : UploadFault}
    {post : α → Call UploadOp.Answer → Prop} (hcall : Unissued call)
    (hpost : ∀ found, value = some found → post found call) :
    IssueRuns signer post call (present value fault) := by
  cases value with
  | none => exact hcall
  | some found => exact hpost found rfl

theorem recheck_runs {a : UploadAuthority} {post : Unit → Call UploadOp.Answer → Prop}
    (hcall : Unissued call)
    (hsame : Unissued (call ++ authorityCall auth a) → post () (call ++ authorityCall auth a)) :
    IssueRuns signer post call (recheck auth a) := by
  unfold recheck
  rw [IssueRuns, runs_bind]
  refine ⟨trivial, ?_⟩
  intro credential
  have hcredential := hcall.asked (.credential auth) credential (by simp)
  cases credential with
  | error fault => exact hcredential
  | ok credential =>
      show Runs _ _ _ _ (_ >>= _)
      rw [runs_bind]
      apply assert_runs hcredential
      rintro rfl
      rw [runs_bind]
      apply currentUploadGrant_runs hcredential
      · intro later hlater
        rw [runs_bind]
        apply assert_runs hlater
        intro hnone
        cases hnone
      · intro grant hgrant
        rw [runs_bind]
        apply assert_runs hgrant
        rintro ⟨rfl⟩
        rw [runs_bind]
        refine ⟨trivial, ?_⟩
        intro gates
        have hgates := hgrant.asked (.gates a.credential.userId) gates (by simp)
        cases gates with
        | error fault => exact hgates
        | ok gates =>
            apply assert_runs hgates
            rintro rfl
            have hpost := hsame
            simp only [authorityCall, List.append_assoc, List.cons_append, List.nil_append] at hpost hgates ⊢
            exact hpost hgates

theorem authority_runs {post : UploadAuthority → Call UploadOp.Answer → Prop}
    (hcall : Unissued call)
    (hread : ∀ a, Unissued (call ++ authorityCall auth a) → post a (call ++ authorityCall auth a)) :
    IssueRuns signer post call (authority auth) := by
  unfold authority
  rw [IssueRuns, runs_bind]
  refine ⟨trivial, ?_⟩
  intro credential
  have hcredential := hcall.asked (.credential auth) credential (by simp)
  cases credential with
  | error fault => exact hcredential
  | ok credential =>
      show Runs _ _ _ _ (_ >>= _)
      rw [runs_bind]
      apply present_runs hcredential
      rintro credential rfl
      rw [runs_bind]
      apply currentUploadGrant_runs hcredential
      · intro later hlater
        rw [runs_bind]
        apply present_runs hlater
        intro found hnone
        cases hnone
      · intro grant hgrant
        rw [runs_bind]
        apply present_runs hgrant
        rintro found ⟨rfl⟩
        rw [runs_bind]
        refine ⟨trivial, ?_⟩
        intro gates
        have hgates := hgrant.asked (.gates credential.userId) gates (by simp)
        cases gates with
        | error fault => exact hgates
        | ok gates =>
            show Runs _ _ _ _ (_ >>= _)
            rw [runs_bind]
            apply present_runs hgates
            rintro gates rfl
            have hpost := hread ⟨credential, grant, gates⟩
            simp only [authorityCall, List.append_assoc, List.cons_append, List.nil_append] at hpost hgates ⊢
            exact hpost hgates

/-- The secrets and the second reading of the authority. -/
def secretsCall (auth : AdmissionAuth) (a : UploadAuthority) (grantSecret applicationSecret : JsonValue) :
    Call UploadOp.Answer :=
  [⟨.grantSecret, .ok grantSecret⟩, ⟨.applicationSecret, .ok applicationSecret⟩,
    ⟨.linkedGrant auth, .ok (some a.grant)⟩]

theorem envelope_runs {a : UploadAuthority} {metadata : List (String × String)}
    {post : UploadEnvelope → Call UploadOp.Answer → Prop} (hcall : Unissued call)
    (hsigned : ∀ grantSecret applicationSecret nonce pair app envelope,
      grantPair a.grant.generation grantSecret = some pair →
      applicationPair applicationSecret = some app →
      signer.sign metadata pair app nonce = some envelope →
      ∀ later, later = call ++ secretsCall auth a grantSecret applicationSecret ++
        authorityCall auth a ++ [⟨.nonce, nonce⟩] → Unissued later → post envelope later) :
    IssueRuns signer post call (envelope auth signer a metadata) := by
  unfold envelope
  rw [IssueRuns, runs_bind]
  refine ⟨trivial, ?_⟩
  intro grantSecret
  have hgrantSecret := hcall.asked .grantSecret grantSecret (by simp)
  cases grantSecret with
  | error fault => exact hgrantSecret
  | ok grantSecret =>
  show Runs _ _ _ _ (_ >>= _)
  rw [runs_bind]
  refine ⟨trivial, ?_⟩
  intro applicationSecret
  have happlicationSecret := hgrantSecret.asked .applicationSecret applicationSecret (by simp)
  cases applicationSecret with
  | error fault => exact happlicationSecret
  | ok applicationSecret =>
  show Runs _ _ _ _ (_ >>= _)
  rw [runs_bind]
  apply present_runs happlicationSecret
  intro pair hpair
  rw [runs_bind]
  apply present_runs happlicationSecret
  intro app happ
  rw [runs_bind]
  refine ⟨trivial, ?_⟩
  intro linked
  have hlinked := happlicationSecret.asked (.linkedGrant auth) linked (by simp)
  cases linked with
  | error fault => exact hlinked
  | ok linked =>
  show Runs _ _ _ _ (_ >>= _)
  rw [runs_bind]
  apply assert_runs hlinked
  rintro rfl
  rw [runs_bind]
  apply recheck_runs hlinked
  intro hrecheck
  rw [runs_bind]
  refine ⟨trivial, ?_⟩
  intro nonce
  have hnonce := hrecheck.asked .nonce nonce (by simp)
  apply present_runs hnonce
  intro envelope henvelope
  apply hsigned grantSecret applicationSecret nonce pair app envelope hpair happ henvelope _ ?_ hnonce
  simp only [secretsCall, List.append_assoc, List.cons_append, List.nil_append]

theorem issue_runs {a : UploadAuthority} {metadata : List (String × String)}
    {post : UploadResponse → Call UploadOp.Answer → Prop} (hcall : Unissued (authorityCall auth a))
    (hissued : ∀ later authorizationId issuedAtUs envelope,
      IssuedBy signer later auth a authorizationId issuedAtUs envelope →
      post (.issued authorizationId issuedAtUs envelope) later) :
    IssueRuns signer post (authorityCall auth a) (issue auth signer a metadata) := by
  unfold issue
  rw [IssueRuns, runs_bind]
  apply envelope_runs hcall
  intro grantSecret applicationSecret nonce pair app envelope hpair happ henvelope later hlater hsigned
  rw [runs_bind]
  refine ⟨trivial, ?_⟩
  intro authorizationId
  have hdrawn := hsigned.asked .randomId authorizationId (by simp)
  show Runs _ _ _ _ (_ >>= _)
  rw [runs_bind]
  refine ⟨trivial, ?_⟩
  intro issuedAtUs
  cases issuedAtUs with
  | error fault => exact hdrawn.unconfirmed auth a authorizationId _ (by simp)
  | ok issuedAtUs =>
      cases issuedAtUs with
      | none => exact hdrawn.unconfirmed auth a authorizationId _ (by simp)
      | some issuedAtUs =>
          refine hissued _ authorizationId issuedAtUs envelope
            ⟨grantSecret, applicationSecret, nonce, metadata, pair, app, ?_, hpair, happ, henvelope⟩
          simp only [hlater, issuedCall, secretsCall, callMonitor, List.append_assoc,
            List.cons_append, List.nil_append]

/-- A response that failed. -/
def UploadResponse.refused : UploadResponse → Prop
  | .issued .. => False
  | .failed _ | .serviceUnavailable => True

theorem recordFailure_runs {fault : UploadFault} {credential : Option UploadCredential}
    (hcall : Unissued call) :
    IssueRuns signer (fun response later => UploadResponse.refused response ∧ Unissued later) call
      (recordFailure auth fault credential) := by
  cases credential with
  | none => exact ⟨trivial, hcall⟩
  | some credential =>
      refine ⟨trivial, ?_⟩
      intro answer
      have haudited := hcall.asked (.auditFailure credential.userId fault auth.installationId)
        answer (by simp)
      cases answer with
      | error fault => exact haudited
      | ok _ => exact ⟨trivial, haudited⟩

theorem failedResponse_runs {a : Option UploadAuthority} {fault : UploadFault}
    (hcall : Unissued call) :
    IssueRuns signer (fun response later => UploadResponse.refused response ∧ Unissued later) call
      (failedResponse auth a fault) := by
  cases a with
  | some a =>
      rw [failedResponse]
      exact recordFailure_runs hcall
  | none =>
      rw [failedResponse, IssueRuns, runs_bind]
      refine ⟨trivial, ?_⟩
      intro answer
      have hcredential := hcall.asked (.credential auth) answer (by simp)
      cases answer with
      | error fault => exact hcredential
      | ok credential => exact recordFailure_runs hcredential

/-- The call ends with this response, which the rule allows. -/
theorem respond_follows {response : UploadResponse} (h : uploadRule signer call (.respond response)) :
    Program.Follows (callMonitor (uploadRule signer)) (fun _ _ => True) call
      (Prog.query (UploadOp.respond response)) :=
  ⟨h, fun _ => trivial⟩

theorem respond_refused {response : UploadResponse} (hresponse : response.refused)
    (hcall : Unissued call) : uploadRule signer call (.respond response) := by
  cases response with
  | issued authorizationId issuedAtUs envelope => cases hresponse
  | failed fault => exact hcall
  | serviceUnavailable => exact hcall

theorem respondFailed_follows {a : Option UploadAuthority} {fault : UploadFault}
    (hcall : Unissued call) :
    Program.Follows (callMonitor (uploadRule signer)) (fun _ _ => True) call
      (respondFailed auth a fault) := by
  unfold respondFailed
  rw [follows_bind]
  apply Program.Follows.imp (failedResponse_runs hcall)
  intro result later hresult
  cases result with
  | ok response => exact respond_follows (respond_refused hresult.1 hresult.2)
  | error fault => exact respond_follows (respond_refused trivial hresult)

/-- Every call follows the rule. -/
theorem uploadAuthorizationRequest_follows (enabled : Bool) (value : JsonValue) :
    Program.Follows (callMonitor (uploadRule signer)) (fun _ _ => True) []
      (uploadAuthorizationRequest signer enabled auth value) := by
  unfold uploadAuthorizationRequest
  split
  · exact respond_follows (respond_refused trivial .nil)
  · split
    · exact respondFailed_follows .nil
    · next metadata hmetadata =>
        have hauthority : IssueRuns signer (fun a later => later = authorityCall auth a ∧
            Unissued later) [] (authority auth) := authority_runs .nil fun a ha => ⟨rfl, ha⟩
        rw [follows_bind]
        apply Program.Follows.imp hauthority
        intro result later hresult
        cases result with
        | error fault => exact respondFailed_follows hresult
        | ok a =>
            obtain ⟨rfl, ha⟩ := hresult
            have hissue : IssueRuns signer
                (fun response later => uploadRule signer later (.respond response))
                (authorityCall auth a) (issue auth signer a metadata) :=
              issue_runs ha fun later authorizationId issuedAtUs envelope hissued =>
                ⟨auth, a, hissued⟩
            show Program.Follows _ _ _ (_ >>= _)
            rw [follows_bind]
            apply Program.Follows.imp hissue
            intro result later hresult
            cases result with
            | ok response => exact respond_follows hresult
            | error fault =>
                have hrecheck : IssueRuns signer (fun _ later => Unissued later) later
                    (recheck auth a) := recheck_runs hresult fun hlater => hlater
                show Program.Follows _ _ _ (_ >>= _)
                rw [follows_bind]
                apply Program.Follows.imp hrecheck
                intro result later hresult
                cases result with
                | ok _ => exact respondFailed_follows hresult
                | error changed => exact respondFailed_follows hresult

end Rules

/-! ## Authorizations as tickets -/

abbrev IssuePool (ι : Type) := Pool UploadStore ι UploadOp.Answer

abbrev IssueMove (ι : Type) := Move (IssuePool ι) (Act ι UploadOp.Answer)

namespace UploadStore

/-- The ids of the authorizations that were issued. -/
def issuedIds (s : UploadStore) : List Token :=
  s.authorizations.rows.map UploadAuthorization.authorizationId

/-- Every authorization has its audit event. -/
def Audited (s : UploadStore) : Prop :=
  s.audit.filterMap UploadAudit.issuedId = s.issuedIds

end UploadStore

/-- The authorization of a commit that was answered. -/
def confirmedId : Sigma UploadOp.Answer → Option Token
  | ⟨.issue _ _ authorizationId, .ok (some _)⟩ => some authorizationId
  | _ => none

/-- The authorization a call holds: its last operation is the commit. -/
def heldId (call : Call UploadOp.Answer) : Option Token :=
  call.getLast?.bind confirmedId

@[simp] theorem heldId_nil : heldId [] = none := rfl

@[simp] theorem heldId_snoc (call : Call UploadOp.Answer) (entry : Sigma UploadOp.Answer) :
    heldId (call ++ [entry]) = confirmedId entry := by
  simp [heldId]

theorem IssuedBy.heldId {signer : UploadSigner} {call : Call UploadOp.Answer} {auth : AdmissionAuth}
    {a : UploadAuthority} {authorizationId : Token} {issuedAtUs : Us} {envelope : UploadEnvelope}
    (h : IssuedBy signer call auth a authorizationId issuedAtUs envelope) :
    heldId call = some authorizationId := by
  obtain ⟨grantSecret, applicationSecret, nonce, metadata, pair, app, rfl, -⟩ := h
  have hlast : issuedCall auth a grantSecret applicationSecret nonce authorizationId issuedAtUs =
      (authorityCall auth a ++ secretsCall auth a grantSecret applicationSecret ++
        authorityCall auth a ++ [⟨.nonce, nonce⟩, ⟨.randomId, authorizationId⟩]) ++
        [⟨.issue auth a authorizationId, .ok (some issuedAtUs)⟩] := by
    simp [issuedCall, secretsCall]
  rw [hlast, heldId_snoc]
  rfl

/-- The authorization of a 200. -/
def answeredId {ι : Type} : Act ι UploadOp.Answer → Option Token
  | .perform ⟨_, .respond (.issued authorizationId _ _), _⟩ => some authorizationId
  | _ => none

section Book

variable {ι : Type} [DecidableEq ι]

/-- The authorizations that are held by a call. -/
def heldIds (trace : List (IssueMove ι)) (i : ι) : Option Token := heldId (callOf i trace)

/-- The authorizations that were answered with a 200. -/
def answeredIds (trace : List (IssueMove ι)) : List Token :=
  trace.filterMap fun move => answeredId move.label

open Tickets in
/-- The authorizations of a run: issued, answered, and held by a call that is about to answer. -/
def uploadBook (trace : List (IssueMove ι)) (s : UploadStore) : Book ι Token where
  issued := s.issuedIds
  redeemed := answeredIds trace
  held := heldIds trace

variable {signer : UploadSigner} {s s' : UploadStore}

/-- A commit that was answered with a time went through, and was fenced. -/
theorem serve_issue {auth : AdmissionAuth} {a : UploadAuthority} {authorizationId : Token}
    {answer : Except UploadFault (Option Us)}
    (h : serveUpload s (.issue auth a authorizationId) answer s') :
    (answer = .error .unavailable ∧ s' = s) ∨
    ∃ issuedAtUs, answer = .ok (some issuedAtUs) ∧ FencedBy s auth a ∧
      s.authorizations.insert? (UploadStore.issuedRow auth a authorizationId issuedAtUs) =
        some s'.authorizations ∧
      s'.audit = s.audit ++ [⟨a.credential.userId, .issued, authorizationId⟩] := by
  obtain ⟨now, h⟩ := h
  split at h
  · exact Or.inl h
  · next after issuedAtUs hissue =>
      obtain ⟨rfl, rfl⟩ := h
      exact Or.inr ⟨issuedAtUs, rfl, issue_eq_some hissue⟩

/-- What an operation does to the authorizations and their audit events. -/
theorem serve_issuedIds {o : UploadOp} {answer : o.Answer} (h : serveUpload s o answer s') :
    (confirmedId ⟨o, answer⟩ = none ∧ s'.issuedIds = s.issuedIds ∧
      s'.audit.filterMap UploadAudit.issuedId = s.audit.filterMap UploadAudit.issuedId) ∨
    ∃ auth a authorizationId, o = .issue auth a authorizationId ∧ FencedBy s auth a ∧
      confirmedId ⟨o, answer⟩ = some authorizationId ∧ authorizationId ∉ s.issuedIds ∧
      s'.issuedIds = s.issuedIds ++ [authorizationId] ∧
      s'.audit.filterMap UploadAudit.issuedId =
        s.audit.filterMap UploadAudit.issuedId ++ [authorizationId] := by
  cases o with
  | issue auth a authorizationId =>
      rcases serve_issue h with ⟨rfl, rfl⟩ | ⟨issuedAtUs, rfl, hfenced, hinsert, haudit⟩
      · exact Or.inl ⟨rfl, rfl, rfl⟩
      · obtain ⟨hfresh, hrows⟩ := Table.insert?_eq_some hinsert
        refine Or.inr ⟨auth, a, authorizationId, rfl, hfenced, rfl, ?_, ?_, ?_⟩
        · intro hmem
          obtain ⟨row, hrow, hid⟩ := List.mem_map.mp hmem
          exact Table.find?_eq_none.mp hfresh row hrow hid
        · simp [UploadStore.issuedIds, hrows, UploadStore.issuedRow]
        · simp [haudit, UploadAudit.issuedId]
  | auditFailure userId reason targetId =>
      obtain ⟨_, rfl⟩ := h
      exact Or.inl ⟨rfl, rfl, by simp [UploadAudit.issuedId]⟩
  | respond response =>
      cases h
      exact Or.inl ⟨rfl, rfl, rfl⟩
  | grantSecret | applicationSecret | nonce | randomId =>
      cases h
      exact Or.inl ⟨rfl, rfl, rfl⟩
  | credential | linkedGrant | connection | gates =>
      obtain ⟨_, rfl⟩ := h
      exact Or.inl ⟨rfl, rfl, rfl⟩

theorem lost_unconfirmed {o : UploadOp} {answer : o.Answer} (h : lostUpload o answer) :
    confirmedId ⟨o, answer⟩ = none := by
  cases o with
  | issue auth a authorizationId =>
      cases h
      rfl
  | _ => rfl

variable {trace : List (IssueMove ι)} {move : IssueMove ι}

theorem heldIds_told {entry : Entry ι UploadOp.Answer} (h : move.label.tells entry) :
    heldIds (trace ++ [move]) =
      Function.update (heldIds trace) entry.worker (confirmedId ⟨entry.op, entry.answer⟩) := by
  funext j
  have hcall : callAfter j (callOf j trace) move.label = if entry.worker = j then
      callOf j trace ++ [⟨entry.op, entry.answer⟩] else callOf j trace := by
    rcases h with h | h <;> rw [h] <;> rfl
  by_cases hj : j = entry.worker
  · subst hj
    simp [heldIds, hcall]
  · simp [heldIds, hcall, hj, Ne.symm hj]

theorem heldIds_reset {i : ι} (h : move.label = .start i ∨ move.label = .crash i) :
    heldIds (trace ++ [move]) = Function.update (heldIds trace) i none := by
  funext j
  have hcall : callAfter j (callOf j trace) move.label = if i = j then [] else callOf j trace := by
    rcases h with h | h <;> rw [h] <;> rfl
  by_cases hj : j = i
  · subst hj
    simp [heldIds, hcall]
  · simp [heldIds, hcall, hj, Ne.symm hj]

theorem heldIds_kept (h : ∀ j (call : Call UploadOp.Answer), callAfter j call move.label = call) :
    heldIds (trace ++ [move]) = heldIds trace := by
  funext j
  simp [heldIds, h]

omit [DecidableEq ι] in
theorem answeredIds_snoc : answeredIds (trace ++ [move]) =
    answeredIds trace ++ (answeredId move.label).toList := by
  simp [answeredIds, List.filterMap_append, List.filterMap_cons]
  cases answeredId move.label <;> rfl

omit [DecidableEq ι] in
/-- Only the holder of an authorization answers it. -/
theorem heldId_of_answered {call : Call UploadOp.Answer} {entry : Entry ι UploadOp.Answer}
    {authorizationId : Token} (hrule : uploadRule signer call entry.op)
    (h : answeredId (.perform entry) = some authorizationId) :
    heldId call = some authorizationId := by
  obtain ⟨i, o, answer⟩ := entry
  cases o with
  | respond response =>
      cases response with
      | issued answered issuedAtUs envelope =>
          obtain ⟨auth, a, hissued⟩ := hrule
          cases h
          exact hissued.heldId
      | failed fault => cases h
      | serviceUnavailable => cases h
  | _ => cases h

section Step

variable {start p p' : IssuePool ι} {act : Act ι UploadOp.Answer}

/-- A worker asked something, and was not answered by a commit. -/
theorem uploadBook_told {entry : Entry ι UploadOp.Answer}
    (hbook : (uploadBook trace s).Sound) (htells : move.label.tells entry)
    (hrule : uploadRule signer (callOf entry.worker trace) entry.op)
    (hanswered : ∀ authorizationId, answeredId move.label = some authorizationId →
      answeredId (.perform entry) = some authorizationId)
    (hnone : confirmedId ⟨entry.op, entry.answer⟩ = none) (hids : s'.issuedIds = s.issuedIds) :
    (uploadBook (trace ++ [move]) s').Sound := by
  have hheld : heldIds (trace ++ [move]) = Function.update (heldIds trace) entry.worker none := by
    rw [heldIds_told htells, hnone]
  cases hanswer : answeredId move.label with
  | none =>
      have heq : uploadBook (trace ++ [move]) s' =
          { uploadBook trace s with
            held := Function.update (heldIds trace) entry.worker none } := by
        ext1
        · exact hids
        · simp [uploadBook, answeredIds_snoc, hanswer]
        · exact hheld
      rw [heq]
      exact hbook.drop entry.worker
  | some authorizationId =>
      have heq : uploadBook (trace ++ [move]) s' =
          { uploadBook trace s with
            redeemed := (uploadBook trace s).redeemed ++ [authorizationId]
            held := Function.update (heldIds trace) entry.worker none } := by
        ext1
        · exact hids
        · simp [uploadBook, answeredIds_snoc, hanswer]
        · exact hheld
      rw [heq]
      exact hbook.redeem (heldId_of_answered hrule (hanswered authorizationId hanswer))

/-- A worker was answered by a commit. -/
theorem uploadBook_committed {entry : Entry ι UploadOp.Answer} {authorizationId : Token}
    (hbook : (uploadBook trace s).Sound) (htells : move.label.tells entry)
    (hanswer : answeredId move.label = none)
    (hsome : confirmedId ⟨entry.op, entry.answer⟩ = some authorizationId)
    (hfresh : authorizationId ∉ s.issuedIds) (hids : s'.issuedIds = s.issuedIds ++ [authorizationId]) :
    (uploadBook (trace ++ [move]) s').Sound := by
  have heq : uploadBook (trace ++ [move]) s' =
      { uploadBook trace s with
        issued := (uploadBook trace s).issued ++ [authorizationId]
        held := Function.update (heldIds trace) entry.worker (some authorizationId) } := by
    ext1
    · exact hids
    · simp [uploadBook, answeredIds_snoc, hanswer]
    · rw [← hsome]
      exact heldIds_told htells
  rw [heq]
  exact hbook.take hfresh entry.worker

theorem uploadBook_reset {i : ι} (hbook : (uploadBook trace s).Sound)
    (hreset : move.label = .start i ∨ move.label = .crash i) :
    (uploadBook (trace ++ [move]) s).Sound := by
  have hanswer : answeredId move.label = none := by
    rcases hreset with h | h <;> rw [h] <;> rfl
  have heq : uploadBook (trace ++ [move]) s =
      { uploadBook trace s with
        held := Function.update (heldIds trace) i none } := by
    ext1
    · rfl
    · simp [uploadBook, answeredIds_snoc, hanswer]
    · exact heldIds_reset hreset
  rw [heq]
  exact hbook.drop i

/-- A step that no call notices. -/
theorem uploadBook_unnoticed
    (hbook : (uploadBook trace s).Sound)
    (hcall : ∀ j (call : Call UploadOp.Answer), callAfter j call move.label = call)
    (hanswer : answeredId move.label = none)
    (hids : s'.issuedIds = s.issuedIds ∨ ∃ authorizationId, authorizationId ∉ s.issuedIds ∧
      s'.issuedIds = s.issuedIds ++ [authorizationId]) :
    (uploadBook (trace ++ [move]) s').Sound := by
  have hheld : heldIds (trace ++ [move]) = heldIds trace := heldIds_kept hcall
  have hredeemed : answeredIds (trace ++ [move]) = answeredIds trace := by
    simp [answeredIds_snoc, hanswer]
  rcases hids with hids | ⟨authorizationId, hfresh, hids⟩
  · have heq : uploadBook (trace ++ [move]) s' = uploadBook trace s := by
      ext1
      · exact hids
      · exact hredeemed
      · exact hheld
    rw [heq]
    exact hbook
  · have heq : uploadBook (trace ++ [move]) s' =
        { uploadBook trace s with
          issued := (uploadBook trace s).issued ++ [authorizationId] } := by
      ext1
      · exact hids
      · exact hredeemed
      · exact hheld
    rw [heq]
    exact hbook.issue hfresh

/-- Every step keeps the book sound, and the audit events with the authorizations. -/
theorem uploadBook_step (hstart : PoolInitial UploadStore.Audited start)
    (hrun : Run (PoolStep (uploadMachine signer)) start trace p)
    (hstep : PoolStep (uploadMachine signer) p act p')
    (hbook : (uploadBook trace p.store).Sound) (haudited : p.store.Audited) :
    (uploadBook (trace ++ [⟨p, act, p'⟩]) p'.store).Sound ∧ p'.store.Audited := by
  have hprograms : ∀ program, (uploadMachine signer).program program →
      Program.Follows (callMonitor (uploadRule signer)) (fun _ _ => True) [] program := by
    rintro program ⟨enabled, auth, value, rfl⟩
    exact uploadAuthorizationRequest_follows enabled value
  have hrule : ∀ i o next, p.programs i = .ask o next → uploadRule signer (callOf i trace) o := by
    intro i o next hasks
    have hfollows := run_follows hprograms hstart hrun i
    rw [hasks] at hfollows
    exact hfollows.1
  cases hstep with
  | external hexternal =>
      refine ⟨uploadBook_unnoticed hbook (fun _ _ => rfl) rfl (Or.inl hexternal.authorizations), ?_⟩
      rw [UploadStore.Audited, UploadStore.issuedIds, hexternal.audit, hexternal.authorizations]
      exact haudited
  | start => exact ⟨uploadBook_reset hbook (Or.inl rfl), haudited⟩
  | crash => exact ⟨uploadBook_reset hbook (Or.inr rfl), haudited⟩
  | @perform i o next answer store hasks hserve =>
      rcases serve_issuedIds hserve with ⟨hnone, hids, haudit⟩ |
        ⟨auth, a, authorizationId, rfl, _, hsome, hfresh, hids, haudit⟩
      · refine ⟨uploadBook_told hbook (Or.inl rfl) (hrule i o next hasks) (fun _ h => h) hnone hids, ?_⟩
        rw [UploadStore.Audited, hids, haudit]
        exact haudited
      · refine ⟨uploadBook_committed hbook (Or.inl rfl) rfl hsome hfresh hids, ?_⟩
        rw [UploadStore.Audited, hids, haudit, haudited]
  | @lose i o next answer hasks hlost =>
      exact ⟨uploadBook_told hbook (Or.inr rfl) (hrule i o next hasks) (by simp [answeredId])
        (lost_unconfirmed hlost) rfl, haudited⟩
  | late hlate hserve =>
      rcases serve_issuedIds hserve with ⟨_, hids, haudit⟩ |
        ⟨auth, a, authorizationId, rfl, _, _, hfresh, hids, haudit⟩
      · refine ⟨uploadBook_unnoticed hbook (fun _ _ => rfl) rfl (Or.inl hids), ?_⟩
        rw [UploadStore.Audited, hids, haudit]
        exact haudited
      · refine ⟨uploadBook_unnoticed hbook (fun _ _ => rfl) rfl
          (Or.inr ⟨authorizationId, hfresh, hids⟩), ?_⟩
        rw [UploadStore.Audited, hids, haudit, haudited]

theorem uploadBook_run (hstart : PoolInitial UploadStore.Audited start)
    (hids : start.store.issuedIds.Nodup)
    (hrun : Run (PoolStep (uploadMachine signer)) start trace p) :
    (uploadBook trace p.store).Sound ∧ p.store.Audited := by
  induction hrun with
  | nil =>
      refine ⟨?_, hstart.store⟩
      constructor <;> simp [uploadBook, answeredIds, heldIds, hids]
  | snoc hrun hstep ih => exact uploadBook_step hstart hrun hstep ih.1 ih.2

end Step

/-! ## The fence -/

/-- The move is the commit of an authorization, at an instant when its authority stood. -/
structure Commits (move : IssueMove ι) (i : ι) (auth : AdmissionAuth) (a : UploadAuthority)
    (authorizationId : Token) (issuedAtUs : Us) : Prop where
  label : move.label = .perform ⟨i, .issue auth a authorizationId, .ok (some issuedAtUs)⟩
  fenced : FencedBy move.src.store auth a
  row : move.src.store.authorizations.insert?
      (UploadStore.issuedRow auth a authorizationId issuedAtUs) = some move.dst.store.authorizations
  audit : move.dst.store.audit =
    move.src.store.audit ++ [⟨a.credential.userId, .issued, authorizationId⟩]

/-- The answer of the commit was lost, or it changed nothing. -/
def Unconfirmed (move : IssueMove ι) (i : ι) (auth : AdmissionAuth) (a : UploadAuthority)
    (authorizationId : Token) (answer : Except UploadFault (Option Us)) : Prop :=
  move.label = .lose ⟨i, .issue auth a authorizationId, answer⟩ ∨
    (move.label = .perform ⟨i, .issue auth a authorizationId, answer⟩ ∧
      move.dst.store = move.src.store)

/-- What a run tells of authorizations: every 200 was fenced and signed with its generation, and
is one row with one audit event; a call that fails left no row behind, unless nobody confirmed
its commit; and every row is of a fenced commit. -/
structure UploadFence (signer : UploadSigner) (trace : List (IssueMove ι)) (s : UploadStore) :
    Prop where
  issued : ∀ front move back i authorizationId issuedAtUs envelope answer,
    trace = front ++ move :: back →
    move.label.tells ⟨i, .respond (.issued authorizationId issuedAtUs envelope), answer⟩ →
    ∃ auth a, IssuedBy signer (callOf i front) auth a authorizationId issuedAtUs envelope ∧
      ∃ commit ∈ front, Commits commit i auth a authorizationId issuedAtUs
  answered : (answeredIds trace).Nodup
  recorded : ∀ authorizationId ∈ answeredIds trace, s.issuedIds.count authorizationId = 1 ∧
    (s.audit.filterMap UploadAudit.issuedId).count authorizationId = 1
  refused : ∀ front move back i response answer, trace = front ++ move :: back →
    move.label.tells ⟨i, .respond response, answer⟩ → UploadResponse.refused response →
    ∀ auth a authorizationId given, ⟨.issue auth a authorizationId, given⟩ ∈ callOf i front →
      ∃ move ∈ front, Unconfirmed move i auth a authorizationId given
  rows : ∀ move ∈ trace, move.dst.store.issuedIds = move.src.store.issuedIds ∨
    ∃ auth a authorizationId, move.label.served = some (.issue auth a authorizationId) ∧
      FencedBy move.src.store auth a ∧
      move.dst.store.issuedIds = move.src.store.issuedIds ++ [authorizationId]

section Fence

variable {start p : IssuePool ι}

/-- How a worker came to know the answer of a commit. -/
theorem commit_told (hstep : PoolStep (uploadMachine signer) move.src move.label move.dst)
    {i : ι} {auth : AdmissionAuth} {a : UploadAuthority} {authorizationId : Token}
    {answer : Except UploadFault (Option Us)}
    (htells : move.label.tells ⟨i, .issue auth a authorizationId, answer⟩) :
    (answer = .error .unavailable ∧ Unconfirmed move i auth a authorizationId answer) ∨
    ∃ issuedAtUs, answer = .ok (some issuedAtUs) ∧
      Commits move i auth a authorizationId issuedAtUs := by
  obtain ⟨src, label, dst⟩ := move
  dsimp only at hstep htells
  rcases htells with rfl | rfl
  · cases hstep with
    | perform hasks hserve =>
        rcases serve_issue hserve with ⟨hanswer, hsame⟩ | ⟨issuedAtUs, rfl, hfenced, hrow, haudit⟩
        · exact Or.inl ⟨hanswer, Or.inr ⟨rfl, hsame⟩⟩
        · exact Or.inr ⟨issuedAtUs, rfl, rfl, hfenced, hrow, haudit⟩
  · cases hstep with
    | lose hasks hlost => exact Or.inl ⟨hlost, Or.inl rfl⟩

/-- Every answer of a commit in a call came from a step before. -/
theorem commit_of_call {front : List (IssueMove ι)}
    (hrun : Run (PoolStep (uploadMachine signer)) start front p) {i : ι} {auth : AdmissionAuth}
    {a : UploadAuthority} {authorizationId : Token} {answer : Except UploadFault (Option Us)}
    (hmem : ⟨.issue auth a authorizationId, answer⟩ ∈ callOf i front) :
    ∃ move ∈ front, (answer = .error .unavailable ∧
        Unconfirmed move i auth a authorizationId answer) ∨
      ∃ issuedAtUs, answer = .ok (some issuedAtUs) ∧
        Commits move i auth a authorizationId issuedAtUs := by
  obtain ⟨move, hmove, htells⟩ := mem_callOf hmem
  obtain ⟨before, after, rfl⟩ := List.append_of_mem hmove
  exact ⟨move, hmove, commit_told hrun.around.2.1 htells⟩

theorem move_issuedIds (hstep : PoolStep (uploadMachine signer) move.src move.label move.dst) :
    move.dst.store.issuedIds = move.src.store.issuedIds ∨
    ∃ auth a authorizationId, move.label.served = some (.issue auth a authorizationId) ∧
      FencedBy move.src.store auth a ∧
      move.dst.store.issuedIds = move.src.store.issuedIds ++ [authorizationId] := by
  obtain ⟨src, label, dst⟩ := move
  dsimp only at hstep ⊢
  cases hstep with
  | external hexternal => exact Or.inl hexternal.authorizations
  | start | crash | lose => exact Or.inl rfl
  | perform hasks hserve =>
      rcases serve_issuedIds hserve with ⟨_, hids, _⟩ |
        ⟨auth, a, authorizationId, rfl, hfenced, _, _, hids, _⟩
      · exact Or.inl hids
      · exact Or.inr ⟨auth, a, authorizationId, rfl, hfenced, hids⟩
  | late hlate hserve =>
      rcases serve_issuedIds hserve with ⟨_, hids, _⟩ |
        ⟨auth, a, authorizationId, rfl, hfenced, _, _, hids, _⟩
      · exact Or.inl hids
      · exact Or.inr ⟨auth, a, authorizationId, rfl, hfenced, hids⟩

/-- Upload authorizations are fenced, whatever happens between the awaits of their calls. -/
theorem upload_fence (hstart : PoolInitial UploadStore.Audited start)
    (hrun : Run (PoolStep (uploadMachine signer)) start trace p) :
    UploadFence signer trace p.store := by
  have hprograms : ∀ program, (uploadMachine signer).program program →
      Program.Follows (callMonitor (uploadRule signer)) (fun _ _ => True) [] program := by
    rintro program ⟨enabled, auth, value, rfl⟩
    exact uploadAuthorizationRequest_follows enabled value
  obtain ⟨hbook, haudited⟩ := uploadBook_run hstart start.store.authorizations.nodup hrun
  constructor
  · rintro front move back i authorizationId issuedAtUs envelope answer rfl htells
    obtain ⟨auth, a, hissued⟩ := run_asked hprograms hstart hrun htells
    refine ⟨auth, a, hissued, ?_⟩
    have hmem : ⟨.issue auth a authorizationId, .ok (some issuedAtUs)⟩ ∈ callOf i front := by
      obtain ⟨grantSecret, applicationSecret, nonce, metadata, pair, app, hcall, -⟩ := hissued
      rw [hcall]
      simp [issuedCall]
    obtain ⟨commit, hcommit, ⟨hanswer, _⟩ | ⟨_, hanswer, hcommits⟩⟩ :=
      commit_of_call hrun.around.1 hmem
    · cases hanswer
    · cases hanswer
      exact ⟨commit, hcommit, hcommits⟩
  · exact hbook.redeemed
  · intro authorizationId hanswered
    have hissued : p.store.issuedIds.count authorizationId = 1 :=
      List.count_eq_one_of_mem hbook.issued (hbook.redeemed_issued authorizationId hanswered)
    refine ⟨hissued, ?_⟩
    rw [haudited]
    exact hissued
  · rintro front move back i response answer rfl htells hrefused auth a authorizationId given hmem
    have hunissued : Unissued (callOf i front) := by
      have hrule := run_asked hprograms hstart hrun htells
      cases response with
      | issued authorizationId issuedAtUs envelope => cases hrefused
      | failed fault => exact hrule
      | serviceUnavailable => exact hrule
    obtain ⟨commit, hcommit, ⟨_, hunconfirmed⟩ | ⟨issuedAtUs, rfl, _⟩⟩ :=
      commit_of_call hrun.around.1 hmem
    · exact ⟨commit, hcommit, hunconfirmed⟩
    · exact absurd hmem (hunissued auth a authorizationId issuedAtUs)
  · intro move hmove
    obtain ⟨front, back, rfl⟩ := List.append_of_mem hmove
    exact move_issuedIds hrun.around.2.1

end Fence

end Book

namespace AuthorizationSample

def user : Token := ⟨"user-1", Eq.refl true⟩
def installation : Token := ⟨"installation-1", Eq.refl true⟩
def version : Token := ⟨"version-1", Eq.refl true⟩
def generation : Token := ⟨"generation-1", Eq.refl true⟩
def drawn : Token := ⟨"authorization-1", Eq.refl true⟩
def auth : AdmissionAuth := ⟨installation, "digest-1"⟩

/-- A linked user with one plugin and both gates open. -/
def start : UploadStore where
  db :=
    { emptyDb with
      flickr :=
        { emptyDb.flickr with
          links := ⟨[⟨user, "1@N01", 1, .linked⟩], by decide⟩
          credentials := ⟨[⟨user, generation, 1, "1@N01", .write, none⟩], by decide⟩
          connections := ⟨[⟨user, .linked, .available, none, false, none⟩], by decide⟩
          gates := ⟨[⟨.deployment, true, 3⟩, ⟨.user user, true, 2⟩], by decide⟩ }
      installations := ⟨[⟨installation, user, true, true, some version⟩], by decide⟩
      versions := ⟨[⟨version, installation, .current, "digest-1"⟩], by decide⟩ }
  installationRevision _ := 1
  authorizations := .empty
  events := .empty
  resolutions := .empty
  proofs := []
  audit := []

/-- A header that names the token. -/
def signer : UploadSigner where
  header _ pair _ nonce := "OAuth " ++ pair.1 ++ " " ++ nonce

def grantSecret : JsonValue :=
  .object [("schemaVersion", .number 1), ("generation", .text "generation-1"),
    ("token", .text "token-1"), ("tokenSecret", .text "secret-1")]

def applicationSecret : JsonValue :=
  .object [("schemaVersion", .number 1), ("consumerKey", .text "key-1"),
    ("consumerSecret", .text "secret-2")]

def body : JsonValue :=
  .object
    [("schemaVersion", .number 1),
      ("flickrMetadata", .object
        [("is_public", .text "1"), ("is_friend", .text "0"), ("is_family", .text "0"),
          ("safety_level", .text "1"), ("content_type", .text "1"), ("hidden", .text "1"),
          ("title", .text "A title")])]

def oracle (s : UploadStore) : (o : UploadOp) → Option (o.Answer × UploadStore)
  | .credential auth => some (.ok (s.credential auth), s)
  | .linkedGrant auth => some (.ok (FlickrGroupAddr.linkedGrant s.db auth), s)
  | .connection userId => some (.ok (s.connectionAvailable userId), s)
  | .gates userId => some (.ok (s.currentGates userId), s)
  | .grantSecret => some (.ok grantSecret, s)
  | .applicationSecret => some (.ok applicationSecret, s)
  | .nonce => some ("nonce-1", s)
  | .randomId => some (drawn, s)
  | .issue auth a authorizationId =>
      (s.issue auth a authorizationId 7).map fun issued => (.ok (some issued.2), issued.1)
  | .auditFailure .. => none
  | .respond _ => some ((), s)

theorem oracle_serve (s : UploadStore) (o : UploadOp) (answer : o.Answer) (s' : UploadStore)
    (h : oracle s o = some (answer, s')) : (uploadMachine signer).serve s o answer s' := by
  cases o with
  | credential | linkedGrant | connection | gates =>
      cases h
      exact ⟨rfl, rfl⟩
  | grantSecret | applicationSecret | nonce | randomId | respond =>
      cases h
      exact rfl
  | issue auth a authorizationId =>
      obtain ⟨issued, hissued, h⟩ := Option.map_eq_some_iff.mp h
      cases h
      refine ⟨7, ?_⟩
      rw [hissued]
      exact ⟨rfl, rfl⟩
  | auditFailure => cases h

def pool : IssuePool Unit :=
  (Pool.idle start).playAll oracle () 20 [uploadAuthorizationRequest signer true auth body]

end AuthorizationSample

theorem upload_fence_sample :
    ∃ trace, Run (PoolStep (uploadMachine AuthorizationSample.signer))
        (Pool.idle AuthorizationSample.start) trace AuthorizationSample.pool ∧
      UploadFence AuthorizationSample.signer trace AuthorizationSample.pool.store ∧
      AuthorizationSample.pool.store.issuedIds = [AuthorizationSample.drawn] ∧
      (AuthorizationSample.pool.log.head?.map Entry.op) =
        some (.respond (.issued AuthorizationSample.drawn 7
          ⟨"OAuth token-1 nonce-1",
            [("api_key", "key-1"), ("is_public", "1"), ("is_friend", "0"), ("is_family", "0"),
              ("safety_level", "1"), ("content_type", "1"), ("hidden", "1"),
              ("title", "A title")]⟩)) := by
  have hprograms : ∀ program ∈ [uploadAuthorizationRequest AuthorizationSample.signer true
      AuthorizationSample.auth AuthorizationSample.body],
      (uploadMachine AuthorizationSample.signer).program program := by
    intro program hprogram
    exact ⟨true, _, _, List.mem_singleton.mp hprogram⟩
  obtain ⟨trace, hrun⟩ := Pool.run_playAll AuthorizationSample.oracle_serve () 20 hprograms
    (Pool.idle AuthorizationSample.start)
  have hfence := upload_fence ⟨show UploadStore.Audited AuthorizationSample.start from rfl, fun _ => rfl, rfl, rfl⟩ hrun
  refine ⟨trace, hrun, hfence, ?_, ?_⟩
  · decide +kernel
  · decide +kernel

end FlickrGroupAddr

import FlickrGroupAddr.Lib.Replies
import FlickrGroupAddr.NativeCredentials
import FlickrGroupAddr.ProofResponses
import FlickrGroupAddr.UploadBindingLedger

/-!
# What the plug-in makes of a photo proof

Any number of proofs, direct uploads and ambiguity resolutions run against the database while
links move on.  Whatever an upload request replies with passes the projection of the recovery;
the proof of an existing photo passes the check of its client exactly where no resolution was
the origin of the photo's binding.
-/

namespace FlickrGroupAddr

set_option autoImplicit false

open KeyedTable Program Workers Transition UploadBinding

/-! ## The requests -/

/-- How a request meets the database at a reading of its clock. -/
def serveProof (s : UploadStore) : (o : BindingOp) → o.Answer → UploadStore → Prop
  | .commit c, answer, s' => ∃ (bindingId : Token) (now : ClockReading),
      s.bindings.find? bindingId = none ∧ batchCommits s (s.commit c bindingId now.us) answer s'
  | .commitExisting auth grant photoId, answer, s' => ∃ (bindingId : Token) (now : ClockReading),
      s.bindings.find? bindingId = none ∧
        batchCommits s (s.commitExisting auth grant photoId bindingId now.us) answer s'
  | o, answer, s' => serveBinding s o answer s'

/-- The triggers of `flickr_links`: a link stays, and its revision does not fall. -/
def FlickrTables.LinksRise (f f' : FlickrTables) : Prop :=
  ∀ userId link, f.links.find? userId = some link →
    ∃ link', f'.links.find? userId = some link' ∧ link.linkRevision ≤ link'.linkRevision

/-- The other transactions, which may move the links on. -/
structure ProofExternal (s s' : UploadStore) : Prop where
  uploads : UploadExternal s s'
  links : FlickrTables.LinksRise s.db.flickr s'.db.flickr

/-- A request, with what it replies. -/
def BindingCall.replied (call : BindingCall) : BindingProg (BindingCall × BindingAnswer) :=
  call.request >>= fun answer => pure (call, answer)

abbrev ProofReply := BindingCall × BindingAnswer

abbrev ProofOp := Exchange BindingOp ProofReply

abbrev ProofOp.Answer : ProofOp → Type := Exchange.Answer ProofReply BindingOp.Answer

def proofMachine : Machine UploadStore ProofOp.Answer :=
  Machine.replying serveProof lostBinding ProofExternal fun q => ∃ call : BindingCall, q = call.replied

/-- A resolution was the origin of the binding that the photo has. -/
def UploadStore.resolvedFirst (s : UploadStore) (photoId : Token) : Prop :=
  ∃ b ∈ s.bindings, b.photoId = photoId ∧ s.reconciled b.bindingId = true

instance (s : UploadStore) (photoId : Token) : Decidable (s.resolvedFirst photoId) :=
  inferInstanceAs (Decidable (∃ b ∈ s.bindings, _ ∧ _))

/-! ## What a reply comes from -/

/-- A link revision that JavaScript counts exactly. -/
def GrantSnapshot.safe (grant : GrantSnapshot) : Prop :=
  1 ≤ grant.revision ∧ grant.revision ≤ Binary64.Number.maxSafeInteger

/-- A proof is committed under a safe revision. -/
def proofAsks (_ : Call BindingOp.Answer) : BindingOp → Prop
  | .commitExisting _ grant _ => grant.safe
  | _ => True

/-- The link that a request read, each time it did. -/
structure LinkRead (auth : AdmissionAuth) (grant : GrantSnapshot) (history : Call BindingOp.Answer) :
    Prop where
  told : ⟨.linkedGrant auth, .ok (some grant)⟩ ∈ history
  only : ∀ linked, ⟨.linkedGrant auth, .ok linked⟩ ∈ history → linked = some grant
  safe : grant.safe

/-- The row of an upload request was retained under its link, or committed under it. -/
structure UploadReplied (auth : AdmissionAuth) (authorizationId photoId : Token) (row : BindingRow)
    (created : Bool) (history : Call BindingOp.Answer) (grant : GrantSnapshot) : Prop where
  link : LinkRead auth grant history
  verification : 1 ≤ row.verificationRevision ∧
    row.verificationRevision ≤ Binary64.Number.maxSafeInteger
  source : (∃ userId, ⟨.authorization auth userId authorizationId, .ok (some (some photoId))⟩ ∈ history ∧
      ⟨.retained authorizationId grant.revision, .ok (some row)⟩ ∈ history) ∨
    ∃ current isPublic resolution,
      ⟨.commit ⟨auth, current, grant, authorizationId, photoId, isPublic, resolution⟩,
        .ok (some row, created)⟩ ∈ history

/-- What the history of an upload request says of its answer. -/
def uploadReplies (auth : AdmissionAuth) (authorizationId photoId : Token) :
    BindingAnswer → Call BindingOp.Answer → Prop
  | .success row created, history =>
      ∃ grant, UploadReplied auth authorizationId photoId row created history grant
  | .failure _, _ => True

/-- The same of the proof of an existing photo. -/
def existingReplies (auth : AdmissionAuth) (photoId : Token) (revision : Nat) :
    BindingAnswer → Call BindingOp.Answer → Prop
  | .success row created, history =>
      ∃ grant : GrantSnapshot, grant.revision = revision ∧
        ⟨.commitExisting auth grant photoId, .ok (some row, created)⟩ ∈ history
  | .failure _, _ => True

/-- What the history of a request says of its reply. -/
def proofReplies : ProofReply → Call BindingOp.Answer → Prop
  | (.upload auth authorizationId value _, answer), history =>
      ∀ row created, answer = .success row created →
        ∃ photoId, uploadBody value = .ok photoId ∧
          uploadReplies auth authorizationId photoId answer history
  | (.existing auth value, answer), history =>
      ∀ row created, answer = .success row created →
        ∃ photoId revision, UploadBinding.existingBody value = some (photoId, revision) ∧
          existingReplies auth photoId revision answer history

section Replies

variable {m : Monitor BindingOp.Answer (Call BindingOp.Answer)} {history : Call BindingOp.Answer}
  {auth : AdmissionAuth} {authorizationId photoId userId : Token} {current : UploadCredential}
  {grant : GrantSnapshot}

theorem LinkRead.snoc (h : LinkRead auth grant history) {entry : Sigma BindingOp.Answer}
    (hentry : ∀ linked, entry = ⟨.linkedGrant auth, .ok linked⟩ → linked = some grant) :
    LinkRead auth grant (history ++ [entry]) := by
  refine ⟨List.mem_append_left _ h.told, ?_, h.safe⟩
  intro linked hlinked
  rcases List.mem_append.mp hlinked with hold | hnew
  · exact h.only linked hold
  · exact hentry linked (List.mem_singleton.mp hnew).symm

/-- A check of a request that ends with an exception where it fails. -/
theorem runs_check {α : Type} {post : α → Call BindingOp.Answer → Prop}
    {thrown : BindingFault → Call BindingOp.Answer → Prop} {p : Prop} [Decidable p] {value : α}
    {fault : BindingFault} :
    Runs m post thrown history (attempt (pure (if p then .ok value else .error fault))) ↔
      (p → post value history) ∧ (¬ p → thrown fault history) := by
  rw [runs_attempt, follows_pure]
  split
  · next hp => simp [ends, hp]
  · next hp => simp [ends, hp]

theorem recheck_replies {fault : BindingFault} {current : Option UploadCredential}
    {grant : Option GrantSnapshot} :
    Runs (callMonitor proofAsks) (fun _ _ => True) (fun _ _ => True) history
      (recheck auth authorizationId photoId current grant fault) := by
  have hlatest : ∀ (userId : Token) (later : Call BindingOp.Answer),
      Runs (callMonitor proofAsks) (fun _ _ => True) (fun _ _ => True) later (do
        let latest ← attempt (Prog.query (BindingOp.authorization auth userId authorizationId))
        if (latest.join.any fun bound => bound ≠ photoId) = true then pure .photoBindingConflict
        else pure fault) := by
    intro userId later
    rw [runs_bind]
    refine ⟨trivial, ?_⟩
    intro latest
    cases latest with
    | error fault => trivial
    | ok latest =>
        show Runs _ _ _ _ (ite _ _ _)
        split <;> trivial
  unfold recheck
  cases current with
  | none => trivial
  | some current =>
      rw [runs_bind]
      refine ⟨trivial, ?_⟩
      intro credential
      cases credential with
      | error fault => trivial
      | ok credential =>
          show Runs _ _ _ _ (ite _ _ _)
          split
          · trivial
          · cases grant with
            | none => exact hlatest _ _
            | some grant =>
                rw [runs_bind, runs_map]
                refine ⟨trivial, ?_⟩
                intro linked
                cases linked with
                | error fault => trivial
                | ok linked =>
                    show Runs _ _ _ _ (ite _ _ _)
                    split
                    · trivial
                    · exact hlatest _ _

/-- The `catch` never ends with a row. -/
theorem recover_replies {fault : BindingFault} {current : Option UploadCredential}
    {grant : Option GrantSnapshot} {post : BindingAnswer → Call BindingOp.Answer → Prop}
    (hpost : ∀ fault later, post (.failure fault) later) :
    Program.Follows (callMonitor proofAsks) post history
      (recover auth authorizationId photoId current grant fault) := by
  unfold recover
  rw [follows_bind]
  apply Program.Follows.imp recheck_replies
  intro result later _
  cases result with
  | ok code => exact hpost code later
  | error fault => exact hpost .upstreamUnavailable later

/-- What `success` makes of a row under the link. -/
theorem success_replies {row : Option BindingRow} {created : Bool} {missing : BindingFault}
    (hlink : LinkRead auth grant history)
    (hsource : ∀ found, row = some found →
      (∃ userId,
        ⟨.authorization auth userId authorizationId, .ok (some (some photoId))⟩ ∈ history ∧
        ⟨.retained authorizationId grant.revision, .ok (some found)⟩ ∈ history) ∨
      ∃ current isPublic resolution,
        ⟨.commit ⟨auth, current, grant, authorizationId, photoId, isPublic, resolution⟩,
          .ok (some found, created)⟩ ∈ history) :
    Runs (callMonitor proofAsks) (uploadReplies auth authorizationId photoId) (fun _ _ => True)
      history (attempt (pure (success row created missing))) := by
  rw [runs_attempt, follows_pure]
  cases row with
  | none => trivial
  | some row =>
      unfold success
      dsimp only
      split
      · next hsafe => exact ⟨grant, hlink, hsafe.2.2, hsource row rfl⟩
      · trivial

theorem replay_replies (hlink : LinkRead auth grant history)
    (hbound : ⟨.authorization auth userId authorizationId, .ok (some (some photoId))⟩ ∈ history) :
    Runs (callMonitor proofAsks) (uploadReplies auth authorizationId photoId) (fun _ _ => True)
      history (replay auth current grant authorizationId) := by
  unfold replay
  rw [runs_bind]
  refine ⟨trivial, ?_⟩
  intro row
  cases row with
  | error fault => trivial
  | ok row =>
  show Runs _ _ _ _ (_ >>= _)
  rw [runs_bind, runs_check]
  refine ⟨fun _ => ?_, fun _ => trivial⟩
  rw [runs_bind]
  refine ⟨trivial, ?_⟩
  intro credential
  cases credential with
  | error fault => trivial
  | ok credential =>
  show Runs _ _ _ _ (_ >>= _)
  rw [runs_bind, runs_check]
  refine ⟨fun _ => ?_, fun _ => trivial⟩
  rw [runs_bind]
  refine ⟨trivial, ?_⟩
  intro linked
  cases linked with
  | error fault => trivial
  | ok linked =>
  show Runs _ _ _ _ (_ >>= _)
  rw [runs_bind, runs_check]
  refine ⟨fun hlinked => ?_, fun _ => trivial⟩
  subst hlinked
  apply success_replies
  · refine ((hlink.snoc ?_).snoc ?_).snoc ?_
    · rintro linked ⟨⟩
    · rintro linked ⟨⟩
    · rintro linked ⟨⟩
      rfl
  · rintro found rfl
    left
    refine ⟨userId, ?_, ?_⟩
    · exact List.mem_append_left _ (List.mem_append_left _ (List.mem_append_left _ hbound))
    · exact List.mem_append_left _ (List.mem_append_left _ (List.mem_append_right _
        (List.mem_singleton_self _)))

theorem readPhoto_replies {changed : BindingFault} (hlink : LinkRead auth grant history) :
    Runs (callMonitor proofAsks) (fun _ later => LinkRead auth grant later) (fun _ _ => True)
      history (readPhoto auth grant photoId changed) := by
  unfold readPhoto
  rw [runs_bind]
  refine ⟨trivial, ?_⟩
  intro generation
  cases generation with
  | error fault => trivial
  | ok generation =>
  show Runs _ _ _ _ (_ >>= _)
  rw [runs_bind, runs_check]
  refine ⟨fun _ => ?_, fun _ => trivial⟩
  rw [runs_bind]
  refine ⟨trivial, ?_⟩
  intro linked
  cases linked with
  | error fault => trivial
  | ok linked =>
  show Runs _ _ _ _ (_ >>= _)
  rw [runs_bind, runs_check]
  refine ⟨fun hlinked => ?_, fun _ => trivial⟩
  subst hlinked
  refine ⟨trivial, ?_⟩
  intro info
  cases info with
  | error fault => trivial
  | ok info =>
      refine ((hlink.snoc ?_).snoc ?_).snoc ?_
      · rintro linked ⟨⟩
      · rintro linked ⟨⟩
        rfl
      · rintro linked ⟨⟩

theorem observe_replies (hlink : LinkRead auth grant history) :
    Runs (callMonitor proofAsks) (fun _ later => LinkRead auth grant later) (fun _ _ => True)
      history (observe auth grant photoId) := by
  unfold observe
  rw [runs_bind]
  refine Runs.imp (readPhoto_replies hlink) ?_ fun _ _ _ => trivial
  intro info later hlater
  show Runs _ _ _ _ (ite _ _ _)
  split
  · rw [runs_bind]
    refine ⟨trivial, ?_⟩
    intro rejected
    trivial
  · rw [runs_attempt, follows_pure]
    cases observed grant photoId info with
    | error fault => trivial
    | ok isPublic => exact hlater

theorem bind_replies {resolution : Bool} (hlink : LinkRead auth grant history) :
    Runs (callMonitor proofAsks) (uploadReplies auth authorizationId photoId) (fun _ _ => True)
      history (UploadBinding.bind auth current grant authorizationId photoId resolution) := by
  unfold UploadBinding.bind
  rw [runs_bind]
  refine Runs.imp (observe_replies hlink) ?_ fun _ _ _ => trivial
  intro isPublic later hlater
  rw [runs_bind]
  refine ⟨trivial, ?_⟩
  intro committed
  cases committed with
  | error fault => trivial
  | ok committed =>
      obtain ⟨row, created⟩ := committed
      apply success_replies
      · apply hlater.snoc
        rintro linked ⟨⟩
      · rintro found rfl
        right
        exact ⟨current, isPublic, resolution,
          List.mem_append_right _ (List.mem_singleton_self _)⟩

theorem issued_replies :
    Runs (callMonitor proofAsks) (fun bound later => later =
        history ++ [⟨.authorization auth current.userId authorizationId, .ok (some bound)⟩])
      (fun _ _ => True) history (issued auth current authorizationId photoId) := by
  unfold issued
  rw [runs_bind]
  refine ⟨trivial, ?_⟩
  intro issued
  cases issued with
  | error fault => trivial
  | ok issued =>
      cases issued with
      | none => trivial
      | some bound =>
          show Runs _ _ _ _ (ite _ _ _)
          split
          · trivial
          · rfl

/-- The first read of the link. -/
theorem linked_replies (hfirst : ∀ linked, ⟨.linkedGrant auth, .ok linked⟩ ∉ history) :
    Runs (callMonitor proofAsks) (fun grant later => LinkRead auth grant later ∧
        ∀ entry ∈ history, entry ∈ later) (fun _ _ => True) history (linked auth) := by
  unfold linked
  rw [runs_bind]
  refine ⟨trivial, ?_⟩
  intro linked
  cases linked with
  | error fault => trivial
  | ok linked =>
      cases linked with
      | none => trivial
      | some grant =>
          show Runs _ _ _ _ (ite _ _ _)
          split
          · next hsafe =>
              refine ⟨⟨List.mem_append_right _ (List.mem_singleton_self _), ?_, hsafe⟩,
                fun entry hentry => List.mem_append_left _ hentry⟩
              intro later hlater
              rcases List.mem_append.mp hlater with hold | hnew
              · exact absurd hold (hfirst later)
              · cases List.mem_singleton.mp hnew
                rfl
          · trivial

/-- Every answer of an upload request is borne out by what the request asked. -/
theorem uploadBindingRequest_replies {value : JsonValue} {resolution : Bool} :
    Program.Follows (callMonitor proofAsks)
      (fun answer later => ∀ row created, answer = .success row created →
        ∃ photoId, uploadBody value = .ok photoId ∧
          uploadReplies auth authorizationId photoId answer later)
      [] (uploadBindingRequest auth authorizationId value resolution) := by
  unfold uploadBindingRequest
  cases hbody : uploadBody value with
  | error fault => rintro row created ⟨⟩
  | ok photoId =>
  have hfailed : ∀ (fault : BindingFault) (later : Call BindingOp.Answer) (row : BindingRow)
      (created : Bool), BindingAnswer.failure fault = .success row created →
      ∃ photoId', Except.ok photoId = (.ok photoId' : Except BindingFault Token) ∧
        uploadReplies auth authorizationId photoId' (.failure fault) later := by
    rintro fault later row created ⟨⟩
  have hdone : ∀ (answer : BindingAnswer) (later : Call BindingOp.Answer),
      uploadReplies auth authorizationId photoId answer later →
      ∀ row created, answer = .success row created →
        ∃ photoId', Except.ok photoId = (.ok photoId' : Except BindingFault Token) ∧
          uploadReplies auth authorizationId photoId' answer later := by
    intro answer later hanswer row created _
    exact ⟨photoId, rfl, hanswer⟩
  dsimp only
  rw [follows_bind, follows_query]
  refine ⟨trivial, ?_⟩
  intro credential
  rcases credential with fault | ⟨_ | current⟩
  · exact hfailed _ _
  · exact hfailed _ _
  show Program.Follows _ _ _ (_ >>= _)
  rw [follows_bind]
  apply Program.Follows.imp issued_replies
  intro bound later hlater
  cases bound with
  | error fault => exact recover_replies hfailed
  | ok bound =>
  change later = _ at hlater
  subst hlater
  show Program.Follows _ _ _ (_ >>= _)
  rw [follows_bind]
  apply Program.Follows.imp (linked_replies ?_)
  · intro grant later hlater
    cases grant with
    | error fault => exact recover_replies hfailed
    | ok grant =>
    obtain ⟨hlink, hkept⟩ := hlater
    show Program.Follows _ _ _ (_ >>= _)
    rw [follows_bind]
    have hanswer : Runs (callMonitor proofAsks) (uploadReplies auth authorizationId photoId)
        (fun _ _ => True) later
        (if bound = some photoId then replay auth current grant authorizationId
          else UploadBinding.bind auth current grant authorizationId photoId resolution) := by
      split
      · next hbound =>
          subst hbound
          exact replay_replies hlink (hkept _ (List.mem_append_right _ (List.mem_singleton_self _)))
      · exact bind_replies hlink
    apply Program.Follows.imp hanswer
    intro answer last hlast
    cases answer with
    | error fault => exact recover_replies hfailed
    | ok answer => exact hdone answer last hlast
  · intro linked hmem
    rcases List.mem_append.mp hmem with hfirst | hsecond
    · cases List.mem_singleton.mp hfirst
    · cases List.mem_singleton.mp hsecond

/-- Every answer of a proof is the row that it committed. -/
theorem prove_replies (hlink : LinkRead auth grant history) :
    Runs (callMonitor proofAsks) (existingReplies auth photoId grant.revision) (fun _ _ => True)
      history (prove auth grant photoId) := by
  have hverify : Runs (callMonitor proofAsks) (fun _ _ => True) (fun _ _ => True) history
      (verifyPhoto auth grant photoId) := by
    unfold verifyPhoto
    rw [runs_bind]
    refine Runs.imp (readPhoto_replies hlink) ?_ fun _ _ _ => trivial
    intro info later _
    show Runs _ _ _ _ (ite _ _ _)
    split
    · rw [runs_bind]
      refine ⟨trivial, ?_⟩
      intro rejected
      trivial
    · rw [runs_attempt, follows_pure]
      cases verified grant photoId info <;> trivial
  unfold prove
  rw [runs_bind]
  refine Runs.imp hverify ?_ fun _ _ _ => trivial
  intro _ later _
  rw [runs_bind]
  refine ⟨hlink.safe, ?_⟩
  intro committed
  cases committed with
  | error fault => trivial
  | ok committed =>
      obtain ⟨row, created⟩ := committed
      cases row with
      | none => trivial
      | some row => exact ⟨grant, rfl, List.mem_append_right _ (List.mem_singleton_self _)⟩

theorem existingBody_safe {value : JsonValue} {revision : Nat}
    (h : UploadBinding.existingBody value = some (photoId, revision)) :
    1 ≤ revision ∧ revision ≤ Binary64.Number.maxSafeInteger := by
  unfold UploadBinding.existingBody at h
  split at h
  · split at h
    · split at h
      · next hbounds =>
          cases h
          unfold Binary64.Number.maxSafeInteger
          omega
      · cases h
    · cases h
  · cases h

theorem bindingRequest_replies {value : JsonValue} :
    Program.Follows (callMonitor proofAsks)
      (fun answer later => ∀ row created, answer = .success row created →
        ∃ photoId revision, UploadBinding.existingBody value = some (photoId, revision) ∧
          existingReplies auth photoId revision answer later)
      [] (bindingRequest auth value) := by
  unfold bindingRequest
  cases hbody : UploadBinding.existingBody value with
  | none => rintro row created ⟨⟩
  | some body =>
  obtain ⟨photoId, revision⟩ := body
  dsimp only
  rw [follows_bind, follows_query]
  refine ⟨trivial, ?_⟩
  rintro (fault | before)
  · rintro row created ⟨⟩
  dsimp only
  cases hgrant : before.filter fun grant => decide (grant.revision = revision) with
  | none => rintro row created ⟨⟩
  | some grant =>
  obtain ⟨rfl, hrevision⟩ := Option.filter_eq_some_iff.mp hgrant
  rw [decide_eq_true_eq] at hrevision
  subst hrevision
  have hlink : LinkRead auth grant [⟨.linkedGrant auth, .ok (some grant)⟩] := by
    refine ⟨List.mem_singleton_self _, ?_, existingBody_safe hbody⟩
    intro linked hlinked
    cases List.mem_singleton.mp hlinked
    rfl
  show Program.Follows _ _ _ (_ >>= _)
  rw [follows_bind]
  apply Program.Follows.imp (prove_replies hlink)
  intro answer last hlast
  cases answer with
  | ok answer =>
      intro row created _
      exact ⟨photoId, grant.revision, rfl, hlast⟩
  | error fault =>
      show Program.Follows _ _ _ (ite _ _ _)
      split
      · rw [follows_bind, follows_query]
        refine ⟨trivial, ?_⟩
        rintro (fault | linked)
        · rintro row created ⟨⟩
        · show Program.Follows _ _ _ (ite _ _ _)
          split
          · rintro row created ⟨⟩
          · rintro row created ⟨⟩
      · rintro row created ⟨⟩

/-- Every request of the machine follows the rule. -/
theorem replied_follows (call : BindingCall) :
    Program.Follows (callMonitor proofAsks) proofReplies [] call.replied := by
  unfold BindingCall.replied
  rw [follows_bind]
  cases call with
  | upload auth authorizationId value resolution => exact uploadBindingRequest_replies
  | existing auth value => exact bindingRequest_replies

end Replies

/-! ## What a batch writes -/

/-- Photos are bound under revisions that their link had, and events are no newer. -/
structure ProofSound (s : UploadStore) : Prop where
  uploads : UploadSound s
  clocked : ∀ b ∈ s.bindings, ∃ now : ClockReading, b.verifiedAtUs = now.us
  linked : ∀ b ∈ s.bindings, ∃ link, s.db.flickr.links.find? b.userId = some link ∧
    b.linkRevision ≤ link.linkRevision
  events : ∀ e ∈ s.events, ∀ b ∈ s.bindings, b.bindingId = e.bindingId →
    e.linkRevision ≤ b.linkRevision

/-- A photo was verified under the link that its user has. -/
structure ProofWritten (s s' : UploadStore) (revision : Nat) (photoId : Token)
    (b : PhotoBinding) : Prop where
  verified : PhotoVerified s.bindings s'.bindings photoId b
  renewed : b.linkRevision = revision
  current : ∃ link, s.db.flickr.links.find? b.userId = some link ∧ link.linkRevision = revision
  owner : ∀ old ∈ s.bindings, old.photoId = photoId → old.userId = b.userId
  clock : ∃ now : ClockReading, b.verifiedAtUs = now.us
  counted : 1 ≤ b.verificationRevision ∧ b.verificationRevision ≤ Binary64.Number.maxSafeInteger
  links : s'.db.flickr.links = s.db.flickr.links
  events : ∀ e ∈ s'.events, e ∈ s.events ∨
    (e.bindingId = b.bindingId ∧ e.linkRevision = b.linkRevision)

theorem PhotoVerified.fresh {before after : Table PhotoBinding.bindingId} {photoId : Token}
    {b : PhotoBinding} (h : PhotoVerified before after photoId b) : b ∉ before := by
  intro hb
  rcases h.counted with ⟨hnew, _⟩ | ⟨old, hold, _, hid, hrevision⟩
  · exact (hnew b hb).2 rfl
  · rw [Table.eq_of_key_eq hold hb hid] at hrevision
    omega

/-- Every row of the bound photos is an old one, or was just verified under the snapshot. -/
theorem bindPhoto_written {f f' : FlickrTables} {snapshot : GrantSnapshot}
    {photoId bindingId : Token} {source : SourceKind} {again : PhotoBinding → Bool} {now : Us}
    (hphotos : ∀ b ∈ f.bindings, b.photoId = photoId → b.userId = snapshot.userId)
    (h : f.bindPhoto snapshot photoId bindingId source again now = some f') {b : PhotoBinding}
    (hb : b ∈ f'.bindings) (hnew : b ∉ f.bindings) :
    b.linkRevision = snapshot.revision ∧ b.userId = snapshot.userId ∧ b.verifiedAtUs = now := by
  have hverified : ∀ (old : PhotoBinding) (selected : Bool),
      (old ∈ f.bindings ∧ (selected = true → old.photoId = photoId)) ∨
        (selected = false ∧ old = ⟨bindingId, snapshot.userId, photoId, snapshot.ownerNsid,
          snapshot.revision, 1, source, now⟩) →
      (b = if selected then
        { old with
          linkRevision := snapshot.revision
          verificationRevision := old.verificationRevision + 1
          verifiedAtUs := now }
        else old) →
      b.linkRevision = snapshot.revision ∧ b.userId = snapshot.userId ∧ b.verifiedAtUs = now := by
    rintro old selected (⟨hold, hphoto⟩ | ⟨rfl, rfl⟩) rfl
    · cases selected with
      | false => exact absurd hold hnew
      | true => exact ⟨rfl, hphotos old hold (hphoto rfl), rfl⟩
    · exact ⟨rfl, rfl, rfl⟩
  unfold FlickrTables.bindPhoto at h
  dsimp only at h
  split at h
  · cases h
    rw [Table.mem_modifyWhere] at hb
    obtain ⟨old, hold, hrow⟩ := hb
    refine hverified old _ (Or.inl ⟨hold, ?_⟩) hrow
    intro hselected
    exact (of_decide_eq_true hselected).1
  · obtain ⟨bindings, hinsert, rfl⟩ := Option.map_eq_some_iff.mp h
    rw [Table.mem_modifyWhere] at hb
    obtain ⟨old, hold, hrow⟩ := hb
    rcases (Table.mem_insert? hinsert).mp hold with hkept | hadded
    · refine hverified old _ (Or.inl ⟨hkept, ?_⟩) hrow
      intro hselected
      exact (of_decide_eq_true hselected).1
    · refine hverified old _ (Or.inr ⟨?_, hadded⟩) hrow
      simp [hadded]

section Writes

variable {s s' : UploadStore} {c : UploadCommit} {bindingId : Token} {now : ClockReading}
  {result : Option BindingRow × Bool}

/-- A new event is of the binding that the photo has, under its revision. -/
theorem recordEvent_revision {changes : Nat} (h : s.recordEvent c = some (s', changes)) :
    ∀ e ∈ s'.events, e ∈ s.events ∨ ∃ b, s.bindingOf c.photoId = some b ∧
      e.bindingId = b.bindingId ∧ e.linkRevision = b.linkRevision := by
  intro e he
  unfold UploadStore.recordEvent at h
  split at h
  · split at h
    · cases h
      exact Or.inl he
    · next b hb =>
        split at h
        · obtain ⟨events, hinsert, h⟩ := Option.map_eq_some_iff.mp h
          cases h
          rcases (Table.mem_insert? hinsert).mp he with hold | rfl
          · exact Or.inl hold
          · exact Or.inr ⟨b, hb, rfl, rfl⟩
        · cases h
  · cases h
    exact Or.inl he

/-- The row of a committed batch is the projection of the store it leaves. -/
theorem commit_row (h : s.commit c bindingId now.us = some (s', result)) :
    result.1 = s'.projection c.authorizationId := by
  unfold UploadStore.commit at h
  split at h
  · cases h
  · obtain ⟨flickr, _, h⟩ := Option.bind_eq_some_iff.mp h
    obtain ⟨recorded, _, h⟩ := Option.bind_eq_some_iff.mp h
    obtain ⟨resolved, _, h⟩ := Option.bind_eq_some_iff.mp h
    cases h
    rfl

/-- A photo that is verified once more has a next revision. -/
theorem PhotoVerified.counted_safe {before after : Table PhotoBinding.bindingId} {photoId : Token}
    {b : PhotoBinding} (h : PhotoVerified before after photoId b)
    (hroom : ∀ old ∈ before, old.photoId = photoId → old.verificationRevision < 9007199254740991) :
    1 ≤ b.verificationRevision ∧ b.verificationRevision ≤ Binary64.Number.maxSafeInteger := by
  unfold Binary64.Number.maxSafeInteger
  rcases h.counted with ⟨_, hone⟩ | ⟨old, hold, hphoto, _, hrevision⟩
  · omega
  · have := hroom old hold hphoto
    omega

/-- What a batch that verified a photo under the current link wrote. -/
theorem written_of_bind {f : FlickrTables} {grant : GrantSnapshot} {photoId : Token}
    {source : SourceKind} {again : PhotoBinding → Bool} {pending : Bool} {b : PhotoBinding}
    (hgrant : s.db.flickr.grantCurrent grant)
    (hphotos : s.db.flickr.photoBindable grant photoId pending) (hpending : pending = true)
    (hbind : s.db.flickr.bindPhoto grant photoId bindingId source again now.us = some f)
    (hverified : PhotoVerified s.bindings s'.bindings photoId b) (hf : s'.db.flickr = f)
    (hevents : ∀ e ∈ s'.events, e ∈ s.events ∨
      (e.bindingId = b.bindingId ∧ e.linkRevision = b.linkRevision)) :
    ProofWritten s s' grant.revision photoId b := by
  subst hf
  obtain ⟨hrevision, huser, hclock⟩ := bindPhoto_written
    (fun old hold hphoto => (hphotos old hold hphoto).1) hbind hverified.added hverified.fresh
  obtain ⟨link, hlink, _, _, _, _, hcurrent, _⟩ := hgrant
  refine ⟨hverified, hrevision, ⟨link, ?_, hcurrent⟩, ?_, ⟨now, hclock⟩, ?_, ?_, hevents⟩
  · rw [huser]
    exact hlink
  · rw [huser]
    exact fun old hold hphoto => (hphotos old hold hphoto).1
  · exact hverified.counted_safe fun old hold hphoto => (hphotos old hold hphoto).2.2 hpending
  · rw [FlickrTables.bindPhoto_frame hbind]

/-- A committed batch for a pending authorization verifies its photo and answers with it. -/
theorem commit_written (hsound : UploadSound s) (hfresh : s.bindings.find? bindingId = none)
    (hnone : s.events.find? c.authorizationId = none)
    (h : s.commit c bindingId now.us = some (s', result)) :
    ∃ b, ProofWritten s s' c.grant.revision c.photoId b ∧ result.1 = some (s'.bindingRow b) := by
  have hrow := commit_row h
  obtain ⟨hguard, flickr, recorded, changes, hbind, hrecord, hresolve⟩ := commit_eq_some h
  obtain ⟨_, hgrant, _, hphotos, _⟩ := hguard
  have hpending : s.pending c.authorizationId = true := by simp [UploadStore.pending, hnone]
  obtain ⟨b, hverified, _⟩ :=
    bindPhoto_verified hsound.once hfresh (fun _ _ _ => hpending) hbind
  have honce : PhotosOnce (s.bindTo c flickr).bindings := hverified.once hsound.once
  have hbindingOf : (s.bindTo c flickr).bindingOf c.photoId = some b := by
    rw [← hverified.photo]
    exact bindingOf_of_mem honce hverified.added
  have hevents : ∀ e ∈ recorded.events, e ∈ s.events ∨
      (e.bindingId = b.bindingId ∧ e.linkRevision = b.linkRevision) := by
    intro e he
    rcases recordEvent_revision hrecord e he with hold | ⟨b', hb', hid, hrevision⟩
    · exact Or.inl hold
    · rw [hbindingOf] at hb'
      cases hb'
      exact Or.inr ⟨hid, hrevision⟩
  -- the resolution is the last thing that a batch writes
  have hresolved : s'.db = recorded.db ∧ s'.events = recorded.events := by
    rcases recordResolution_eq_some hresolve with rfl | ⟨_, _, _, _, _, hresolved⟩
    · exact ⟨rfl, rfl⟩
    · rw [hresolved]
      exact ⟨rfl, rfl⟩
  rcases recordEvent_eq_some hrecord with ⟨_, _, hmissing⟩ |
    ⟨b', e, _, hb', heid, heb, hinsert, hrecorded, _⟩
  · rw [hmissing hpending] at hbindingOf
    cases hbindingOf
  · rw [hbindingOf] at hb'
    cases hb'
    have hdb : s'.db.flickr = flickr := by
      rw [hresolved.1, hrecorded]
      rfl
    have hbindings : s'.bindings = flickr.bindings := by
      rw [UploadStore.bindings, hdb]
    have hwritten : ProofWritten s s' c.snapshot.revision c.photoId b := by
      apply written_of_bind hgrant hphotos hpending hbind _ hdb
      · rw [hresolved.2]
        exact hevents
      · rw [hbindings]
        exact hverified
    have hfind : s'.events.find? c.authorizationId = some e := by
      rw [hresolved.2, ← heid]
      exact Table.find?_of_mem ((Table.mem_insert? hinsert).mpr (Or.inr rfl))
    have hbound : s'.bindings.find? e.bindingId = some b := by
      rw [hbindings, heb]
      exact Table.find?_of_mem hverified.added
    refine ⟨b, hwritten, ?_⟩
    rw [hrow, UploadStore.projection, hfind, Option.bind_some, hbound, Option.map_some]

theorem commitExisting_written {auth : AdmissionAuth} {grant : GrantSnapshot} {photoId : Token}
    (hsound : UploadSound s) (hfresh : s.bindings.find? bindingId = none)
    (h : s.commitExisting auth grant photoId bindingId now.us = some (s', result)) :
    ∃ b, ProofWritten s s' grant.revision photoId b ∧ result.1 = some (s'.bindingRow b) ∧
      s'.events = s.events ∧ s'.resolutions = s.resolutions := by
  obtain ⟨flickr, hcommit, h⟩ := Option.bind_eq_some_iff.mp h
  cases h
  unfold commitBinding at hcommit
  split at hcommit
  · next hguard =>
      obtain ⟨_, hgrant, hphotos⟩ := hguard
      have hagain : ∀ b ∈ s.db.flickr.bindings, b.photoId = photoId →
          decide (b.verificationRevision < 9007199254740991) = true := by
        intro b hb hphoto
        exact decide_eq_true ((hphotos b hb hphoto).2.2 rfl)
      obtain ⟨b, hverified, _⟩ := bindPhoto_verified hsound.once hfresh hagain hcommit
      have honce : PhotosOnce ({ s with db := { s.db with flickr := flickr } } : UploadStore).bindings :=
        hverified.once hsound.once
      have hbindingOf : UploadStore.bindingOf { s with db := { s.db with flickr := flickr } } photoId =
          some b := by
        rw [← hverified.photo]
        exact bindingOf_of_mem honce hverified.added
      refine ⟨b, written_of_bind hgrant hphotos rfl hcommit hverified rfl fun e he => Or.inl he,
        ?_, rfl, rfl⟩
      show (UploadStore.bindingOf { s with db := { s.db with flickr := flickr } } photoId).map _ = _
      rw [hbindingOf, Option.map_some]
  · cases hcommit

/-- A committed batch for an authorization with its event answers with the row as it is,
which the guard knows to be of the current link. -/
theorem commit_replayed_row (hsound : ProofSound s) {e : UploadBindingEvent}
    (he : s.events.find? c.authorizationId = some e)
    (h : s.commit c bindingId now.us = some (s', result)) :
    s' = s ∧ ∃ b ∈ s.bindings, b.photoId = c.photoId ∧ b.linkRevision = c.grant.revision ∧
      result.1 = some (s.bindingRow b) := by
  have hrow := commit_row h
  obtain ⟨hguard, _⟩ := commit_eq_some h
  obtain ⟨_, hgrant, ⟨a, ha, _, _, hphoto⟩, hphotos, hrevision⟩ := hguard
  obtain rfl := commit_replayed hsound.uploads he h
  refine ⟨rfl, ?_⟩
  obtain ⟨a', ha', b, hb, hid, hbid, hbound⟩ := hsound.uploads.events e (Table.mem_of_find? he)
  obtain rfl : a' = a := by
    apply Table.eq_of_key_eq ha' (Table.mem_of_find? ha)
    rw [hid, Table.key_of_find? he, Table.key_of_find? ha]
  have hbphoto : b.photoId = c.photoId := by
    rcases hphoto with hnone | hsome
    · rw [hbound] at hnone
      cases hnone
    · rw [hbound] at hsome
      exact Option.some.inj hsome
  refine ⟨b, hb, hbphoto, ?_, ?_⟩
  · -- between the revision of its event and the one of the link, which are equal
    obtain ⟨link, hlink, _, _, _, _, hcurrent, _⟩ := hgrant
    obtain ⟨link', hlink', hle⟩ := hsound.linked b hb
    rw [(hphotos b hb hbphoto).1, hlink] at hlink'
    cases hlink'
    have hbelow := hsound.events e (Table.mem_of_find? he) b hb hbid
    have hevent := hrevision e he
    change link.linkRevision = c.grant.revision at hcurrent
    omega
  · have hfind : s'.bindings.find? e.bindingId = some b := by
      rw [← hbid]
      exact Table.find?_of_mem hb
    rw [hrow, UploadStore.projection, he, Option.bind_some, hfind, Option.map_some]

end Writes

/-! ## What every step keeps -/

/-- A pause leaves the links as they are. -/
theorem FlickrTables.pauseGate_links (f : FlickrTables) (key : GateKey) (now : Us) :
    (f.pauseGate key none now).links = f.links := by
  unfold FlickrTables.pauseGate
  split
  · rfl
  · split
    · dsimp only
      unfold FlickrTables.updateGate
      split
      · rfl
      · unfold FlickrTables.gateTransition
        split <;> rfl
    · rfl

/-- A rejected grant moves the link of its user on. -/
theorem rejectCurrentGrant_rises {db : Db} {auth : AdmissionAuth} {grant : GrantSnapshot}
    {operationId generation : Token} {now : Us} {flickr : FlickrTables}
    (h : rejectCurrentGrant db auth grant operationId generation now = some flickr) :
    FlickrTables.LinksRise db.flickr flickr := by
  unfold rejectCurrentGrant at h
  split at h
  · obtain ⟨attached, _, hlinks, _, _, rfl⟩ := FlickrTables.startOperation_effect h
    intro userId link hfind
    rw [← FlickrTables.pauseGate_links attached (.user grant.userId) now] at hlinks
    obtain ⟨link', hfind', hle, _⟩ := FlickrTables.le_of_moveLink hlinks hfind
    exact ⟨link', hfind', hle⟩
  · cases h

namespace ProofSound

variable {s s' : UploadStore}

/-- Where no photo and no event changes, links may rise. -/
theorem risen (h : ProofSound s) (huploads : UploadSound s') (hbindings : s'.bindings = s.bindings)
    (hevents : s'.events = s.events) (hlinks : FlickrTables.LinksRise s.db.flickr s'.db.flickr) :
    ProofSound s' := by
  refine ⟨huploads, ?_, ?_, ?_⟩
  · rw [hbindings]
    exact h.clocked
  · rw [hbindings]
    intro b hb
    obtain ⟨link, hlink, hle⟩ := h.linked b hb
    obtain ⟨link', hlink', hrises⟩ := hlinks _ _ hlink
    exact ⟨link', hlink', hle.trans hrises⟩
  · rw [hbindings, hevents]
    exact h.events

/-- A photo that is verified gets the revision of its link. -/
theorem written (h : ProofSound s) (huploads : UploadSound s') {revision : Nat} {photoId : Token}
    {b : PhotoBinding} (hwritten : ProofWritten s s' revision photoId b) : ProofSound s' := by
  have hverified := hwritten.verified
  obtain ⟨link, hlink, hcurrent⟩ := hwritten.current
  refine ⟨huploads, ?_, ?_, ?_⟩
  · intro row hrow
    rcases (hverified.mem row).mp hrow with ⟨hold, _⟩ | rfl
    · exact h.clocked row hold
    · exact hwritten.clock
  · intro row hrow
    rw [hwritten.links]
    rcases (hverified.mem row).mp hrow with ⟨hold, _⟩ | rfl
    · exact h.linked row hold
    · exact ⟨link, hlink, by rw [hwritten.renewed, hcurrent]⟩
  · intro e he row hrow hid
    rcases (hverified.mem row).mp hrow with ⟨hold, hother⟩ | rfl
    · rcases hwritten.events e he with hkept | ⟨hnew, _⟩
      · exact h.events e hkept row hold hid
      · rcases hverified.kept h.uploads.once hold with ⟨_, hdistinct⟩ | ⟨_, hphoto, _⟩
        · exact absurd (hid.trans hnew) hdistinct
        · exact absurd (hphoto.trans hverified.photo) hother
    · rcases hwritten.events e he with hkept | ⟨_, hsame⟩
      · obtain ⟨_, _, b₀, hb₀, _, hid₀, _⟩ := h.uploads.events e hkept
        rcases hverified.counted with ⟨hfresh, _⟩ | ⟨old, hold, hphoto, hidOld, _⟩
        · exact absurd (hid₀.trans hid.symm) (hfresh b₀ hb₀).2
        · obtain ⟨link', hlink', hle⟩ := h.linked old hold
          rw [hwritten.owner old hold hphoto, hlink] at hlink'
          cases hlink'
          have hbelow := h.events e hkept old hold (hidOld.trans hid)
          rw [hwritten.renewed]
          omega
      · exact le_of_eq hsame

end ProofSound

theorem serveProof_binding {s s' : UploadStore} {o : BindingOp} {answer : o.Answer}
    (h : serveProof s o answer s') : serveBinding s o answer s' := by
  cases o with
  | commit c =>
      obtain ⟨bindingId, now, hfresh, hbatch⟩ := h
      exact ⟨bindingId, now.us, hfresh, hbatch⟩
  | commitExisting auth grant photoId =>
      obtain ⟨bindingId, now, hfresh, hbatch⟩ := h
      exact ⟨bindingId, now.us, hfresh, hbatch⟩
  | _ => exact h

theorem ProofSound.served {s s' : UploadStore} (hsound : ProofSound s) {o : BindingOp}
    {answer : o.Answer} (h : serveProof s o answer s') : ProofSound s' := by
  have huploads : UploadSound s' :=
    (serveBinding_changes hsound.uploads (serveProof_binding h)).sound hsound.uploads
  cases o with
  | credential auth => exact h.2 ▸ hsound
  | authorization auth userId authorizationId => exact h.2 ▸ hsound
  | linkedGrant auth => exact h.2 ▸ hsound
  | retained authorizationId revision => exact h.2 ▸ hsound
  | grantSecret => exact h ▸ hsound
  | photoInfo photoId => exact h ▸ hsound
  | rejectGrant auth grant =>
      rcases h with rfl | ⟨operationId, generation, now, flickr, hreject, rfl⟩
      · exact hsound
      · exact hsound.risen huploads (rejectCurrentGrant_bindings hreject) rfl
          (rejectCurrentGrant_rises hreject)
  | commit c =>
      obtain ⟨bindingId, now, hfresh, h⟩ := h
      rcases batchCommits_cases h with rfl | ⟨result, hcommit, _⟩
      · exact hsound
      · cases hevent : s.events.find? c.authorizationId with
        | none =>
            obtain ⟨b, hwritten, _⟩ := commit_written hsound.uploads hfresh hevent hcommit
            exact hsound.written huploads hwritten
        | some e => exact (commit_replayed_row hsound hevent hcommit).1 ▸ hsound
  | commitExisting auth grant photoId =>
      obtain ⟨bindingId, now, hfresh, h⟩ := h
      rcases batchCommits_cases h with rfl | ⟨result, hcommit, _⟩
      · exact hsound
      · obtain ⟨b, hwritten, _⟩ := commitExisting_written hsound.uploads hfresh hcommit
        exact hsound.written huploads hwritten

/-! ## What an answer tells -/

/-- The row is the projection of the photo's binding under a revision of its link. -/
def RowOf (s : UploadStore) (photoId : Token) (revision : Nat) (row : BindingRow) : Prop :=
  ∃ b ∈ s.bindings, b.photoId = photoId ∧ b.linkRevision = revision ∧ row = s.bindingRow b

section Answers

variable {s s' : UploadStore} {photoId : Token} {row : BindingRow} {created : Bool}

theorem commit_tells {c : UploadCommit} (hsound : ProofSound s)
    (h : serveProof s (.commit c) (.ok (some row, created)) s') :
    RowOf s' c.photoId c.grant.revision row := by
  obtain ⟨bindingId, now, hfresh, h⟩ := h
  unfold batchCommits at h
  split at h
  · cases h.1
  · next after result hcommit =>
      obtain ⟨hanswer, rfl⟩ := h
      cases hanswer
      cases hevent : s.events.find? c.authorizationId with
      | none =>
          obtain ⟨b, hwritten, hrow⟩ := commit_written hsound.uploads hfresh hevent hcommit
          exact ⟨b, hwritten.verified.added, hwritten.verified.photo, hwritten.renewed,
            Option.some.inj hrow⟩
      | some e =>
          obtain ⟨rfl, b, hb, hphoto, hrevision, hrow⟩ := commit_replayed_row hsound hevent hcommit
          exact ⟨b, hb, hphoto, hrevision, Option.some.inj hrow⟩

/-- The row that is retained for an authorization is of the photo it is bound to. -/
theorem retained_tells {authorizationId : Token} {revision : Nat} (hsound : ProofSound s)
    (h : serveProof s (.retained authorizationId revision) (.ok (some row)) s') :
    ∃ a ∈ s.authorizations, a.authorizationId = authorizationId ∧
      ∃ photoId ∈ a.photoId, RowOf s photoId revision row := by
  have hretained : some row = s.retained authorizationId revision := Except.ok.inj h.1
  unfold UploadStore.retained at hretained
  obtain ⟨b, hb, hrow⟩ := Option.map_eq_some_iff.mp hretained.symm
  obtain ⟨e, he, hb⟩ := Option.bind_eq_some_iff.mp hb
  obtain ⟨hb, hrevision⟩ := Option.filter_eq_some_iff.mp hb
  obtain ⟨he, _⟩ := Option.filter_eq_some_iff.mp he
  obtain ⟨a, ha, b', hb', haid, hbid, hphoto⟩ := hsound.uploads.events e (Table.mem_of_find? he)
  obtain rfl : b' = b := by
    apply Table.eq_of_key_eq hb' (Table.mem_of_find? hb)
    rw [hbid, Table.key_of_find? hb]
  refine ⟨a, ha, haid.trans (Table.key_of_find? he), b'.photoId, hphoto, b', hb', rfl, ?_, hrow.symm⟩
  simpa using hrevision

/-- The row of a proof; it tells of a resolution exactly where one was the origin of the
binding the photo had before. -/
theorem commitExisting_tells {auth : AdmissionAuth} {grant : GrantSnapshot} (hsound : ProofSound s)
    (h : serveProof s (.commitExisting auth grant photoId) (.ok (some row, created)) s') :
    RowOf s' photoId grant.revision row ∧ (1 ≤ row.verificationRevision ∧
        row.verificationRevision ≤ Binary64.Number.maxSafeInteger) ∧
      (row.source = .reconciledUpload ↔ s.resolvedFirst photoId) := by
  obtain ⟨bindingId, now, hfresh, h⟩ := h
  unfold batchCommits at h
  split at h
  · cases h.1
  · next after result hcommit =>
      obtain ⟨hanswer, rfl⟩ := h
      cases hanswer
      obtain ⟨b, hwritten, hrow, hevents, hresolutions⟩ :=
        commitExisting_written hsound.uploads hfresh hcommit
      cases hrow
      have hverified := hwritten.verified
      refine ⟨⟨b, hverified.added, hverified.photo, hwritten.renewed, rfl⟩, hwritten.counted, ?_⟩
      have hsame : ∀ id, s'.reconciled id = s.reconciled id := by
        intro id
        unfold UploadStore.reconciled
        rw [hevents, hresolutions]
      have hsource : (s'.bindingRow b).source = .reconciledUpload ↔
          s.reconciled b.bindingId = true := by
        rw [← hsame]
        unfold UploadStore.bindingRow
        cases s'.reconciled b.bindingId with
        | true => simp
        | false => cases b.sourceKind <;> simp
      rw [hsource]
      constructor
      · intro hreconciled
        obtain ⟨r, _, horigin⟩ := List.any_eq_true.mp hreconciled
        rw [Bool.and_eq_true, Option.any_eq_true] at horigin
        obtain ⟨_, e, he, hid⟩ := horigin
        rw [decide_eq_true_eq] at hid
        obtain ⟨_, _, b₀, hb₀, _, hid₀, _⟩ := hsound.uploads.events e (Table.mem_of_find? he)
        rcases hverified.counted with ⟨hnew, _⟩ | ⟨old, hold, hphoto, hidOld, _⟩
        · exact absurd (hid₀.trans hid) (hnew b₀ hb₀).2
        · exact ⟨old, hold, hphoto, hidOld ▸ hreconciled⟩
      · rintro ⟨old, hold, hphoto, hreconciled⟩
        rcases hverified.kept hsound.uploads.once hold with ⟨hkept, hdistinct⟩ | ⟨hid, _, _⟩
        · have hsame := hverified.once hsound.uploads.once old hkept b hverified.added
            (hphoto.trans hverified.photo.symm)
          exact absurd (congrArg PhotoBinding.bindingId hsame) hdistinct
        · rw [← hid]
          exact hreconciled

/-- A row of the photo and the link revision, as the checks read it. -/
theorem RowOf.printable {revision : Nat} (h : RowOf s photoId revision row) (hsound : ProofSound s)
    (hrevision : 1 ≤ revision ∧ revision ≤ Binary64.Number.maxSafeInteger)
    (hverification : 1 ≤ row.verificationRevision ∧
      row.verificationRevision ≤ Binary64.Number.maxSafeInteger) :
    row.Printable ∧ row.photoId = photoId ∧ row.linkRevision = revision := by
  obtain ⟨b, hb, rfl, rfl, rfl⟩ := h
  exact ⟨⟨hrevision, hverification, hsound.clocked b hb⟩, rfl, rfl⟩

end Answers

/-! ## Runs -/

section Runs

variable {ι : Type} [DecidableEq ι]

abbrev ProofPool (ι : Type) := Pool UploadStore ι ProofOp.Answer

abbrev ProofMove (ι : Type) := Move (ProofPool ι) (Act ι ProofOp.Answer)

variable {start p p' : ProofPool ι} {trace : List (ProofMove ι)}

theorem proofStep_sound {act : Act ι ProofOp.Answer} (hsound : ProofSound p.store)
    (hstep : PoolStep proofMachine p act p') :
    ProofSound p'.store ∧ AuthorizationsKept p.store p'.store := by
  have hserved : ∀ (x : ProofOp) (answer : x.Answer) (s' : UploadStore),
      serveExchange serveProof p.store x answer s' →
        ProofSound s' ∧ AuthorizationsKept p.store s' := by
    intro x answer s' h
    cases x with
    | ask o =>
        exact ⟨hsound.served h,
          (serveBinding_changes hsound.uploads (serveProof_binding h)).authorizationsKept⟩
    | reply result =>
        cases h
        exact ⟨hsound, AuthorizationsKept.refl _⟩
  cases hstep with
  | external h =>
      have hchange : UploadChange p.store _ none := UploadChange.quiet h.uploads
      exact ⟨hsound.risen (hchange.sound hsound.uploads) h.uploads.bindings h.uploads.events h.links,
        hchange.authorizationsKept⟩
  | perform _ hserve => exact hserved _ _ _ hserve
  | late _ hserve => exact hserved _ _ _ hserve
  | _ => exact ⟨hsound, AuthorizationsKept.refl _⟩

theorem UnboundUploads.proofSound {s : UploadStore} (h : UnboundUploads s) : ProofSound s := by
  refine ⟨h.sound, ?_, ?_, ?_⟩
  · intro b hb
    rw [h.bindings] at hb
    exact absurd hb (Table.not_mem_empty b)
  · intro b hb
    rw [h.bindings] at hb
    exact absurd hb (Table.not_mem_empty b)
  · intro e he
    rw [h.events] at he
    exact absurd he (Table.not_mem_empty e)

/-- The invariant at the end of a run and on both sides of each of its moves. -/
theorem proofRun (hstart : PoolInitial UnboundUploads start)
    (hrun : Run (PoolStep proofMachine) start trace p) :
    ProofSound p.store ∧ ∀ move ∈ trace, ProofSound move.src.store ∧ ProofSound move.dst.store ∧
      AuthorizationsKept move.src.store p.store := by
  induction hrun with
  | nil =>
      refine ⟨hstart.store.proofSound, ?_⟩
      intro move hmove
      cases hmove
  | @snoc before after front act hrun hstep ih =>
      obtain ⟨hsound, hmoves⟩ := ih
      obtain ⟨hafter, hkept⟩ := proofStep_sound hsound hstep
      refine ⟨hafter, ?_⟩
      intro move hmove
      rcases List.mem_append.mp hmove with hearly | hnew
      · obtain ⟨hsrc, hdst, hstays⟩ := hmoves move hearly
        exact ⟨hsrc, hdst, hstays.trans hkept⟩
      · cases List.mem_singleton.mp hnew
        exact ⟨hsound, hafter, hkept⟩

/-- What a worker asks and what it replies, in every run. -/
theorem proof_exchanged (hstart : PoolInitial UnboundUploads start) {front back : List (ProofMove ι)}
    {move : ProofMove ι} (hrun : Run (PoolStep proofMachine) start (front ++ move :: back) p)
    {entry : Entry ι ProofOp.Answer} (htells : move.label.tells entry) :
    replyRule proofAsks proofReplies (callOf entry.worker front) entry.op := by
  apply run_exchanged _ hstart hrun htells
  rintro q ⟨call, rfl⟩
  exact replied_follows call

/-- The body of a proof passes the check of its client exactly where no resolution was the
origin of the photo's binding. -/
theorem proved_accepted (hstart : PoolInitial UnboundUploads start)
    (hrun : Run (PoolStep proofMachine) start trace p) {move : ProofMove ι} (hmove : move ∈ trace)
    {i : ι} {auth : AdmissionAuth} {grant : GrantSnapshot} {photoId : Token} {row : BindingRow}
    {created : Bool} (hlabel : move.label =
      .perform ⟨i, .ask (.commitExisting auth grant photoId), .ok (some row, created)⟩) :
    PhotoClient.validateBinding (bindingBody row).decoded (ascii photoId.text) grant.revision = true ↔
      ¬ move.src.store.resolvedFirst photoId := by
  obtain ⟨hsrc, hdst, _⟩ := (proofRun hstart hrun).2 move hmove
  obtain ⟨front, back, rfl⟩ := List.append_of_mem hmove
  have hsafe : grant.safe := proof_exchanged hstart hrun (Or.inl hlabel)
  have hserve : serveProof move.src.store (.commitExisting auth grant photoId)
      (.ok (some row, created)) move.dst.store := by
    obtain ⟨src, label, dst⟩ := move
    obtain ⟨_, hstep, _⟩ := hrun.around
    dsimp only at hlabel hstep ⊢
    subst hlabel
    cases hstep with
    | perform _ hserve => exact hserve
  obtain ⟨hrow, hverification, hsource⟩ := commitExisting_tells hsrc hserve
  obtain ⟨hprintable, rfl, hrevision⟩ := hrow.printable hdst hsafe hverification
  rw [← hrevision, validateBinding_body hprintable, Ne, hsource]

/-- An authorization that was told to have a photo keeps it. -/
theorem authorization_kept (hstart : PoolInitial UnboundUploads start)
    (hrun : Run (PoolStep proofMachine) start trace p) {i : ι} {auth : AdmissionAuth}
    {userId authorizationId photoId : Token}
    (htold : ⟨.authorization auth userId authorizationId, .ok (some (some photoId))⟩ ∈
      askedOf (callOf i trace)) :
    ∃ a ∈ p.store.authorizations, a.authorizationId = authorizationId ∧ a.photoId = some photoId := by
  obtain ⟨move, hmove, _, hserve⟩ := askedOf_served hrun htold nofun
  have hfound : some (some photoId) =
      move.src.store.authorization auth userId authorizationId := Except.ok.inj hserve.1
  obtain ⟨a, ha, hphoto⟩ := Option.map_eq_some_iff.mp hfound.symm
  obtain ⟨ha, _⟩ := Option.filter_eq_some_iff.mp ha
  obtain ⟨a', ha', hid, hkept⟩ := ((proofRun hstart hrun).2 move hmove).2.2 a (Table.mem_of_find? ha)
  exact ⟨a', ha', hid.trans (Table.key_of_find? ha), hkept photoId hphoto⟩

/-- The row of an upload request is of the photo of its body, under the link it read. -/
theorem upload_row (hstart : PoolInitial UnboundUploads start)
    (hrun : Run (PoolStep proofMachine) start trace p) {i : ι} {auth : AdmissionAuth}
    {authorizationId photoId : Token} {row : BindingRow} {created : Bool} {grant : GrantSnapshot}
    (hreplied : UploadReplied auth authorizationId photoId row created (askedOf (callOf i trace))
      grant) :
    row.Printable ∧ row.photoId = photoId ∧ row.linkRevision = grant.revision := by
  rcases hreplied.source with ⟨userId, hbound, hretained⟩ |
    ⟨current, isPublic, resolution, hcommitted⟩
  · obtain ⟨bound, hboundMem, hid, hphoto⟩ := authorization_kept hstart hrun hbound
    obtain ⟨move, hmove, _, hserve⟩ := askedOf_served hrun hretained nofun
    obtain ⟨hsrc, _, hkept⟩ := (proofRun hstart hrun).2 move hmove
    obtain ⟨a, ha, haid, photo, haphoto, hrow⟩ := retained_tells hsrc hserve
    -- both reads are of one authorization, which keeps its photo
    obtain ⟨a', ha', haid', hstays⟩ := hkept a ha
    obtain rfl : a' = bound := by
      apply Table.eq_of_key_eq ha' hboundMem
      rw [haid', haid, hid]
    have hsame : some photo = some photoId := (hstays photo haphoto).symm.trans hphoto
    cases hsame
    exact hrow.printable hsrc hreplied.link.safe hreplied.verification
  · obtain ⟨move, hmove, _, hserve⟩ := askedOf_served hrun hcommitted nofun
    obtain ⟨hsrc, hdst, _⟩ := (proofRun hstart hrun).2 move hmove
    exact (commit_tells hsrc hserve).printable hdst hreplied.link.safe hreplied.verification

/-- How the plug-in takes the proofs of a run. -/
structure ProofsTaken (trace : List (ProofMove ι)) : Prop where
  proved : ∀ move ∈ trace, ∀ i auth grant photoId row created,
    move.label = .perform ⟨i, .ask (.commitExisting auth grant photoId), .ok (some row, created)⟩ →
      (PhotoClient.validateBinding (bindingBody row).decoded (ascii photoId.text)
        grant.revision = true ↔ ¬ move.src.store.resolvedFirst photoId)
  answered : ∀ front move back, trace = front ++ move :: back → ∀ i auth value row created,
    move.label.tells ⟨i, .reply (.existing auth value, .success row created), ()⟩ →
      ∃ photoId revision, UploadBinding.existingBody value = some (photoId, revision) ∧
        ∃ earlier ∈ front, ∃ grant : GrantSnapshot, grant.revision = revision ∧
          earlier.label =
            .perform ⟨i, .ask (.commitExisting auth grant photoId), .ok (some row, created)⟩
  uploaded : ∀ front move back, trace = front ++ move :: back →
    ∀ i auth authorizationId value resolution row created,
      move.label.tells
          ⟨i, .reply (.upload auth authorizationId value resolution, .success row created), ()⟩ →
        ∃ photoId, uploadBody value = .ok photoId ∧ ∃ grant : GrantSnapshot,
          ⟨.linkedGrant auth, .ok (some grant)⟩ ∈ askedOf (callOf i front) ∧
          (∀ linked, ⟨.linkedGrant auth, .ok linked⟩ ∈ askedOf (callOf i front) →
            linked = some grant) ∧
          PhotoProofRecovery.projection true (bindingBody row).decoded (ascii photoId.text)
            grant.revision = some ⟨ascii row.bindingId.text, ascii photoId.text, grant.revision,
              row.verificationRevision⟩

/-- In every run, the body of an upload request or of a resolution passes the projection for the
photo of the request and the link it was served under; the body of a proof passes the check of
its client exactly where no resolution was the origin of the photo's binding. -/
theorem photo_proofs_taken (hstart : PoolInitial UnboundUploads start)
    (hrun : Run (PoolStep proofMachine) start trace p) : ProofsTaken trace := by
  constructor
  · intro move hmove i auth grant photoId row created hlabel
    exact proved_accepted hstart hrun hmove hlabel
  · rintro front move back rfl i auth value row created htells
    obtain ⟨photoId, revision, hbody, grant, hrevision, hcommitted⟩ :=
      proof_exchanged hstart hrun htells row created rfl
    obtain ⟨earlier, hearlier, hlabel, _⟩ := askedOf_served hrun.around.1 hcommitted nofun
    exact ⟨photoId, revision, hbody, earlier, hearlier, grant, hrevision, hlabel⟩
  · rintro front move back rfl i auth authorizationId value resolution row created htells
    obtain ⟨photoId, hbody, grant, hreplied⟩ :=
      proof_exchanged hstart hrun htells row created rfl
    obtain ⟨hprintable, rfl, hrevision⟩ := upload_row hstart hrun.around.1 hreplied
    refine ⟨row.photoId, hbody, grant, hreplied.link.told, hreplied.link.only, ?_⟩
    rw [← hrevision]
    exact projection_body hprintable

end Runs

/-! ## A resolution and a proof of its photo -/

namespace ProofSample

open UploadSample

def oracle (s : UploadStore) : (x : ProofOp) → Option (x.Answer × UploadStore)
  | .ask o => UploadSample.oracle s o
  | .reply _ => some ((), s)

theorem oracle_serve (s : UploadStore) (x : ProofOp) (answer : x.Answer) (s' : UploadStore)
    (h : oracle s x = some (answer, s')) : proofMachine.serve s x answer s' := by
  cases x with
  | reply result =>
      cases h
      rfl
  | ask o =>
      have hserve : bindingMachine.serve s o answer s' := UploadSample.oracle_serve s o answer s' h
      cases o with
      | commit c =>
          obtain ⟨hfresh, h⟩ := Option.ite_none_right_eq_some.mp h
          exact ⟨_, ClockReading.ofUs 7 rfl, hfresh, settle_commits (Option.some.inj h)⟩
      | commitExisting auth grant photoId =>
          obtain ⟨hfresh, h⟩ := Option.ite_none_right_eq_some.mp h
          exact ⟨_, ClockReading.ofUs 7 rfl, hfresh, settle_commits (Option.some.inj h)⟩
      | _ => exact hserve

/-- A photographer resolves an ambiguous upload to the photo, which had no binding. -/
def resolving : BindingCall := .upload auth first body true

/-- Later the photo is proved as an existing one. -/
def proving : BindingCall := .existing auth UploadSample.existingBody

def before : ProofPool Nat :=
  (((Pool.idle UploadSample.start).startAt 0 (replying resolving.replied)).play oracle 0 20).startAt
    1 (replying proving.replied)

def after : ProofPool Nat := before.play oracle 1 20

theorem run_before :
    ∃ trace, Run (PoolStep proofMachine) (Pool.idle UploadSample.start) trace before := by
  have hprogram : ∀ call : BindingCall, proofMachine.program (replying call.replied) :=
    fun call => ⟨call.replied, ⟨call, rfl⟩, rfl⟩
  obtain ⟨first, hfirst⟩ := Pool.run_play oracle_serve 0 20
    ((Pool.idle UploadSample.start : ProofPool Nat).startAt 0 (replying resolving.replied))
  have hidle := Pool.play_other oracle (Nat.one_ne_zero) 20
    ((Pool.idle UploadSample.start : ProofPool Nat).startAt 0 (replying resolving.replied))
  exact ⟨_, (Run.cons (PoolStep.start rfl (hprogram resolving)) hfirst).snoc
    (PoolStep.start hidle (hprogram proving))⟩

theorem run_after :
    Run (PoolStep proofMachine) before (before.playMoves oracle 1 20) after :=
  Pool.run_playMoves oracle_serve 1 20 before

/-- The answers of a log. -/
def replies (log : List (Entry Nat ProofOp.Answer)) : List BindingAnswer :=
  log.filterMap fun entry => match entry.op with
    | .reply (_, answer) => some answer
    | .ask _ => none

/-- The photo of a proof that was committed while a resolution was the origin of its binding. -/
def resolvedProof (move : ProofMove Nat) : Bool :=
  match move.label with
  | .perform ⟨_, .ask (.commitExisting _ _ photoId), .ok (some _, _)⟩ =>
      decide (move.src.store.resolvedFirst photoId)
  | _ => false

end ProofSample

/-- The resolution and the proof both reply with their row. -/
theorem photo_proofs_taken_sample :
    ∃ trace, Run (PoolStep proofMachine) (Pool.idle UploadSample.start) trace ProofSample.after ∧
      ProofsTaken trace ∧
      ProofSample.replies ProofSample.after.log =
        [.success ⟨UploadSample.drawn, UploadSample.photo, .reconciledUpload, 1, 2, 7⟩ false,
          .success ⟨UploadSample.drawn, UploadSample.photo, .reconciledUpload, 1, 1, 7⟩ true] := by
  obtain ⟨front, hfront⟩ := ProofSample.run_before
  have hrun := hfront.append ProofSample.run_after
  have hstart : UnboundUploads UploadSample.start := ⟨rfl, rfl, rfl, rfl, by decide⟩
  have htaken := photo_proofs_taken ⟨hstart, fun _ => rfl, rfl, rfl⟩ hrun
  have hreplies : ProofSample.replies ProofSample.after.log =
      [.success ⟨UploadSample.drawn, UploadSample.photo, .reconciledUpload, 1, 2, 7⟩ false,
        .success ⟨UploadSample.drawn, UploadSample.photo, .reconciledUpload, 1, 1, 7⟩ true] := by
    decide +kernel
  exact ⟨_, hrun, htaken, hreplies⟩

/-- The proof of a photo that a resolution bound first is refused by its client. -/
theorem resolved_photo_refused :
    ∃ (trace : List (ProofMove Nat)) (p : ProofPool Nat),
      Run (PoolStep proofMachine) (Pool.idle UploadSample.start) trace p ∧
      ∃ move ∈ trace, ∃ i auth grant photoId row created,
        move.label =
            .perform ⟨i, .ask (.commitExisting auth grant photoId), .ok (some row, created)⟩ ∧
          PhotoClient.validateBinding (bindingBody row).decoded (ascii photoId.text)
            grant.revision = false := by
  obtain ⟨front, hfront⟩ := ProofSample.run_before
  have hrun := hfront.append ProofSample.run_after
  have hstart : UnboundUploads UploadSample.start := ⟨rfl, rfl, rfl, rfl, by decide⟩
  have hresolved : (ProofSample.before.playMoves ProofSample.oracle 1 20).any
      ProofSample.resolvedProof = true := by decide +kernel
  obtain ⟨move, hmove, hproof⟩ := List.any_eq_true.mp hresolved
  have hmem : move ∈ front ++ ProofSample.before.playMoves ProofSample.oracle 1 20 :=
    List.mem_append_right _ hmove
  refine ⟨_, _, hrun, move, hmem, ?_⟩
  unfold ProofSample.resolvedProof at hproof
  split at hproof
  · next i auth grant photoId row created hlabel =>
      have haccepted := proved_accepted ⟨hstart, fun _ => rfl, rfl, rfl⟩ hrun hmem hlabel
      refine ⟨_, _, _, _, _, _, hlabel, ?_⟩
      rw [← Bool.not_eq_true, haccepted, not_not]
      exact of_decide_eq_true hproof
  · cases hproof

end FlickrGroupAddr

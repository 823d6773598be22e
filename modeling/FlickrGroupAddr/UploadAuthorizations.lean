import FlickrGroupAddr.UploadBindings
import FlickrGroupAddr.Lib.Calls

/-!
# Issuing an upload authorization

`uploadAuthorizationRequest` of `upload_authorization.ts`.  Every await is one operation, and
anything may happen in between: a rotation, a pause and a resume, a new link.  The OAuth
library is a parameter: what it makes of the metadata, the two pairs and a nonce.
-/

namespace FlickrGroupAddr

set_option autoImplicit false

open KeyedTable Program Workers

/-- `signedUploadAuthorization` up to its check: the header for the metadata with the consumer
key, a token pair, the application and a nonce. -/
structure UploadSigner where
  header : List (String × String) → String × String → String × String → String → String

/-! ## The metadata -/

/-- `UploadAuthorizationError`, and any other exception. -/
inductive UploadFault where
  | invalidRequest
  | requestTooLarge
  | invalidToken
  | flickrLinkChanged
  | flickrWritesPaused
  | unavailable
deriving DecidableEq

namespace UploadMetadata

/-- `required`, with what `enumValues` allows. -/
def required : List (String × List String) :=
  [("is_public", ["0", "1"]), ("is_friend", ["0", "1"]), ("is_family", ["0", "1"]),
    ("safety_level", ["1", "2", "3"]), ("content_type", ["1", "2", "3"]), ("hidden", ["1", "2"])]

def optional : List String := ["title", "description", "tags"]

/-- `UPLOAD_AUTHORIZATION_MAX_JSON_BYTES`. -/
def maxJsonBytes : Nat := 16384

/-- One entry of the metadata. -/
def entryOf (entry : String × JsonValue) : Option (String × String) :=
  match entry.2 with
  | .text value =>
      match required.find? fun field => field.1 = entry.1 with
      | some field => if value ∈ field.2 then some (entry.1, value) else none
      | none => if entry.1 ∈ optional then some (entry.1, value) else none
  | _ => none

/-- The bytes of a character in a JSON text. -/
def jsonCharBytes (c : Char) : Nat :=
  if c = '"' ∨ c = '\\' ∨ c.toNat ∈ [8, 9, 10, 12, 13] then 2
  else if c.toNat < 32 then 6
  else c.utf8Size

def jsonTextBytes (text : String) : Nat := 2 + (text.toList.map jsonCharBytes).sum

/-- The bytes of the request as a JSON text; its other members and signs are 38 bytes. -/
def jsonBytes (metadata : List (String × String)) : Nat :=
  38 + (metadata.map fun entry => jsonTextBytes entry.1 + jsonTextBytes entry.2 + 2).sum

/-- The metadata of the request. -/
def fields (value : JsonValue) : Option (List (String × String)) :=
  if UploadBinding.hasKeys ["flickrMetadata", "schemaVersion"] value = true ∧
      (value.field "schemaVersion").any (JsonValue.isNumber 1) = true then
    match value.field "flickrMetadata" with
    | some (.object entries) =>
        if required.all fun field => entries.any fun entry => entry.1 = field.1 then
          entries.mapM entryOf
        else none
    | _ => none
  else none

end UploadMetadata

/-- `validateUploadAuthorization`. -/
def validateUploadAuthorization (value : JsonValue) : Except UploadFault (List (String × String)) :=
  match UploadMetadata.fields value with
  | none => .error .invalidRequest
  | some metadata =>
      if UploadMetadata.maxJsonBytes < UploadMetadata.jsonBytes metadata then .error .requestTooLarge
      else .ok metadata

/-! ## Secrets and signatures -/

/-- `opaque` of `flickr_reads.ts`. -/
def opaqueText (text : String) : Bool :=
  1 ≤ utf16Length text && utf16Length text ≤ 2048 &&
    !text.toList.any fun c => c.toNat ≤ 32 || c.toNat == 127

/-- A member that is an opaque text. -/
def opaqueField (name : String) (value : JsonValue) : Option String :=
  match value.field name with
  | some (.text text) => if opaqueText text then some text else none
  | _ => none

/-- The secret is of this version and has exactly these members. -/
def secretShape (keys : List String) (value : JsonValue) : Bool :=
  UploadBinding.hasKeys keys value && (value.field "schemaVersion").any (JsonValue.isNumber 1)

/-- The token pair of the grant secret, when it is of the generation. -/
def grantPair (generation : Token) (secret : JsonValue) : Option (String × String) :=
  if secretShape ["schemaVersion", "generation", "token", "tokenSecret"] secret = true ∧
      (secret.field "generation").any (JsonValue.isText generation.text) = true then
    match opaqueField "token" secret, opaqueField "tokenSecret" secret with
    | some token, some tokenSecret => some (token, tokenSecret)
    | _, _ => none
  else none

/-- The application secret. -/
def applicationPair (secret : JsonValue) : Option (String × String) :=
  if secretShape ["schemaVersion", "consumerKey", "consumerSecret"] secret = true then
    match opaqueField "consumerKey" secret, opaqueField "consumerSecret" secret with
    | some consumerKey, some consumerSecret => some (consumerKey, consumerSecret)
    | _, _ => none
  else none

/-- What the response tells of the signature. -/
structure UploadEnvelope where
  authorizationHeader : String
  flickrMetadata : List (String × String)
deriving DecidableEq

/-- `signedUploadAuthorization`. -/
def UploadSigner.sign (signer : UploadSigner) (metadata : List (String × String))
    (pair app : String × String) (nonce : String) : Option UploadEnvelope :=
  let flickrMetadata := ("api_key", app.1) :: metadata
  let header := signer.header flickrMetadata pair app nonce
  if "OAuth ".isPrefixOf header = true ∧ header.toList.all (fun c => c ≠ '\r' && c ≠ '\n') = true then
    some ⟨header, flickrMetadata⟩
  else none

/-! ## The authority of a call -/

/-- `Gates`. -/
structure UploadGates where
  deploymentRevision : Nat
  userRevision : Nat
deriving DecidableEq

/-- `Authority`. -/
structure UploadAuthority where
  credential : UploadCredential
  grant : GrantSnapshot
  gates : UploadGates
deriving DecidableEq

namespace UploadStore

variable (s : UploadStore)

/-- The connection of the user is available. -/
def connectionAvailable (userId : Token) : Bool :=
  (s.db.flickr.connections.find? userId).any fun connection =>
    connection.state = .linked ∧ connection.localState = .available ∧ connection.operationId = none

/-- The revision of an enabled gate. -/
def gateRevision (key : GateKey) : Option Nat :=
  ((s.db.flickr.gates.find? key).filter fun gate => gate.enabled).map WriteGate.revision

/-- `currentGates`. -/
def currentGates (userId : Token) : Option UploadGates :=
  match s.gateRevision .deployment, s.gateRevision (.user userId) with
  | some deploymentRevision, some userRevision => some ⟨deploymentRevision, userRevision⟩
  | _, _ => none

/-- `guard`. -/
def authorityGuard (auth : AdmissionAuth) (a : UploadAuthority) : Prop :=
  (∃ installation ∈ s.db.installations.find? auth.installationId,
    installation.userId = a.credential.userId ∧ installation.active = true ∧
      installation.lrcPlugin = true ∧
      s.installationRevision installation.installationId = a.credential.revision ∧
      ∃ version ∈ s.db.versions.find? a.credential.versionId,
        installation.currentVersionId = some version.versionId ∧
          version.installationId = installation.installationId ∧ version.state = .current ∧
            version.credentialDigest = auth.credentialDigest) ∧
  (∃ link ∈ s.db.flickr.links.find? a.credential.userId,
    ∃ native ∈ s.db.flickr.credentials.find? a.credential.userId,
      link.state = .linked ∧ link.ownerNsid = a.grant.ownerNsid ∧
        link.linkRevision = a.grant.revision ∧ native.linkRevision = link.linkRevision ∧
        native.activeGeneration = a.grant.generation ∧ native.operationId = none ∧
        native.verifiedOwnerNsid = link.ownerNsid) ∧
  (∃ connection ∈ s.db.flickr.connections.find? a.credential.userId,
    connection.state = .linked ∧ connection.localState = .available ∧
      connection.operationId = none) ∧
  (∃ gate ∈ s.db.flickr.gates.find? .deployment,
    gate.enabled = true ∧ gate.revision = a.gates.deploymentRevision) ∧
  ∃ gate ∈ s.db.flickr.gates.find? (.user a.credential.userId),
    gate.enabled = true ∧ gate.revision = a.gates.userRevision

instance (auth : AdmissionAuth) (a : UploadAuthority) : Decidable (s.authorityGuard auth a) :=
  inferInstanceAs (Decidable ((∃ installation ∈ s.db.installations.find? auth.installationId,
    _ ∧ _ ∧ _ ∧ _ ∧ ∃ version ∈ s.db.versions.find? a.credential.versionId, _) ∧
    (∃ link ∈ s.db.flickr.links.find? a.credential.userId,
      ∃ native ∈ s.db.flickr.credentials.find? a.credential.userId, _) ∧
    (∃ connection ∈ s.db.flickr.connections.find? a.credential.userId, _) ∧
    (∃ gate ∈ s.db.flickr.gates.find? .deployment, _) ∧
    ∃ gate ∈ s.db.flickr.gates.find? (.user a.credential.userId), _))

/-- The row of an issued authorization. -/
def issuedRow (auth : AdmissionAuth) (a : UploadAuthority) (authorizationId : Token) (now : Us) :
    UploadAuthorization where
  authorizationId := authorizationId
  installationId := auth.installationId
  userId := a.credential.userId
  issuedAtUs := now
  photoId := none
  ownerNsid := some a.grant.ownerNsid
  linkRevision := some a.grant.revision

/-- The batch of `uploadAuthorizationRequest`, under the checks of the columns: the store and
when it issued. -/
def issue (auth : AdmissionAuth) (a : UploadAuthority) (authorizationId : Token) (now : Us) :
    Option (UploadStore × Us) :=
  if s.authorityGuard auth a ∧ (1 ≤ a.grant.revision ∧ a.grant.revision ≤ 9007199254740991) ∧
      1 ≤ a.grant.ownerNsid.length ∧ a.grant.ownerNsid.length ≤ 128 then
    (s.authorizations.insert? (issuedRow auth a authorizationId now)).map fun authorizations =>
      ({ s with
        authorizations := authorizations
        audit := s.audit ++ [⟨a.credential.userId, .issued, authorizationId⟩] }, now)
  else none

end UploadStore

/-! ## The request -/

inductive UploadResponse where
  | issued (authorizationId : Token) (issuedAtUs : Us) (envelope : UploadEnvelope)
  | failed (fault : UploadFault)
  | serviceUnavailable
deriving DecidableEq

/-- What a call asks, and the response it ends with. -/
inductive UploadOp where
  | credential (auth : AdmissionAuth)
  | linkedGrant (auth : AdmissionAuth)
  | connection (userId : Token)
  | gates (userId : Token)
  | grantSecret
  | applicationSecret
  | nonce
  | randomId
  | issue (auth : AdmissionAuth) (authority : UploadAuthority) (authorizationId : Token)
  | auditFailure (userId : Token) (reason : UploadFault) (targetId : Token)
  | respond (response : UploadResponse)
deriving DecidableEq

abbrev UploadOp.Answer : UploadOp → Type
  | .credential _ => Except UploadFault (Option UploadCredential)
  | .linkedGrant _ => Except UploadFault (Option GrantSnapshot)
  | .connection _ => Except UploadFault Bool
  | .gates _ => Except UploadFault (Option UploadGates)
  | .grantSecret | .applicationSecret => Except UploadFault JsonValue
  | .nonce => String
  | .randomId => Token
  | .issue .. => Except UploadFault (Option Us)
  | .auditFailure .. => Except UploadFault Unit
  | .respond _ => Unit

abbrev UploadProg := Prog UploadOp.Answer

abbrev UploadThrows := Throws UploadOp.Answer UploadFault

namespace UploadIssue

variable (auth : AdmissionAuth)

/-- A check that throws. -/
def assert (p : Prop) [Decidable p] (fault : UploadFault) : UploadThrows Unit :=
  if p then pure () else throw fault

/-- What is there, or a fault. -/
def present {α : Type} (value : Option α) (fault : UploadFault) : UploadThrows α :=
  match value with
  | none => throw fault
  | some value => pure value

/-- `currentUploadGrant`. -/
def currentUploadGrant : UploadThrows (Option GrantSnapshot) := do
  let grant ← attempt (Prog.query (UploadOp.linkedGrant auth))
  match grant with
  | none => pure none
  | some grant =>
      let available ← attempt (Prog.query (UploadOp.connection grant.userId))
      pure (if available = true then some grant else none)

/-- The authority at the start of a call. -/
def authority : UploadThrows UploadAuthority := do
  let credential ← attempt (Prog.query (UploadOp.credential auth))
  let credential ← present credential .invalidToken
  let grant ← currentUploadGrant auth
  let grant ← present grant .flickrLinkChanged
  let gates ← attempt (Prog.query (UploadOp.gates credential.userId))
  let gates ← present gates .flickrWritesPaused
  pure ⟨credential, grant, gates⟩

/-- `recheck`. -/
def recheck (a : UploadAuthority) : UploadThrows Unit := do
  let credential ← attempt (Prog.query (UploadOp.credential auth))
  assert (credential = some a.credential) .invalidToken
  let grant ← currentUploadGrant auth
  assert (grant = some a.grant) .flickrLinkChanged
  let gates ← attempt (Prog.query (UploadOp.gates a.credential.userId))
  assert (gates = some a.gates) .flickrWritesPaused

/-- `withGrant`, with the operation of `uploadAuthorizationRequest`. -/
def envelope (signer : UploadSigner) (a : UploadAuthority) (metadata : List (String × String)) :
    UploadThrows UploadEnvelope := do
  let grantSecret ← attempt (Prog.query UploadOp.grantSecret)
  let applicationSecret ← attempt (Prog.query UploadOp.applicationSecret)
  let pair ← present (grantPair a.grant.generation grantSecret) .unavailable
  let app ← present (applicationPair applicationSecret) .unavailable
  let linked ← attempt (Prog.query (UploadOp.linkedGrant auth))
  assert (linked = some a.grant) .unavailable
  recheck auth a
  let nonce ← attempt (Except.ok <$> Prog.query UploadOp.nonce)
  present (signer.sign metadata pair app nonce) .unavailable

/-- From the secrets to the committed authorization. -/
def issue (signer : UploadSigner) (a : UploadAuthority) (metadata : List (String × String)) :
    UploadThrows UploadResponse := do
  let envelope ← envelope auth signer a metadata
  let authorizationId ← attempt (Except.ok <$> Prog.query UploadOp.randomId)
  let issuedAtUs ← attempt (Prog.query (UploadOp.issue auth a authorizationId))
  let issuedAtUs ← present issuedAtUs .unavailable
  pure (.issued authorizationId issuedAtUs envelope)

/-- `failedResponse`, once the credential is known. -/
def recordFailure (fault : UploadFault) :
    Option UploadCredential → UploadThrows UploadResponse
  | none => pure (.failed fault)
  | some credential => do
      attempt (Prog.query (UploadOp.auditFailure credential.userId fault auth.installationId))
      pure (.failed fault)

/-- `failedResponse`. -/
def failedResponse (a : Option UploadAuthority) (fault : UploadFault) : UploadThrows UploadResponse :=
  match a with
  | some a => recordFailure auth fault (some a.credential)
  | none => do
      let credential ← attempt (Prog.query (UploadOp.credential auth))
      recordFailure auth fault credential

/-- The response of a call that failed. -/
def respondFailed (a : Option UploadAuthority) (fault : UploadFault) : UploadProg Unit := do
  match ← (failedResponse auth a fault).run with
  | .ok response => Prog.query (UploadOp.respond response)
  | .error _ => Prog.query (UploadOp.respond (.failed .unavailable))

end UploadIssue

open UploadIssue in
/-- `uploadAuthorizationRequest`. -/
def uploadAuthorizationRequest (signer : UploadSigner) (enabled : Bool) (auth : AdmissionAuth)
    (value : JsonValue) : UploadProg Unit := do
  if enabled = false then Prog.query (UploadOp.respond .serviceUnavailable)
  else
    match validateUploadAuthorization value with
    | .error fault => respondFailed auth none fault
    | .ok metadata =>
        match ← (authority auth).run with
        | .error fault => respondFailed auth none fault
        | .ok a =>
            match ← (issue auth signer a metadata).run with
            | .ok response => Prog.query (UploadOp.respond response)
            | .error fault =>
                match ← (recheck auth a).run with
                | .ok () => respondFailed auth (some a) fault
                | .error changed => respondFailed auth (some a) changed

/-! ## The database and its callers -/

/-- The authorization an audit event says was issued. -/
def UploadAudit.issuedId (event : UploadAudit) : Option Token :=
  match event.outcome with
  | .issued => some event.targetId
  | .failed _ => none

/-- The other transactions: any change of the authority, and of the photos of authorizations;
only this request adds authorizations and says so. -/
structure IssueExternal (s s' : UploadStore) : Prop where
  authorizations : s'.authorizations.rows.map UploadAuthorization.authorizationId =
    s.authorizations.rows.map UploadAuthorization.authorizationId
  audit : s'.audit.filterMap UploadAudit.issuedId = s.audit.filterMap UploadAudit.issuedId

/-- The code of a fault in an audit event. -/
def UploadFault.code : UploadFault → String
  | .invalidRequest => "invalid_request"
  | .requestTooLarge => "request_too_large"
  | .invalidToken => "invalid_token"
  | .flickrLinkChanged => "flickr_link_changed"
  | .flickrWritesPaused => "flickr_writes_paused"
  | .unavailable => "upload_authorization_unavailable"

/-- How an operation meets the database; the secrets, the nonces and the ids are what they are. -/
def serveUpload (s : UploadStore) : (o : UploadOp) → o.Answer → UploadStore → Prop
  | .credential auth, answer, s' => answer = .ok (s.credential auth) ∧ s' = s
  | .linkedGrant auth, answer, s' => answer = .ok (linkedGrant s.db auth) ∧ s' = s
  | .connection userId, answer, s' => answer = .ok (s.connectionAvailable userId) ∧ s' = s
  | .gates userId, answer, s' => answer = .ok (s.currentGates userId) ∧ s' = s
  | .grantSecret, _, s' => s' = s
  | .applicationSecret, _, s' => s' = s
  | .nonce, _, s' => s' = s
  | .randomId, _, s' => s' = s
  | .issue auth a authorizationId, answer, s' => ∃ now,
      match s.issue auth a authorizationId now with
      | none => answer = .error .unavailable ∧ s' = s
      | some (after, issuedAtUs) => answer = .ok (some issuedAtUs) ∧ s' = after
  | .auditFailure userId reason targetId, answer, s' =>
      answer = .ok () ∧ s' = { s with audit := s.audit ++ [⟨userId, .failed reason.code, targetId⟩] }
  | .respond _, _, s' => s' = s

/-- What a caller sees of an operation that failed, or whose answer is lost. -/
def lostUpload : (o : UploadOp) → o.Answer → Prop
  | .credential _, answer => answer = .error .unavailable
  | .linkedGrant _, answer => answer = .error .unavailable
  | .connection _, answer => answer = .error .unavailable
  | .gates _, answer => answer = .error .unavailable
  | .grantSecret, answer => answer = .error .unavailable
  | .applicationSecret, answer => answer = .error .unavailable
  | .issue .., answer => answer = .error .unavailable
  | .auditFailure .., answer => answer = .error .unavailable
  | .nonce, _ => False
  | .randomId, _ => False
  | .respond _, _ => False

def uploadMachine (signer : UploadSigner) : Machine UploadStore UploadOp.Answer where
  serve := serveUpload
  lost := lostUpload
  external := IssueExternal
  program p := ∃ enabled auth value, p = uploadAuthorizationRequest signer enabled auth value

end FlickrGroupAddr

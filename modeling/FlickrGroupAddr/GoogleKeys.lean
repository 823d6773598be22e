import FlickrGroupAddr.GroupPages
import FlickrGroupAddr.Lib.Calls
import Mathlib.Data.Rat.Floor

/-!
# The keys of the identity provider

`refreshGoogleKeys` and `validateGoogleIdentity` of `google_identity.ts`.  The keys are one
row of the database (`google_jwks_cache`); a verification that does not find the key of its
token forces a fetch, and so does nobody else.  A claim of the row gives a lease to one
owner, and the owner writes the keys it fetched or a cooldown.
-/

namespace FlickrGroupAddr

set_option autoImplicit false

open Program Workers

/-! ## The row -/

/-- `certs`: the key of each id, in the order they were read. -/
abbrev GoogleCerts := List (String × String)

/-- `google_jwks_cache`. -/
structure KeyCache where
  keysJson : Option GoogleCerts
  expiresAtUs : Us
  refreshAfterUs : Us
  refreshOwner : Option Token
  refreshUntilUs : Us
deriving DecidableEq

/-- The row the migration inserts. -/
def KeyCache.fresh : KeyCache := ⟨none, 0, 0, none, 0⟩

namespace KeyCache

/-- The lease of an owner, and the cooldown after a fetch that failed. -/
def leaseUs : Us := 15000000
def cooldownUs : Us := 60000000

/-- The claim: the row is free, and a refresh is forced or due. -/
def claim (cache : KeyCache) (owner : Token) (force : Bool) (now : Us) : Option KeyCache :=
  if cache.refreshUntilUs ≤ now ∧ (force = true ∨ cache.refreshAfterUs ≤ now) then
    some { cache with refreshOwner := some owner, refreshUntilUs := now + leaseUs }
  else none

/-- The write of fetched keys, by the owner. -/
def publish (cache : KeyCache) (owner : Token) (certs : GoogleCerts) (expiresIn refreshIn : Nat)
    (now : Us) : KeyCache :=
  if cache.refreshOwner = some owner then
    { keysJson := some certs
      expiresAtUs := now + expiresIn
      refreshAfterUs := now + refreshIn
      refreshOwner := none
      refreshUntilUs := 0 }
  else cache

/-- The write of a fetch that failed, by the owner. -/
def cool (cache : KeyCache) (owner : Token) (now : Us) : KeyCache :=
  if cache.refreshOwner = some owner then
    { cache with
      refreshAfterUs := now + cooldownUs
      refreshUntilUs := now + cooldownUs
      refreshOwner := none }
  else cache

end KeyCache

/-! ## What is fetched -/

/-- An answer of the provider: the number that `max-age` tells, the number in `Age`, and the
body. -/
structure KeyAnswer where
  maxAge : Option Nat
  age : Option Rat
  body : JsonValue

/-- For how many seconds an answer may be used. -/
def KeyAnswer.freshness (answer : KeyAnswer) : Option Rat :=
  match answer.maxAge, answer.age with
  | some maxAge, some age =>
      let freshness := min (maxAge - age) 86400
      if 0 ≤ age ∧ 30 < freshness then some freshness else none
  | _, _ => none

/-- The names that every object answers to. -/
def objectNames : List String :=
  ["constructor", "hasOwnProperty", "isPrototypeOf", "propertyIsEnumerable", "toLocaleString",
    "toString", "valueOf", "__proto__", "__defineGetter__", "__defineSetter__",
    "__lookupGetter__", "__lookupSetter__"]

/-- `certs[kid]`. -/
def knowsKey (certs : GoogleCerts) (kid : String) : Bool :=
  certs.any (fun entry => entry.1 == kid && !entry.2.isEmpty) || objectNames.contains kid

/-- `/^[A-Za-z0-9_-]{1,128}$/`. -/
def isKeyId (kid : String) : Bool :=
  decide (1 ≤ kid.length ∧ kid.length ≤ 128) &&
    kid.toList.all fun c => c.isAlphanum || c == '_' || c == '-'

/-- A property that is a string. -/
def JsonValue.stringAt (name : String) (value : JsonValue) : Option String :=
  match value.field name with
  | some (.text found) => some found
  | _ => none

/-- One key of the body; `pem` is `createPublicKey` with its export. -/
def googleCert (pem : JsonValue → Option String) (certs : GoogleCerts) (key : JsonValue) :
    Option (String × String) :=
  match key.stringAt "kid", key.stringAt "n", key.stringAt "e" with
  | some kid, some _, some _ =>
      if isKeyId kid = true ∧ key.stringAt "kty" = some "RSA" ∧ key.stringAt "alg" = some "RS256" ∧
          key.stringAt "use" = some "sig" ∧ knowsKey certs kid = false then
        (pem key).map fun text => (kid, text)
      else none
  | _, _, _ => none

/-- The keys of a body, one to ten of them. -/
def googleCerts (pem : JsonValue → Option String) (body : JsonValue) : Option GoogleCerts :=
  match body.field "keys" with
  | some (.array keys) =>
      if 1 ≤ keys.length ∧ keys.length ≤ 10 then
        keys.foldlM (fun certs key => (googleCert pem certs key).map fun cert => certs ++ [cert]) []
      else none
  | _ => none

/-- When the next refresh is due, in microseconds; `jitter` is a random word. -/
def refreshDelay (freshness : Rat) (jitter : Fin 4294967296) : Nat :=
  let share := 9 / 10 + (jitter.val : Rat) / 4294967296 / 10
  (⌊max 1 (min 21600 (freshness * (4 / 5)) * share) * 1000000⌋).toNat

/-- How long fetched keys are valid, in microseconds. -/
def keyLifetime (freshness : Rat) : Nat := (⌊freshness * 1000000⌋).toNat

/-! ## Tokens -/

/-- `decodeProtectedHeader`; `foreign` is whether it brings or names keys of its own, or
demands extensions. -/
structure AssertionHeader where
  alg : String
  kid : Option String
  foreign : Bool

/-- What the runtime computes: keys as text, and the digest of a nonce. -/
structure GoogleRuntime where
  pem : JsonValue → Option String
  digest : String → String
  toLowerCase : String → String

/-- `VerifiedGoogleIdentity`. -/
structure VerifiedGoogleIdentity where
  sub : String
  email : Option String
  emailVerified : Bool
deriving DecidableEq

/-- A property that is a number. -/
def JsonValue.numberAt (name : String) (value : JsonValue) : Option Rat :=
  match value.field name with
  | some (.number found) => some found
  | _ => none

/-- The checks on the payload of a verified token. -/
def payloadFits (runtime : GoogleRuntime) (audience nonceDigest : String) (now : Us)
    (payload : JsonValue) : Bool :=
  ((payload.stringAt "sub").any fun sub => decide (1 ≤ utf16Length sub ∧ utf16Length sub ≤ 255)) &&
    ((payload.stringAt "nonce").any fun nonce => runtime.digest nonce == nonceDigest) &&
    ((payload.numberAt "exp").any fun exp => decide ((now : Rat) < exp * 1000000)) &&
    ((payload.numberAt "iat").any fun iat => decide (iat * 1000000 ≤ (now : Rat) + 300000000)) &&
    ((payload.field "nbf").isNone ||
      (payload.numberAt "nbf").any fun nbf => decide (nbf * 1000000 ≤ (now : Rat))) &&
    ((payload.field "azp").isNone || (payload.stringAt "azp").any fun azp => azp == audience)

/-- The identity that a payload tells. -/
def identityOf (runtime : GoogleRuntime) (payload : JsonValue) : VerifiedGoogleIdentity where
  sub := (payload.stringAt "sub").getD ""
  email := ((payload.stringAt "email").filter fun email => utf16Length email ≤ 320).map
    runtime.toLowerCase
  emailVerified :=
    match payload.field "email_verified" with
    | some (.boolean true) | some (.text "true") => true
    | _ => false

/-! ## Programs -/

/-- Why a refresh or a verification stops. -/
inductive KeyFault where
  | unavailable
  | invalid
deriving DecidableEq

inductive KeyOp where
  | cache
  | randomUUID
  | claim (owner : Token) (force : Bool)
  | fetch
  | jitter
  | publish (owner : Token) (certs : GoogleCerts) (expiresIn refreshIn : Nat)
  | cool (owner : Token)
  | wait
  | verify (credential : String) (certs : GoogleCerts) (audience : String)
  | respond (identity : Option VerifiedGoogleIdentity)

abbrev KeyOp.Answer : KeyOp → Type
  | .cache => Except KeyFault (KeyCache × Us)
  | .randomUUID => Token
  | .claim .. => Except KeyFault Bool
  | .fetch => Except KeyFault KeyAnswer
  | .jitter => Fin 4294967296
  | .publish .. | .cool _ => Except KeyFault Unit
  | .wait => Unit
  | .verify .. => Except KeyFault JsonValue
  | .respond _ => Unit

abbrev KeyProg := Prog KeyOp.Answer

abbrev KeyThrows := Throws KeyOp.Answer KeyFault

namespace GoogleKeys

/-- A check that throws. -/
def assert (p : Prop) [Decidable p] : KeyThrows Unit :=
  if p then pure () else throw .invalid

/-- What is there, or an exception. -/
def present {α : Type} (value : Option α) : KeyThrows α :=
  match value with
  | none => throw .invalid
  | some value => pure value

/-- The fetch of an owner and the write of its keys. -/
def fetched (runtime : GoogleRuntime) (owner : Token) : KeyThrows Unit := do
  let answer ← attempt (Prog.query KeyOp.fetch)
  let freshness ← present answer.freshness
  let certs ← present (googleCerts runtime.pem answer.body)
  let jitter ← attempt (Except.ok <$> Prog.query KeyOp.jitter)
  attempt (Prog.query (KeyOp.publish owner certs (keyLifetime freshness)
    (refreshDelay freshness jitter)))

/-- The fetch of an owner, whose exceptions end in a cooldown. -/
def attempted (runtime : GoogleRuntime) (owner : Token) : KeyThrows Unit :=
  ExceptT.mk do
    match ← (fetched runtime owner).run with
    | .ok () => pure (.ok ())
    | .error _ => Prog.query (KeyOp.cool owner)

/-- `refreshGoogleKeys`. -/
def refreshGoogleKeys (runtime : GoogleRuntime) (force : Bool) : KeyThrows Unit := do
  let owner ← attempt (Except.ok <$> Prog.query KeyOp.randomUUID)
  let won ← attempt (Prog.query (KeyOp.claim owner force))
  if won = true then attempted runtime owner else pure ()

/-- Wait for a refresh in flight, for so many rounds. -/
def joinRefresh : Nat → KeyThrows Unit
  | 0 => pure ()
  | rounds + 1 => do
      let current ← attempt (Prog.query KeyOp.cache)
      if current.1.refreshOwner = none then pure ()
      else do
        attempt (Except.ok <$> Prog.query KeyOp.wait)
        joinRefresh rounds

/-- The row to verify with: as it is, or after a refresh that an unknown key forces. -/
def currentKeys (runtime : GoogleRuntime) (kid : String) : KeyThrows (KeyCache × Us) := do
  let current ← attempt (Prog.query KeyOp.cache)
  if knowsKey (current.1.keysJson.getD []) kid = true then pure current
  else do
    refreshGoogleKeys runtime true
    joinRefresh 20
    attempt (Prog.query KeyOp.cache)

/-- `validateGoogleIdentity`, to the payload and the reading it is checked at. -/
def payload (runtime : GoogleRuntime) (credential : String) (header : Option AssertionHeader)
    (audience : String) : KeyThrows (JsonValue × Us) := do
  assert (audience ≠ "" ∧ utf16Length credential ≤ 16384)
  let header ← present header
  let kid ← present header.kid
  assert (header.alg = "RS256" ∧ utf16Length kid ≤ 128 ∧ header.foreign = false)
  let current ← currentKeys runtime kid
  let certs := current.1.keysJson.getD []
  assert (current.2 < current.1.expiresAtUs ∧ knowsKey certs kid = true)
  let payload ← attempt (Prog.query (KeyOp.verify credential certs audience))
  pure (payload, current.2)

/-- `validateGoogleIdentity`; every exception is an invalid assertion. -/
def validateGoogleIdentity (runtime : GoogleRuntime) (credential : String)
    (header : Option AssertionHeader) (audience nonceDigest : String) : KeyProg Unit := do
  match ← (payload runtime credential header audience).run with
  | .error _ => Prog.query (KeyOp.respond none)
  | .ok (payload, now) =>
      Prog.query (KeyOp.respond
        (if payloadFits runtime audience nonceDigest now payload then
          some (identityOf runtime payload) else none))

end GoogleKeys

/-! ## The database -/

/-- The row, the last reading of the clock, the owners drawn so far, and the readings of the
claims that unknown keys forced, newest first. -/
structure KeyStore where
  cache : KeyCache
  clock : Us
  drawn : List Token
  forced : List Us

namespace KeyStore

/-- The store after a claim was answered. -/
def claimed (s : KeyStore) (owner : Token) (force : Bool) (now : Us) : Bool × KeyStore :=
  match s.cache.claim owner force now with
  | none => (false, { s with clock := now })
  | some cache =>
      (true, { s with
        cache := cache
        clock := now
        forced := if force then now :: s.forced else s.forced })

/-- The store after a write of the row. -/
def wrote (s : KeyStore) (cache : KeyCache) (now : Us) : KeyStore :=
  { s with cache := cache, clock := now }

end KeyStore

/-- How an operation meets the database; each statement has a reading of its own, and a
random UUID is not drawn twice. -/
def serveKeys (s : KeyStore) : (o : KeyOp) → o.Answer → KeyStore → Prop
  | .cache, answer, s' => ∃ now, answer = .ok (s.cache, now) ∧ s' = s.wrote s.cache now
  | .randomUUID, owner, s' => owner ∉ s.drawn ∧ s' = { s with drawn := owner :: s.drawn }
  | .claim owner force, answer, s' =>
      ∃ now, answer = .ok (s.claimed owner force now).1 ∧ s' = (s.claimed owner force now).2
  | .fetch, _, s' => s' = s
  | .jitter, _, s' => s' = s
  | .publish owner certs expiresIn refreshIn, answer, s' =>
      ∃ now, answer = .ok () ∧
        s' = s.wrote (s.cache.publish owner certs expiresIn refreshIn now) now
  | .cool owner, answer, s' => ∃ now, answer = .ok () ∧ s' = s.wrote (s.cache.cool owner now) now
  | .wait, _, s' => s' = s
  | .verify .., _, s' => s' = s
  | .respond _, _, s' => s' = s

/-- What a caller sees of a statement that failed or whose answer is lost. -/
def lostKeys : (o : KeyOp) → o.Answer → Prop
  | .cache, answer => answer = .error .unavailable
  | .claim .., answer => answer = .error .unavailable
  | .publish .., answer => answer = .error .unavailable
  | .cool _, answer => answer = .error .unavailable
  | .randomUUID, _ => False
  | .fetch, _ => False
  | .jitter, _ => False
  | .wait, _ => False
  | .verify .., _ => False
  | .respond _, _ => False

/-- Maintenance refreshes keys that are due, and any number of tokens are verified. -/
def keyMachine (runtime : GoogleRuntime) : Machine KeyStore KeyOp.Answer where
  serve := serveKeys
  lost := lostKeys
  external s s' := s' = s
  program p :=
    p = (do discard (GoogleKeys.refreshGoogleKeys runtime false).run) ∨
      ∃ credential header audience nonceDigest,
        p = GoogleKeys.validateGoogleIdentity runtime credential header audience nonceDigest

/-- Before the first refresh. -/
def KeyStore.Initial (s : KeyStore) : Prop := s.cache = .fresh ∧ s.drawn = [] ∧ s.forced = []

end FlickrGroupAddr

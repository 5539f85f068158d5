import Cbs.Library.Routine
import Cbs.Library.Text
import Cbs.Server.Credentials
import Cbs.Server.Scopes

/-!
# Verification of bearer tokens

The verifier looks a token up in the cache, fetches the candidates with its prefix, compares the
hashes and stores the result.  Other requests may run between these steps.
-/

namespace Cbs

open Concurrency

/-- What the authentication code shares with the requests on credentials. -/
structure AuthState where
  db : Database
  cache : TokenCache

inductive TokenError where
  | invalidFormat
  | notFound
  | expired
  deriving DecidableEq

def TokenError.text : TokenError → String
  | invalidFormat => "invalid token format"
  | notFound => "token not found or revoked"
  | expired => "token expired"

/-- The steps of the tasks on credentials that are worth a name. -/
inductive AuthStep where
  | caching (ref : TokenRef)
  /-- The API keys of a user who was deactivated are revoked. -/
  | disabling (email : String)
  /-- The cache is not purged of a key, because its prefix could not be read. -/
  | unpurged (ref : TokenRef)
  | verified (result : Except TokenError CachedToken)
  | returned (revoked : List TokenRef)
  deriving DecidableEq

abbrev AuthTask (α : Type) : Type :=
  Routine AuthState AuthStep α

namespace AuthTask

variable {α : Type}

def query (read : Database → α) : AuthTask α :=
  .stepFree fun state => (state, read state.db)

def execute (change : Database → Database × α) : AuthTask α :=
  .stepFree fun state => ({ state with db := (change state.db).1 }, (change state.db).2)

def withCache (change : TokenCache → TokenCache × α) : AuthTask α :=
  .stepFree fun state => ({ state with cache := (change state.cache).1 }, (change state.cache).2)

def purgeByPrefix (tokenPrefix : String) : AuthTask Unit :=
  withCache fun cache => (cache.removeByPrefix tokenPrefix, ())

def purgeByOwner (email : String) : AuthTask Unit :=
  withCache fun cache => (cache.removeByOwner email, ())

@[simp]
theorem run_query (read : Database → α) (state : AuthState) :
    (query read).run state = (state, read state.db) :=
  rfl

@[simp]
theorem run_execute (change : Database → Database × α) (state : AuthState) :
    (execute change).run state =
      ({ state with db := (change state.db).1 }, (change state.db).2) :=
  rfl

@[simp]
theorem run_withCache (change : TokenCache → TokenCache × α) (state : AuthState) :
    (withCache change).run state =
      ({ state with cache := (change state.cache).1 }, (change state.cache).2) :=
  rfl

end AuthTask

structure VerifyEnv where
  now : Int
  sha256 : String → Digest
  /-- The bearer string belongs to the stored hash. -/
  argon2Verify : String → String → Bool
  rowRank : Int → Nat
  validatePaseto : String → Database → Except AuthError AuthUser

structure CandidateRow where
  id : Int
  hash : String
  tokenPrefix : String
  ownerEmail : String
  expiresAt : Option Int
  deriving DecidableEq

def TokenKind.literal : TokenKind → String
  | apiKey => "cbsk_"
  | robotToken => "cbrk_"

def Database.fetchCandidates (db : Database) (rank : Int → Nat) (tokenPrefix : String) :
    TokenKind → List CandidateRow
  | .apiKey => (db.findApiKeysByPrefix rank tokenPrefix).map fun entry =>
    ⟨entry.1, entry.2.keyHash, entry.2.keyPrefix, entry.2.ownerEmail, entry.2.expiresAt⟩
  | .robotToken => (db.findActiveTokenByPrefix rank tokenPrefix).map fun entry =>
    ⟨entry.1, entry.2.tokenHash, entry.2.tokenPrefix, entry.2.robotEmail, entry.2.expiresAt⟩

def isExpired (now : Int) (expiresAt : Option Int) : Bool :=
  expiresAt.any (· < now)

def CandidateRow.toCached (candidate : CandidateRow) (kind : TokenKind) : CachedToken :=
  ⟨kind, candidate.id, candidate.ownerEmail, candidate.tokenPrefix, candidate.expiresAt⟩

def cacheToken (digest : Digest) (entry : CachedToken) : AuthTask Unit :=
  .step (.caching entry.ref) fun state =>
    ({ state with cache := state.cache.insert digest entry }, ())

variable (env : VerifyEnv)

def verifyUncached (kind : TokenKind) (raw : String) :
    AuthTask (Except TokenError CachedToken) := do
  let lookupPrefix := String.ofList ((raw.toList.drop 5).take 12)
  let candidates ← AuthTask.query (·.fetchCandidates env.rowRank lookupPrefix kind)
  match candidates.find? fun candidate => env.argon2Verify raw candidate.hash with
  | none => pure (.error .notFound)
  | some candidate =>
    let entry := candidate.toCached kind
    if isExpired env.now entry.expiresAt then pure (.error .expired)
    else do
      cacheToken (env.sha256 raw) entry
      pure (.ok entry)

def verifyHashedToken (kind : TokenKind) (raw : String) :
    AuthTask (Except TokenError CachedToken) :=
  if Text.byteLength raw ≠ 69 ∨ Text.startsWith raw kind.literal = false then
    pure (.error .invalidFormat)
  else do
    let hit ← AuthTask.withCache (·.get (env.sha256 raw))
    match hit with
    | some cached =>
      pure (if isExpired env.now cached.expiresAt then .error .expired else .ok cached)
    | none => verifyUncached env kind raw

def verifyApiKey (raw : String) : AuthTask (Except TokenError CachedToken) :=
  verifyHashedToken env .apiKey raw

def verifyRobotToken (raw : String) : AuthTask (Except TokenError CachedToken) :=
  verifyHashedToken env .robotToken raw

/-- The account that a verified token belongs to; `what` is the word for the token in the error
text. -/
def loadVerified (what : String) :
    Except TokenError CachedToken → AuthTask (Except AuthError AuthUser)
  | .error reason => pure (.error ⟨.unauthorized, what ++ " error: " ++ reason.text⟩)
  | .ok cached => AuthTask.query (·.accounts.loadAuthedUser cached.ownerEmail)

/-- The caller of a request that presents a bearer string. -/
def fromBearer (raw : String) : AuthTask (Except AuthError AuthUser) :=
  if Text.startsWith raw "cbsk_" then do
    let verified ← verifyApiKey env raw
    loadVerified "API key" verified
  else if Text.startsWith raw "cbrk_" then do
    let verified ← verifyRobotToken env raw
    loadVerified "robot token" verified
  else AuthTask.query (env.validatePaseto raw)

end Cbs

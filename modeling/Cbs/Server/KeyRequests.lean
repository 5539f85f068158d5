import Cbs.Library.Checks
import Cbs.Server.Verification

/-!
# Requests on API keys and workers

The self-service routes for API keys and the administrative routes that register workers and replace
their keys, which are ordinary rows of `api_keys`.
-/

namespace Cbs

open Concurrency Checks AuthTask

/-- What the credential handlers get from outside the shared state. -/
structure CredentialEnv extends AdminEnv where
  toLowercase : String → String
  /-- The first second after a date, or why the text is not a date. -/
  parseDate : String → Except String Int
  rowRank : Int → Nat

structure KeyMaterial where
  plaintext : String
  keyPrefix : String
  hash : String
  deriving DecidableEq

structure ApiKeyItem where
  keyPrefix : String
  name : String
  createdAt : Int
  deriving DecidableEq

structure WorkerToken where
  workerId : WorkerId
  workerName : String
  apiKey : String
  arch : Arch
  deriving DecidableEq

structure CreateRobotResponse where
  name : String
  displayName : String
  email : String
  active : Bool
  description : Option String
  token : String
  tokenPrefix : String
  tokenExpiresAt : Option Int
  createdAt : Int
  roles : List RoleName
  revived : Bool
  deriving DecidableEq

inductive CredentialResponse where
  | apiKey (key keyPrefix name : String)
  | apiKeys (items : List ApiKeyItem)
  | worker (id : WorkerId) (name : String) (arch : Arch) (token : WorkerToken)
  | deregistered (text : String) (apiKeyRevoked : Bool)
  | robot (response : CreateRobotResponse)
  | token (token tokenPrefix : String) (expiresAt : Option Int)
  | tokensRevoked (text : String) (count : Nat)
  | detail (text : String)
  | admin (response : AdminResponse)
  deriving DecidableEq

/-- What a request answers, and what it did on the way. -/
structure Reply where
  response : Except AuthError CredentialResponse
  revoked : List TokenRef

def Reply.plain (response : Except AuthError CredentialResponse) : Reply :=
  ⟨response, []⟩

/-- Go on with what a check gives, or refuse the request. -/
def AuthTask.orRefuse {α : Type} (check : Except AuthError α) (next : α → AuthTask Reply) :
    AuthTask Reply :=
  Routine.orReply check (fun reason => .plain (.error reason)) next

variable {α : Type}

@[simp]
theorem AuthTask.orRefuse_error {α : Type} (reason : AuthError) (next : α → AuthTask Reply) :
    orRefuse (.error reason) next = .done (.plain (.error reason)) :=
  rfl

@[simp]
theorem AuthTask.orRefuse_ok (value : α) (next : α → AuthTask Reply) :
    orRefuse (.ok value) next = next value :=
  rfl

/-- The database after a transaction, with its outcome; an error leaves the database as it is. -/
def Database.commit {ε α : Type} (attempt : Database → Except ε (Database × α)) (db : Database) :
    Database × Except ε α :=
  match attempt db with
  | .error reason => (db, .error reason)
  | .ok (after, value) => (after, .ok value)

def AuthTask.transaction {ε α : Type} (attempt : Database → Except ε (Database × α)) :
    AuthTask (Except ε α) :=
  .execute (Database.commit attempt)

@[simp]
theorem AuthTask.run_transaction {ε : Type} (attempt : Database → Except ε (Database × α))
    (state : AuthState) :
    (transaction attempt).run state =
      ({ state with db := (state.db.commit attempt).1 }, (state.db.commit attempt).2) :=
  rfl

def apiKeyRefs (ids : List Int) : List TokenRef :=
  ids.map (⟨.apiKey, ·⟩)

def robotTokenRefs (ids : List Int) : List TokenRef :=
  ids.map (⟨.robotToken, ·⟩)

def createApiKeyHandler (env : CredentialEnv) (user : AuthUser) (name : String)
    (material : KeyMaterial) : AuthTask Reply :=
  .orRefuse (require (user.isRobot = false) ⟨.badRequest,
    "robot accounts cannot create API keys — use POST /api/admin/robots/{name}/token"⟩) fun _ =>
  .orRefuse (requireCap user "apikeys:create:own") fun _ =>
  .orRefuse (require (Text.startsWith name "worker:" = false) ⟨.badRequest,
    "key names starting with 'worker:' are reserved for worker registration"⟩) fun _ => do
  let stored ← transaction fun db =>
    db.insertApiKey env.now name user.email material.hash material.keyPrefix
  pure (.plain (match stored with
    | .error _ => .error ⟨.internalServerError, "failed to create API key"⟩
    | .ok _ => .ok (.apiKey material.plaintext material.keyPrefix name)))

/-- The keys of an owner that are not revoked, the latest first. -/
def Database.listApiKeysForUser (db : Database) (rank : Int → Nat) (ownerEmail : String) :
    List ApiKeyItem :=
  ((db.apiKeys.select rank fun row => row.ownerEmail = ownerEmail && !row.revoked).map fun entry =>
    ⟨entry.2.keyPrefix, entry.2.name, entry.2.createdAt⟩).insertionSort
      (·.createdAt ≥ ·.createdAt)

/-- List the keys of the caller without those of workers. -/
def listApiKeysHandler (env : CredentialEnv) (user : AuthUser) : AuthTask Reply :=
  .orRefuse (requireCap user "apikeys:create:own") fun _ => do
  let keys ← query (·.listApiKeysForUser env.rowRank user.email)
  pure (.plain (.ok (.apiKeys (keys.filter fun key => !Text.startsWith key.name "worker:"))))

def revokeApiKeyHandler (user : AuthUser) (keyPrefix : String) : AuthTask Reply :=
  .orRefuse (requireCap user "apikeys:create:own") fun _ => do
  let revoked ← execute (·.revokeApiKeyByPrefix user.email keyPrefix)
  if revoked = [] then pure (.plain (.error ⟨.notFound, "API key not found"⟩))
  else do
    purgeByPrefix keyPrefix
    pure ⟨.ok (.detail "API key revoked"), apiKeyRefs revoked⟩

/-- Worker names start with a letter or a digit and go on with letters, digits, `-` and `_`. -/
def isValidWorkerName (name : String) : Bool :=
  if name.isEmpty || Text.byteLength name > 64 then false
  else
    match name.toList with
    | [] => false
    | first :: rest =>
      first.isAlphanum && rest.all fun char => char.isAlphanum || char = '-' || char = '_'

/-- The architecture that a text names. -/
def archOfText (text : String) : Option Arch :=
  if text = "x86_64" then some .x86_64
  else if text = "aarch64" then some .aarch64
  else none

/-- What the refusal of a statement answers. -/
def ConstraintError.registerError : ConstraintError → AuthError
  | unique => ⟨.conflict, "worker name already exists"⟩
  | other => ⟨.internalServerError, "database error"⟩

namespace Database

/-- The transaction that registers a worker: the key first, then the worker. -/
def registerWorker (db : Database) (now : Int) (email : String) (id : WorkerId) (name : String)
    (arch : Arch) (material : KeyMaterial) : Except ConstraintError Database := do
  let issued ← db.insertApiKey now ("worker:" ++ name) email material.hash material.keyPrefix
  issued.1.insertWorker id ⟨name, arch, issued.2, email⟩

/-- The transaction that deletes a worker: its key is revoked, and the row goes. -/
def deregisterWorker (db : Database) (id : WorkerId) (worker : WorkerRow) : Database × List Int :=
  let revoked := db.revokeApiKeyById worker.apiKeyId
  (revoked.1.deleteWorker id, revoked.2)

/-- The transaction that replaces the key of a worker: insert, bind, revoke the old one. -/
def regenerateToken (db : Database) (now : Int) (email : String) (id : WorkerId)
    (worker : WorkerRow) (material : KeyMaterial) :
    Except ConstraintError (Database × List Int) := do
  let issued ← db.insertApiKey now ("worker:" ++ worker.name) email material.hash
    material.keyPrefix
  let bound ← issued.1.updateApiKeyId id issued.2
  .ok (bound.revokeApiKeyById worker.apiKeyId)

end Database

def registerWorker (env : CredentialEnv) (user : AuthUser) (name arch : String) (id : WorkerId)
    (material : KeyMaterial) : AuthTask Reply :=
  .orRefuse (requireCap user "workers:manage") fun _ =>
  .orRefuse (require (isValidWorkerName name) ⟨.badRequest,
    "invalid worker name: must match [a-zA-Z0-9][a-zA-Z0-9_-]{0,63}"⟩) fun _ =>
  .orRefuse (orError ⟨.badRequest, "invalid arch: must be x86_64 or aarch64"⟩
    (archOfText arch)) fun arch => do
  let registered ← transaction fun db =>
    (db.registerWorker env.now user.email id name arch material).map (·, ())
  pure (.plain (match registered with
    | .error reason => .error reason.registerError
    | .ok () => .ok (.worker id name arch ⟨id, name, material.plaintext, arch⟩)))

/-- Drop a revoked key from the cache, if its prefix can be read. -/
def purgeKey (lookupFails : Bool) (keyId : Int) : AuthTask Unit :=
  if lookupFails then .step (.unpurged ⟨.apiKey, keyId⟩) fun state => (state, ())
  else do
    let found ← query (·.getKeyPrefixById keyId)
    match found with
    | none => pure ()
    | some keyPrefix => purgeByPrefix keyPrefix

def deregisterWorker (user : AuthUser) (id : WorkerId) (lookupFails : Bool) : AuthTask Reply :=
  .orRefuse (requireCap user "workers:manage") fun _ => do
  let found ← query (·.getWorkerById id)
  .orRefuse (orError ⟨.notFound, "worker not found"⟩ found) fun worker => do
  let revoked ← execute (·.deregisterWorker id worker)
  purgeKey lookupFails worker.apiKeyId
  pure ⟨.ok (.deregistered ("worker '" ++ worker.name ++ "' deregistered") true),
    apiKeyRefs revoked⟩

def regenerateWorkerToken (env : CredentialEnv) (user : AuthUser) (id : WorkerId)
    (material : KeyMaterial) (lookupFails : Bool) : AuthTask Reply :=
  .orRefuse (requireCap user "workers:manage") fun _ => do
  let found ← query (·.getWorkerById id)
  .orRefuse (orError ⟨.notFound, "worker not found"⟩ found) fun worker => do
  let replaced ← transaction fun db =>
    db.regenerateToken env.now user.email id worker material
  .orRefuse (replaced.mapError fun _ => ⟨.internalServerError, "database error"⟩) fun revoked => do
  purgeKey lookupFails worker.apiKeyId
  pure ⟨.ok (.worker id worker.name worker.arch
    ⟨id, worker.name, material.plaintext, worker.arch⟩), apiKeyRefs revoked⟩

end Cbs

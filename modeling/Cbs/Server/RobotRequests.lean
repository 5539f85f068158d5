import Cbs.Server.KeyRequests

/-!
# Requests on robots and entities

The routes that create, revive and tombstone robots and replace their tokens, and the routes that
deactivate and activate an account, as steps on the database and the token cache.
-/

namespace Cbs

open Concurrency Checks

/-- The character may begin and end the name of a robot. -/
def isBorder (char : Char) : Bool :=
  char.isLower || char.isDigit || char = '_'

def validateRobotName (name : String) : Except String Unit :=
  let chars := name.toList
  if chars.length < 2 ∨ 64 < chars.length then
    .error ("robot name must be 2–64 characters, got " ++ toString chars.length)
  else
    let first := chars.headD ' '
    let last := chars.getLastD ' '
    if !isBorder first then
      .error ("robot name must start with [a-z0-9_], got '" ++ String.singleton first ++ "'")
    else if !isBorder last then
      .error ("robot name must end with [a-z0-9_], got '" ++ String.singleton last ++ "'")
    else
      match chars.tail.dropLast.find? fun char =>
          !(char.isLower || char.isDigit || char = '_' || char = '.' || char = '-') with
      | some char =>
        .error ("robot name contains invalid character '" ++ String.singleton char ++
          "': allowed [a-z0-9_.-]")
      | none => .ok ()

variable (env : CredentialEnv)

/-- The address of a robot's account. -/
def CredentialEnv.nameToSyntheticEmail (name : String) : String :=
  "robot+" ++ env.toLowercase name ++ "@robots"

/-- The `expires` value of a request. -/
inductive ExpiresWire where
  | null
  | text (date : String)
  | other
  deriving DecidableEq

/-- When a token expires; the token is valid through the day that the request names. -/
def CredentialEnv.parseExpiresWire :
    ExpiresWire → Except AuthError (Option Int)
  | .null => .ok none
  | .text date => ((env.parseDate date).map some).mapError (⟨.badRequest, ·⟩)
  | .other => .error ⟨.badRequest, "expires must be a YYYY-MM-DD string or null"⟩

structure CreateRobotBody where
  name : String
  description : Option String
  expires : ExpiresWire
  roles : List RoleName
  deriving DecidableEq

def Database.getRobot (db : Database) (email : String) : Option (UserRow × RobotColumns) :=
  ((db.accounts.getUser email).filter (·.isRobot)).map fun row =>
    (row, (db.robotColumns.lookup email).getD ⟨none, 0⟩)

def CreateRobotError.response (name : String) : CreateRobotError → AuthError
  | alreadyActive => ⟨.conflict, "robot '" ++ name ++ "' already exists and is active"⟩
  | humanCollision =>
    ⟨.conflict, "name '" ++ name ++ "' conflicts with an existing human account"⟩
  | uniqueViolation =>
    ⟨.conflict, "robot '" ++ name ++ "' was modified concurrently; retry the request"⟩
  | db => ⟨.internalServerError, "failed to create robot"⟩

/-- A revived robot starts without cached tokens. -/
def purgeRevived (email : String) : CreateRevivedOutcome → AuthTask Unit
  | .created => pure ()
  | .revived => AuthTask.purgeByOwner email

/-- The answer about a robot that was created or revived, from its row as it was read again. -/
def createRobotResponse (body : CreateRobotBody) (name email : String) (material : KeyMaterial)
    (expiresAt : Option Int) (outcome : CreateRevivedOutcome) :
    Option (UserRow × RobotColumns) → Except AuthError CredentialResponse
  | none => .error ⟨.internalServerError, "robot disappeared after create"⟩
  | some (row, columns) =>
    .ok (.robot ⟨name, row.name, email, row.active, columns.description, material.plaintext,
      material.keyPrefix, expiresAt, columns.createdAt, body.roles, outcome = .revived⟩)

def createOrReviveRobot (user : AuthUser) (body : CreateRobotBody)
    (material : KeyMaterial) : AuthTask Reply :=
  .orRefuse (requireCap user "robots:manage") fun _ =>
  let name := env.toLowercase body.name
  .orRefuse ((validateRobotName name).mapError
    (⟨.badRequest, "invalid robot name: " ++ ·⟩)) fun _ => do
  let assignable ← AuthTask.query fun db => checkAssignable db.accounts true body.roles
  .orRefuse assignable fun _ =>
  .orRefuse (env.parseExpiresWire body.expires) fun expiresAt => do
  let email := env.nameToSyntheticEmail name
  let outcome ← AuthTask.transaction fun db =>
    db.createOrRevive env.now email name body.description
      ⟨material.keyPrefix, material.hash, expiresAt⟩ body.roles
  .orRefuse (outcome.mapError (·.response name)) fun outcome => do
  purgeRevived email outcome.1
  let committed ← AuthTask.query (·.getRobot email)
  pure ⟨createRobotResponse body name email material expiresAt outcome.1 committed,
    robotTokenRefs outcome.2⟩

/-- Tombstone a robot: deactivate it, revoke all its tokens and drop them from the cache. -/
def tombstoneRobot (env : CredentialEnv) (user : AuthUser) (name : String) : AuthTask Reply :=
  .orRefuse (requireCap user "robots:manage") fun _ => do
  let email := env.nameToSyntheticEmail name
  let found ← AuthTask.query (·.getRobot email)
  .orRefuse (orError ⟨.notFound, "robot not found"⟩ found) fun _ => do
  let revoked ← AuthTask.execute (·.tombstoneRobot env.now email)
  AuthTask.purgeByOwner email
  pure ⟨.ok (.tokensRevoked ("robot '" ++ name ++ "' tombstoned") revoked.length),
    robotTokenRefs revoked⟩

def RotateTokenError.response (name : String) : RotateTokenError → AuthError
  | robotNotFound => ⟨.notFound, "robot not found"⟩
  | robotTombstoned => ⟨.conflict, "robot '" ++ name ++ "' is tombstoned — revive it first"⟩
  | nonRevokedTokenExists =>
    ⟨.conflict, "robot '" ++ name ++
      "' already has an active token — pass renew=true to replace it"⟩
  | uniqueViolation =>
    ⟨.conflict, "robot '" ++ name ++ "' was modified concurrently; retry the request"⟩
  | db => ⟨.internalServerError, "failed to rotate robot token"⟩

def createOrRotateToken (user : AuthUser) (name : String)
    (expires : ExpiresWire) (renew : Bool) (material : KeyMaterial) : AuthTask Reply :=
  .orRefuse (requireCap user "robots:manage") fun _ =>
  .orRefuse (env.parseExpiresWire expires) fun expiresAt => do
  let email := env.nameToSyntheticEmail name
  let outcome ← AuthTask.transaction fun db =>
    db.rotateToken email renew ⟨material.keyPrefix, material.hash, expiresAt⟩
  .orRefuse (outcome.mapError (·.response name)) fun revoked => do
  AuthTask.purgeByOwner email
  pure ⟨.ok (.token material.plaintext material.keyPrefix expiresAt), robotTokenRefs revoked⟩

def revokeRobotToken (user : AuthUser) (name : String) : AuthTask Reply :=
  .orRefuse (requireCap user "robots:manage") fun _ => do
  let email := env.nameToSyntheticEmail name
  let found ← AuthTask.query (·.getRobot email)
  .orRefuse (orError ⟨.notFound, "robot not found"⟩ found) fun _ => do
  let revoked ← AuthTask.execute (·.revokeAllActiveTokens email)
  AuthTask.purgeByOwner email
  pure ⟨.ok (.tokensRevoked ("revoked " ++ toString revoked.length ++ " token(s) for robot '" ++
    name ++ "'") revoked.length), robotTokenRefs revoked⟩

def setRobotDescription (user : AuthUser) (name : String)
    (description : Option String) : AuthTask Reply :=
  .orRefuse (requireCap user "robots:manage") fun _ => do
  let updated ← AuthTask.execute
    (·.setDescription env.now (env.nameToSyntheticEmail name) description)
  pure (.plain (if updated then
      .ok (.detail ("description updated for robot '" ++ name ++ "'"))
    else .error ⟨.notFound, "robot not found"⟩))

namespace Database

def deactivateUser (db : Database) (now : Int) (email : String) : Database × Bool :=
  let deactivated := db.accounts.setActive now email false
  if deactivated.countActiveWildcardHolders = 0 then (db, false)
  else (db.withAccounts deactivated, true)

/-- Revoke the session tokens of a user, with the number of tokens that were revoked. -/
def revokeSessionTokens (db : Database) (email : String) : Database × Nat :=
  let revoked := revokeAllFor email db.accounts.tokens
  (db.withAccounts { db.accounts with tokens := revoked.1 }, revoked.2)

end Database

/-- Deactivate an entity.  The cache is purged before the API keys of a human are revoked. -/
def AuthTask.deactivateEntity (user : AuthUser) (address : String) : AuthTask Reply :=
  let email := env.normalizeEmail address
  .orRefuse (requireCap user "permissions:manage") fun _ => do
  let found ← query (·.accounts.getUser email)
  .orRefuse (orError ⟨.notFound, "user not found"⟩ found) fun target =>
  if !target.active then
    pure (.plain (.ok (.admin (.detail ("entity '" ++ email ++ "' already deactivated")))))
  else do
    let deactivated ← execute (·.deactivateUser env.now email)
    .orRefuse (require deactivated ⟨.conflict, "cannot deactivate the last admin — at least one " ++
      "active user must hold the wildcard (*) capability"⟩) fun _ => do
    purgeByOwner email
    if target.isRobot then
      pure (.plain (.ok (.admin (.detail ("entity '" ++ email ++ "' deactivated")))))
    else do
      let tokensRevoked ← execute (·.revokeSessionTokens email)
      let keysRevoked ← Routine.step (.disabling email) fun state =>
        ({ state with db := (state.db.revokeAllApiKeysForUser email).1 },
          (state.db.revokeAllApiKeysForUser email).2)
      pure ⟨.ok (.admin (.deactivated ("entity '" ++ email ++ "' deactivated") tokensRevoked
        keysRevoked.length)), apiKeyRefs keysRevoked⟩

def AuthTask.mayActivate (email : String) (target : UserRow) : AuthTask Bool :=
  if target.isRobot then query (·.hasNonRevokedToken email) else pure true

def AuthTask.activateEntity (user : AuthUser) (address : String) : AuthTask Reply :=
  let email := env.normalizeEmail address
  .orRefuse (requireCap user "permissions:manage") fun _ => do
  let found ← query (·.accounts.getUser email)
  .orRefuse (orError ⟨.notFound, "user not found"⟩ found) fun target => do
  let usable ← mayActivate email target
  .orRefuse (require usable ⟨.badRequest, "cannot activate robot with no token — use POST " ++
    "/api/admin/robots to revive it with a new token"⟩) fun _ => do
  execute fun db => (db.withAccounts (db.accounts.setActive env.now email true), ())
  purgeByOwner email
  pure (.plain (.ok (.admin (.detail ("entity '" ++ email ++ "' activated")))))

/-- Handle an administrative request as steps on the shared state; the requests on roles, which
touch no credentials, are one step. -/
def AdminRequest.task (user : AuthUser) : AdminRequest → AuthTask Reply
  | deactivateEntity address => AuthTask.deactivateEntity env user address
  | activateEntity address => AuthTask.activateEntity env user address
  | request => do
    let response ← AuthTask.execute fun db =>
      (db.withAccounts (request.handle env.toAdminEnv user db.accounts).1,
        (request.handle env.toAdminEnv user db.accounts).2)
    pure (.plain (response.map .admin))

/-- The requests on credentials, with the random values and failures that their handlers meet. -/
inductive CredentialRequest where
  | createApiKey (name : String) (material : KeyMaterial)
  | listApiKeys
  | revokeApiKey (keyPrefix : String)
  | registerWorker (name arch : String) (id : WorkerId) (material : KeyMaterial)
  | deregisterWorker (id : WorkerId) (lookupFails : Bool)
  | regenerateWorkerToken (id : WorkerId) (material : KeyMaterial) (lookupFails : Bool)
  | createOrReviveRobot (body : CreateRobotBody) (material : KeyMaterial)
  | tombstoneRobot (name : String)
  | createOrRotateToken (name : String) (expires : ExpiresWire) (renew : Bool)
      (material : KeyMaterial)
  | revokeRobotToken (name : String)
  | setRobotDescription (name : String) (description : Option String)
  | admin (request : AdminRequest)
  deriving DecidableEq

def CredentialRequest.task (env : CredentialEnv) (user : AuthUser) :
    CredentialRequest → AuthTask Reply
  | createApiKey name material => createApiKeyHandler env user name material
  | listApiKeys => listApiKeysHandler env user
  | revokeApiKey keyPrefix => revokeApiKeyHandler user keyPrefix
  | registerWorker name arch id material => Cbs.registerWorker env user name arch id material
  | deregisterWorker id lookupFails => Cbs.deregisterWorker user id lookupFails
  | regenerateWorkerToken id material lookupFails =>
    Cbs.regenerateWorkerToken env user id material lookupFails
  | createOrReviveRobot body material => Cbs.createOrReviveRobot env user body material
  | tombstoneRobot name => Cbs.tombstoneRobot env user name
  | createOrRotateToken name expires renew material =>
    Cbs.createOrRotateToken env user name expires renew material
  | revokeRobotToken name => Cbs.revokeRobotToken env user name
  | setRobotDescription name description => Cbs.setRobotDescription env user name description
  | admin request => request.task env user

end Cbs

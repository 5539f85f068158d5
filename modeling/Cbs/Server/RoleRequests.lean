import Cbs.Server.Accounts

/-!
# Requests on roles and entities

The handlers that change roles, role assignments and the active flag of an account.  A statement
that was committed before an error stays committed.
-/

namespace Cbs

def knownCaps : List Cap :=
  ["builds:create", "builds:revoke:own", "builds:revoke:any", "builds:list:own",
    "builds:list:any", "admin:queue:view", "permissions:view", "permissions:manage",
    "apikeys:create:own", "robots:manage", "robots:view", "workers:view", "workers:manage",
    "periodic:create", "periodic:view", "periodic:manage:own", "periodic:manage:any",
    "channels:manage", "channels:view", "*"]

/-- The capabilities that need scopes. -/
def scopeDependentCaps : List Cap :=
  ["builds:create"]

structure AdminEnv where
  now : Int
  normalizeEmail : String → String

/-- The body of a request that creates or updates a role. -/
structure RoleBody where
  name : RoleName
  description : Option String
  caps : List Cap
  scopes : List ScopeEntry
  deriving DecidableEq

structure RoleResponse where
  name : RoleName
  description : String
  builtin : Bool
  caps : List Cap
  scopes : List ScopeEntry
  createdAt : Int
  deriving DecidableEq

/-- A role of an entity as the responses describe it. -/
structure EntityRoleItem where
  role : RoleName
  scopes : List ScopeEntry
  deriving DecidableEq

/-- The bodies of successful responses. -/
inductive AdminResponse where
  | role (response : RoleResponse)
  | entityRoles (items : List EntityRoleItem)
  | entityRole (item : EntityRoleItem)
  | detail (text : String)
  | deactivated (text : String) (tokensRevoked apiKeysRevoked : Nat)
  deriving DecidableEq

def validateCaps : List Cap → Except AuthError Unit
  | [] => .ok ()
  | cap :: caps =>
    if cap ∈ knownCaps then validateCaps caps
    else .error ⟨.badRequest, "unknown capability: " ++ cap⟩

def validateScopes : List ScopeEntry → Except AuthError Unit
  | [] => .ok ()
  | scope :: scopes =>
    if scope.scopeType ∉ knownScopeTypes then
      .error ⟨.badRequest, "unknown scope type '" ++ scope.scopeType ++
        "': must be one of channel, registry, repository"⟩
    else if scope.scopeType = "channel" ∧ '/' ∉ scope.pattern.toList ∧ scope.pattern ≠ "*" then
      .error ⟨.badRequest, "channel scope pattern '" ++ scope.pattern ++
        "' must contain '/' (e.g. 'ces/dev' or 'ces/*')"⟩
    else validateScopes scopes

/-- The capabilities need scopes: one of them does, and the wildcard is not among them. -/
def roleIsScopeDependent (caps : List Cap) : Bool :=
  if "*" ∈ caps then false else caps.any (· ∈ scopeDependentCaps)

/-- The checks on a request that creates or updates a role. -/
def checkRoleBody (user : AuthUser) (body : RoleBody) : Except AuthError Unit := do
  requireCap user "permissions:manage"
  validateCaps body.caps
  validateScopes body.scopes
  if roleIsScopeDependent body.caps && body.scopes.isEmpty then
    .error ⟨.badRequest,
      "role contains scope-dependent capabilities and requires at least one scope"⟩
  else .ok ()

/-- Refuse if no active human holds the wildcard; `holder` is the word for an account in the error
text. -/
def lastAdminGuard (holder : String) (accounts : Accounts) : Except AuthError Unit :=
  if accounts.countActiveWildcardHolders = 0 then
    .error ⟨.conflict, "operation would remove the last admin — at least one active " ++ holder ++
      " must hold the wildcard (*) capability"⟩
  else .ok ()

/-- The roles exist, and none of them has a capability that a robot target may not have. -/
def checkAssignable (accounts : Accounts) (targetIsRobot : Bool) :
    List RoleName → Except AuthError Unit
  | [] => .ok ()
  | role :: roles =>
    if (accounts.getRole role).isNone then
      .error ⟨.badRequest, "role '" ++ role ++ "' does not exist"⟩
    else
      match if targetIsRobot then firstRobotForbiddenCap (accounts.getRoleCaps role)
          else none with
      | some forbidden =>
        .error ⟨.badRequest, "role '" ++ role ++ "' carries cap '" ++ forbidden ++
          "' which robots cannot hold"⟩
      | none => checkAssignable accounts targetIsRobot roles

variable (env : AdminEnv)

/-- Create a role: the row is inserted first, capabilities and scopes follow in a transaction of
their own. -/
def createRole (user : AuthUser) (body : RoleBody) (accounts : Accounts) :
    Accounts × Except AuthError AdminResponse :=
  match checkRoleBody user body with
  | .error reason => (accounts, .error reason)
  | .ok () =>
    match accounts.insertRole env.now body.name (body.description.getD "") false with
    | none => (accounts, .error ⟨.conflict, "role '" ++ body.name ++ "' already exists"⟩)
    | some created =>
      match created.setRoleCapsAndScopes body.name body.caps body.scopes with
      | none =>
        (created, .error ⟨.internalServerError,
          "failed to set role capabilities and scopes"⟩)
      | some completed =>
        match completed.getRole body.name with
        | none => (completed, .error ⟨.internalServerError, "role not found after create"⟩)
        | some role =>
          (completed, .ok (.role ⟨body.name, role.description, role.builtin, body.caps,
            body.scopes, role.createdAt⟩))

/-- Put back the capabilities and scopes that a role had; a failure is ignored. -/
def restoreRole (name : RoleName) (caps : List Cap) (scopes : List ScopeEntry)
    (accounts : Accounts) : Accounts :=
  (accounts.setRoleCapsAndScopes name caps scopes).getD accounts

/-- Replace capabilities and scopes of a role, and put the old ones back if that leaves no
administrator. -/
def updateRole (user : AuthUser) (name : RoleName) (body : RoleBody) (accounts : Accounts) :
    Accounts × Except AuthError AdminResponse :=
  match checkRoleBody user body with
  | .error reason => (accounts, .error reason)
  | .ok () =>
    if accounts.isRoleBuiltin name then
      (accounts, .error ⟨.conflict, "cannot modify a builtin role"⟩)
    else
      match accounts.getRole name with
      | none => (accounts, .error ⟨.notFound, "role not found"⟩)
      | some role =>
        let oldCaps := accounts.getRoleCaps name
        let oldScopes := accounts.getRoleScopes name
        match accounts.setRoleCapsAndScopes name body.caps body.scopes with
        | none =>
          (accounts, .error ⟨.internalServerError,
            "failed to update role capabilities and scopes"⟩)
        | some updated =>
          let response := AdminResponse.role ⟨name, role.description, role.builtin, body.caps,
            body.scopes, role.createdAt⟩
          if "*" ∈ oldCaps ∧ "*" ∉ body.caps then
            match lastAdminGuard "user" updated with
            | .error reason => (restoreRole name oldCaps oldScopes updated, .error reason)
            | .ok () => (updated, .ok response)
          else (updated, .ok response)

/-- Delete a role.  The guard runs after the deletion, which is not undone. -/
def deleteRole (user : AuthUser) (name : RoleName) (accounts : Accounts) :
    Accounts × Except AuthError AdminResponse :=
  match requireCap user "permissions:manage" with
  | .error reason => (accounts, .error reason)
  | .ok () =>
    if accounts.isRoleBuiltin name then
      (accounts, .error ⟨.conflict, "cannot delete a builtin role"⟩)
    else
      let caps := accounts.getRoleCaps name
      let deleted := accounts.deleteRole name
      if deleted.2 then
        let response := AdminResponse.detail ("role '" ++ name ++ "' deleted")
        if "*" ∈ caps then
          match lastAdminGuard "user" deleted.1 with
          | .error reason => (deleted.1, .error reason)
          | .ok () => (deleted.1, .ok response)
        else (deleted.1, .ok response)
      else (deleted.1, .error ⟨.notFound, "role not found"⟩)

/-- Replace the roles of an entity.  The guard runs after the transaction, which is not undone. -/
def replaceEntityRoles (user : AuthUser) (address : String)
    (roles : List RoleName) (accounts : Accounts) :
    Accounts × Except AuthError AdminResponse :=
  let email := env.normalizeEmail address
  match requireCap user "permissions:manage" with
  | .error reason => (accounts, .error reason)
  | .ok () =>
    let targetIsRobot := (accounts.getUser email).any (·.isRobot)
    match checkAssignable accounts targetIsRobot roles with
    | .error reason => (accounts, .error reason)
    | .ok () =>
      match accounts.setUserRoles email roles with
      | none => (accounts, .error ⟨.internalServerError, "failed to set entity roles"⟩)
      | some replaced =>
        match lastAdminGuard "entity" replaced with
        | .error reason => (replaced, .error reason)
        | .ok () =>
          (replaced, .ok (.entityRoles ((replaced.getUserRoles email).map fun role =>
            ⟨role, replaced.getRoleScopes role⟩)))

def addEntityRole (user : AuthUser) (address : String) (role : RoleName)
    (accounts : Accounts) : Accounts × Except AuthError AdminResponse :=
  let email := env.normalizeEmail address
  match requireCap user "permissions:manage" with
  | .error reason => (accounts, .error reason)
  | .ok () =>
    if (accounts.getRole role).isNone then
      (accounts, .error ⟨.badRequest, "role '" ++ role ++ "' does not exist"⟩)
    else
      match accounts.getUser email with
      | none => (accounts, .error ⟨.notFound, "user not found"⟩)
      | some target =>
        match checkAssignable accounts target.isRobot [role] with
        | .error reason => (accounts, .error reason)
        | .ok () =>
          match accounts.addUserRole email role with
          | none => (accounts, .error ⟨.internalServerError, "failed to add entity role"⟩)
          | some added =>
            (added, .ok (.entityRole ⟨role, added.getRoleScopes role⟩))

/-- Take one role from an entity.  The guard runs after the deletion, which is not undone. -/
def removeEntityRole (user : AuthUser) (address : String) (role : RoleName)
    (accounts : Accounts) : Accounts × Except AuthError AdminResponse :=
  let email := env.normalizeEmail address
  match requireCap user "permissions:manage" with
  | .error reason => (accounts, .error reason)
  | .ok () =>
    let removed := accounts.removeUserRole email role
    if removed.2 then
      match lastAdminGuard "entity" removed.1 with
      | .error reason => (removed.1, .error reason)
      | .ok () =>
        (removed.1, .ok (.detail
          ("role '" ++ role ++ "' removed from entity '" ++ email ++ "'")))
    else (removed.1, .error ⟨.notFound, "role assignment not found"⟩)

/-- Deactivate an entity.  The guard runs inside the transaction; the tokens and keys of a human are
revoked afterwards. -/
def deactivateEntity (user : AuthUser) (address : String)
    (accounts : Accounts) : Accounts × Except AuthError AdminResponse :=
  let email := env.normalizeEmail address
  match requireCap user "permissions:manage" with
  | .error reason => (accounts, .error reason)
  | .ok () =>
    match accounts.getUser email with
    | none => (accounts, .error ⟨.notFound, "user not found"⟩)
    | some target =>
      if !target.active then
        (accounts, .ok (.detail ("entity '" ++ email ++ "' already deactivated")))
      else
        let deactivated := accounts.setActive env.now email false
        if deactivated.countActiveWildcardHolders = 0 then
          (accounts, .error ⟨.conflict, "cannot deactivate the last admin — at least one " ++
            "active user must hold the wildcard (*) capability"⟩)
        else if target.isRobot then
          (deactivated, .ok (.detail ("entity '" ++ email ++ "' deactivated")))
        else
          let tokens := revokeAllFor email deactivated.tokens
          let apiKeys := revokeAllFor email deactivated.apiKeys
          ({ deactivated with tokens := tokens.1, apiKeys := apiKeys.1 },
            .ok (.deactivated ("entity '" ++ email ++ "' deactivated") tokens.2 apiKeys.2))

/-- Activate an entity; a robot needs a token that is not revoked. -/
def activateEntity (user : AuthUser) (address : String)
    (accounts : Accounts) : Accounts × Except AuthError AdminResponse :=
  let email := env.normalizeEmail address
  match requireCap user "permissions:manage" with
  | .error reason => (accounts, .error reason)
  | .ok () =>
    match accounts.getUser email with
    | none => (accounts, .error ⟨.notFound, "user not found"⟩)
    | some target =>
      if target.isRobot && !accounts.hasNonRevokedToken email then
        (accounts, .error ⟨.badRequest, "cannot activate robot with no token — use POST " ++
          "/api/admin/robots to revive it with a new token"⟩)
      else
        (accounts.setActive env.now email true,
          .ok (.detail ("entity '" ++ email ++ "' activated")))

inductive AdminRequest where
  | createRole (body : RoleBody)
  | updateRole (name : RoleName) (body : RoleBody)
  | deleteRole (name : RoleName)
  | replaceEntityRoles (address : String) (roles : List RoleName)
  | addEntityRole (address : String) (role : RoleName)
  | removeEntityRole (address : String) (role : RoleName)
  | deactivateEntity (address : String)
  | activateEntity (address : String)
  deriving DecidableEq

def AdminRequest.handle (user : AuthUser) :
    AdminRequest → Accounts → Accounts × Except AuthError AdminResponse
  | createRole body => Cbs.createRole env user body
  | updateRole name body => Cbs.updateRole user name body
  | deleteRole name => Cbs.deleteRole user name
  | replaceEntityRoles address roles => Cbs.replaceEntityRoles env user address roles
  | addEntityRole address role => Cbs.addEntityRole env user address role
  | removeEntityRole address role => Cbs.removeEntityRole env user address role
  | deactivateEntity address => Cbs.deactivateEntity env user address
  | activateEntity address => Cbs.activateEntity env user address

end Cbs

import Mathlib.Data.Finset.Sort
import Mathlib.Data.Prod.Lex
import Mathlib.Data.String.Basic
import Cbs.Library.Dictionary
import Cbs.Library.Table
import Cbs.Server.Auth

/-!
# Accounts and roles

The tables of users, roles, capabilities, scopes and role assignments, and the statements on them.
The foreign keys and the check on scope types hold of every value of the type.
-/

namespace Cbs

abbrev RoleName : Type := String

/-- A row of the `users` table. -/
structure UserRow where
  name : String
  active : Bool
  isRobot : Bool
  defaultChannelId : Option Int
  updatedAt : Int
  deriving DecidableEq

/-- A row of the `roles` table. -/
structure RoleRow where
  description : String
  builtin : Bool
  createdAt : Int
  deriving DecidableEq

/-- A scope of a role: what kind of thing it restricts, and a pattern. -/
structure ScopeEntry where
  scopeType : String
  pattern : String
  deriving DecidableEq

/-- A bearer token or API key, as far as revoking it goes. -/
structure TokenRow where
  owner : String
  revoked : Bool
  deriving DecidableEq

/-- The scope types that the database accepts. -/
def knownScopeTypes : List String :=
  ["channel", "registry", "repository"]

@[ext]
structure Accounts where
  users : Dictionary String UserRow
  roles : Dictionary RoleName RoleRow
  roleCaps : Finset (RoleName × Cap)
  roleScopes : Finset (RoleName × ScopeEntry)
  userRoles : Finset (String × RoleName)
  tokens : List TokenRow
  apiKeys : List TokenRow
  robotTokens : List TokenRow
  caps_role : ∀ entry ∈ roleCaps, entry.1 ∈ roles
  scopes_role : ∀ entry ∈ roleScopes, entry.1 ∈ roles
  scopes_known : ∀ entry ∈ roleScopes, entry.2.scopeType ∈ knownScopeTypes
  assigned_user : ∀ entry ∈ userRoles, entry.1 ∈ users
  assigned_role : ∀ entry ∈ userRoles, entry.2 ∈ roles

namespace Accounts

def getUser (accounts : Accounts) (email : String) : Option UserRow :=
  accounts.users.lookup email

def getRole (accounts : Accounts) (name : RoleName) : Option RoleRow :=
  accounts.roles.lookup name

/-- The role is there and comes with the server. -/
def isRoleBuiltin (accounts : Accounts) (name : RoleName) : Bool :=
  (accounts.getRole name).any (·.builtin)

def capsOf (accounts : Accounts) (name : RoleName) : Finset Cap :=
  (accounts.roleCaps.filter (·.1 = name)).image (·.2)

def scopesOf (accounts : Accounts) (name : RoleName) : Finset ScopeEntry :=
  (accounts.roleScopes.filter (·.1 = name)).image (·.2)

def rolesOf (accounts : Accounts) (email : String) : Finset RoleName :=
  (accounts.userRoles.filter (·.1 = email)).image (·.2)

/-- The capabilities of a role in order. -/
def getRoleCaps (accounts : Accounts) (name : RoleName) : List Cap :=
  (accounts.capsOf name).sort

def getRoleScopes (accounts : Accounts) (name : RoleName) : List ScopeEntry :=
  ((accounts.scopesOf name).image fun scope => toLex (scope.scopeType, scope.pattern)).sort.map
    fun scope => ⟨(ofLex scope).1, (ofLex scope).2⟩

def getUserRoles (accounts : Accounts) (email : String) : List RoleName :=
  (accounts.rolesOf email).sort

/-- The capabilities that a user has through some role. -/
def effectiveCaps (accounts : Accounts) (email : String) : Finset Cap :=
  (accounts.rolesOf email).biUnion accounts.capsOf

def getEffectiveCaps (accounts : Accounts) (email : String) : List Cap :=
  (accounts.effectiveCaps email).sort

/-- The active human users that hold the wildcard through some role. -/
def wildcardHolders (accounts : Accounts) : Finset String :=
  (accounts.userRoles.filter fun entry =>
    (accounts.getUser entry.1).any (fun user => user.active && !user.isRobot) ∧
      (entry.2, "*") ∈ accounts.roleCaps).image (·.1)

/-- `SELECT COUNT(DISTINCT u.email)` over the active human holders of the wildcard. -/
def countActiveWildcardHolders (accounts : Accounts) : Nat :=
  accounts.wildcardHolders.card

def hasNonRevokedToken (accounts : Accounts) (email : String) : Bool :=
  accounts.robotTokens.any fun token => token.owner = email && !token.revoked

section Queries

variable {accounts : Accounts} {name : RoleName} {cap : Cap}

theorem mem_capsOf : cap ∈ accounts.capsOf name ↔ (name, cap) ∈ accounts.roleCaps := by
  simp [capsOf]

variable {scope : ScopeEntry}

theorem mem_scopesOf : scope ∈ accounts.scopesOf name ↔ (name, scope) ∈ accounts.roleScopes := by
  simp [scopesOf]

theorem mem_rolesOf {email : String} {role : RoleName} :
    role ∈ accounts.rolesOf email ↔ (email, role) ∈ accounts.userRoles := by
  simp [rolesOf]

theorem mem_roles_of_getRole {role : RoleRow}
    (isRole : accounts.getRole name = some role) : name ∈ accounts.roles := by
  have found : accounts.roles.lookup name = some role := isRole
  apply AList.lookup_isSome.mp
  rw [found]
  rfl

theorem mem_getRoleCaps : cap ∈ accounts.getRoleCaps name ↔ (name, cap) ∈ accounts.roleCaps := by
  rw [getRoleCaps, Finset.mem_sort, mem_capsOf]

theorem mem_getRoleScopes :
    scope ∈ accounts.getRoleScopes name ↔ (name, scope) ∈ accounts.roleScopes := by
  rw [← mem_scopesOf, getRoleScopes, List.mem_map]
  constructor
  · rintro ⟨pair, inside, rfl⟩
    rw [Finset.mem_sort, Finset.mem_image] at inside
    obtain ⟨found, stored, rfl⟩ := inside
    exact stored
  · intro stored
    refine ⟨toLex (scope.scopeType, scope.pattern), ?_, rfl⟩
    rw [Finset.mem_sort]
    exact Finset.mem_image_of_mem _ stored

theorem nodup_getRoleCaps (accounts : Accounts) (name : RoleName) :
    (accounts.getRoleCaps name).Nodup :=
  Finset.sort_nodup _ _

theorem nodup_getRoleScopes (accounts : Accounts) (name : RoleName) :
    (accounts.getRoleScopes name).Nodup := by
  refine (Finset.sort_nodup _ _).map fun first second same => ?_
  obtain ⟨sameType, samePattern⟩ := ScopeEntry.mk.inj same
  exact ofLex.injective (Prod.ext sameType samePattern)

end Queries

/-- Insert a role; there is no result if the name is taken. -/
def insertRole (accounts : Accounts) (now : Int) (name : RoleName) (description : String)
    (builtin : Bool) : Option Accounts :=
  if name ∈ accounts.roles then none
  else some
    { accounts with
      roles := accounts.roles.insert name
        { description := description, builtin := builtin, createdAt := now }
      caps_role := fun entry inside =>
        (AList.mem_insert _).mpr (Or.inr (accounts.caps_role entry inside))
      scopes_role := fun entry inside =>
        (AList.mem_insert _).mpr (Or.inr (accounts.scopes_role entry inside))
      assigned_role := fun entry inside =>
        (AList.mem_insert _).mpr (Or.inr (accounts.assigned_role entry inside)) }

/-- Delete a row of `roles` with everything that refers to it. -/
def cascadeRole (accounts : Accounts) (name : RoleName) : Accounts where
  users := accounts.users
  roles := accounts.roles.erase name
  roleCaps := accounts.roleCaps.filter (·.1 ≠ name)
  roleScopes := accounts.roleScopes.filter (·.1 ≠ name)
  userRoles := accounts.userRoles.filter (·.2 ≠ name)
  tokens := accounts.tokens
  apiKeys := accounts.apiKeys
  robotTokens := accounts.robotTokens
  caps_role := by
    intro entry inside
    obtain ⟨stored, different⟩ := Finset.mem_filter.mp inside
    exact AList.mem_erase.mpr ⟨different, accounts.caps_role entry stored⟩
  scopes_role := by
    intro entry inside
    obtain ⟨stored, different⟩ := Finset.mem_filter.mp inside
    exact AList.mem_erase.mpr ⟨different, accounts.scopes_role entry stored⟩
  scopes_known := by
    intro entry inside
    exact accounts.scopes_known entry (Finset.mem_filter.mp inside).1
  assigned_user := by
    intro entry inside
    exact accounts.assigned_user entry (Finset.mem_filter.mp inside).1
  assigned_role := by
    intro entry inside
    obtain ⟨stored, different⟩ := Finset.mem_filter.mp inside
    exact AList.mem_erase.mpr ⟨different, accounts.assigned_role entry stored⟩

/-- Delete a role unless it comes with the server; the flag says whether a row was deleted. -/
def deleteRole (accounts : Accounts) (name : RoleName) : Accounts × Bool :=
  if accounts.isRoleBuiltin name then (accounts, false)
  else if name ∈ accounts.roles then (accounts.cascadeRole name, true)
  else (accounts, false)

/-- Replace the capabilities of a role.  A repeated capability or a missing role makes the
transaction fail. -/
def setRoleCaps (accounts : Accounts) (name : RoleName) (caps : List Cap) : Option Accounts :=
  (Table.insertRows (caps.map (name, ·)) (accounts.roleCaps.filter (·.1 ≠ name))).bind fun rows =>
    if known : ∀ entry ∈ rows, entry.1 ∈ accounts.roles then
      some { accounts with roleCaps := rows, caps_role := known }
    else none

/-- Replace the scopes of a role.  A repeated scope, an unknown type or a missing role makes the
transaction fail. -/
def setRoleScopes (accounts : Accounts) (name : RoleName) (scopes : List ScopeEntry) :
    Option Accounts :=
  (Table.insertRows (scopes.map (name, ·)) (accounts.roleScopes.filter (·.1 ≠ name))).bind
    fun rows =>
      if known : (∀ entry ∈ rows, entry.1 ∈ accounts.roles) ∧
          ∀ entry ∈ rows, entry.2.scopeType ∈ knownScopeTypes then
        some { accounts with roleScopes := rows, scopes_role := known.1, scopes_known := known.2 }
      else none

/-- Replace capabilities and scopes of a role in one transaction. -/
def setRoleCapsAndScopes (accounts : Accounts) (name : RoleName) (caps : List Cap)
    (scopes : List ScopeEntry) : Option Accounts :=
  (accounts.setRoleCaps name caps).bind (·.setRoleScopes name scopes)

/-- Replace the roles of a user in one transaction.  A repeated role, or a role for a missing user,
makes the transaction fail. -/
def setUserRoles (accounts : Accounts) (email : String) (roles : List RoleName) : Option Accounts :=
  (Table.insertRows (roles.map (email, ·)) (accounts.userRoles.filter (·.1 ≠ email))).bind
    fun rows =>
      if known : (∀ entry ∈ rows, entry.1 ∈ accounts.users) ∧
          ∀ entry ∈ rows, entry.2 ∈ accounts.roles then
        some { accounts with userRoles := rows, assigned_user := known.1, assigned_role := known.2 }
      else none

/-- Give a role to a user, if it is not there yet. -/
def addUserRole (accounts : Accounts) (email : String) (role : RoleName) : Option Accounts :=
  if known : email ∈ accounts.users ∧ role ∈ accounts.roles then
    some
      { accounts with
        userRoles := insert (email, role) accounts.userRoles
        assigned_user := by
          intro entry inside
          rcases Finset.mem_insert.mp inside with rfl | stored
          · exact known.1
          · exact accounts.assigned_user entry stored
        assigned_role := by
          intro entry inside
          rcases Finset.mem_insert.mp inside with rfl | stored
          · exact known.2
          · exact accounts.assigned_role entry stored }
  else none

/-- Take a role from a user; the flag says whether a row was deleted. -/
def removeUserRole (accounts : Accounts) (email : String) (role : RoleName) : Accounts × Bool :=
  ({ accounts with
      userRoles := accounts.userRoles.erase (email, role)
      assigned_user := fun entry inside =>
        accounts.assigned_user entry (Finset.mem_of_mem_erase inside)
      assigned_role := fun entry inside =>
        accounts.assigned_role entry (Finset.mem_of_mem_erase inside) },
    decide ((email, role) ∈ accounts.userRoles))

def setActive (accounts : Accounts) (now : Int) (email : String) (active : Bool) : Accounts :=
  { accounts with
    users := accounts.users.modify email fun user =>
      { user with active := active, updatedAt := now }
    assigned_user := fun entry inside =>
      Dictionary.mem_modify.mpr (accounts.assigned_user entry inside) }

end Accounts

def revokeAllFor (owner : String) (tokens : List TokenRow) : List TokenRow × Nat :=
  (tokens.map fun token => if token.owner = owner then { token with revoked := true } else token,
    tokens.countP fun token => token.owner = owner && !token.revoked)

end Cbs

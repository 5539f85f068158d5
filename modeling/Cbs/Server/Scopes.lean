import Cbs.Library.Checks
import Cbs.Library.Text
import Cbs.Server.Accounts

/-!
# Scopes

The scopes of a role restrict where its capabilities apply.  The checks ask for some role of the
caller whose scopes match, whatever capabilities that role has.
-/

namespace Cbs

open Checks

inductive ScopeType where
  | channel
  | registry
  | repository
  deriving DecidableEq

def ScopeType.asStr : ScopeType → String
  | channel => "channel"
  | registry => "registry"
  | repository => "repository"

/-- Match a pattern: everything, everything that starts with a text, or one value. -/
def scopePatternMatches (pattern value : String) : Bool :=
  if pattern = "*" then true
  else
    match Text.stripSuffix pattern '*' with
    | some stem => Text.startsWith value stem
    | none => pattern = value

structure AssignmentWithScopes where
  roleName : RoleName
  caps : List Cap
  scopes : List ScopeEntry
  deriving DecidableEq

def AssignmentWithScopes.passes (assignment : AssignmentWithScopes) (scopeType : ScopeType)
    (value : String) : Bool :=
  assignment.scopes.isEmpty ||
    assignment.scopes.any fun scope =>
      scope.scopeType = scopeType.asStr && scopePatternMatches scope.pattern value

namespace Accounts

def getUserAssignmentsWithScopes (accounts : Accounts) (email : String) :
    List AssignmentWithScopes :=
  (accounts.getUserRoles email).map fun role =>
    { roleName := role, caps := accounts.getRoleCaps role, scopes := accounts.getRoleScopes role }

/-- The capabilities of an account, without those that a robot never has. -/
def retainedCaps (accounts : Accounts) (email : String) (isRobot : Bool) : List Cap :=
  if isRobot then (accounts.getEffectiveCaps email).filter (· ∉ robotForbiddenCaps)
  else accounts.getEffectiveCaps email

def loadAuthedUser (accounts : Accounts) (email : String) : Except AuthError AuthUser := do
  let user ← orError ⟨.unauthorized, "user not found"⟩ (accounts.getUser email)
  require user.active ⟨.unauthorized, "user account deactivated"⟩
  pure
    { email := email
      name := user.name
      caps := accounts.retainedCaps email user.isRobot
      isRobot := user.isRobot }

/-- Some role of the caller satisfies all the checks. -/
def requireScopesAll (accounts : Accounts) (user : AuthUser)
    (scopeChecks : List (ScopeType × String)) : Except AuthError Unit :=
  require
    ((accounts.getUserAssignmentsWithScopes user.email).any fun assignment =>
      scopeChecks.all fun check => assignment.passes check.1 check.2)
    ⟨.forbidden, "insufficient scopes"⟩

/-- Some role of the user has a matching channel scope. -/
def checkChannelScope (accounts : Accounts) (email value : String) : Bool :=
  (accounts.getUserAssignmentsWithScopes email).any (·.passes .channel value)

/-- The scopes of a role allow a value: there are none, or one of the kind matches. -/
def Allows (accounts : Accounts) (role : RoleName) (scopeType : ScopeType) (value : String) :
    Prop :=
  accounts.scopesOf role = ∅ ∨
    ∃ scope ∈ accounts.scopesOf role,
      scope.scopeType = scopeType.asStr ∧ scopePatternMatches scope.pattern value = true

instance (accounts : Accounts) (role : RoleName) (scopeType : ScopeType) (value : String) :
    Decidable (accounts.Allows role scopeType value) :=
  inferInstanceAs (Decidable (_ ∨ _))

variable {accounts : Accounts} {email : String} {cap : Cap}

theorem mem_effectiveCaps :
    cap ∈ accounts.effectiveCaps email ↔
      ∃ role, (email, role) ∈ accounts.userRoles ∧ (role, cap) ∈ accounts.roleCaps := by
  simp only [effectiveCaps, Finset.mem_biUnion, mem_rolesOf, mem_capsOf]

theorem mem_retainedCaps {isRobot : Bool} :
    cap ∈ accounts.retainedCaps email isRobot ↔
      cap ∈ accounts.effectiveCaps email ∧ (isRobot = true → cap ∉ robotForbiddenCaps) := by
  cases isRobot <;> simp [retainedCaps, getEffectiveCaps]

variable {role : RoleName}

theorem getRoleScopes_isEmpty :
    (accounts.getRoleScopes role).isEmpty = true ↔ accounts.scopesOf role = ∅ := by
  rw [List.isEmpty_iff, List.eq_nil_iff_forall_not_mem, Finset.eq_empty_iff_forall_notMem]
  simp only [mem_getRoleScopes, mem_scopesOf]

variable {value : String}

/-- An assignment passes a check exactly when the scopes of its role allow the value. -/
theorem passes_iff {caps : List Cap} {scopeType : ScopeType} :
    AssignmentWithScopes.passes ⟨role, caps, accounts.getRoleScopes role⟩ scopeType value = true ↔
      accounts.Allows role scopeType value := by
  simp only [AssignmentWithScopes.passes, Bool.or_eq_true, getRoleScopes_isEmpty, List.any_eq_true,
    mem_getRoleScopes, Bool.and_eq_true, decide_eq_true_eq, Allows, mem_scopesOf]

theorem any_assignment_iff {check : AssignmentWithScopes → Bool} :
    (accounts.getUserAssignmentsWithScopes email).any check = true ↔
      ∃ role, (email, role) ∈ accounts.userRoles ∧
        check ⟨role, accounts.getRoleCaps role, accounts.getRoleScopes role⟩ = true := by
  simp only [getUserAssignmentsWithScopes, List.any_map, List.any_eq_true, getUserRoles,
    Finset.mem_sort, mem_rolesOf, Function.comp_apply]

variable {user : AuthUser} {scopeChecks : List (ScopeType × String)}

theorem requireScopesAll_eq_ok :
    accounts.requireScopesAll user scopeChecks = .ok () ↔
      ∃ role, (user.email, role) ∈ accounts.userRoles ∧
        ∀ check ∈ scopeChecks, accounts.Allows role check.1 check.2 := by
  simp only [requireScopesAll, require_eq_ok, any_assignment_iff, List.all_eq_true, passes_iff]

theorem requireScopesAll_eq_error {reason : AuthError} :
    accounts.requireScopesAll user scopeChecks = .error reason ↔
      (¬ ∃ role, (user.email, role) ∈ accounts.userRoles ∧
        ∀ check ∈ scopeChecks, accounts.Allows role check.1 check.2) ∧
          ⟨.forbidden, "insufficient scopes"⟩ = reason := by
  simp only [requireScopesAll, require_eq_error, any_assignment_iff, List.all_eq_true, passes_iff]

theorem checkChannelScope_iff :
    accounts.checkChannelScope email value = true ↔
      ∃ role, (email, role) ∈ accounts.userRoles ∧ accounts.Allows role .channel value := by
  simp only [checkChannelScope, any_assignment_iff, passes_iff]

theorem loadAuthedUser_eq_ok :
    accounts.loadAuthedUser email = .ok user ↔
      ∃ row, accounts.getUser email = some row ∧ row.active = true ∧
        user = ⟨email, row.name, accounts.retainedCaps email row.isRobot, row.isRobot⟩ := by
  simp only [loadAuthedUser, bind_eq_ok, orError_eq_ok, require_eq_ok, pure_eq_ok]
  constructor
  · rintro ⟨row, isRow, _, active, rfl⟩
    exact ⟨row, isRow, active, rfl⟩
  · rintro ⟨row, isRow, active, rfl⟩
    exact ⟨row, isRow, (), active, rfl⟩

end Accounts

theorem hasCap_iff {user : AuthUser} {cap : Cap} :
    user.hasCap cap = true ↔ "*" ∈ user.caps ∨ cap ∈ user.caps := by
  simp only [AuthUser.hasCap, List.any_eq_true, Bool.or_eq_true, decide_eq_true_eq]
  constructor
  · rintro ⟨held, inside, rfl | rfl⟩
    · exact Or.inl inside
    · exact Or.inr inside
  · rintro (inside | inside)
    · exact ⟨"*", inside, Or.inl rfl⟩
    · exact ⟨cap, inside, Or.inr rfl⟩

end Cbs

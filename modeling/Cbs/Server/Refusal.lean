import Cbs.Server.LastAdmin

/-!
# Refused requests

A request that returns an error should leave the account tables as they were.  Four of the handlers
commit a statement before their last check.
-/

namespace Cbs

/-- The request cannot fail after it has changed a table: it is refused early, or nothing that it
commits makes a later step fail. -/
def AdminRequest.FailsEarly (env : AdminEnv) (user : AuthUser) (accounts : Accounts) :
    AdminRequest → Prop
  | createRole body =>
    CreateProceeds user accounts body → body.caps.Nodup ∧ body.scopes.Nodup
  | deleteRole name =>
    (name, "*") ∈ accounts.roleCaps → (deleteRole name).LeavesAdmin env user accounts
  | replaceEntityRoles address roles =>
    (∀ role, role ∈ roles ↔ (env.normalizeEmail address, role) ∈ accounts.userRoles) ∨
      (replaceEntityRoles address roles).LeavesAdmin env user accounts
  | removeEntityRole address role =>
    (removeEntityRole address role).LeavesAdmin env user accounts
  | _ => True

/-- A request that fails leaves the tables as they were. -/
def ErrorKeepsTables {α : Type} (accounts : Accounts) (result : Accounts × Except AuthError α) :
    Prop :=
  ∀ reason, result.2 = .error reason → Accounts.SameTables accounts result.1

variable {α : Type}

theorem errorKeepsTables_unchanged (accounts : Accounts) (outcome : Except AuthError α) :
    ErrorKeepsTables accounts (accounts, outcome) :=
  fun _ _ => Accounts.SameTables.refl accounts

theorem errorKeepsTables_ok (accounts after : Accounts) (response : α) :
    ErrorKeepsTables accounts (after, .ok response) :=
  fun _ failed => nomatch failed

section Requests

variable {env : AdminEnv} {user : AuthUser} {accounts : Accounts}

theorem errorKeepsTables_updateRole (name : RoleName) (body : RoleBody) :
    ErrorKeepsTables accounts (updateRole user name body accounts) := by
  intro reason failed
  rcases updateRole_outcome user accounts name body with same | ⟨⟨response, succeeded⟩, -⟩
  · exact same
  · cases failed.symm.trans succeeded

variable (address : String)

theorem errorKeepsTables_addEntityRole (role : RoleName) :
    ErrorKeepsTables accounts (addEntityRole env user address role accounts) := by
  intro reason failed
  rcases addEntityRole_outcome env user accounts address role with same | ⟨⟨response, succeeded⟩, -⟩
  · rw [same]
    exact .refl accounts
  · cases failed.symm.trans succeeded

theorem errorKeepsTables_deactivateEntity :
    ErrorKeepsTables accounts (deactivateEntity env user address accounts) := by
  unfold deactivateEntity
  dsimp only
  repeat' split
  all_goals first
    | exact errorKeepsTables_unchanged accounts _
    | exact errorKeepsTables_ok accounts _ _

theorem errorKeepsTables_activateEntity :
    ErrorKeepsTables accounts (activateEntity env user address accounts) := by
  unfold activateEntity
  dsimp only
  repeat' split
  all_goals first
    | exact errorKeepsTables_unchanged accounts _
    | exact errorKeepsTables_ok accounts _ _

theorem CommitsThen.errorKeepsTables_iff {proceeds fails : Prop} {changed : Accounts}
    {result : Accounts × Except AuthError AdminResponse}
    (outcome : CommitsThen accounts proceeds changed fails result) :
    ErrorKeepsTables accounts result ↔ (proceeds → fails → accounts.SameTables changed) := by
  rcases outcome with ⟨refused, reason, rfl⟩ | ⟨proceeds, answer, rfl, isFailure⟩
  · exact iff_of_true (errorKeepsTables_unchanged accounts _) fun proceeds =>
      absurd proceeds refused
  · constructor
    · intro keeps _ fails
      obtain ⟨reason, failed⟩ := isFailure.mpr fails
      exact keeps reason failed
    · intro same reason failed
      exact same proceeds (isFailure.mp ⟨reason, failed⟩)

theorem errorKeepsTables_createRole_iff (body : RoleBody) :
    ErrorKeepsTables accounts (createRole env user body accounts) ↔
      (AdminRequest.createRole body).FailsEarly env user accounts := by
  obtain ⟨changed, added, outcome⟩ := createRole_outcome env user accounts body
  rw [outcome.errorKeepsTables_iff]
  refine forall_congr' fun proceeds => ?_
  have differs : ¬ accounts.SameTables changed := fun same =>
    proceeds.2 (same.roles ▸ (added proceeds).stored)
  exact ⟨fun keeps => not_not.mp fun repeated => differs (keeps repeated),
    fun nodup repeated => absurd nodup repeated⟩

theorem errorKeepsTables_deleteRole_iff (name : RoleName) :
    ErrorKeepsTables accounts (deleteRole user name accounts) ↔
      (AdminRequest.deleteRole name).FailsEarly env user accounts := by
  rw [(deleteRole_outcome user accounts name).errorKeepsTables_iff,
    Accounts.hasAdmin_cascadeRole_iff]
  have differs (proceeds : DeleteProceeds user accounts name) :
      ¬ accounts.SameTables (accounts.cascadeRole name) := by
    intro same
    have stored := proceeds.2.2
    rw [← same.roles] at stored
    simp [Accounts.cascadeRole] at stored
  exact ⟨fun keeps wildcard proceeds => not_not.mp fun nobody =>
      differs proceeds (keeps proceeds ⟨wildcard, nobody⟩),
    fun early proceeds fails => absurd (early fails.1 proceeds) fails.2⟩

theorem errorKeepsTables_removeEntityRole_iff (role : RoleName) :
    ErrorKeepsTables accounts (removeEntityRole env user address role accounts) ↔
      (AdminRequest.removeEntityRole address role).FailsEarly env user accounts := by
  rw [(removeEntityRole_outcome env user accounts address role).errorKeepsTables_iff,
    Accounts.hasAdmin_removeUserRole_iff]
  have differs (proceeds : RemoveProceeds user accounts (env.normalizeEmail address) role) :
      ¬ accounts.SameTables (accounts.removeUserRole (env.normalizeEmail address) role).1 := by
    intro same
    have assigned := proceeds.2
    rw [← same.userRoles] at assigned
    simp [Accounts.removeUserRole] at assigned
  exact ⟨fun keeps proceeds => not_not.mp fun nobody => differs proceeds (keeps proceeds nobody),
    fun early proceeds nobody => absurd (early proceeds) nobody⟩

/-- Replacing the roles of an entity changes the tables unless it has exactly these roles. -/
theorem sameTables_setUserRoles_iff {email : String} {roles : List RoleName} {replaced : Accounts}
    (committed : accounts.setUserRoles email roles = some replaced) :
    Accounts.SameTables accounts replaced ↔
      ∀ role, role ∈ roles ↔ (email, role) ∈ accounts.userRoles := by
  obtain ⟨-, _, rfl⟩ := Accounts.setUserRoles_eq_some.mp committed
  constructor
  · intro same role
    rw [← same.userRoles]
    simp
  · intro own
    exact ⟨rfl, rfl, rfl, rfl, Accounts.filter_union_own own⟩

theorem errorKeepsTables_replaceEntityRoles_iff (roles : List RoleName) :
    ErrorKeepsTables accounts (replaceEntityRoles env user address roles accounts) ↔
      (AdminRequest.replaceEntityRoles address roles).FailsEarly env user accounts := by
  obtain ⟨replaced, committed, outcome⟩ :=
    replaceEntityRoles_outcome env user accounts address roles
  rw [outcome.errorKeepsTables_iff]
  constructor
  · intro keeps
    refine or_iff_not_imp_right.mpr fun leaves => ?_
    obtain ⟨proceeds, nobody⟩ := Classical.not_imp.mp leaves
    rw [← Accounts.hasAdmin_setUserRoles_iff (committed proceeds)] at nobody
    exact (sameTables_setUserRoles_iff (committed proceeds)).mp (keeps proceeds nobody)
  · rintro (own | leaves) proceeds nobody
    · exact (sameTables_setUserRoles_iff (committed proceeds)).mpr own
    · rw [Accounts.hasAdmin_setUserRoles_iff (committed proceeds)] at nobody
      exact absurd (leaves proceeds) nobody

end Requests

/-- A refused request leaves users, roles, capabilities, scopes and assignments as they were exactly
when it cannot fail after a commit. -/
theorem refused_changes_nothing_iff (env : AdminEnv) (user : AuthUser) (accounts : Accounts)
    (request : AdminRequest) :
    (∀ reason, (request.handle env user accounts).2 = .error reason →
        Accounts.SameTables accounts (request.handle env user accounts).1) ↔
      request.FailsEarly env user accounts := by
  cases request with
  | createRole body => exact errorKeepsTables_createRole_iff body
  | updateRole name body => exact iff_of_true (errorKeepsTables_updateRole name body) trivial
  | deleteRole name => exact errorKeepsTables_deleteRole_iff name
  | replaceEntityRoles address roles => exact errorKeepsTables_replaceEntityRoles_iff address roles
  | addEntityRole address role =>
    exact iff_of_true (errorKeepsTables_addEntityRole address role) trivial
  | removeEntityRole address role => exact errorKeepsTables_removeEntityRole_iff address role
  | deactivateEntity address =>
    exact iff_of_true (errorKeepsTables_deactivateEntity address) trivial
  | activateEntity address => exact iff_of_true (errorKeepsTables_activateEntity address) trivial

/-- A role whose capability list repeats itself is refused, but the role exists afterwards, without
capabilities and scopes. -/
theorem refused_creation_leaves_role :
    let body : RoleBody := ⟨"ops", none, ["permissions:view", "permissions:view"], []⟩
    (createRole .plain alice body singleAdmin).2 =
        .error ⟨.internalServerError, "failed to set role capabilities and scopes"⟩ ∧
      ¬ Accounts.SameTables singleAdmin (createRole .plain alice body singleAdmin).1 := by
  refine ⟨by decide, fun same => ?_⟩
  have stored : "ops" ∈ singleAdmin.roles := by
    rw [← same.roles]
    decide
  exact absurd stored (by decide)

end Cbs

import Cbs.Server.Holders

/-!
# The last administrator

Deleting a role, replacing the roles of an entity and removing a role commit their change before the
guard looks at it, so they take the last administrator away; no other request does.
-/

namespace Cbs

/-- The request leaves an administrator: it is refused before it changes anything, or somebody
holds the wildcard in a way that the request does not touch, or through a role that it assigns. -/
def AdminRequest.LeavesAdmin (env : AdminEnv) (user : AuthUser) (accounts : Accounts) :
    AdminRequest → Prop
  | deleteRole name =>
    DeleteProceeds user accounts name → ∃ email role, accounts.Holds email role ∧ role ≠ name
  | replaceEntityRoles address roles =>
    ReplaceProceeds user accounts (env.normalizeEmail address) roles →
      (∃ email role, accounts.Holds email role ∧ email ≠ env.normalizeEmail address) ∨
        accounts.IsActiveHuman (env.normalizeEmail address) ∧
          ∃ role ∈ roles, (role, "*") ∈ accounts.roleCaps
  | removeEntityRole address removed =>
    RemoveProceeds user accounts (env.normalizeEmail address) removed →
      ∃ email role, accounts.Holds email role ∧
        (email, role) ≠ (env.normalizeEmail address, removed)
  | _ => True

section Requests

variable {env : AdminEnv} {user : AuthUser} {accounts : Accounts} (admin : accounts.HasAdmin)

include admin

theorem CommitsThen.hasAdmin_iff {proceeds fails : Prop} {changed : Accounts}
    {result : Accounts × Except AuthError AdminResponse}
    (outcome : CommitsThen accounts proceeds changed fails result) :
    result.1.HasAdmin ↔ (proceeds → changed.HasAdmin) := by
  rcases outcome with ⟨refused, reason, rfl⟩ | ⟨proceeds, answer, rfl, -⟩
  · exact iff_of_true admin fun proceeds => absurd proceeds refused
  · exact ⟨fun left _ => left, fun leaves => leaves proceeds⟩

theorem hasAdmin_createRole (body : RoleBody) : (createRole env user body accounts).1.HasAdmin := by
  obtain ⟨changed, added, outcome⟩ := createRole_outcome env user accounts body
  refine (outcome.hasAdmin_iff admin).mpr fun proceeds => ?_
  obtain ⟨email, role, human, assigned, wildcard⟩ := admin
  have created := added proceeds
  refine ⟨email, role, ?_, ?_, created.roleCaps _ wildcard ?_⟩
  · rw [Accounts.IsActiveHuman, Accounts.getUser, created.users]
    exact human
  · rwa [created.userRoles]
  · rintro rfl
    exact proceeds.2 (accounts.caps_role _ wildcard)

theorem hasAdmin_updateRole (name : RoleName) (body : RoleBody) :
    (updateRole user name body accounts).1.HasAdmin := by
  rcases updateRole_outcome user accounts name body with same | ⟨-, replaced, guarded⟩
  · exact same.hasAdmin.mpr admin
  · obtain ⟨email, holder, held⟩ := admin
    by_cases lost : holder = name ∧ "*" ∉ body.caps
    · obtain ⟨rfl, gone⟩ := lost
      exact guarded held.2.2 gone
    · exact ⟨email, holder, Accounts.holds_roleReplaced replaced held fun same =>
        not_not.mp fun gone => lost ⟨same, gone⟩⟩

variable (address : String)

theorem hasAdmin_addEntityRole (role : RoleName) :
    (addEntityRole env user address role accounts).1.HasAdmin := by
  rcases addEntityRole_outcome env user accounts address role with same | ⟨-, added⟩
  · rwa [same]
  · obtain ⟨holder, held, human, assigned, wildcard⟩ := admin
    obtain ⟨userRoles, users, roleCaps, -⟩ := addUserRole_eq_some added
    refine ⟨holder, held, ?_, ?_, by rwa [roleCaps]⟩
    · rw [Accounts.IsActiveHuman, Accounts.getUser, users]
      exact human
    · rw [userRoles]
      exact Finset.mem_insert_of_mem assigned

theorem hasAdmin_deactivateEntity : (deactivateEntity env user address accounts).1.HasAdmin := by
  unfold deactivateEntity
  dsimp only
  split
  · exact admin
  · split
    · exact admin
    · split_ifs with _ zero
      · exact admin
      · exact admin
      · rwa [Accounts.countActiveWildcardHolders_eq_zero, not_not] at zero
      · rw [Accounts.countActiveWildcardHolders_eq_zero, not_not] at zero
        exact zero

theorem hasAdmin_activateEntity : (activateEntity env user address accounts).1.HasAdmin := by
  obtain ⟨email, role, held⟩ := admin
  unfold activateEntity
  dsimp only
  split
  · exact ⟨email, role, held⟩
  · split
    · exact ⟨email, role, held⟩
    · split_ifs
      · exact ⟨email, role, held⟩
      · exact ⟨email, role, Accounts.holds_setActive held⟩

theorem hasAdmin_deleteRole_iff (name : RoleName) :
    (deleteRole user name accounts).1.HasAdmin ↔
      (AdminRequest.deleteRole name).LeavesAdmin env user accounts := by
  rw [(deleteRole_outcome user accounts name).hasAdmin_iff admin, Accounts.hasAdmin_cascadeRole_iff]
  rfl

theorem hasAdmin_removeEntityRole_iff (removed : RoleName) :
    (removeEntityRole env user address removed accounts).1.HasAdmin ↔
      (AdminRequest.removeEntityRole address removed).LeavesAdmin env user accounts := by
  rw [(removeEntityRole_outcome env user accounts address removed).hasAdmin_iff admin,
    Accounts.hasAdmin_removeUserRole_iff]
  rfl

theorem hasAdmin_replaceEntityRoles_iff (roles : List RoleName) :
    (replaceEntityRoles env user address roles accounts).1.HasAdmin ↔
      (AdminRequest.replaceEntityRoles address roles).LeavesAdmin env user accounts := by
  obtain ⟨replaced, committed, outcome⟩ :=
    replaceEntityRoles_outcome env user accounts address roles
  rw [outcome.hasAdmin_iff admin]
  exact forall_congr' fun proceeds => Accounts.hasAdmin_setUserRoles_iff (committed proceeds)

/-- One request keeps an administrator exactly when it leaves one. -/
theorem hasAdmin_handle_iff (request : AdminRequest) :
    (request.handle env user accounts).1.HasAdmin ↔ request.LeavesAdmin env user accounts := by
  cases request with
  | createRole body => exact iff_of_true (hasAdmin_createRole admin body) trivial
  | updateRole name body => exact iff_of_true (hasAdmin_updateRole admin name body) trivial
  | deleteRole name => exact hasAdmin_deleteRole_iff admin name
  | replaceEntityRoles address roles => exact hasAdmin_replaceEntityRoles_iff admin address roles
  | addEntityRole address role =>
    exact iff_of_true (hasAdmin_addEntityRole admin address role) trivial
  | removeEntityRole address role => exact hasAdmin_removeEntityRole_iff admin address role
  | deactivateEntity address => exact iff_of_true (hasAdmin_deactivateEntity admin address) trivial
  | activateEntity address => exact iff_of_true (hasAdmin_activateEntity admin address) trivial

end Requests

structure AdminCall where
  env : AdminEnv
  user : AuthUser
  request : AdminRequest

/-- The tables after a list of requests, whether each of them succeeds or is refused. -/
def handleAll : List AdminCall → Accounts → Accounts
  | [], accounts => accounts
  | call :: calls, accounts =>
    handleAll calls (call.request.handle call.env call.user accounts).1

/-- Every request of a list leaves an administrator in the state that it finds. -/
def EachLeavesAdmin : List AdminCall → Accounts → Prop
  | [], _ => True
  | call :: calls, accounts =>
    call.request.LeavesAdmin call.env call.user accounts ∧
      EachLeavesAdmin calls (call.request.handle call.env call.user accounts).1

/-- Along a run of requests there is an administrator in every state exactly when every request
leaves one in the state that it finds. -/
theorem last_admin_kept_iff {accounts : Accounts} (admin : accounts.HasAdmin)
    (calls : List AdminCall) :
    (∀ done rest, calls = done ++ rest → (handleAll done accounts).HasAdmin) ↔
      EachLeavesAdmin calls accounts := by
  induction calls generalizing accounts with
  | nil =>
    refine iff_of_true ?_ trivial
    intro done rest split
    obtain ⟨rfl, -⟩ := List.append_eq_nil_iff.mp split.symm
    exact admin
  | cons call calls ih =>
    constructor
    · intro kept
      have next : (call.request.handle call.env call.user accounts).1.HasAdmin :=
        kept [call] calls rfl
      refine ⟨(hasAdmin_handle_iff admin call.request).mp next, (ih next).mp ?_⟩
      intro done rest split
      exact kept (call :: done) rest (by rw [split]; rfl)
    · rintro ⟨leaves, others⟩ done rest split
      have next := (hasAdmin_handle_iff admin call.request).mpr leaves
      cases done with
      | nil => exact admin
      | cons first done =>
        obtain ⟨rfl, rest_eq⟩ := List.cons.inj split
        exact (ih next).mpr others done rest rest_eq

def singleAdmin : Accounts where
  users := (∅ : Dictionary String UserRow).insert "alice@example.com"
    ⟨"Alice", true, false, none, 0⟩
  roles := ((∅ : Dictionary RoleName RoleRow).insert "viewer" ⟨"read only", true, 0⟩).insert
    "admin" ⟨"everything", true, 0⟩
  roleCaps := insert ("viewer", "builds:list:any") {("admin", "*")}
  roleScopes := ∅
  userRoles := {("alice@example.com", "admin")}
  tokens := []
  apiKeys := []
  robotTokens := []
  caps_role := by decide
  scopes_role := by decide
  scopes_known := by decide
  assigned_user := by decide
  assigned_role := by decide

def alice : AuthUser where
  email := "alice@example.com"
  name := "Alice"
  caps := ["*"]
  isRobot := false

def AdminEnv.plain : AdminEnv where
  now := 0
  normalizeEmail := id

theorem hasAdmin_singleAdmin : singleAdmin.HasAdmin :=
  ⟨"alice@example.com", "admin", by unfold Accounts.IsActiveHuman; decide, by decide, by decide⟩

/-- Giving the administrator a second role keeps an administrator. -/
theorem last_admin_kept_by_adding :
    (handleAll [⟨.plain, alice, .addEntityRole "alice@example.com" "viewer"⟩]
      singleAdmin).HasAdmin :=
  (last_admin_kept_iff hasAdmin_singleAdmin
    [⟨.plain, alice, .addEntityRole "alice@example.com" "viewer"⟩]).mpr ⟨trivial, trivial⟩ _ []
    (List.append_nil _).symm

/-- Removing the role of the only administrator is refused, but nobody is left who holds the
wildcard. -/
theorem refused_removal_loses_last_admin :
    singleAdmin.HasAdmin ∧
      (removeEntityRole .plain alice "alice@example.com" "admin" singleAdmin).2 =
        .error ⟨.conflict, "operation would remove the last admin — at least one active entity " ++
          "must hold the wildcard (*) capability"⟩ ∧
      ¬ (handleAll [⟨.plain, alice, .removeEntityRole "alice@example.com" "admin"⟩]
        singleAdmin).HasAdmin := by
  refine ⟨hasAdmin_singleAdmin, by decide, ?_⟩
  rw [← Accounts.countActiveWildcardHolders_eq_zero]
  decide

end Cbs

import Cbs.Server.RoleRequests

/-!
# Holders of the wildcard

Which active humans hold the wildcard, through which role, and how the statements on the account
tables change that.
-/

namespace Cbs

namespace Accounts

variable {accounts : Accounts}

def IsActiveHuman (accounts : Accounts) (email : String) : Prop :=
  (accounts.getUser email).any (fun user => user.active && !user.isRobot) = true

/-- An active human holds the wildcard through a role. -/
def Holds (accounts : Accounts) (email : String) (role : RoleName) : Prop :=
  accounts.IsActiveHuman email ∧ (email, role) ∈ accounts.userRoles ∧
    (role, "*") ∈ accounts.roleCaps

def HasAdmin (accounts : Accounts) : Prop :=
  ∃ email role, accounts.Holds email role

theorem countActiveWildcardHolders_eq_zero :
    accounts.countActiveWildcardHolders = 0 ↔ ¬ accounts.HasAdmin := by
  rw [countActiveWildcardHolders, Finset.card_eq_zero]
  constructor
  · rintro none ⟨email, role, human, assigned, wildcard⟩
    have inside : email ∈ accounts.wildcardHolders :=
      Finset.mem_image.mpr ⟨(email, role), Finset.mem_filter.mpr ⟨assigned, human, wildcard⟩, rfl⟩
    rw [none] at inside
    exact absurd inside (Finset.notMem_empty email)
  · intro missing
    refine Finset.eq_empty_of_forall_notMem fun email inside => missing ?_
    obtain ⟨⟨holder, role⟩, isHolder, rfl⟩ := Finset.mem_image.mp inside
    obtain ⟨assigned, human, wildcard⟩ := Finset.mem_filter.mp isHolder
    exact ⟨holder, role, human, assigned, wildcard⟩

/-- What a committed replacement of capabilities and scopes leaves. -/
structure RoleReplaced (accounts : Accounts) (name : RoleName) (caps : List Cap)
    (scopes : List ScopeEntry) (updated : Accounts) : Prop where
  users : updated.users = accounts.users
  roles : updated.roles = accounts.roles
  userRoles : updated.userRoles = accounts.userRoles
  roleCaps : updated.roleCaps =
    accounts.roleCaps.filter (·.1 ≠ name) ∪ (caps.map (name, ·)).toFinset
  roleScopes : updated.roleScopes =
    accounts.roleScopes.filter (·.1 ≠ name) ∪ (scopes.map (name, ·)).toFinset

variable {α : Type}

theorem insertable_own [DecidableEq α] (name : String) (values : List α)
    (rows : Finset (String × α)) :
    Table.Insertable (values.map (name, ·)) (rows.filter (·.1 ≠ name)) ↔ values.Nodup := by
  have injective : Function.Injective fun value : α => (name, value) :=
    fun _ _ same => (Prod.mk.inj same).2
  constructor
  · rintro ⟨nodup, -⟩
    exact (List.nodup_map_iff injective).mp nodup
  · intro nodup
    refine ⟨(List.nodup_map_iff injective).mpr nodup, ?_⟩
    intro row inside stored
    obtain ⟨value, -, rfl⟩ := List.mem_map.mp inside
    exact (Finset.mem_filter.mp stored).2 rfl

variable {name : RoleName} {caps : List Cap} {updated : Accounts}

/-- A transaction that replaces the rows of a key commits when no row is repeated and the tables
that result pass a check. -/
theorem replaceOwn_eq_some [DecidableEq α] {values : List α} {rows : Finset (String × α)}
    {check : Finset (String × α) → Prop} [DecidablePred check]
    {make : ∀ rows, check rows → Accounts} :
    (Table.insertRows (values.map (name, ·)) (rows.filter (·.1 ≠ name))).bind (fun rows =>
        if known : check rows then some (make rows known) else none) = some updated ↔
      values.Nodup ∧ ∃ known,
        make (rows.filter (·.1 ≠ name) ∪ (values.map (name, ·)).toFinset) known = updated := by
  rw [Table.insertRows_eq, Option.bind_eq_some_iff]
  constructor
  · rintro ⟨stored, inserted, checked⟩
    rw [Option.ite_none_right_eq_some, insertable_own] at inserted
    obtain ⟨nodup, isRows⟩ := inserted
    obtain rfl := Option.some.inj isRows
    rw [Option.dite_none_right_eq_some] at checked
    obtain ⟨known, isUpdated⟩ := checked
    exact ⟨nodup, known, Option.some.inj isUpdated⟩
  · rintro ⟨nodup, known, rfl⟩
    exact ⟨_, if_pos ((insertable_own ..).mpr nodup), dif_pos known⟩

theorem forall_mem_replaceOwn [DecidableEq α] {values : List α} {rows : Finset (String × α)}
    {holds : String × α → Prop} (old : ∀ entry ∈ rows, holds entry)
    (new : ∀ value ∈ values, holds (name, value)) :
    ∀ entry ∈ rows.filter (·.1 ≠ name) ∪ (values.map (name, ·)).toFinset, holds entry := by
  intro entry inside
  rcases Finset.mem_union.mp inside with stored | own
  · exact old entry (Finset.mem_filter.mp stored).1
  · obtain ⟨value, isValue, rfl⟩ := List.mem_map.mp (List.mem_toFinset.mp own)
    exact new value isValue

theorem setRoleCaps_eq_some :
    accounts.setRoleCaps name caps = some updated ↔ caps.Nodup ∧ ∃ known,
      { accounts with
        roleCaps := accounts.roleCaps.filter (·.1 ≠ name) ∪ (caps.map (name, ·)).toFinset
        caps_role := known } = updated :=
  replaceOwn_eq_some

variable {scopes : List ScopeEntry}

theorem setRoleScopes_eq_some :
    accounts.setRoleScopes name scopes = some updated ↔ scopes.Nodup ∧ ∃ known : _ ∧ _,
      { accounts with
        roleScopes := accounts.roleScopes.filter (·.1 ≠ name) ∪ (scopes.map (name, ·)).toFinset
        scopes_role := known.1
        scopes_known := known.2 } = updated :=
  replaceOwn_eq_some

theorem roleReplaced_of_setRoleCapsAndScopes
    (committed : accounts.setRoleCapsAndScopes name caps scopes = some updated) :
    RoleReplaced accounts name caps scopes updated ∧ caps.Nodup ∧ scopes.Nodup := by
  obtain ⟨middle, first, second⟩ := Option.bind_eq_some_iff.mp committed
  obtain ⟨nodupCaps, _, rfl⟩ := setRoleCaps_eq_some.mp first
  obtain ⟨nodupScopes, _, rfl⟩ := setRoleScopes_eq_some.mp second
  exact ⟨⟨rfl, rfl, rfl, rfl, rfl⟩, nodupCaps, nodupScopes⟩

/-- The transaction commits exactly when nothing is repeated, given that the role exists and the
scope types are known. -/
theorem exists_setRoleCapsAndScopes_iff (caps : List Cap) (stored : name ∈ accounts.roles)
    (typed : ∀ scope ∈ scopes, scope.scopeType ∈ knownScopeTypes) :
    (∃ updated, accounts.setRoleCapsAndScopes name caps scopes = some updated) ↔
      caps.Nodup ∧ scopes.Nodup := by
  constructor
  · rintro ⟨updated, committed⟩
    exact (roleReplaced_of_setRoleCapsAndScopes committed).2
  · rintro ⟨nodupCaps, nodupScopes⟩
    have first := setRoleCaps_eq_some.mpr ⟨nodupCaps,
      forall_mem_replaceOwn accounts.caps_role fun _ _ => stored, rfl⟩
    refine ⟨_, Option.bind_eq_some_iff.mpr
      ⟨_, first, setRoleScopes_eq_some.mpr ⟨nodupScopes, ?_, rfl⟩⟩⟩
    exact ⟨forall_mem_replaceOwn accounts.scopes_role fun _ _ => stored,
      forall_mem_replaceOwn accounts.scopes_known typed⟩

variable {email : String} {replaced : Accounts}

theorem setUserRoles_eq_some {roles : List RoleName} :
    accounts.setUserRoles email roles = some replaced ↔ roles.Nodup ∧ ∃ known : _ ∧ _,
      { accounts with
        userRoles := accounts.userRoles.filter (·.1 ≠ email) ∪ (roles.map (email, ·)).toFinset
        assigned_user := known.1
        assigned_role := known.2 } = replaced :=
  replaceOwn_eq_some

/-- The transaction commits exactly when no role is repeated and the user, if it gets a role,
exists. -/
theorem exists_setUserRoles_iff (email : String) {roles : List RoleName}
    (stored : ∀ role ∈ roles, role ∈ accounts.roles) :
    (∃ replaced, accounts.setUserRoles email roles = some replaced) ↔
      roles.Nodup ∧ (roles = [] ∨ email ∈ accounts.users) := by
  constructor
  · rintro ⟨replaced, committed⟩
    obtain ⟨nodup, known, -⟩ := setUserRoles_eq_some.mp committed
    refine ⟨nodup, ?_⟩
    cases roles with
    | nil => exact Or.inl rfl
    | cons role roles => exact Or.inr (known.1 (email, role) (by simp))
  · rintro ⟨nodup, present⟩
    refine ⟨_, setUserRoles_eq_some.mpr ⟨nodup, ⟨forall_mem_replaceOwn accounts.assigned_user ?_,
      forall_mem_replaceOwn accounts.assigned_role stored⟩, rfl⟩⟩
    rintro role isRole
    rcases present with rfl | isUser
    · exact absurd isRole (by simp)
    · exact isUser

variable {now : Int} {description : String} {builtin : Bool}

theorem insertRole_eq_none :
    accounts.insertRole now name description builtin = none ↔ name ∈ accounts.roles := by
  unfold insertRole
  split_ifs with taken <;> simp [taken]

/-- What the creation of a role leaves. -/
structure RoleAdded (accounts : Accounts) (name : RoleName) (changed : Accounts) : Prop where
  stored : name ∈ changed.roles
  users : changed.users = accounts.users
  userRoles : changed.userRoles = accounts.userRoles
  roleCaps : ∀ entry ∈ accounts.roleCaps, entry.1 ≠ name → entry ∈ changed.roleCaps

theorem insertRole_eq_some {created : Accounts}
    (inserted : accounts.insertRole now name description builtin = some created) :
    name ∉ accounts.roles ∧ RoleAdded accounts name created := by
  unfold insertRole at inserted
  split_ifs at inserted with taken
  obtain rfl := Option.some.inj inserted
  exact ⟨taken, (AList.mem_insert _).mpr (Or.inl rfl), rfl, rfl, fun _ inside _ => inside⟩

theorem RoleAdded.replace {created : Accounts} (added : RoleAdded accounts name created)
    (replaced : RoleReplaced created name caps scopes updated) :
    RoleAdded accounts name updated where
  stored := by
    rw [replaced.roles]
    exact added.stored
  users := replaced.users.trans added.users
  userRoles := replaced.userRoles.trans added.userRoles
  roleCaps := by
    intro entry inside different
    rw [replaced.roleCaps]
    exact Finset.mem_union_left _
      (Finset.mem_filter.mpr ⟨added.roleCaps entry inside different, different⟩)

/-- The tables of users, roles, capabilities, scopes and assignments are the same. -/
structure SameTables (before after : Accounts) : Prop where
  users : after.users = before.users
  roles : after.roles = before.roles
  roleCaps : after.roleCaps = before.roleCaps
  roleScopes : after.roleScopes = before.roleScopes
  userRoles : after.userRoles = before.userRoles

theorem SameTables.refl (accounts : Accounts) : SameTables accounts accounts :=
  ⟨rfl, rfl, rfl, rfl, rfl⟩

theorem SameTables.hasAdmin {before after : Accounts} (same : SameTables before after) :
    after.HasAdmin ↔ before.HasAdmin := by
  simp only [HasAdmin, Holds, IsActiveHuman, getUser, same.users, same.roleCaps, same.userRoles]

theorem filter_union_own [DecidableEq α] {name : String} {rows : Finset (String × α)}
    {own : List α} (isOwn : ∀ value, value ∈ own ↔ (name, value) ∈ rows) :
    rows.filter (·.1 ≠ name) ∪ (own.map (name, ·)).toFinset = rows := by
  ext ⟨key, value⟩
  simp only [Finset.mem_union, Finset.mem_filter, List.mem_toFinset, List.mem_map, Prod.mk.injEq]
  constructor
  · rintro (⟨inside, -⟩ | ⟨_, inside, rfl, rfl⟩)
    · exact inside
    · exact (isOwn _).mp inside
  · intro inside
    by_cases same : key = name
    · subst same
      exact Or.inr ⟨value, (isOwn value).mpr inside, rfl, rfl⟩
    · exact Or.inl ⟨inside, same⟩

/-- Replacing the rows of a key forgets what an earlier replacement left there. -/
theorem filter_replaced [DecidableEq α] {name : String} {rows : Finset (String × α)}
    (own : List α) :
    (rows.filter (·.1 ≠ name) ∪ (own.map (name, ·)).toFinset).filter (·.1 ≠ name) =
      rows.filter (·.1 ≠ name) := by
  ext ⟨key, value⟩
  simp only [Finset.mem_filter, Finset.mem_union, List.mem_toFinset, List.mem_map, Prod.mk.injEq]
  constructor
  · rintro ⟨⟨inside, -⟩ | ⟨_, _, rfl, rfl⟩, different⟩
    · exact ⟨inside, different⟩
    · exact absurd rfl different
  · rintro ⟨inside, different⟩
    exact ⟨Or.inl ⟨inside, different⟩, different⟩

/-- Putting the old capabilities and scopes back undoes a replacement. -/
theorem sameTables_restoreRole (stored : name ∈ accounts.roles)
    (replaced : RoleReplaced accounts name caps scopes updated) :
    SameTables accounts
      (restoreRole name (accounts.getRoleCaps name) (accounts.getRoleScopes name) updated) := by
  have storedAfter : name ∈ updated.roles := by rwa [replaced.roles]
  have typed : ∀ scope ∈ accounts.getRoleScopes name, scope.scopeType ∈ knownScopeTypes :=
    fun scope inside => accounts.scopes_known _ (mem_getRoleScopes.mp inside)
  obtain ⟨restored, committed⟩ := (exists_setRoleCapsAndScopes_iff _ storedAfter typed).mpr
    ⟨accounts.nodup_getRoleCaps name, accounts.nodup_getRoleScopes name⟩
  obtain ⟨back, -⟩ := roleReplaced_of_setRoleCapsAndScopes committed
  rw [restoreRole, committed, Option.getD_some]
  refine ⟨back.users.trans replaced.users, back.roles.trans replaced.roles, ?_, ?_,
    back.userRoles.trans replaced.userRoles⟩
  · rw [back.roleCaps, replaced.roleCaps, filter_replaced]
    exact filter_union_own fun _ => mem_getRoleCaps
  · rw [back.roleScopes, replaced.roleScopes, filter_replaced]
    exact filter_union_own fun _ => mem_getRoleScopes

variable {role : RoleName}

theorem holds_cascadeRole :
    (accounts.cascadeRole name).Holds email role ↔ accounts.Holds email role ∧ role ≠ name := by
  simp only [Holds, IsActiveHuman, getUser, cascadeRole, Finset.mem_filter]
  tauto

variable {removed : RoleName} {other : String}

theorem holds_removeUserRole :
    (accounts.removeUserRole email removed).1.Holds other role ↔
      accounts.Holds other role ∧ (other, role) ≠ (email, removed) := by
  simp only [Holds, IsActiveHuman, getUser, removeUserRole, Finset.mem_erase]
  tauto

theorem holds_setUserRoles {roles : List RoleName}
    (committed : accounts.setUserRoles email roles = some replaced) :
    replaced.Holds other role ↔ accounts.Holds other role ∧ other ≠ email ∨
      other = email ∧ accounts.IsActiveHuman email ∧ role ∈ roles ∧
        (role, "*") ∈ accounts.roleCaps := by
  obtain ⟨-, _, rfl⟩ := setUserRoles_eq_some.mp committed
  simp only [Holds, IsActiveHuman, getUser, Finset.mem_union, Finset.mem_filter,
    List.mem_toFinset, List.mem_map, Prod.mk.injEq]
  constructor
  · rintro ⟨human, ⟨assigned, different⟩ | ⟨_, inside, rfl, rfl⟩, wildcard⟩
    · exact Or.inl ⟨⟨human, assigned, wildcard⟩, different⟩
    · exact Or.inr ⟨rfl, human, inside, wildcard⟩
  · rintro (⟨⟨human, assigned, wildcard⟩, different⟩ | ⟨rfl, human, inside, wildcard⟩)
    · exact ⟨human, Or.inl ⟨assigned, different⟩, wildcard⟩
    · exact ⟨human, Or.inr ⟨role, inside, rfl, rfl⟩, wildcard⟩

theorem hasAdmin_cascadeRole_iff :
    (accounts.cascadeRole name).HasAdmin ↔
      ∃ email role, accounts.Holds email role ∧ role ≠ name := by
  simp only [HasAdmin, holds_cascadeRole]

theorem hasAdmin_removeUserRole_iff :
    (accounts.removeUserRole email removed).1.HasAdmin ↔
      ∃ other role, accounts.Holds other role ∧ (other, role) ≠ (email, removed) := by
  simp only [HasAdmin, holds_removeUserRole]

theorem hasAdmin_setUserRoles_iff {roles : List RoleName}
    (committed : accounts.setUserRoles email roles = some replaced) :
    replaced.HasAdmin ↔
      (∃ other role, accounts.Holds other role ∧ other ≠ email) ∨
        accounts.IsActiveHuman email ∧ ∃ role ∈ roles, (role, "*") ∈ accounts.roleCaps := by
  constructor
  · rintro ⟨other, role, holds⟩
    rcases (holds_setUserRoles committed).mp holds with held | ⟨-, human, inside, wildcard⟩
    · exact Or.inl ⟨other, role, held⟩
    · exact Or.inr ⟨human, role, inside, wildcard⟩
  · rintro (⟨other, role, held⟩ | ⟨human, role, inside, wildcard⟩)
    · exact ⟨other, role, (holds_setUserRoles committed).mpr (Or.inl held)⟩
    · exact ⟨email, role, (holds_setUserRoles committed).mpr
        (Or.inr ⟨rfl, human, inside, wildcard⟩)⟩

theorem holds_roleReplaced (replaced : RoleReplaced accounts name caps scopes updated)
    (holds : accounts.Holds email role)
    (kept : role = name → "*" ∈ caps) : updated.Holds email role := by
  obtain ⟨human, assigned, wildcard⟩ := holds
  refine ⟨?_, ?_, ?_⟩
  · rw [IsActiveHuman, getUser, replaced.users]
    exact human
  · rwa [replaced.userRoles]
  · rw [replaced.roleCaps, Finset.mem_union]
    by_cases same : role = name
    · refine Or.inr (List.mem_toFinset.mpr (List.mem_map.mpr ⟨"*", kept same, ?_⟩))
      rw [same]
    · exact Or.inl (Finset.mem_filter.mpr ⟨wildcard, same⟩)

theorem holds_setActive
    (holds : accounts.Holds other role) : (accounts.setActive now email true).Holds other role := by
  obtain ⟨human, assigned, wildcard⟩ := holds
  refine ⟨?_, assigned, wildcard⟩
  obtain ⟨user, isUser, isHuman⟩ := (Option.any_eq_true ..).mp human
  have isHumanRow : user.isRobot = false := by
    cases isRobot : user.isRobot
    · rfl
    · simp [isRobot] at isHuman
  have found : accounts.users.lookup other = some user := isUser
  rw [IsActiveHuman, getUser, setActive, Dictionary.lookup_modify, found]
  split_ifs
  · simp [isHumanRow]
  · exact isHuman

end Accounts

variable {accounts : Accounts} {email : String} {role : RoleName}

theorem addUserRole_eq_some {after : Accounts}
    (assigned : accounts.addUserRole email role = some after) :
    after.userRoles = insert (email, role) accounts.userRoles ∧ after.users = accounts.users ∧
      after.roleCaps = accounts.roleCaps ∧ after.roleScopes = accounts.roleScopes := by
  unfold Accounts.addUserRole at assigned
  split_ifs at assigned
  obtain rfl := Option.some.inj assigned
  exact ⟨rfl, rfl, rfl, rfl⟩

theorem lastAdminGuard_eq_ok (holder : String) :
    lastAdminGuard holder accounts = .ok () ↔ accounts.HasAdmin := by
  unfold lastAdminGuard
  split_ifs with zero
  · simpa using Accounts.countActiveWildcardHolders_eq_zero.mp zero
  · rw [Accounts.countActiveWildcardHolders_eq_zero, not_not] at zero
    simpa using zero

theorem stored_of_checkAssignable {targetIsRobot : Bool}
    {roles : List RoleName} (checked : checkAssignable accounts targetIsRobot roles = .ok ()) :
    ∀ role ∈ roles, role ∈ accounts.roles := by
  induction roles with
  | nil => simp
  | cons role roles ih =>
    unfold checkAssignable at checked
    by_cases missing : (accounts.getRole role).isNone = true
    · simp [missing] at checked
    · rw [if_neg missing] at checked
      split at checked
      · exact absurd checked (by simp)
      · have present : role ∈ accounts.roles := by
          refine AList.lookup_isSome.mp ?_
          simpa [Accounts.getRole, Option.isSome_iff_ne_none] using missing
        exact List.forall_mem_cons.mpr ⟨present, ih checked⟩

theorem typed_of_validateScopes {scopes : List ScopeEntry}
    (checked : validateScopes scopes = .ok ()) :
    ∀ scope ∈ scopes, scope.scopeType ∈ knownScopeTypes := by
  induction scopes with
  | nil => simp
  | cons scope scopes ih =>
    unfold validateScopes at checked
    split_ifs at checked with unknown
    exact List.forall_mem_cons.mpr ⟨by simpa using unknown, ih checked⟩

theorem typed_of_checkRoleBody {user : AuthUser} {body : RoleBody}
    (checked : checkRoleBody user body = .ok ()) :
    ∀ scope ∈ body.scopes, scope.scopeType ∈ knownScopeTypes := by
  cases scopes : validateScopes body.scopes with
  | ok _ => exact typed_of_validateScopes scopes
  | error reason =>
    exfalso
    unfold checkRoleBody at checked
    cases cap : requireCap user "permissions:manage" with
    | error _ => simp [cap, bind, Except.bind] at checked
    | ok _ =>
      cases caps : validateCaps body.caps with
      | error _ => simp [cap, caps, bind, Except.bind] at checked
      | ok _ => simp [cap, caps, scopes, bind, Except.bind] at checked

/-- A request to create a role gets as far as inserting the row. -/
def CreateProceeds (user : AuthUser) (accounts : Accounts) (body : RoleBody) : Prop :=
  checkRoleBody user body = .ok () ∧ body.name ∉ accounts.roles

/-- A request to delete a role gets as far as the deletion. -/
def DeleteProceeds (user : AuthUser) (accounts : Accounts) (name : RoleName) : Prop :=
  user.hasCap "permissions:manage" = true ∧ accounts.isRoleBuiltin name = false ∧
    name ∈ accounts.roles

/-- A request to replace the roles of an entity gets as far as the commit. -/
def ReplaceProceeds (user : AuthUser) (accounts : Accounts) (email : String)
    (roles : List RoleName) : Prop :=
  user.hasCap "permissions:manage" = true ∧
    checkAssignable accounts ((accounts.getUser email).any (·.isRobot)) roles = .ok () ∧
    roles.Nodup ∧ (roles = [] ∨ email ∈ accounts.users)

/-- A request to take a role from an entity gets as far as the deletion. -/
def RemoveProceeds (user : AuthUser) (accounts : Accounts) (email : String) (role : RoleName) :
    Prop :=
  user.hasCap "permissions:manage" = true ∧ (email, role) ∈ accounts.userRoles

theorem removeUserRole_of_not_mem (absent : (email, role) ∉ accounts.userRoles) :
    accounts.removeUserRole email role = (accounts, false) := by
  refine Prod.ext (Accounts.ext rfl rfl rfl rfl ?_ rfl rfl rfl) (decide_eq_false absent)
  exact Finset.erase_eq_of_notMem absent

/-- A request is refused with nothing done, or it commits a change and then fails under a
condition. -/
def CommitsThen (accounts : Accounts) (proceeds : Prop) (changed : Accounts) (fails : Prop)
    (result : Accounts × Except AuthError AdminResponse) : Prop :=
  (¬ proceeds ∧ ∃ reason, result = (accounts, .error reason)) ∨
    (proceeds ∧ ∃ answer, result = (changed, answer) ∧ ((∃ reason, answer = .error reason) ↔ fails))

section Outcomes

variable (env : AdminEnv) (user : AuthUser) (accounts : Accounts)

theorem commitsThen_lastAdminGuard {proceeds : Prop} (holds : proceeds) (holder : String)
    (changed : Accounts) (response : AdminResponse) :
    CommitsThen accounts proceeds changed (¬ changed.HasAdmin)
      (match lastAdminGuard holder changed with
        | .error reason => (changed, .error reason)
        | .ok () => (changed, .ok response)) := by
  refine Or.inr ⟨holds, ?_⟩
  rw [← lastAdminGuard_eq_ok holder]
  cases lastAdminGuard holder changed with
  | error reason => exact ⟨.error reason, rfl, by simp⟩
  | ok _ => exact ⟨_, rfl, by simp⟩

/-- A deletion fails after the commit exactly when the role had the wildcard and nobody else holds
it. -/
theorem deleteRole_outcome (name : RoleName) :
    CommitsThen accounts (DeleteProceeds user accounts name) (accounts.cascadeRole name)
      ((name, "*") ∈ accounts.roleCaps ∧ ¬ (accounts.cascadeRole name).HasAdmin)
      (deleteRole user name accounts) := by
  unfold deleteRole
  cases cap : requireCap user "permissions:manage" with
  | error reason =>
    exact Or.inl ⟨fun proceeds => not_hasCap_of_requireCap cap proceeds.1, reason, rfl⟩
  | ok _ =>
    have allowed := requireCap_eq_ok.mp cap
    by_cases builtin : accounts.isRoleBuiltin name = true
    · refine Or.inl ⟨fun proceeds => ?_, _, if_pos builtin⟩
      simp [proceeds.2.1] at builtin
    · by_cases stored : name ∈ accounts.roles
      · have proceeds : DeleteProceeds user accounts name :=
          ⟨allowed, by simpa using builtin, stored⟩
        have deleted : accounts.deleteRole name = (accounts.cascadeRole name, true) := by
          simp [Accounts.deleteRole, builtin, stored]
        simp only [builtin, Bool.false_eq_true, if_false, deleted, if_true,
          Accounts.mem_getRoleCaps]
        by_cases wildcard : (name, "*") ∈ accounts.roleCaps
        · simp only [wildcard, if_true, true_and]
          exact commitsThen_lastAdminGuard accounts proceeds ..
        · exact Or.inr ⟨proceeds, _, by simp only [wildcard, if_false]; rfl, by simp [wildcard]⟩
      · refine Or.inl ⟨fun proceeds => stored proceeds.2.2,
          ⟨.notFound, "role not found"⟩, ?_⟩
        simp [builtin, Accounts.deleteRole, stored]

theorem removeEntityRole_outcome (address : String) (role : RoleName) :
    let removed := (accounts.removeUserRole (env.normalizeEmail address) role).1
    CommitsThen accounts (RemoveProceeds user accounts (env.normalizeEmail address) role) removed
      (¬ removed.HasAdmin) (removeEntityRole env user address role accounts) := by
  unfold removeEntityRole
  dsimp only
  generalize env.normalizeEmail address = email
  cases cap : requireCap user "permissions:manage" with
  | error reason =>
    exact Or.inl ⟨fun proceeds => not_hasCap_of_requireCap cap proceeds.1, reason, rfl⟩
  | ok _ =>
    by_cases assigned : (email, role) ∈ accounts.userRoles
    · have removed : (accounts.removeUserRole email role).2 = true := decide_eq_true assigned
      rw [removed, if_pos rfl]
      exact commitsThen_lastAdminGuard accounts ⟨requireCap_eq_ok.mp cap, assigned⟩ ..
    · refine Or.inl ⟨fun proceeds => assigned proceeds.2,
        ⟨.notFound, "role assignment not found"⟩, ?_⟩
      rw [removeUserRole_of_not_mem assigned]
      rfl

theorem replaceEntityRoles_outcome (address : String) (roles : List RoleName) :
    ∃ replaced,
      (ReplaceProceeds user accounts (env.normalizeEmail address) roles →
        accounts.setUserRoles (env.normalizeEmail address) roles = some replaced) ∧
      CommitsThen accounts (ReplaceProceeds user accounts (env.normalizeEmail address) roles)
        replaced (¬ replaced.HasAdmin) (replaceEntityRoles env user address roles accounts) := by
  unfold replaceEntityRoles
  dsimp only
  generalize env.normalizeEmail address = email
  have refuse {reason : AuthError} (refused : ¬ ReplaceProceeds user accounts email roles) :
      ∃ replaced, (ReplaceProceeds user accounts email roles →
          accounts.setUserRoles email roles = some replaced) ∧
        CommitsThen accounts (ReplaceProceeds user accounts email roles) replaced
          (¬ replaced.HasAdmin) (accounts, .error reason) :=
    ⟨accounts, fun proceeds => absurd proceeds refused, Or.inl ⟨refused, reason, rfl⟩⟩
  cases cap : requireCap user "permissions:manage" with
  | error reason => exact refuse fun proceeds => not_hasCap_of_requireCap cap proceeds.1
  | ok _ =>
    cases checked : checkAssignable accounts ((accounts.getUser email).any (·.isRobot)) roles with
    | error reason =>
      refine refuse fun proceeds => ?_
      have passed := proceeds.2.1
      rw [checked] at passed
      cases passed
    | ok _ =>
      have commits := Accounts.exists_setUserRoles_iff email (stored_of_checkAssignable checked)
      dsimp only
      cases committed : accounts.setUserRoles email roles with
      | none =>
        rw [committed] at refuse
        refine refuse fun proceeds => ?_
        obtain ⟨replaced, isReplaced⟩ := commits.mpr proceeds.2.2
        simp [committed] at isReplaced
      | some replaced =>
        exact ⟨replaced, fun _ => rfl, commitsThen_lastAdminGuard accounts
          ⟨requireCap_eq_ok.mp cap, checked, commits.mp ⟨replaced, committed⟩⟩ ..⟩

/-- A creation fails after the commit exactly when a capability or a scope is repeated, and the row
of the role stays. -/
theorem createRole_outcome (body : RoleBody) :
    ∃ changed, (CreateProceeds user accounts body → accounts.RoleAdded body.name changed) ∧
      CommitsThen accounts (CreateProceeds user accounts body) changed
        (¬ (body.caps.Nodup ∧ body.scopes.Nodup)) (createRole env user body accounts) := by
  unfold createRole
  cases checked : checkRoleBody user body with
  | error reason =>
    have refused : ¬ CreateProceeds user accounts body := by
      rintro ⟨passed, -⟩
      rw [checked] at passed
      cases passed
    exact ⟨accounts, fun proceeds => absurd proceeds refused, Or.inl ⟨refused, reason, rfl⟩⟩
  | ok _ =>
    cases inserted : accounts.insertRole env.now body.name (body.description.getD "") false with
    | none =>
      have refused : ¬ CreateProceeds user accounts body := fun proceeds =>
        proceeds.2 (Accounts.insertRole_eq_none.mp inserted)
      exact ⟨accounts, fun proceeds => absurd proceeds refused, Or.inl ⟨refused, _, rfl⟩⟩
    | some created =>
      obtain ⟨absent, added⟩ := Accounts.insertRole_eq_some inserted
      have proceeds : CreateProceeds user accounts body := ⟨checked, absent⟩
      have commits := Accounts.exists_setRoleCapsAndScopes_iff body.caps added.stored
        (typed_of_checkRoleBody checked)
      dsimp only
      cases committed : created.setRoleCapsAndScopes body.name body.caps body.scopes with
      | none =>
        refine ⟨created, fun _ => added, Or.inr ⟨proceeds, _, rfl, fun _ nodup => ?_,
          fun _ => ⟨_, rfl⟩⟩⟩
        obtain ⟨completed, isCompleted⟩ := commits.mpr nodup
        simp [committed] at isCompleted
      | some completed =>
        obtain ⟨replaced, nodup⟩ := Accounts.roleReplaced_of_setRoleCapsAndScopes committed
        have completes := added.replace replaced
        obtain ⟨role, isRole⟩ :=
          Option.isSome_iff_exists.mp (AList.lookup_isSome.mpr completes.stored)
        have found : completed.getRole body.name = some role := isRole
        refine ⟨completed, fun _ => completes, Or.inr ⟨proceeds, ?_⟩⟩
        simp [found, nodup]

/-- An update leaves the tables as they were, or it succeeds, and if it takes the wildcard from the
role, somebody else holds it. -/
theorem updateRole_outcome (name : RoleName) (body : RoleBody) :
    accounts.SameTables (updateRole user name body accounts).1 ∨
      (∃ response, (updateRole user name body accounts).2 = .ok response) ∧
      accounts.RoleReplaced name body.caps body.scopes (updateRole user name body accounts).1 ∧
      ((name, "*") ∈ accounts.roleCaps → "*" ∉ body.caps →
        (updateRole user name body accounts).1.HasAdmin) := by
  unfold updateRole
  split
  · exact Or.inl (.refl accounts)
  · split_ifs
    · exact Or.inl (.refl accounts)
    · split
      · exact Or.inl (.refl accounts)
      · rename_i role isRole
        dsimp only
        split
        · exact Or.inl (.refl accounts)
        · rename_i updated committed
          obtain ⟨replaced, -⟩ := Accounts.roleReplaced_of_setRoleCapsAndScopes committed
          split_ifs with lost
          · split
            · exact Or.inl (Accounts.sameTables_restoreRole
                (Accounts.mem_roles_of_getRole isRole) replaced)
            · rename_i guarded
              exact Or.inr ⟨⟨_, rfl⟩, replaced, fun _ _ => (lastAdminGuard_eq_ok _).mp guarded⟩
          · refine Or.inr ⟨⟨_, rfl⟩, replaced, fun wildcard gone => ?_⟩
            exact absurd ⟨Accounts.mem_getRoleCaps.mpr wildcard, gone⟩ lost

theorem addEntityRole_outcome (address : String) (role : RoleName) :
    (addEntityRole env user address role accounts).1 = accounts ∨
      (∃ response, (addEntityRole env user address role accounts).2 = .ok response) ∧
      accounts.addUserRole (env.normalizeEmail address) role =
        some (addEntityRole env user address role accounts).1 := by
  unfold addEntityRole
  dsimp only
  split
  · exact Or.inl rfl
  · split_ifs
    · exact Or.inl rfl
    · split
      · exact Or.inl rfl
      · split
        · exact Or.inl rfl
        · split
          · exact Or.inl rfl
          · rename_i added
            exact Or.inr ⟨⟨_, rfl⟩, added⟩

end Outcomes

end Cbs

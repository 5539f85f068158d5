import Cbs.Server.Admission

/-!
# One role for all scope requirements

The scope requirements of a submission should be met by one role of the caller.  They are checked
one after the other, each time over all roles, so two roles can share them.
-/

namespace Cbs

open Checks

namespace Accounts

def Matches (accounts : Accounts) (role : RoleName) (scopeType : ScopeType) (value : String) :
    Prop :=
  ∃ scope ∈ accounts.scopesOf role,
    scope.scopeType = scopeType.asStr ∧ scopePatternMatches scope.pattern value = true

instance (accounts : Accounts) (role : RoleName) (scopeType : ScopeType) (value : String) :
    Decidable (accounts.Matches role scopeType value) :=
  inferInstanceAs (Decidable (∃ scope ∈ _, _))

def MatchesOverrides (accounts : Accounts) (role : RoleName) (descriptor : BuildDescriptor) :
    Prop :=
  ∀ component ∈ descriptor.components, ∀ repo, component.repo = some repo →
    accounts.Matches role .repository repo

/-- The role by itself satisfies every scope requirement of a build: it has no scopes, or one that
matches the channel and type and one for every repository override. -/
def SatisfiesAll (accounts : Accounts) (role : RoleName) (descriptor : BuildDescriptor)
    (value : String) : Prop :=
  accounts.scopesOf role = ∅ ∨
    accounts.Matches role .channel value ∧ accounts.MatchesOverrides role descriptor

variable {accounts : Accounts} {email : String} {role : RoleName} {descriptor : BuildDescriptor}

theorem mem_repositoryChecks {check : ScopeType × String} :
    check ∈ repositoryChecks descriptor ↔
      ∃ component ∈ descriptor.components, ∃ repo, component.repo = some repo ∧
        (.repository, repo) = check := by
  simp only [repositoryChecks, List.mem_filterMap, Option.map_eq_some_iff]

theorem matches_of_allows {scopeType : ScopeType} {value : String}
    (allowed : accounts.Allows role scopeType value) (restricted : accounts.scopesOf role ≠ ∅) :
    accounts.Matches role scopeType value :=
  allowed.resolve_left restricted

theorem matchesOverrides_of_covers (covers : accounts.CoversRepositories role descriptor)
    (restricted : accounts.scopesOf role ≠ ∅) : accounts.MatchesOverrides role descriptor := by
  intro component inside repo isRepo
  have allowed := covers (.repository, repo)
    (mem_repositoryChecks.mpr ⟨component, inside, repo, isRepo, rfl⟩)
  exact matches_of_allows allowed restricted

theorem coversRepositories_of_matches (everywhere : accounts.MatchesOverrides role descriptor) :
    accounts.CoversRepositories role descriptor := by
  intro check inside
  obtain ⟨component, listed, repo, isRepo, rfl⟩ := mem_repositoryChecks.mp inside
  exact Or.inr (everywhere component listed repo isRepo)

theorem matchesOverrides_of_none (none : repositoryChecks descriptor = []) :
    accounts.MatchesOverrides role descriptor := by
  intro component inside repo isRepo
  have listed : (ScopeType.repository, repo) ∈ repositoryChecks descriptor :=
    mem_repositoryChecks.mpr ⟨component, inside, repo, isRepo, rfl⟩
  rw [none] at listed
  cases listed

end Accounts

/-- The scope checks succeed exactly when the caller passes the repository checks and the check on
the channel and type that the build is for. -/
theorem checkScopes_eq_ok {site : Site} {user : AuthUser} {body : SubmitBuildBody}
    {record : UserRow} {rewritten : BuildDescriptor} {resolved : ResolvedChannel} :
    checkScopes site user body = .ok (record, rewritten, resolved) ↔
      user.hasCap "builds:create" = true ∧ KnownComponents site body.descriptor ∧
        site.accounts.RepositoriesCovered user.email body.descriptor ∧
        site.accounts.getUser user.email = some record ∧
        ∃ channelId channel typeId type,
          site.channels.Targets record body.descriptor.channel body.descriptor.versionType channelId
            channel typeId type ∧
          site.accounts.ChannelCovered user.email (channelScopeValue channel type) ∧
          resolved = ⟨channelId, typeId, type.prefixTemplate⟩ ∧
          rewritten =
            { body.descriptor with
              signedOffBy := ⟨user.name, user.email⟩
              dstImage :=
                { body.descriptor.dstImage with
                  name := rewriteImageName type.project
                    (resolvePrefixTemplate type.prefixTemplate user.email)
                    body.descriptor.dstImage.name }
              channel := some channel.name
              versionType := some type.typeName } := by
  simp only [checkScopes, bind_eq_ok, mapError_eq_ok, orError_eq_ok, pure_eq_ok, Prod.mk.injEq]
  constructor
  · rintro ⟨_, capable, _, known, _, covered, row, isRow, ⟨changed, found⟩, resolves, rfl, same⟩
    obtain ⟨rfl, rfl⟩ := Prod.mk.inj same
    obtain ⟨channelId, channel, typeId, type, targets, allowed, isFound, isChanged⟩ :=
      resolveAndRewrite_eq_ok.mp resolves
    exact ⟨requireCap_eq_ok.mp capable, validateDescriptor_eq_ok.mp known,
      checkRepositories_eq_ok.mp covered, isRow, channelId, channel, typeId, type, targets,
      Accounts.checkChannelScope_iff.mp allowed, isFound, isChanged⟩
  · rintro ⟨capable, known, covered, isRow, channelId, channel, typeId, type, targets, allowed,
      isFound, isChanged⟩
    exact ⟨(), requireCap_eq_ok.mpr capable, (), validateDescriptor_eq_ok.mpr known, (),
      checkRepositories_eq_ok.mpr covered, record, isRow, (rewritten, resolved),
      resolveAndRewrite_eq_ok.mpr ⟨channelId, channel, typeId, type, targets,
        Accounts.checkChannelScope_iff.mpr allowed, isFound, isChanged⟩, rfl, rfl⟩

/-- One assigned role satisfies every scope requirement of a submission that gets past the scope
checks. -/
def MetByOneRole (site : Site) (user : AuthUser) (body : SubmitBuildBody) : Prop :=
  ∀ record rewritten resolved, checkScopes site user body = .ok (record, rewritten, resolved) →
    ∃ role channel typeName, (user.email, role) ∈ site.accounts.userRoles ∧
      rewritten.channel = some channel ∧ rewritten.versionType = some typeName ∧
      site.accounts.SatisfiesAll role body.descriptor (channel ++ "/" ++ typeName.asStr)

/-- The scope requirements of a submission are shared: the caller has only roles with scopes, one of
them is for the repositories and another one for the channel. -/
structure SharedByRoles (site : Site) (user : AuthUser) (body : SubmitBuildBody) : Prop where
  capable : user.hasCap "builds:create" = true
  known : KnownComponents site body.descriptor
  overrides : repositoryChecks body.descriptor ≠ []
  restricted : ∀ role, (user.email, role) ∈ site.accounts.userRoles →
    site.accounts.scopesOf role ≠ ∅
  repositories : ∃ role, (user.email, role) ∈ site.accounts.userRoles ∧
    site.accounts.MatchesOverrides role body.descriptor
  channel : ∃ record channelId channel typeId type,
    site.accounts.getUser user.email = some record ∧
      site.channels.Targets record body.descriptor.channel body.descriptor.versionType channelId
        channel typeId type ∧
      (∃ role, (user.email, role) ∈ site.accounts.userRoles ∧
        site.accounts.Matches role .channel (channelScopeValue channel type)) ∧
      ∀ role, (user.email, role) ∈ site.accounts.userRoles →
        site.accounts.Matches role .channel (channelScopeValue channel type) →
          ¬ site.accounts.MatchesOverrides role body.descriptor

section Shared

variable {site : Site} {user : AuthUser} {body : SubmitBuildBody}

/-- Shared requirements get past the scope checks, and no role satisfies them all. -/
theorem not_metByOneRole_of_shared (shared : SharedByRoles site user body) :
    ¬ MetByOneRole site user body := by
  intro met
  obtain ⟨builder, isAssigned, everywhere⟩ := shared.repositories
  obtain ⟨record, channelId, channel, typeId, type, isRecord, targets, ⟨publisher, isPublisher,
    publishes⟩, nobody⟩ := shared.channel
  have covered : site.accounts.RepositoriesCovered user.email body.descriptor :=
    Or.inr ⟨builder, isAssigned, Accounts.coversRepositories_of_matches everywhere⟩
  have allowed : site.accounts.ChannelCovered user.email (channelScopeValue channel type) :=
    ⟨publisher, isPublisher, Or.inr publishes⟩
  have passes := checkScopes_eq_ok.mpr ⟨shared.capable, shared.known, covered, isRecord, channelId,
    channel, typeId, type, targets, allowed, rfl, rfl⟩
  obtain ⟨role, name, typeName, isRole, isName, isTypeName, satisfied⟩ := met _ _ _ passes
  obtain rfl := Option.some.inj isName
  obtain rfl := Option.some.inj isTypeName
  rcases satisfied with unrestricted | ⟨onChannel, onRepositories⟩
  · exact shared.restricted role isRole unrestricted
  · exact nobody role isRole onChannel onRepositories

/-- A role for the channel satisfies everything unless the requirements are shared. -/
theorem metByOneRole_of_not_shared (apart : ¬ SharedByRoles site user body) :
    MetByOneRole site user body := by
  intro record rewritten resolved passes
  obtain ⟨capable, known, covered, isRecord, channelId, channel, typeId, type, targets, allowed, -,
    rfl⟩ := checkScopes_eq_ok.mp passes
  obtain ⟨publisher, isPublisher, publishes⟩ := allowed
  by_contra unmet
  have nobody : ∀ role, (user.email, role) ∈ site.accounts.userRoles →
      ¬ site.accounts.SatisfiesAll role body.descriptor (channelScopeValue channel type) := by
    intro role isRole satisfied
    exact unmet ⟨role, channel.name, type.typeName, isRole, rfl, rfl, satisfied⟩
  have restricted : ∀ role, (user.email, role) ∈ site.accounts.userRoles →
      site.accounts.scopesOf role ≠ ∅ :=
    fun role isRole unrestricted => nobody role isRole (Or.inl unrestricted)
  have onChannel := Accounts.matches_of_allows publishes (restricted publisher isPublisher)
  have overrides : repositoryChecks body.descriptor ≠ [] := fun none =>
    nobody publisher isPublisher (Or.inr ⟨onChannel, Accounts.matchesOverrides_of_none none⟩)
  obtain ⟨builder, isBuilder, covers⟩ := covered.resolve_left overrides
  have everywhere := Accounts.matchesOverrides_of_covers covers (restricted builder isBuilder)
  exact apart ⟨capable, known, overrides, restricted, ⟨builder, isBuilder, everywhere⟩, record,
    channelId, channel, typeId, type, isRecord, targets, ⟨publisher, isPublisher, onChannel⟩,
    fun role isRole matched both => nobody role isRole (Or.inr ⟨matched, both⟩)⟩

/-- One role satisfies every scope requirement of what gets past the scope checks, unless the
requirements are shared by several roles. -/
theorem met_by_one_role_iff (site : Site) (user : AuthUser) (body : SubmitBuildBody) :
    MetByOneRole site user body ↔ ¬ SharedByRoles site user body :=
  ⟨fun met shared => not_metByOneRole_of_shared shared met, metByOneRole_of_not_shared⟩

end Shared

/-- A user with a role for a channel and another one for the repositories of an organisation. -/
def dividedAccounts : Accounts :=
  { restrictedAccounts with
    roles := ((∅ : Dictionary RoleName RoleRow).insert "ces-publisher" ⟨"", false, 0⟩).insert
      "clyso-source" ⟨"", false, 0⟩
    roleCaps := {("ces-publisher", "builds:create"), ("clyso-source", "builds:create")}
    roleScopes := {("ces-publisher", ⟨"channel", "ces/*"⟩),
      ("clyso-source", ⟨"repository", "https://github.com/clyso/*"⟩)}
    userRoles := {("bob@example.com", "ces-publisher"), ("bob@example.com", "clyso-source")}
    caps_role := by decide
    scopes_role := by decide
    scopes_known := by decide
    assigned_user := by decide
    assigned_role := by decide }

def dividedSite : Site where
  accounts := dividedAccounts
  channels := cesChannels
  components := ["ceph"]

theorem loads_divided :
    ∃ user, dividedAccounts.loadAuthedUser "bob@example.com" = .ok user ∧
      user.email = "bob@example.com" ∧ user.hasCap "builds:create" = true := by
  have held : "builds:create" ∈ dividedAccounts.effectiveCaps "bob@example.com" := by decide
  have retained : "builds:create" ∈ dividedAccounts.retainedCaps "bob@example.com" false :=
    Accounts.mem_retainedCaps.mpr ⟨held, fun isRobot => absurd isRobot (by decide)⟩
  exact ⟨_, Accounts.loadAuthedUser_eq_ok.mpr ⟨_, getUser_bob, rfl, rfl⟩, rfl,
    hasCap_iff.mpr (Or.inr retained)⟩

theorem matchesOverrides_ownBody {role : RoleName} :
    dividedAccounts.MatchesOverrides role ownBody.descriptor ↔
      dividedAccounts.Matches role .repository "https://github.com/clyso/ceph" := by
  simp [Accounts.MatchesOverrides, ownBody, cephBodyFrom]

/-- The build of the user gets past the scope checks, although neither role satisfies them all. -/
theorem two_roles_share_requirements :
    ∃ user, dividedAccounts.loadAuthedUser "bob@example.com" = .ok user ∧
      ¬ MetByOneRole dividedSite user ownBody := by
  obtain ⟨user, loaded, isBob, capable⟩ := loads_divided
  have roles : ∀ role, (user.email, role) ∈ dividedAccounts.userRoles ↔
      role ∈ ["ces-publisher", "clyso-source"] := by
    intro role
    rw [isBob]
    simp [dividedAccounts]
  refine ⟨user, loaded, not_metByOneRole_of_shared ⟨capable, by decide, by decide, ?_, ?_, ?_⟩⟩
  · intro role isRole
    exact (by decide : ∀ role ∈ ["ces-publisher", "clyso-source"],
      dividedAccounts.scopesOf role ≠ ∅) role ((roles role).mp isRole)
  · exact ⟨"clyso-source", (roles _).mpr (by decide), matchesOverrides_ownBody.mpr (by decide)⟩
  · refine ⟨⟨"Bob", true, false, none, 0⟩, 1, ⟨"ces", none, false⟩, 1,
      ⟨1, .dev, "ces-devel", "", false⟩, isBob ▸ getUser_bob,
      ⟨rfl, rfl, rfl, rfl, rfl, rfl, rfl⟩, ?_, ?_⟩
    · exact ⟨"ces-publisher", (roles _).mpr (by decide), by decide⟩
    · intro role isRole onChannel everywhere
      exact (by decide : ∀ role ∈ ["ces-publisher", "clyso-source"],
        dividedAccounts.Matches role .channel "ces/dev" →
          ¬ dividedAccounts.Matches role .repository "https://github.com/clyso/ceph") role
        ((roles role).mp isRole) onChannel (matchesOverrides_ownBody.mp everywhere)

end Cbs

import Cbs.Server.Channels
import Cbs.Server.Requests

/-!
# Admission of submitted builds

The checks that a build has to pass before it is stored, as a caller submits it: the capability, the
components, the repository scopes, the channel scope, and the rule on robots.
-/

namespace Cbs

open Checks
open Concurrency

/-- Why a descriptor was rejected. -/
inductive ValidationError where
  | emptyComponents
  | unknownComponent (name : String)
  deriving DecidableEq

def ValidationError.text : ValidationError → String
  | emptyComponents => "descriptor `components` array is empty"
  | unknownComponent name => "unknown component: " ++ name

def checkComponents (known : List String) : List BuildComponent → Except ValidationError Unit
  | [] => .ok ()
  | component :: components =>
    if component.name ∈ known then checkComponents known components
    else .error (.unknownComponent component.name)

def validateDescriptor (descriptor : BuildDescriptor) (known : List String) :
    Except ValidationError Unit :=
  if descriptor.components = [] then .error .emptyComponents
  else checkComponents known descriptor.components

/-- What admission reads. -/
structure Site where
  accounts : Accounts
  channels : Channels
  components : List String

structure SubmitBuildBody where
  descriptor : BuildDescriptor
  priority : Priority
  deriving DecidableEq

structure SubmitBuildResponse where
  id : BuildId
  state : String
  isRobot : Bool
  warning : Option String
  deriving DecidableEq

/-- The repository scopes that the overrides of a descriptor need. -/
def repositoryChecks (descriptor : BuildDescriptor) : List (ScopeType × String) :=
  descriptor.components.filterMap fun component =>
    component.repo.map fun repo => (.repository, repo)

/-- One role of the caller covers all repository overrides, if there are any. -/
def checkRepositories (accounts : Accounts) (user : AuthUser) (descriptor : BuildDescriptor) :
    Except AuthError Unit :=
  let scopeChecks := repositoryChecks descriptor
  if scopeChecks = [] then .ok () else accounts.requireScopesAll user scopeChecks

/-- The checks of a submission up to and including those on scopes, with the record of the caller
and the resolved build. -/
def checkScopes (site : Site) (user : AuthUser) (body : SubmitBuildBody) :
    Except AuthError (UserRow × BuildDescriptor × ResolvedChannel) := do
  requireCap user "builds:create"
  (validateDescriptor body.descriptor site.components).mapError fun reason =>
    ⟨.badRequest, reason.text⟩
  checkRepositories site.accounts user body.descriptor
  let descriptor := { body.descriptor with signedOffBy := ⟨user.name, user.email⟩ }
  let record ← orError ⟨.internalServerError, "user record not found"⟩
    (site.accounts.getUser user.email)
  let resolution ← (resolveAndRewrite site.accounts site.channels user.email record
    descriptor).mapError fun reason => ⟨.badRequest, reason⟩
  pure (record, resolution)

/-- The checks on a submission, and what is stored if it passes them. -/
def admitBuild (site : Site) (user : AuthUser) (body : SubmitBuildBody) :
    Except AuthError Submission := do
  let (record, descriptor, resolved) ← checkScopes site user body
  -- The template would put a synthetic address into the image path.
  require (¬ (record.isRobot = true ∧
      prefixTemplateContainsUsername resolved.prefixTemplate = true))
    ⟨.badRequest, "robot accounts cannot submit builds to channels that use the ${username} " ++
      "prefix template"⟩
  pure
    { descriptor
      userEmail := user.email
      priority := body.priority
      periodicTaskId := none
      channelId := some resolved.channelId
      channelTypeId := some resolved.channelTypeId }

def submitBuild (env : Env) (site : Site) (user : AuthUser) (body : SubmitBuildBody) :
    Handler (Except AuthError SubmitBuildResponse) :=
  match admitBuild site user body with
  | .error reason => pure (.error reason)
  | .ok submission => do
    let (buildId, pending) ← insertBuildInternal env submission
    pure (.ok
      { id := buildId
        state := "queued"
        isRobot := user.isRobot
        warning :=
          if pending > 1 then some (toString pending ++ " build(s) in queue") else none })

def submitBuildAs (env : Env) (site : Site) (email : String) (body : SubmitBuildBody) :
    Handler (Except AuthError SubmitBuildResponse) :=
  match site.accounts.loadAuthedUser email with
  | .error reason => pure (.error reason)
  | .ok user => submitBuild env site user body

def KnownComponents (site : Site) (descriptor : BuildDescriptor) : Prop :=
  descriptor.components ≠ [] ∧ ∀ component ∈ descriptor.components,
    component.name ∈ site.components

instance (site : Site) (descriptor : BuildDescriptor) :
    Decidable (KnownComponents site descriptor) :=
  inferInstanceAs (Decidable (_ ∧ _))

namespace Accounts

variable (accounts : Accounts)

/-- The scopes of a role allow every repository override. -/
def CoversRepositories (role : RoleName) (descriptor : BuildDescriptor) : Prop :=
  ∀ check ∈ repositoryChecks descriptor, accounts.Allows role check.1 check.2

instance (role : RoleName) (descriptor : BuildDescriptor) :
    Decidable (accounts.CoversRepositories role descriptor) :=
  inferInstanceAs (Decidable (∀ check ∈ _, _))

/-- There are no repository overrides, or one role of the user covers them all. -/
def RepositoriesCovered (email : String) (descriptor : BuildDescriptor) : Prop :=
  repositoryChecks descriptor = [] ∨
    ∃ role, (email, role) ∈ accounts.userRoles ∧ accounts.CoversRepositories role descriptor

/-- Some role of the user allows a channel and type. -/
def ChannelCovered (email value : String) : Prop :=
  ∃ role, (email, role) ∈ accounts.userRoles ∧ accounts.Allows role .channel value

theorem exists_role_iff {accounts : Accounts} {email : String} {condition : RoleName → Prop} :
    (∃ role ∈ accounts.rolesOf email, condition role) ↔
      ∃ role, (email, role) ∈ accounts.userRoles ∧ condition role := by
  simp only [mem_rolesOf]

instance (email : String) (descriptor : BuildDescriptor) :
    Decidable (accounts.RepositoriesCovered email descriptor) :=
  @instDecidableOr _ _ _ (decidable_of_iff _ exists_role_iff)

instance (email value : String) : Decidable (accounts.ChannelCovered email value) :=
  decidable_of_iff _ exists_role_iff

end Accounts

theorem checkComponents_eq_ok {known : List String} {components : List BuildComponent} :
    checkComponents known components = .ok () ↔
      ∀ component ∈ components, component.name ∈ known := by
  induction components with
  | nil => simp [checkComponents]
  | cons component components ih =>
    rw [checkComponents, List.forall_mem_cons, ← ih]
    split_ifs with isKnown <;> simp [isKnown]

variable {site : Site} {descriptor : BuildDescriptor}

theorem validateDescriptor_eq_ok :
    validateDescriptor descriptor site.components = .ok () ↔ KnownComponents site descriptor := by
  unfold validateDescriptor KnownComponents
  split_ifs with isEmpty
  · simp [isEmpty]
  · simp [isEmpty, checkComponents_eq_ok]

variable {user : AuthUser}

theorem checkRepositories_eq_ok {accounts : Accounts} :
    checkRepositories accounts user descriptor = .ok () ↔
      accounts.RepositoriesCovered user.email descriptor := by
  unfold checkRepositories Accounts.RepositoriesCovered
  dsimp only
  split_ifs with isEmpty
  · simp [isEmpty]
  · rw [Accounts.requireScopesAll_eq_ok]
    simp only [isEmpty, false_or]
    rfl

/-- The channel and type of a build are found, the user may build there, and a robot does not need
a user name. -/
def ChannelAdmitted (site : Site) (email : String) (descriptor : BuildDescriptor)
    (allowed : String → Prop) : Prop :=
  ∃ row channelId channel typeId type, site.accounts.getUser email = some row ∧
    site.channels.Targets row descriptor.channel descriptor.versionType channelId channel typeId
      type ∧
    allowed (channelScopeValue channel type) ∧
    ¬ (row.isRobot = true ∧ prefixTemplateContainsUsername type.prefixTemplate = true)

variable {body : SubmitBuildBody}

/-- A build is admitted exactly when it passes every check. -/
theorem admitted_iff :
    (∃ submission, admitBuild site user body = .ok submission) ↔
      user.hasCap "builds:create" = true ∧ KnownComponents site body.descriptor ∧
        site.accounts.RepositoriesCovered user.email body.descriptor ∧
        ChannelAdmitted site user.email body.descriptor
          (site.accounts.ChannelCovered user.email) := by
  simp only [admitBuild, checkScopes, bind_assoc, pure_bind, bind_eq_ok, mapError_eq_ok,
    orError_eq_ok, require_eq_ok, pure_eq_ok]
  constructor
  · rintro ⟨_, _, capable, _, known, _, covered, row, isRow, ⟨rewritten, resolved⟩, resolves, _,
      human, -⟩
    obtain ⟨channelId, channel, typeId, type, targets, allowed, rfl, -⟩ :=
      resolveAndRewrite_eq_ok.mp resolves
    exact ⟨requireCap_eq_ok.mp capable, validateDescriptor_eq_ok.mp known,
      checkRepositories_eq_ok.mp covered, row, channelId, channel, typeId, type, isRow, targets,
      Accounts.checkChannelScope_iff.mp allowed, human⟩
  · rintro ⟨capable, known, covered, row, channelId, channel, typeId, type, isRow, targets, allowed,
      human⟩
    exact ⟨_, (), requireCap_eq_ok.mpr capable, (), validateDescriptor_eq_ok.mpr known, (),
      checkRepositories_eq_ok.mpr covered, row, isRow, _,
      resolveAndRewrite_eq_ok.mpr ⟨channelId, channel, typeId, type, targets,
        Accounts.checkChannelScope_iff.mpr allowed, rfl, rfl⟩, (), human, rfl⟩

/-- Without a covering role the build is refused before its channel is looked at. -/
theorem admitBuild_insufficient
    (capable : user.hasCap "builds:create" = true) (known : KnownComponents site body.descriptor)
    (uncovered : ¬ site.accounts.RepositoriesCovered user.email body.descriptor) :
    admitBuild site user body = .error ⟨.forbidden, "insufficient scopes"⟩ := by
  have refused : checkRepositories site.accounts user body.descriptor =
      .error ⟨.forbidden, "insufficient scopes"⟩ := by
    obtain ⟨overrides, nobody⟩ := not_or.mp uncovered
    rw [checkRepositories, if_neg overrides, Accounts.requireScopesAll_eq_error]
    exact ⟨nobody, rfl⟩
  simp only [admitBuild, checkScopes, bind_assoc]
  rw [bind_eq_error]
  refine Or.inr ⟨(), requireCap_eq_ok.mpr capable, ?_⟩
  rw [bind_eq_error]
  refine Or.inr ⟨(), mapError_eq_ok.mpr (validateDescriptor_eq_ok.mpr known), ?_⟩
  rw [bind_eq_error]
  exact Or.inl refused

variable {env : Env} {state : AppState} {reason : AuthError}

theorem submitBuild_eq_error :
    ((submitBuild env site user body).run state).2 = .error reason ↔
      admitBuild site user body = .error reason := by
  unfold submitBuild
  cases admitBuild site user body with
  | error other =>
    change Except.error other = Except.error reason ↔ _
    simp
  | ok submission =>
    simp only [Routine.bind_eq, Routine.run_bind]
    change Except.ok _ = Except.error reason ↔ _
    simp

variable {email : String}

theorem submitBuildAs_eq_error :
    ((submitBuildAs env site email body).run state).2 = .error reason ↔
      site.accounts.loadAuthedUser email = .error reason ∨
        ∃ user, site.accounts.loadAuthedUser email = .ok user ∧
          admitBuild site user body = .error reason := by
  unfold submitBuildAs
  cases loaded : site.accounts.loadAuthedUser email with
  | error other =>
    change Except.error other = Except.error reason ↔ _
    simp
  | ok user => simp [submitBuild_eq_error]

theorem submits_iff :
    (∃ response, ((submitBuildAs env site email body).run state).2 = .ok response) ↔
      ∃ user, site.accounts.loadAuthedUser email = .ok user ∧
        user.hasCap "builds:create" = true ∧ KnownComponents site body.descriptor ∧
        site.accounts.RepositoriesCovered email body.descriptor ∧
        ChannelAdmitted site email body.descriptor (site.accounts.ChannelCovered email) := by
  rw [exists_ok_iff]
  simp only [ne_eq, submitBuildAs_eq_error, not_or, not_exists, not_and]
  cases loaded : site.accounts.loadAuthedUser email with
  | error reason => simp
  | ok user =>
    obtain ⟨row, isRow, active, rfl⟩ := Accounts.loadAuthedUser_eq_ok.mp loaded
    simp only [reduceCtorEq, not_false_eq_true, Except.ok.injEq, forall_eq', true_and,
      exists_eq_left']
    rw [← exists_ok_iff, admitted_iff]

/-- A user who may build in one channel, from the repositories of one organisation.  Two more roles
let nobody build. -/
def restrictedAccounts : Accounts where
  users := (∅ : Dictionary String UserRow).insert "bob@example.com" ⟨"Bob", true, false, none, 0⟩
  roles := (((∅ : Dictionary RoleName RoleRow).insert "auditor" ⟨"", false, 0⟩).insert "viewer"
    ⟨"", true, 0⟩).insert "ces-builder" ⟨"", false, 0⟩
  roleCaps := {("ces-builder", "builds:create"), ("ces-builder", "periodic:create"),
    ("viewer", "builds:list:any"), ("auditor", "permissions:view")}
  roleScopes := {("ces-builder", ⟨"channel", "ces/*"⟩),
    ("ces-builder", ⟨"repository", "https://github.com/clyso/*"⟩),
      ("auditor", ⟨"channel", "ccs/*"⟩)}
  userRoles := {("bob@example.com", "ces-builder")}
  tokens := []
  apiKeys := []
  robotTokens := []
  caps_role := by decide
  scopes_role := by decide
  scopes_known := by decide
  assigned_user := by decide
  assigned_role := by decide

def cesChannels : Channels where
  channels := (∅ : Dictionary Int ChannelRow).insert 1 ⟨"ces", none, false⟩
  types := (∅ : Dictionary Int ChannelTypeRow).insert 1 ⟨1, .dev, "ces-devel", "", false⟩
  unique_name := by decide
  unique_type := by decide

def restrictedSite : Site where
  accounts := restrictedAccounts
  channels := cesChannels
  components := ["ceph"]

def cephBodyFrom (repo : String) : SubmitBuildBody where
  descriptor :=
    { version := "19.2.3"
      channel := some "ces"
      versionType := some .dev
      signedOffBy := ⟨"Bob", "bob@example.com"⟩
      dstImage := ⟨"ceph", "v19.2.3"⟩
      components := [⟨"ceph", "main", some repo⟩]
      build := ⟨"rockylinux", "el9", "rpm", .x86_64⟩ }
  priority := .normal

def ownBody : SubmitBuildBody :=
  cephBodyFrom "https://github.com/clyso/ceph"

def forkedBody : SubmitBuildBody :=
  cephBodyFrom "https://github.com/other/ceph"

theorem getUser_bob :
    restrictedAccounts.getUser "bob@example.com" = some ⟨"Bob", true, false, none, 0⟩ :=
  rfl

theorem mem_retainedCaps_bob {cap : Cap}
    (held : cap ∈ restrictedAccounts.effectiveCaps "bob@example.com") :
    cap ∈ restrictedAccounts.retainedCaps "bob@example.com" false :=
  Accounts.mem_retainedCaps.mpr ⟨held, by simp⟩

theorem loads_bob :
    ∃ user, restrictedAccounts.loadAuthedUser "bob@example.com" = .ok user ∧
      user.hasCap "builds:create" = true :=
  ⟨_, Accounts.loadAuthedUser_eq_ok.mpr ⟨_, getUser_bob, rfl, rfl⟩,
    hasCap_iff.mpr (Or.inr (mem_retainedCaps_bob (by decide)))⟩

theorem bob_refused (env : Env) (state : AppState) :
    ((submitBuildAs env restrictedSite "bob@example.com" forkedBody).run state).2 =
      .error ⟨.forbidden, "insufficient scopes"⟩ := by
  obtain ⟨user, loaded, capable⟩ := loads_bob
  refine submitBuildAs_eq_error.mpr (Or.inr ⟨user, loaded, ?_⟩)
  obtain ⟨row, -, -, rfl⟩ := Accounts.loadAuthedUser_eq_ok.mp loaded
  have uncovered : ¬ restrictedAccounts.RepositoriesCovered "bob@example.com"
      forkedBody.descriptor := by
    decide
  exact admitBuild_insufficient capable (by decide) uncovered

end Cbs

import Cbs.Server.Admission
import Cbs.Server.Invariant
import Cbs.Server.Periodic
import Cbs.Server.TagFormat

/-!
# Triggers of periodic tasks

A periodic task builds in the name of its owner.  The checks of the trigger look neither at
repository scopes nor at templates that a robot cannot use.
-/

namespace Cbs

open Checks
open Concurrency

inductive TriggerError where
  /-- The owner is gone, deactivated or lacks a capability. -/
  | ownerAccountMissing
  | transient (message : String)
  | fatal (message : String)
  deriving DecidableEq

def triggerRequiredCaps : List Cap :=
  ["periodic:create", "builds:create"]

def capsSatisfyTriggerRequirements (caps : List Cap) : Bool :=
  caps.any (· = "*") || triggerRequiredCaps.all fun required => caps.any (· = required)

/-- The texts that make a failed resolution permanent. -/
def fatalPatterns : List String :=
  ["insufficient scope", "not found", "not configured", "no default"]

/-- Whether a failed resolution is worth another attempt. -/
def classifyResolutionError (message : String) : TriggerError :=
  if fatalPatterns.any (Text.contains message) then .fatal message else .transient message

/-- The priority of a task; what is not known counts as normal. -/
def taskPriority (priority : String) : Priority :=
  match priority with
  | "high" => .high
  | "low" => .low
  | _ => .normal

def Accounts.isUserActive (accounts : Accounts) (email : String) : Bool :=
  (accounts.getUser email).any (·.active)

/-- The checks on a trigger, and what is stored if it passes them. -/
def admitTrigger (site : Site) (now : DateTime) (taskId : String) (task : PeriodicTaskRow) :
    Except TriggerError Submission := do
  require (site.accounts.isUserActive task.createdBy) .ownerAccountMissing
  let user ← orError .ownerAccountMissing (site.accounts.getUser task.createdBy)
  require (capsSatisfyTriggerRequirements
    (site.accounts.retainedCaps task.createdBy user.isRobot)) .ownerAccountMissing
  let stored ← task.descriptor.mapError fun reason => .fatal ("invalid descriptor JSON: " ++ reason)
  (validateDescriptor stored site.components).mapError fun reason =>
    .fatal ("descriptor validation failed: " ++ reason.text)
  let descriptor := { stored with signedOffBy := ⟨user.name, task.createdBy⟩ }
  let tag := interpolateTag task.tagFormat descriptor now
  (validateOciTag tag).mapError fun reason =>
    .fatal ("interpolated tag '" ++ tag ++ "' is not a valid OCI tag: " ++ reason)
  let resolution ← (resolveAndRewrite site.accounts site.channels task.createdBy user
    { descriptor with dstImage := { descriptor.dstImage with tag := tag } }).mapError
      classifyResolutionError
  pure
    { descriptor := resolution.1
      userEmail := task.createdBy
      priority := taskPriority task.priority
      periodicTaskId := some taskId
      channelId := some resolution.2.channelId
      channelTypeId := some resolution.2.channelTypeId }

def triggerPeriodicBuild (env : Env) (site : Site) (now : DateTime) (taskId : String)
    (task : PeriodicTaskRow) : Handler (Except TriggerError BuildId) :=
  match admitTrigger site now taskId task with
  | .error reason => pure (.error reason)
  | .ok submission => do
    let (buildId, _) ← insertBuildInternal env submission
    pure (.ok buildId)

theorem capsSatisfyTriggerRequirements_iff {caps : List Cap} :
    capsSatisfyTriggerRequirements caps = true ↔
      "*" ∈ caps ∨ ∀ required ∈ triggerRequiredCaps, required ∈ caps := by
  simp only [capsSatisfyTriggerRequirements, Bool.or_eq_true, List.any_eq_true, List.all_eq_true,
    decide_eq_true_eq, exists_eq_right]

/-- What has to hold for a trigger besides what its descriptor says. -/
structure OwnerQualifies (accounts : Accounts) (email : String) (row : UserRow) : Prop where
  stored : accounts.getUser email = some row
  active : row.active = true
  capable : capsSatisfyTriggerRequirements (accounts.retainedCaps email row.isRobot) = true

def triggerTag (now : DateTime) (task : PeriodicTaskRow) (descriptor : BuildDescriptor)
    (row : UserRow) : String :=
  interpolateTag task.tagFormat { descriptor with signedOffBy := ⟨row.name, task.createdBy⟩ } now

section Triggers

variable {env : Env} {site : Site} {now : DateTime} {taskId : String} {task : PeriodicTaskRow}
  {state : AppState}

/-- A trigger is admitted exactly when its owner qualifies, the stored descriptor is valid, the tag
is one, and the owner may build in the channel. -/
theorem trigger_admitted_iff :
    (∃ submission, admitTrigger site now taskId task = .ok submission) ↔
      ∃ row descriptor, OwnerQualifies site.accounts task.createdBy row ∧
        task.descriptor = .ok descriptor ∧ KnownComponents site descriptor ∧
        validateOciTag (triggerTag now task descriptor row) = .ok () ∧
        ∃ channelId channel typeId type,
          site.channels.Targets row descriptor.channel descriptor.versionType channelId channel
            typeId type ∧
          site.accounts.ChannelCovered task.createdBy (channelScopeValue channel type) := by
  simp only [admitTrigger, bind_eq_ok, mapError_eq_ok, orError_eq_ok, require_eq_ok, pure_eq_ok]
  constructor
  · rintro ⟨_, _, active, row, isRow, _, capable, descriptor, isDescriptor, _, known, _, tagged,
      ⟨rewritten, resolved⟩, resolves, -⟩
    obtain ⟨channelId, channel, typeId, type, targets, allowed, -, -⟩ :=
      resolveAndRewrite_eq_ok.mp resolves
    rw [Accounts.isUserActive, isRow] at active
    exact ⟨row, descriptor, ⟨isRow, active, capable⟩, isDescriptor,
      validateDescriptor_eq_ok.mp known, tagged, channelId, channel, typeId, type, targets,
      Accounts.checkChannelScope_iff.mp allowed⟩
  · rintro ⟨row, descriptor, ⟨isRow, active, capable⟩, isDescriptor, known, tagged, channelId,
      channel, typeId, type, targets, allowed⟩
    have isActive : site.accounts.isUserActive task.createdBy = true := by
      rw [Accounts.isUserActive, isRow]
      exact active
    exact ⟨_, (), isActive, row, isRow, (), capable, descriptor, isDescriptor, (),
      validateDescriptor_eq_ok.mpr known, (), tagged, _,
      resolveAndRewrite_eq_ok.mpr ⟨channelId, channel, typeId, type, targets,
        Accounts.checkChannelScope_iff.mpr allowed, rfl, rfl⟩, rfl⟩

theorem triggers_iff :
    (∃ buildId, ((triggerPeriodicBuild env site now taskId task).run state).2 = .ok buildId) ↔
      ∃ submission, admitTrigger site now taskId task = .ok submission := by
  unfold triggerPeriodicBuild
  cases admitTrigger site now taskId task with
  | error reason =>
    change (∃ buildId, Except.error reason = Except.ok buildId) ↔ _
    simp
  | ok submission =>
    simp only [Routine.bind_eq, Routine.run_bind]
    change (∃ buildId, Except.ok _ = Except.ok buildId) ↔ _
    simp

theorem OwnerQualifies.loads {accounts : Accounts} {email : String} {row : UserRow}
    (qualifies : OwnerQualifies accounts email row) :
    ∃ user, accounts.loadAuthedUser email = .ok user ∧ user.hasCap "builds:create" = true := by
  refine ⟨_, Accounts.loadAuthedUser_eq_ok.mpr ⟨row, qualifies.stored, qualifies.active, rfl⟩, ?_⟩
  rcases capsSatisfyTriggerRequirements_iff.mp qualifies.capable with wildcard | required
  · exact hasCap_iff.mpr (Or.inl wildcard)
  · exact hasCap_iff.mpr (Or.inr (required "builds:create" (by decide)))

/-- If the owner is a robot, the template of the channel type does not use the name of the user. -/
def RobotNeedsNoName (site : Site) (email : String) (descriptor : BuildDescriptor) : Prop :=
  ∀ row channelId channel typeId type, site.accounts.getUser email = some row →
    site.channels.Targets row descriptor.channel descriptor.versionType channelId channel typeId
      type →
    ¬ (row.isRobot = true ∧ prefixTemplateContainsUsername type.prefixTemplate = true)

/-- If a task submits a build, the owner could have submitted it exactly when one of their roles
covers the repositories and a robot does not need a user name. -/
theorem scheduled_build_admitted_iff {buildId : BuildId} {descriptor : BuildDescriptor}
    (priority : Priority)
    (triggered : ((triggerPeriodicBuild env site now taskId task).run state).2 = .ok buildId)
    (stored : task.descriptor = .ok descriptor) :
    (∃ response, ((submitBuildAs env site task.createdBy ⟨descriptor, priority⟩).run state).2 =
        .ok response) ↔
      site.accounts.RepositoriesCovered task.createdBy descriptor ∧
        RobotNeedsNoName site task.createdBy descriptor := by
  obtain ⟨row, found, qualifies, isFound, known, -, channelId, channel, typeId, type, targets,
    covered⟩ := trigger_admitted_iff.mp (triggers_iff.mp ⟨buildId, triggered⟩)
  obtain rfl : found = descriptor := Except.ok.inj (isFound.symm.trans stored)
  obtain ⟨user, loaded, capable⟩ := qualifies.loads
  rw [submits_iff]
  constructor
  · rintro ⟨_, -, -, -, repositories, row', _, channel', _, type', isRow', targets', -, human⟩
    refine ⟨repositories, ?_⟩
    intro other _ otherChannel _ otherType isOther otherTargets
    obtain rfl := Option.some.inj (isRow'.symm.trans isOther)
    obtain ⟨-, rfl⟩ := targets'.unique otherTargets
    exact human
  · rintro ⟨repositories, named⟩
    exact ⟨user, loaded, capable, known, repositories, row, channelId, channel, typeId, type,
      qualifies.stored, targets, covered,
      named row channelId channel typeId type qualifies.stored targets⟩

end Triggers

def nightlyTask (descriptor : BuildDescriptor) : PeriodicTaskRow where
  cronExpr := "0 2 * * *"
  tagFormat := "v{version}-nightly"
  descriptor := .ok descriptor
  priority := "normal"
  enabled := true
  createdBy := "bob@example.com"
  createdAt := 0
  retryCount := 0
  retryAt := none
  lastError := none
  lastTriggeredAt := none
  lastBuildId := none

def twoOClock : DateTime :=
  ⟨2026, 3, 18, 2, 0, 0⟩

theorem nightly_triggers {descriptor : BuildDescriptor}
    (known : KnownComponents restrictedSite descriptor)
    (tagged : validateOciTag (triggerTag twoOClock (nightlyTask descriptor) descriptor
      ⟨"Bob", true, false, none, 0⟩) = .ok ())
    (channel : descriptor.channel = some "ces") (type : descriptor.versionType = some .dev) :
    ∃ buildId, ((triggerPeriodicBuild .smooth restrictedSite twoOClock "nightly"
      (nightlyTask descriptor)).run freshServer).2 = .ok buildId := by
  have capable : capsSatisfyTriggerRequirements
      (restrictedAccounts.retainedCaps "bob@example.com" false) = true := by
    refine capsSatisfyTriggerRequirements_iff.mpr (Or.inr ?_)
    intro required inside
    apply mem_retainedCaps_bob
    revert required
    decide
  have targets : cesChannels.Targets ⟨"Bob", true, false, none, 0⟩ (some "ces") (some .dev) 1
      ⟨"ces", none, false⟩ 1 ⟨1, .dev, "ces-devel", "", false⟩ :=
    ⟨rfl, rfl, rfl, rfl, rfl, rfl, rfl⟩
  have covered : restrictedAccounts.ChannelCovered "bob@example.com"
      (channelScopeValue ⟨"ces", none, false⟩ ⟨1, .dev, "ces-devel", "", false⟩) := by
    decide
  rw [← channel, ← type] at targets
  exact triggers_iff.mpr (trigger_admitted_iff.mpr ⟨_, _, ⟨getUser_bob, rfl, capable⟩, rfl, known,
    tagged, 1, _, 1, _, targets, covered⟩)

/-- The owner could have submitted the nightly build of the organisation's repository. -/
theorem scheduled_own_build_admitted :
    ∃ response, ((submitBuildAs .smooth restrictedSite "bob@example.com" ownBody).run
      freshServer).2 = .ok response := by
  have known : KnownComponents restrictedSite ownBody.descriptor := by decide
  obtain ⟨buildId, triggered⟩ := nightly_triggers known (by decide) rfl rfl
  refine (scheduled_build_admitted_iff .normal triggered rfl).mpr ⟨by decide, ?_⟩
  intro row _ _ _ _ isRow _ ⟨isRobot, _⟩
  obtain rfl := Option.some.inj (getUser_bob.symm.trans isRow)
  exact nomatch isRobot

/-- The task builds from a repository from which its owner may not build. -/
theorem scheduled_build_escapes_scopes :
    (∃ buildId, ((triggerPeriodicBuild .smooth restrictedSite twoOClock "nightly"
        (nightlyTask forkedBody.descriptor)).run freshServer).2 = .ok buildId) ∧
      ((submitBuildAs .smooth restrictedSite "bob@example.com" forkedBody).run freshServer).2 =
        .error ⟨.forbidden, "insufficient scopes"⟩ :=
  have known : KnownComponents restrictedSite forkedBody.descriptor := by decide
  ⟨nightly_triggers known (by decide) rfl rfl, bob_refused _ _⟩

end Cbs

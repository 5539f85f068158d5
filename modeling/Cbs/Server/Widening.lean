import Cbs.Server.Admission
import Cbs.Server.Holders
import Cbs.Server.Invariant

/-!
# Additional roles and the places where a user may build

A submission that was refused on scope grounds should stay refused when the user gets another role
that does not let anybody build.  The scope checks look at the scopes of every role.
-/

namespace Cbs

open Checks
open Concurrency

/-- A response that refuses a submission because of scopes. -/
def ScopeRefusal (reason : AuthError) : Prop :=
  reason = ⟨.forbidden, "insufficient scopes"⟩ ∨
    ∃ value, reason = ⟨.badRequest, "insufficient scope for channel/type '" ++ value ++ "'"⟩

/-- With the scopes of one more role the user could build: that role or another one covers all
repositories, and that role or another one allows the channel. -/
def ClosesGap (site : Site) (email : String) (role : RoleName) (descriptor : BuildDescriptor) :
    Prop :=
  (site.accounts.RepositoriesCovered email descriptor ∨
      site.accounts.CoversRepositories role descriptor) ∧
    ChannelAdmitted site email descriptor fun value =>
      site.accounts.ChannelCovered email value ∨ site.accounts.Allows role .channel value

section Assigned

variable {accounts after : Accounts} {email : String} {role : RoleName} {value : String}
  (assigned : accounts.addUserRole email role = some after)

include assigned

theorem allows_addUserRole {other : RoleName} {scopeType : ScopeType} :
    after.Allows other scopeType value ↔ accounts.Allows other scopeType value := by
  obtain ⟨-, -, -, sameScopes⟩ := addUserRole_eq_some assigned
  simp only [Accounts.Allows, Accounts.scopesOf, sameScopes]

/-- Some role of the user meets a condition afterwards if one did before, or if the new one does. -/
theorem exists_assigned_iff {condition : RoleName → Prop} :
    (∃ other, (email, other) ∈ after.userRoles ∧ condition other) ↔
      (∃ other, (email, other) ∈ accounts.userRoles ∧ condition other) ∨ condition role := by
  obtain ⟨added, -, -, -⟩ := addUserRole_eq_some assigned
  rw [added]
  constructor
  · rintro ⟨other, inside, holds⟩
    rcases Finset.mem_insert.mp inside with same | stored
    · obtain ⟨-, rfl⟩ := Prod.mk.inj same
      exact Or.inr holds
    · exact Or.inl ⟨other, stored, holds⟩
  · rintro (⟨other, stored, holds⟩ | holds)
    · exact ⟨other, Finset.mem_insert_of_mem stored, holds⟩
    · exact ⟨role, Finset.mem_insert_self _ _, holds⟩

theorem repositoriesCovered_addUserRole {descriptor : BuildDescriptor} :
    after.RepositoriesCovered email descriptor ↔
      accounts.RepositoriesCovered email descriptor ∨
        accounts.CoversRepositories role descriptor := by
  have covers : ∀ other, after.CoversRepositories other descriptor ↔
      accounts.CoversRepositories other descriptor := by
    intro other
    simp only [Accounts.CoversRepositories, allows_addUserRole assigned]
  simp only [Accounts.RepositoriesCovered, exists_assigned_iff assigned, covers, or_assoc]

theorem channelCovered_addUserRole :
    after.ChannelCovered email value ↔
      accounts.ChannelCovered email value ∨ accounts.Allows role .channel value := by
  simp only [Accounts.ChannelCovered, exists_assigned_iff assigned, allows_addUserRole assigned]

theorem hasCap_addUserRole
    {user : AuthUser} (loaded : accounts.loadAuthedUser email = .ok user) {cap : Cap}
    (capable : user.hasCap cap = true) :
    ∃ user', after.loadAuthedUser email = .ok user' ∧ user'.hasCap cap = true := by
  obtain ⟨added, sameUsers, sameCaps, -⟩ := addUserRole_eq_some assigned
  obtain ⟨row, isRow, active, rfl⟩ := Accounts.loadAuthedUser_eq_ok.mp loaded
  have isRowAfter : after.getUser email = some row := by
    rw [Accounts.getUser, sameUsers]
    exact isRow
  have kept : ∀ held, held ∈ accounts.retainedCaps email row.isRobot →
      held ∈ after.retainedCaps email row.isRobot := by
    intro held inside
    obtain ⟨effective, allowed⟩ := Accounts.mem_retainedCaps.mp inside
    obtain ⟨other, stored, granted⟩ := Accounts.mem_effectiveCaps.mp effective
    refine Accounts.mem_retainedCaps.mpr ⟨Accounts.mem_effectiveCaps.mpr ⟨other, ?_, ?_⟩, allowed⟩
    · rw [added]
      exact Finset.mem_insert_of_mem stored
    · rwa [sameCaps]
  refine ⟨_, Accounts.loadAuthedUser_eq_ok.mpr ⟨row, isRowAfter, active, rfl⟩, ?_⟩
  rcases hasCap_iff.mp capable with wildcard | granted
  · exact hasCap_iff.mpr (Or.inl (kept _ wildcard))
  · exact hasCap_iff.mpr (Or.inr (kept _ granted))

end Assigned

/-- The text of a rejected descriptor does not start like that of a missing channel scope. -/
theorem head?_validationText (reason : ValidationError) : reason.text.toList.head? ≠ some 'i' := by
  cases reason with
  | emptyComponents => decide
  | unknownComponent name =>
    have text : (ValidationError.unknownComponent name).text = "unknown component: " ++ name := rfl
    have head : "unknown component: ".toList.head? = some 'u' := by decide
    rw [text, String.toList_append, List.head?_append, head, Option.some_or]
    decide

theorem not_scopeRefusal_validation (reason : ValidationError) :
    ¬ ScopeRefusal ⟨.badRequest, reason.text⟩ := by
  rintro (same | ⟨value, same⟩)
  · simp at same
  · have text : reason.text = "insufficient scope for channel/type '" ++ value ++ "'" :=
      congrArg AuthError.detail same
    have head : "insufficient scope for channel/type '".toList.head? = some 'i' := by decide
    apply head?_validationText reason
    rw [text, String.toList_append, String.toList_append, List.head?_append, List.head?_append,
      head, Option.some_or, Option.some_or]

variable {site : Site} {email : String} {body : SubmitBuildBody}

/-- Whoever is refused on scope grounds has the capability and a valid descriptor. -/
theorem scope_refusal_passed {env : Env} {state : AppState} {reason : AuthError}
    (refused : ((submitBuildAs env site email body).run state).2 = .error reason)
    (ground : ScopeRefusal reason) :
    ∃ user, site.accounts.loadAuthedUser email = .ok user ∧
      user.hasCap "builds:create" = true ∧ KnownComponents site body.descriptor := by
  rcases submitBuildAs_eq_error.mp refused with unauthorized | ⟨user, loaded, rejected⟩
  · exfalso
    simp only [Accounts.loadAuthedUser, bind_eq_error, orError_eq_error, orError_eq_ok,
      require_eq_error] at unauthorized
    rcases unauthorized with ⟨-, rfl⟩ | ⟨row, -, ⟨-, rfl⟩ | ⟨_, -, impossible⟩⟩
    · simp [ScopeRefusal] at ground
    · simp [ScopeRefusal] at ground
    · cases impossible
  · refine ⟨user, loaded, ?_⟩
    simp only [admitBuild, checkScopes, bind_assoc] at rejected
    rw [bind_eq_error] at rejected
    rcases rejected with incapable | ⟨_, capable, rejected⟩
    · exfalso
      unfold requireCap at incapable
      split_ifs at incapable
      obtain rfl := Except.error.inj incapable
      simp [ScopeRefusal] at ground
    · rw [bind_eq_error] at rejected
      rcases rejected with invalid | ⟨_, valid, -⟩
      · obtain ⟨original, -, rfl⟩ := mapError_eq_error.mp invalid
        exact absurd ground (not_scopeRefusal_validation original)
      · exact ⟨requireCap_eq_ok.mp capable, validateDescriptor_eq_ok.mp (mapError_eq_ok.mp valid)⟩

theorem channelAdmitted_congr (site site' : Site) {descriptor : BuildDescriptor}
    {allowed allowed' : String → Prop}
    (sameUser : site'.accounts.getUser email = site.accounts.getUser email)
    (sameChannels : site'.channels = site.channels)
    (sameAllowed : ∀ value, allowed' value ↔ allowed value) :
    ChannelAdmitted site' email descriptor allowed' ↔
      ChannelAdmitted site email descriptor allowed := by
  simp only [ChannelAdmitted, sameUser, sameChannels, sameAllowed]

/-- With one more role assigned, a valid build of a capable caller is accepted exactly when the
scopes of that role close the gap. -/
theorem accepted_with_role_iff (env : Env)
    (state : AppState) {role : RoleName} {after : Accounts} {user : AuthUser}
    (loaded : site.accounts.loadAuthedUser email = .ok user)
    (capable : user.hasCap "builds:create" = true) (known : KnownComponents site body.descriptor)
    (assigned : site.accounts.addUserRole email role = some after) :
    (∃ response, ((submitBuildAs env { site with accounts := after } email body).run state).2 =
        .ok response) ↔
      ClosesGap site email role body.descriptor := by
  obtain ⟨user', loadedAfter, capableAfter⟩ := hasCap_addUserRole assigned loaded capable
  have sameUser : after.getUser email = site.accounts.getUser email := by
    rw [Accounts.getUser, (addUserRole_eq_some assigned).2.1]
    rfl
  rw [submits_iff, ClosesGap, ← repositoriesCovered_addUserRole assigned,
    ← channelAdmitted_congr site { site with accounts := after } sameUser rfl
      (fun _ => channelCovered_addUserRole assigned)]
  constructor
  · rintro ⟨_, -, -, -, covered, admitted⟩
    exact ⟨covered, admitted⟩
  · rintro ⟨covered, admitted⟩
    exact ⟨user', loadedAfter, capableAfter, known, covered, admitted⟩

/-- A submission that is refused on scope grounds is refused with one more role assigned exactly
when the scopes of that role do not close the gap. -/
theorem refused_with_role_iff {env : Env} {site : Site} {email : String} {body : SubmitBuildBody}
    {state : AppState} {reason : AuthError} {role : RoleName} {after : Accounts}
    (refused : ((submitBuildAs env site email body).run state).2 = .error reason)
    (ground : ScopeRefusal reason) (assigned : site.accounts.addUserRole email role = some after) :
    (∃ reason', ((submitBuildAs env { site with accounts := after } email body).run state).2 =
        .error reason') ↔
      ¬ ClosesGap site email role body.descriptor := by
  obtain ⟨user, loaded, capable, known⟩ := scope_refusal_passed refused ground
  rw [← accepted_with_role_iff env state loaded capable known assigned, exists_ok_iff]
  simp only [ne_eq, not_forall, not_not]

/-- A role with a scope for another channel changes nothing. -/
theorem refused_with_auditor :
    ∃ after, restrictedAccounts.addUserRole "bob@example.com" "auditor" = some after ∧
      ∃ reason, ((submitBuildAs .smooth { restrictedSite with accounts := after } "bob@example.com"
        forkedBody).run freshServer).2 = .error reason := by
  have assigned : restrictedAccounts.addUserRole "bob@example.com" "auditor" = some _ :=
    dif_pos ⟨by decide, by decide⟩
  refine ⟨_, assigned, (refused_with_role_iff (bob_refused _ _) (Or.inl rfl) assigned).mpr ?_⟩
  rintro ⟨covered, -⟩
  revert covered
  decide

/-- The role of a viewer lets nobody build, but with it the refused build is accepted. -/
theorem viewer_widens :
    ("viewer", "builds:create") ∉ restrictedAccounts.roleCaps ∧
      ("viewer", "*") ∉ restrictedAccounts.roleCaps ∧
      ((submitBuildAs .smooth restrictedSite "bob@example.com" forkedBody).run freshServer).2 =
        .error ⟨.forbidden, "insufficient scopes"⟩ ∧
      ∃ after response, restrictedAccounts.addUserRole "bob@example.com" "viewer" = some after ∧
        ((submitBuildAs .smooth { restrictedSite with accounts := after } "bob@example.com"
          forkedBody).run freshServer).2 = .ok response := by
  obtain ⟨user, loaded, capable⟩ := loads_bob
  have assigned : restrictedAccounts.addUserRole "bob@example.com" "viewer" = some _ :=
    dif_pos ⟨by decide, by decide⟩
  have closes : ClosesGap restrictedSite "bob@example.com" "viewer" forkedBody.descriptor :=
    ⟨Or.inr (by decide), _, 1, _, 1, _, rfl, ⟨rfl, rfl, rfl, rfl, rfl, rfl, rfl⟩,
      Or.inl (by decide), by decide⟩
  obtain ⟨response, accepted⟩ :=
    (accepted_with_role_iff .smooth freshServer loaded capable (by decide) assigned).mpr closes
  exact ⟨by decide, by decide, bob_refused _ _, _, response, assigned, accepted⟩

end Cbs

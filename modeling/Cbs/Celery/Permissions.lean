import Cbs.Library.Dictionary
import Mathlib.Data.Finset.Insert
import Mathlib.Data.Finset.Lattice.Basic

/-!
# Permissions of the Celery service

Rules give users authorizations of their own and those of groups.  A check looks for one rule that
grants all requested capabilities, while the listing of a user's authorizations merges everything.
-/

namespace Cbs

/-- Capabilities on projects and builds. -/
inductive AuthorizationCap where
  | buildsCreate
  | buildsRevokeOwn
  | buildsRevokeAny
  | buildsListOwn
  | buildsListAny
  | projectList
  | projectManage
  deriving DecidableEq

/-- Capabilities on the routes of the service. -/
inductive RoutesCap where
  | authPermissions
  | authLogin
  | buildsNew
  | buildsRevoke
  | buildsStatus
  | buildsInspect
  | periodicBuildsNew
  | periodicBuildsList
  | periodicBuildsUpdate
  deriving DecidableEq

inductive AuthorizationEntry where
  | registry (pattern : String)
  | repository (pattern : String)
  | project (pattern : String) (caps : Finset AuthorizationCap)
  | routes (caps : Finset RoutesCap)

structure UserAuthorizationRule where
  userPattern : String
  groups : List String := []
  authorizedFor : List AuthorizationEntry := []

structure Permissions where
  groups : String → Option (List AuthorizationEntry)
  rules : List UserAuthorizationRule

/-- Regular expressions: whether a pattern matches at the start of a text. -/
abbrev PatternMatch : Type :=
  String → String → Bool

/-- Capabilities of one kind: what an entry grants, if it is of that kind and applies. -/
abbrev Grants (κ : Type) : Type :=
  AuthorizationEntry → Finset κ

def projectGrants (re : PatternMatch) (project : String) : Grants AuthorizationCap
  | .project pattern caps => if project = "" ∨ re pattern project then caps else ∅
  | _ => ∅

def routesGrants : Grants RoutesCap
  | .routes caps => caps
  | _ => ∅

section Checks

variable {κ : Type} [DecidableEq κ]

def aggregatedCaps (grants : Grants κ) (entries : List AuthorizationEntry) : Finset κ :=
  entries.foldl (fun caps entry => caps ∪ grants entry) ∅

def isAuthorizedForCaps (grants : Grants κ) (entries : List AuthorizationEntry)
    (caps : Finset κ) : Bool :=
  caps ∩ aggregatedCaps grants entries = caps

/-- The entries of the groups of a rule; unknown groups have none. -/
def UserAuthorizationRule.groupEntries (rule : UserAuthorizationRule)
    (groups : String → Option (List AuthorizationEntry)) : List AuthorizationEntry :=
  rule.groups.flatMap fun group => (groups group).getD []

def isAuthorizedForCapsType (grants : Grants κ) (groups : String → Option (List AuthorizationEntry))
    (rule : UserAuthorizationRule) (caps : Finset κ) : Bool :=
  isAuthorizedForCaps grants rule.authorizedFor caps ||
    isAuthorizedForCaps grants (rule.groupEntries groups) caps

/-- Some rule for the user grants the capabilities. -/
def Permissions.isAuthorized (permissions : Permissions) (re : PatternMatch) (grants : Grants κ)
    (user : String) (caps : Finset κ) : Bool :=
  permissions.rules.any fun rule =>
    re rule.userPattern user && isAuthorizedForCapsType grants permissions.groups rule caps

end Checks

namespace Permissions

variable (permissions : Permissions) (re : PatternMatch) (user : String)

def isAuthorizedForProject (project : String) (caps : Finset AuthorizationCap) : Bool :=
  permissions.isAuthorized re (projectGrants re project) user caps

def isAuthorizedForRoute (caps : Finset RoutesCap) : Bool :=
  permissions.isAuthorized re routesGrants user caps

def rulesFor : List UserAuthorizationRule :=
  permissions.rules.filter fun rule => re rule.userPattern user

/-- Add the entries of a group to those listed for it. -/
def listGroup (listed : Dictionary String (List AuthorizationEntry)) (group : String) :
    Dictionary String (List AuthorizationEntry) :=
  listed.insert group ((listed.lookup group).getD [] ++ (permissions.groups group).getD [])

/-- The own entries of the rules for a user, and the entries by group. -/
def listCapsFor : List AuthorizationEntry × Dictionary String (List AuthorizationEntry) :=
  ((permissions.rulesFor re user).flatMap (·.authorizedFor),
    ((permissions.rulesFor re user).flatMap (·.groups)).foldl permissions.listGroup ∅)

def listedEntries : List AuthorizationEntry :=
  (permissions.listCapsFor re user).1 ++ (permissions.listCapsFor re user).2.entries.flatMap (·.2)

end Permissions

/-- A check depends on the granted capabilities only. -/
def GrantedOnly {κ : Type} [DecidableEq κ] (check : Finset κ → Bool) (granted : Finset κ) : Prop :=
  (∀ first second, check (first ∪ second) = true ↔ check first = true ∧ check second = true) ∧
    ∀ caps, check caps = true ↔ caps ⊆ granted

/-- One rule for the user grants the capabilities, by its own entries or by those of its groups. -/
def Permissions.OneRuleGrants (permissions : Permissions) (re : PatternMatch) {κ : Type}
    [DecidableEq κ] (grants : Grants κ) (user : String) (caps : Finset κ) : Prop :=
  ∃ rule ∈ permissions.rulesFor re user,
    caps ⊆ aggregatedCaps grants rule.authorizedFor ∨
      caps ⊆ aggregatedCaps grants (rule.groupEntries permissions.groups)

/-- The own entries of one rule for the user and those of its groups have the capabilities between
them. -/
def Permissions.OneRuleCovers (permissions : Permissions) (re : PatternMatch) {κ : Type}
    [DecidableEq κ] (grants : Grants κ) (user : String) (caps : Finset κ) : Prop :=
  ∃ rule ∈ permissions.rulesFor re user,
    caps ⊆ aggregatedCaps grants (rule.authorizedFor ++ rule.groupEntries permissions.groups)

/-- The capabilities of all listed entries of a user. -/
def Permissions.listedCaps (permissions : Permissions) (re : PatternMatch) {κ : Type}
    [DecidableEq κ] (grants : Grants κ) (user : String) : Finset κ :=
  aggregatedCaps grants (permissions.listedEntries re user)

/-- A check goes rule by rule: what it accepts is covered by one rule, and what one rule grants is
accepted. -/
structure Permissions.RuleByRule (permissions : Permissions) (re : PatternMatch) {κ : Type}
    [DecidableEq κ] (grants : Grants κ) (user : String) (check : Finset κ → Bool) : Prop where
  covered : ∀ caps, check caps = true → permissions.OneRuleCovers re grants user caps
  listed : ∀ caps, check caps = true → caps ⊆ permissions.listedCaps re grants user
  granted : ∀ caps, permissions.OneRuleGrants re grants user caps → check caps = true
  parts : ∀ first second, check (first ∪ second) = true →
    check first = true ∧ check second = true
  whole : permissions.OneRuleGrants re grants user (permissions.listedCaps re grants user) →
    GrantedOnly check (permissions.listedCaps re grants user)

section Law

variable {κ : Type} [DecidableEq κ] {grants : Grants κ} {permissions : Permissions}
  {re : PatternMatch} {user : String}

theorem mem_aggregatedCaps {entries : List AuthorizationEntry} {cap : κ} :
    cap ∈ aggregatedCaps grants entries ↔ ∃ entry ∈ entries, cap ∈ grants entry := by
  have accumulated : ∀ caps, cap ∈ entries.foldl (fun caps entry => caps ∪ grants entry) caps ↔
      cap ∈ caps ∨ ∃ entry ∈ entries, cap ∈ grants entry := by
    induction entries with
    | nil => simp
    | cons entry entries ih =>
      intro caps
      rw [List.foldl_cons, ih, Finset.mem_union, or_assoc, List.exists_mem_cons_iff]
  rw [aggregatedCaps, accumulated, or_iff_right (Finset.notMem_empty cap)]

theorem aggregatedCaps_mono {first second : List AuthorizationEntry} (sub : first ⊆ second) :
    aggregatedCaps grants first ⊆ aggregatedCaps grants second := by
  intro cap granted
  obtain ⟨entry, inside, has⟩ := mem_aggregatedCaps.mp granted
  exact mem_aggregatedCaps.mpr ⟨entry, sub inside, has⟩

theorem isAuthorized_iff {caps : Finset κ} :
    permissions.isAuthorized re grants user caps = true ↔
      permissions.OneRuleGrants re grants user caps := by
  simp only [Permissions.isAuthorized, isAuthorizedForCapsType, isAuthorizedForCaps,
    Permissions.OneRuleGrants, Permissions.rulesFor, List.any_eq_true, Bool.and_eq_true,
    Bool.or_eq_true, decide_eq_true_eq, Finset.inter_eq_left, List.mem_filter, and_assoc]

theorem listed_own {rule : UserAuthorizationRule} (forUser : rule ∈ permissions.rulesFor re user) :
    rule.authorizedFor ⊆ permissions.listedEntries re user :=
  fun _ inside => List.mem_append_left _ (List.mem_flatMap.mpr ⟨rule, forUser, inside⟩)

theorem listed_listGroup {listed : Dictionary String (List AuthorizationEntry)}
    {group other : String} {entry : AuthorizationEntry}
    (has : entry ∈ (listed.lookup group).getD [] ∨
      group = other ∧ entry ∈ (permissions.groups group).getD []) :
    entry ∈ ((permissions.listGroup listed other).lookup group).getD [] := by
  rw [Permissions.listGroup, Dictionary.lookup_insert_eq]
  by_cases same : group = other
  · subst same
    simpa using has
  · simpa [same] using has

theorem listed_foldl {groups : List String} {listed : Dictionary String (List AuthorizationEntry)}
    {group : String} {entry : AuthorizationEntry}
    (has : entry ∈ (listed.lookup group).getD [] ∨
      group ∈ groups ∧ entry ∈ (permissions.groups group).getD []) :
    entry ∈ ((groups.foldl permissions.listGroup listed).lookup group).getD [] := by
  induction groups generalizing listed with
  | nil => simpa using has
  | cons first groups ih =>
    rw [List.mem_cons, or_and_right, ← or_assoc] at has
    exact ih (has.imp listed_listGroup id)

theorem listed_groups {rule : UserAuthorizationRule}
    (forUser : rule ∈ permissions.rulesFor re user) :
    rule.groupEntries permissions.groups ⊆ permissions.listedEntries re user := by
  intro entry inside
  obtain ⟨group, isGroup, has⟩ := List.mem_flatMap.mp inside
  have listed : entry ∈ ((permissions.listCapsFor re user).2.lookup group).getD [] :=
    listed_foldl (Or.inr ⟨List.mem_flatMap.mpr ⟨rule, forUser, isGroup⟩, has⟩)
  cases found : (permissions.listCapsFor re user).2.lookup group with
  | none => simp [found] at listed
  | some entries =>
    rw [found] at listed
    exact List.mem_append_right _
      (List.mem_flatMap.mpr ⟨⟨group, entries⟩, AList.mem_lookup_iff.mp found, listed⟩)

theorem subset_listed_of_isAuthorized {caps : Finset κ}
    (authorized : permissions.isAuthorized re grants user caps = true) :
    caps ⊆ permissions.listedCaps re grants user := by
  obtain ⟨rule, forUser, own | byGroups⟩ := isAuthorized_iff.mp authorized
  · exact own.trans (aggregatedCaps_mono (listed_own forUser))
  · exact byGroups.trans (aggregatedCaps_mono (listed_groups forUser))

theorem isAuthorized_mono {caps part : Finset κ} (sub : part ⊆ caps)
    (authorized : permissions.isAuthorized re grants user caps = true) :
    permissions.isAuthorized re grants user part = true := by
  obtain ⟨rule, forUser, grantsAll⟩ := isAuthorized_iff.mp authorized
  exact isAuthorized_iff.mpr ⟨rule, forUser, grantsAll.imp sub.trans sub.trans⟩

theorem ruleByRule_isAuthorized (permissions : Permissions) (re : PatternMatch) (grants : Grants κ)
    (user : String) :
    permissions.RuleByRule re grants user (permissions.isAuthorized re grants user) where
  covered caps authorized := by
    obtain ⟨rule, forUser, own | byGroups⟩ := isAuthorized_iff.mp authorized
    · exact ⟨rule, forUser, own.trans (aggregatedCaps_mono (List.subset_append_left ..))⟩
    · exact ⟨rule, forUser, byGroups.trans (aggregatedCaps_mono (List.subset_append_right ..))⟩
  listed _ := subset_listed_of_isAuthorized
  granted _ := isAuthorized_iff.mpr
  parts _ _ authorized :=
    ⟨isAuthorized_mono Finset.subset_union_left authorized,
      isAuthorized_mono Finset.subset_union_right authorized⟩
  whole all := by
    have exactly : ∀ caps, permissions.isAuthorized re grants user caps = true ↔
        caps ⊆ permissions.listedCaps re grants user :=
      fun caps => ⟨subset_listed_of_isAuthorized,
        fun listed => isAuthorized_mono listed (isAuthorized_iff.mpr all)⟩
    refine ⟨fun first second => ?_, exactly⟩
    rw [exactly, exactly, exactly, Finset.union_subset_iff]

end Law

/-- Authorization for projects and for routes goes rule by rule. -/
theorem authorized_rule_by_rule (permissions : Permissions) (re : PatternMatch)
    (user project : String) :
    permissions.RuleByRule re (projectGrants re project) user
        (permissions.isAuthorizedForProject re user project) ∧
      permissions.RuleByRule re routesGrants user (permissions.isAuthorizedForRoute re user) :=
  ⟨ruleByRule_isAuthorized .., ruleByRule_isAuthorized ..⟩

/-- A user who may create builds by one rule and list them by another may not do both at once. -/
theorem caps_of_two_rules_refused :
    let grant (cap : AuthorizationCap) : UserAuthorizationRule :=
      { userPattern := ".*", authorizedFor := [.project ".*" {cap}] }
    let permissions : Permissions := ⟨fun _ => none, [grant .buildsCreate, grant .buildsListAny]⟩
    let check := permissions.isAuthorizedForProject (fun _ _ => true) "dev@domain.tld" "dev/a"
    check {.buildsCreate} = true ∧ check {.buildsListAny} = true ∧
      check ({.buildsCreate} ∪ {.buildsListAny}) = false := by
  decide

end Cbs

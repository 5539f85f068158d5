import Cbs.Server.Admission

/-!
# The channels that a user sees

A user may build for a type of a channel if a channel scope of some role matches channel and type
together, and sees the channel if such a scope names it.  A scope with a wildcard inside the name
does the first only.
-/

namespace Cbs

open Checks

def scopeCoversChannel (pattern channelName : String) : Bool :=
  if pattern = "*" then true else Text.startsWith pattern (channelName ++ "/")

def AssignmentWithScopes.covers (assignment : AssignmentWithScopes) (channelName : String) : Bool :=
  assignment.scopes.isEmpty ||
    assignment.scopes.any fun scope =>
      scope.scopeType = "channel" && scopeCoversChannel scope.pattern channelName

/-- The user sees the channel, by a capability or by some role. -/
def Accounts.userCanViewChannel (accounts : Accounts) (user : AuthUser) (channelName : String) :
    Bool :=
  user.hasCap "*" || user.hasCap "channels:manage" || user.hasCap "channels:view" ||
    (accounts.getUserAssignmentsWithScopes user.email).any (·.covers channelName)

structure TypeResponse where
  id : Int
  typeName : VersionType
  project : String
  prefixTemplate : String
  deriving DecidableEq

structure ChannelResponse where
  id : Int
  name : String
  defaultTypeId : Option Int
  types : List TypeResponse
  deriving DecidableEq

namespace Channels

def listActiveChannels (channels : Channels) : List ChannelRecord :=
  ((channels.channels.entries.filter fun entry => !entry.2.deleted).map fun entry =>
    (⟨entry.1, entry.2.name, entry.2.defaultTypeId⟩ : ChannelRecord)).mergeSort
      fun first second => first.name ≤ second.name

def listTypesForChannel (channels : Channels) (channelId : Int) : List TypeResponse :=
  ((channels.types.entries.filter fun entry =>
    entry.2.channelId = channelId && !entry.2.deleted).map fun entry =>
      (⟨entry.1, entry.2.typeName, entry.2.project, entry.2.prefixTemplate⟩ :
        TypeResponse)).mergeSort fun first second => first.typeName.asStr ≤ second.typeName.asStr

def buildChannelResponse (channels : Channels) (channel : ChannelRecord) : ChannelResponse :=
  ⟨channel.id, channel.name, channel.defaultTypeId, channels.listTypesForChannel channel.id⟩

end Channels

namespace Site

def listChannels (site : Site) (user : AuthUser) : List ChannelResponse :=
  (site.channels.listActiveChannels.filter fun channel =>
    site.accounts.userCanViewChannel user channel.name).map site.channels.buildChannelResponse

def getChannel (site : Site) (user : AuthUser) (id : Int) : Except AuthError ChannelResponse := do
  let channel ← orError ⟨.notFound, "channel not found"⟩ (site.channels.getChannelById id)
  require (site.accounts.userCanViewChannel user channel.name) ⟨.notFound, "channel not found"⟩
  pure (site.channels.buildChannelResponse channel)

/-- The channel is in the list of the user and can be looked up. -/
def Shows (site : Site) (user : AuthUser) (id : Int) : Prop :=
  (∃ response ∈ site.listChannels user, response.id = id) ∧
    ∃ response, site.getChannel user id = .ok response ∧ response.id = id

end Site

/-- The wildcard of the pattern stands inside the name of the channel, or right behind it. -/
def WildcardWithin (pattern channelName : String) : Prop :=
  ∃ stem, stem ≠ "" ∧ pattern = stem ++ "*" ∧ Text.startsWith channelName stem = true

section Patterns

variable {pattern channelName typeName : String}

instance : Decidable (WildcardWithin pattern channelName) :=
  decidable_of_iff
    (pattern ≠ "*" ∧ (Text.stripSuffix pattern '*').any (Text.startsWith channelName) = true) (by
      rw [Option.any_eq_true]
      constructor
      · rintro ⟨restricted, stem, stripped, starts⟩
        have whole : pattern = stem ++ "*" := String.toList_injective (by
          rw [Text.stripSuffix_eq_some.mp stripped, String.toList_append]
          rfl)
        exact ⟨stem, by rintro rfl; exact restricted whole, whole, starts⟩
      · rintro ⟨stem, nonempty, rfl, starts⟩
        have stripped : Text.stripSuffix (stem ++ "*") '*' = some stem := by
          rw [Text.stripSuffix_eq_some, String.toList_append]
          rfl
        refine ⟨fun everything => nonempty ?_, stem, stripped, starts⟩
        exact Option.some.inj (stripped.symm.trans (congrArg (Text.stripSuffix · '*') everything)))

theorem scopeCoversChannel_iff :
    scopeCoversChannel pattern channelName = true ↔
      pattern = "*" ∨ Text.startsWith pattern (channelName ++ "/") = true := by
  unfold scopeCoversChannel
  split_ifs with everything <;> simp [everything]

theorem scopePatternMatches_of_wildcardWithin (within : WildcardWithin pattern channelName) :
    scopePatternMatches pattern (channelName ++ "/" ++ typeName) = true := by
  obtain ⟨stem, -, rfl, starts⟩ := within
  have stripped : Text.stripSuffix (stem ++ "*") '*' = some stem := by
    rw [Text.stripSuffix_eq_some, String.toList_append]
    rfl
  have longer : Text.startsWith (channelName ++ "/" ++ typeName) stem = true := by
    rw [Text.startsWith_iff] at starts ⊢
    rw [String.toList_append, String.toList_append, List.append_assoc]
    exact starts.trans (List.prefix_append ..)
  unfold scopePatternMatches
  split_ifs
  · rfl
  · rw [stripped]
    exact longer

theorem covers_or_within_of_matches
    (found : scopePatternMatches pattern (channelName ++ "/" ++ typeName) = true) :
    scopeCoversChannel pattern channelName = true ∨ WildcardWithin pattern channelName := by
  rw [scopeCoversChannel_iff]
  unfold scopePatternMatches at found
  split_ifs at found with everything
  · exact Or.inl (Or.inl everything)
  · have value : (channelName ++ "/" ++ typeName).toList =
        (channelName.toList ++ ['/']) ++ typeName.toList := by
      rw [String.toList_append, String.toList_append]
      rfl
    have slash : (channelName ++ "/").toList = channelName.toList ++ ['/'] := by
      rw [String.toList_append]
      rfl
    cases stripped : Text.stripSuffix pattern '*' with
    | none =>
      rw [stripped, decide_eq_true_eq] at found
      refine Or.inl (Or.inr ?_)
      rw [found, Text.startsWith_iff, value, slash]
      exact List.prefix_append ..
    | some stem =>
      rw [stripped] at found
      have whole := Text.stripSuffix_eq_some.mp stripped
      have starts := Text.startsWith_iff.mp found
      rw [value] at starts
      -- either the stem reaches behind the slash or it ends before
      rcases List.prefix_or_prefix_of_prefix starts (List.prefix_append ..) with short | long
      · rcases List.prefix_concat_iff.mp short with same | within
        · refine Or.inl (Or.inr ?_)
          rw [Text.startsWith_iff, slash, whole, same]
          exact List.prefix_append ..
        · refine Or.inr ⟨stem, ?_, ?_, Text.startsWith_iff.mpr within⟩
          · rintro rfl
            exact everything (String.toList_injective whole)
          · refine String.toList_injective ?_
            rw [whole, String.toList_append]
            rfl
      · refine Or.inl (Or.inr ?_)
        rw [Text.startsWith_iff, slash, whole]
        exact long.trans (List.prefix_append ..)

end Patterns

namespace Accounts

/-- A role of the user has a channel scope whose wildcard stands inside the name of the channel, and
nothing else that the user has is for the channel. -/
structure Hides (accounts : Accounts) (user : AuthUser) (channelName : String) : Prop where
  wildcard : ∃ role, (user.email, role) ∈ accounts.userRoles ∧
    ∃ scope ∈ accounts.scopesOf role,
      scope.scopeType = "channel" ∧ WildcardWithin scope.pattern channelName
  incapable : "*" ∉ user.caps ∧ "channels:manage" ∉ user.caps ∧ "channels:view" ∉ user.caps
  restricted : ∀ role, (user.email, role) ∈ accounts.userRoles → accounts.scopesOf role ≠ ∅
  unnamed : ∀ role, (user.email, role) ∈ accounts.userRoles → ∀ scope ∈ accounts.scopesOf role,
    scope.scopeType = "channel" →
      scope.pattern ≠ "*" ∧ Text.startsWith scope.pattern (channelName ++ "/") = false

variable {accounts : Accounts} {user : AuthUser} {channelName : String}

theorem covers_iff {role : RoleName} {caps : List Cap} :
    AssignmentWithScopes.covers ⟨role, caps, accounts.getRoleScopes role⟩ channelName = true ↔
      accounts.scopesOf role = ∅ ∨ ∃ scope ∈ accounts.scopesOf role,
        scope.scopeType = "channel" ∧ scopeCoversChannel scope.pattern channelName = true := by
  simp only [AssignmentWithScopes.covers, Bool.or_eq_true, getRoleScopes_isEmpty,
    List.any_eq_true, mem_getRoleScopes, Bool.and_eq_true, decide_eq_true_eq, mem_scopesOf]

theorem userCanViewChannel_iff :
    accounts.userCanViewChannel user channelName = true ↔
      ("*" ∈ user.caps ∨ "channels:manage" ∈ user.caps ∨ "channels:view" ∈ user.caps) ∨
        ∃ role, (user.email, role) ∈ accounts.userRoles ∧
          (accounts.scopesOf role = ∅ ∨ ∃ scope ∈ accounts.scopesOf role,
            scope.scopeType = "channel" ∧ scopeCoversChannel scope.pattern channelName = true) := by
  simp only [userCanViewChannel, Bool.or_eq_true, any_assignment_iff, covers_iff, hasCap_iff]
  exact or_congr_left (by tauto)

theorem not_hides_of_userCanViewChannel
    (views : accounts.userCanViewChannel user channelName = true) :
    ¬ accounts.Hides user channelName := by
  intro hides
  rcases userCanViewChannel_iff.mp views with capable | ⟨role, assigned, empty | covered⟩
  · obtain ⟨all, manage, view⟩ := hides.incapable
    exact capable.elim all fun either => either.elim manage view
  · exact hides.restricted role assigned empty
  · obtain ⟨scope, inside, isChannel, covers⟩ := covered
    obtain ⟨other, unnamed⟩ := hides.unnamed role assigned scope inside isChannel
    rcases scopeCoversChannel_iff.mp covers with everything | named
    · exact other everything
    · exact Bool.false_ne_true (unnamed.symm.trans named)

/-- A user who may build a type of a channel sees the channel, unless it is hidden. -/
theorem userCanViewChannel_of_checkChannelScope {typeName : String}
    (allowed : accounts.checkChannelScope user.email (channelName ++ "/" ++ typeName) = true)
    (shown : ¬ accounts.Hides user channelName) :
    accounts.userCanViewChannel user channelName = true := by
  by_contra unseen
  obtain ⟨incapable, nobody⟩ := not_or.mp (mt userCanViewChannel_iff.mpr unseen)
  obtain ⟨role, assigned, empty | ⟨scope, inside, isChannel, found⟩⟩ :=
    checkChannelScope_iff.mp allowed
  · exact nobody ⟨role, assigned, Or.inl empty⟩
  · rcases covers_or_within_of_matches found with covers | within
    · exact nobody ⟨role, assigned, Or.inr ⟨scope, inside, isChannel, covers⟩⟩
    · refine shown ⟨⟨role, assigned, scope, inside, isChannel, within⟩, ?_, ?_, ?_⟩
      · exact ⟨fun all => incapable (Or.inl all), fun manage => incapable (Or.inr (Or.inl manage)),
          fun view => incapable (Or.inr (Or.inr view))⟩
      · exact fun other given empty => nobody ⟨other, given, Or.inl empty⟩
      · intro other given named present isNamed
        have uncovered : ¬ scopeCoversChannel named.pattern channelName = true := fun covers =>
          nobody ⟨other, given, Or.inr ⟨named, present, isNamed, covers⟩⟩
        obtain ⟨restricted, apart⟩ := not_or.mp (mt scopeCoversChannel_iff.mpr uncovered)
        exact ⟨restricted, Bool.eq_false_iff.mpr apart⟩

theorem checkChannelScope_of_hides {typeName : String} (hides : accounts.Hides user channelName) :
    accounts.checkChannelScope user.email (channelName ++ "/" ++ typeName) = true := by
  obtain ⟨role, assigned, scope, inside, isChannel, within⟩ := hides.wildcard
  exact checkChannelScope_iff.mpr ⟨role, assigned, Or.inr
    ⟨scope, inside, isChannel, scopePatternMatches_of_wildcardWithin within⟩⟩

end Accounts

namespace Site

theorem mem_listActiveChannels {channels : Channels} {record : ChannelRecord} :
    record ∈ channels.listActiveChannels ↔ channels.getChannelById record.id = some record := by
  obtain ⟨id, name, defaultTypeId⟩ := record
  simp only [Channels.listActiveChannels, List.mem_mergeSort, List.mem_map, List.mem_filter,
    Bool.not_eq_true', Channels.getChannelById_eq_some]
  constructor
  · rintro ⟨⟨key, row⟩, ⟨inside, active⟩, same⟩
    obtain ⟨rfl, -, -⟩ := ChannelRecord.mk.inj same
    exact ⟨row, AList.mem_lookup_iff.mpr inside, active, same.symm⟩
  · rintro ⟨row, stored, active, same⟩
    exact ⟨⟨id, row⟩, ⟨AList.mem_lookup_iff.mp stored, active⟩, same.symm⟩

variable {site : Site} {user : AuthUser} {channelId : Int} {name : String}
  {defaultTypeId : Option Int}
  (found : site.channels.getChannelById channelId = some ⟨channelId, name, defaultTypeId⟩)
include found

theorem getChannel_eq_ok {response : ChannelResponse} :
    site.getChannel user channelId = .ok response ↔
      site.accounts.userCanViewChannel user name = true ∧
        site.channels.buildChannelResponse ⟨channelId, name, defaultTypeId⟩ = response := by
  simp only [getChannel, bind_eq_ok, orError_eq_ok, require_eq_ok, pure_eq_ok, found,
    Option.some.injEq, exists_eq_left']
  exact exists_const Unit

theorem listed_iff :
    (∃ response ∈ site.listChannels user, response.id = channelId) ↔
      site.accounts.userCanViewChannel user name = true := by
  simp only [listChannels, List.mem_map, List.mem_filter, mem_listActiveChannels]
  constructor
  · rintro ⟨_, ⟨record, ⟨isRecord, views⟩, rfl⟩, rfl⟩
    have named : record.name = name :=
      congrArg ChannelRecord.name (Option.some.inj (isRecord.symm.trans found))
    rwa [named] at views
  · intro views
    exact ⟨_, ⟨⟨channelId, name, defaultTypeId⟩, ⟨found, views⟩, rfl⟩, rfl⟩

theorem shows_iff :
    site.Shows user channelId ↔ site.accounts.userCanViewChannel user name = true := by
  constructor
  · rintro ⟨listed, -⟩
    exact (listed_iff found).mp listed
  · intro views
    exact ⟨(listed_iff found).mpr views, _, (getChannel_eq_ok found).mpr ⟨views, rfl⟩, rfl⟩

end Site

/-- Every channel that a user may build in is visible, exactly when it is not hidden from the
user. -/
theorem buildable_channel_visible {site : Site} {user : AuthUser} {channelId : Int}
    {channel : ChannelRow} (type : ChannelTypeRow)
    (stored : site.channels.channels.lookup channelId = some channel)
    (active : channel.deleted = false) :
    (site.accounts.checkChannelScope user.email (channelScopeValue channel type) = true →
        site.accounts.userCanViewChannel user channel.name = true ∧ site.Shows user channelId) ↔
      ¬ site.accounts.Hides user channel.name := by
  have found : site.channels.getChannelById channelId = some _ :=
    Channels.getChannelById_eq_some.mpr ⟨channel, stored, active, rfl⟩
  rw [Site.shows_iff found, and_self_iff]
  constructor
  · intro visible hides
    exact Accounts.not_hides_of_userCanViewChannel
      (visible (Accounts.checkChannelScope_of_hides hides)) hides
  · intro shown allowed
    exact Accounts.userCanViewChannel_of_checkChannelScope allowed shown

def restrictedUser : AuthUser :=
  ⟨"bob@example.com", "Bob", restrictedAccounts.retainedCaps "bob@example.com" false, false⟩

/-- The restricted builder sees the channel that its role is for. -/
theorem restricted_channel_visible :
    ¬ restrictedSite.accounts.Hides restrictedUser "ces" ∧
      restrictedSite.accounts.checkChannelScope "bob@example.com" "ces/dev" = true ∧
      restrictedSite.Shows restrictedUser 1 := by
  have named : (⟨"channel", "ces/*"⟩ : ScopeEntry) ∈ restrictedAccounts.scopesOf "ces-builder" := by
    decide
  have views : restrictedAccounts.userCanViewChannel restrictedUser "ces" = true :=
    Accounts.userCanViewChannel_iff.mpr (Or.inr ⟨"ces-builder", by decide, Or.inr
      ⟨_, named, rfl, by decide⟩⟩)
  have allowed : restrictedAccounts.checkChannelScope "bob@example.com" "ces/dev" = true :=
    Accounts.checkChannelScope_iff.mpr ⟨"ces-builder", by decide, by decide⟩
  have shown := Accounts.not_hides_of_userCanViewChannel views
  exact ⟨shown, allowed, ((buildable_channel_visible ⟨1, .dev, "ces-devel", "", false⟩
    (show cesChannels.channels.lookup 1 = some ⟨"ces", none, false⟩ from rfl) rfl).mpr shown
      allowed).2⟩

def nestedChannels : Channels where
  channels := (∅ : Dictionary Int ChannelRow).insert 1 ⟨"ces/devel", none, false⟩
  types := (∅ : Dictionary Int ChannelTypeRow).insert 1 ⟨1, .dev, "ces-devel", "", false⟩
  unique_name := by decide
  unique_type := cesChannels.unique_type

theorem nested_hides : restrictedAccounts.Hides restrictedUser "ces/devel" where
  wildcard := ⟨"ces-builder", by decide, ⟨"channel", "ces/*"⟩, by decide, rfl, by decide⟩
  incapable := by
    simp only [restrictedUser, Accounts.mem_retainedCaps]
    decide
  restricted := by
    intro role assigned
    obtain ⟨-, rfl⟩ := Prod.mk.inj (Finset.mem_singleton.mp assigned)
    decide
  unnamed := by
    intro role assigned
    obtain ⟨-, rfl⟩ := Prod.mk.inj (Finset.mem_singleton.mp assigned)
    decide

/-- The restricted builder may build in the channel but does not see it. -/
theorem nested_channel_hidden :
    let site : Site := { restrictedSite with channels := nestedChannels }
    site.accounts.loadAuthedUser "bob@example.com" = .ok restrictedUser ∧
      site.channels.getType 1 = some ⟨1, .dev, "ces-devel", "", false⟩ ∧
      site.accounts.checkChannelScope restrictedUser.email "ces/devel/dev" = true ∧
      ¬ site.accounts.userCanViewChannel restrictedUser "ces/devel" = true ∧
      ¬ (∃ response ∈ site.listChannels restrictedUser, response.id = 1) ∧
      ¬ ∃ response, site.getChannel restrictedUser 1 = .ok response := by
  intro site
  have found : site.channels.getChannelById 1 = some ⟨1, "ces/devel", none⟩ := rfl
  have unseen : ¬ restrictedAccounts.userCanViewChannel restrictedUser "ces/devel" = true :=
    fun views => Accounts.not_hides_of_userCanViewChannel views nested_hides
  refine ⟨Accounts.loadAuthedUser_eq_ok.mpr ⟨_, getUser_bob, rfl, rfl⟩, rfl,
    Accounts.checkChannelScope_iff.mpr ⟨"ces-builder", by decide, by decide⟩, unseen, ?_, ?_⟩
  · exact fun listed => unseen ((Site.listed_iff found).mp listed)
  · rintro ⟨response, got⟩
    exact unseen ((Site.getChannel_eq_ok found).mp got).1

end Cbs

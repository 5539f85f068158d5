import Cbs.Proto
import Cbs.Server.Scopes

/-!
# Channels

The tables of channels and their types, and the resolution of the channel and type of a build.
-/

namespace Cbs

open Checks

def VersionType.asStr : VersionType → String
  | release => "release"
  | dev => "dev"
  | test => "test"
  | ci => "ci"

/-- A row of the `channels` table. -/
structure ChannelRow where
  name : String
  defaultTypeId : Option Int
  deleted : Bool
  deriving DecidableEq

/-- A row of the `channel_types` table. -/
structure ChannelTypeRow where
  channelId : Int
  /-- The kind of version; the database accepts no other names. -/
  typeName : VersionType
  project : String
  prefixTemplate : String
  deleted : Bool
  deriving DecidableEq

structure Channels where
  channels : Dictionary Int ChannelRow
  types : Dictionary Int ChannelTypeRow
  unique_name : ∀ first ∈ channels.entries, ∀ second ∈ channels.entries,
    first.2.deleted = false → second.2.deleted = false → first.2.name = second.2.name →
      first.1 = second.1
  unique_type : ∀ first ∈ types.entries, ∀ second ∈ types.entries,
    first.2.deleted = false → second.2.deleted = false → first.2.channelId = second.2.channelId →
      first.2.typeName = second.2.typeName → first.1 = second.1

structure ChannelRecord where
  id : Int
  name : String
  defaultTypeId : Option Int
  deriving DecidableEq

/-- A channel type as the lookup by names returns it. -/
structure ResolvedChannelType where
  channelId : Int
  channelTypeId : Int
  project : String
  prefixTemplate : String
  deriving DecidableEq

/-- The result of resolving the channel and type of a build. -/
structure ResolvedChannel where
  channelId : Int
  channelTypeId : Int
  prefixTemplate : String
  deriving DecidableEq

def prefixTemplateContainsUsername (template : String) : Bool :=
  Text.contains template "${username}"

/-- Substitute the part of the email address before the at sign. -/
def resolvePrefixTemplate (template email : String) : String :=
  if template = "" then ""
  else Text.replace template "${username}" (Text.upTo email '@')

namespace Channels

/-- The channel with a key, if it is not deleted. -/
def getChannelById (channels : Channels) (id : Int) : Option ChannelRecord :=
  ((channels.channels.lookup id).filter (!·.deleted)).map fun row =>
    ⟨id, row.name, row.defaultTypeId⟩

def getChannelByName (channels : Channels) (name : String) : Option ChannelRecord :=
  (channels.channels.entries.find? fun entry =>
    entry.2.name = name && !entry.2.deleted).map fun entry =>
      ⟨entry.1, entry.2.name, entry.2.defaultTypeId⟩

/-- The type with a key, if it is not deleted. -/
def getType (channels : Channels) (id : Int) : Option ChannelTypeRow :=
  (channels.types.lookup id).filter (!·.deleted)

/-- The row is that of the type with a name in the channel with a name, neither of them
deleted. -/
def isTypeOf (channels : Channels) (channelName : String) (typeName : VersionType)
    (entry : Sigma fun _ : Int => ChannelTypeRow) : Bool :=
  entry.2.typeName = typeName && !entry.2.deleted &&
    (channels.channels.lookup entry.2.channelId).any fun channel =>
      channel.name = channelName && !channel.deleted

def resolveChannelType (channels : Channels) (channelName : String) (typeName : VersionType) :
    Option ResolvedChannelType :=
  (channels.types.entries.find? (channels.isTypeOf channelName typeName)).map fun entry =>
    ⟨entry.2.channelId, entry.1, entry.2.project, entry.2.prefixTemplate⟩

def resolveChannel (channels : Channels) (user : UserRow) (descriptor : BuildDescriptor) :
    Except String ChannelRecord :=
  match descriptor.channel.filter (· ≠ "") with
  | some name => orError ("channel '" ++ name ++ "' not found") (channels.getChannelByName name)
  | none => do
    let channelId ← orError
      "no channel specified and no default channel assigned — contact your administrator"
      user.defaultChannelId
    orError "default channel no longer exists — contact your administrator"
      (channels.getChannelById channelId)

def resolveTypeName (channels : Channels) (channel : ChannelRecord)
    (descriptor : BuildDescriptor) : Except String VersionType :=
  match descriptor.versionType with
  | some typeName => .ok typeName
  | none => do
    let defaultTypeId ← orError
      ("channel '" ++ channel.name ++ "' has no default type — specify --type explicitly")
      channel.defaultTypeId
    let row ← orError
      ("channel '" ++ channel.name ++
        "' default type no longer exists — contact your administrator")
      (channels.getType defaultTypeId)
    pure row.typeName

end Channels

def rewriteImageName (project template image : String) : String :=
  if template = "" then project ++ "/" ++ image else project ++ "/" ++ template ++ "/" ++ image

/-- Resolve the channel and type of a build, check the channel scope of the user and rewrite the
image name. -/
def resolveAndRewrite (accounts : Accounts) (channels : Channels) (email : String) (user : UserRow)
    (descriptor : BuildDescriptor) : Except String (BuildDescriptor × ResolvedChannel) := do
  let channel ← channels.resolveChannel user descriptor
  let typeName ← channels.resolveTypeName channel descriptor
  let resolved ← orError
    ("type '" ++ typeName.asStr ++ "' is not configured for channel '" ++ channel.name ++ "'")
    (channels.resolveChannelType channel.name typeName)
  let scopeValue := channel.name ++ "/" ++ typeName.asStr
  require (accounts.checkChannelScope email scopeValue)
    ("insufficient scope for channel/type '" ++ scopeValue ++ "'")
  let template := resolvePrefixTemplate resolved.prefixTemplate email
  pure
    ({ descriptor with
        dstImage :=
          { descriptor.dstImage with
            name := rewriteImageName resolved.project template descriptor.dstImage.name }
        channel := some channel.name
        versionType := some typeName },
      ⟨resolved.channelId, resolved.channelTypeId, resolved.prefixTemplate⟩)

/-- The channel and type that a build of a user is for, given what its descriptor says. -/
structure Channels.Targets (channels : Channels) (user : UserRow) (channelName : Option String)
    (versionType : Option VersionType) (channelId : Int) (channel : ChannelRow) (typeId : Int)
    (type : ChannelTypeRow) : Prop where
  channel_stored : channels.channels.lookup channelId = some channel
  channel_active : channel.deleted = false
  channel_meant : match channelName.filter (· ≠ "") with
    | some name => channel.name = name
    | none => user.defaultChannelId = some channelId
  type_stored : channels.types.lookup typeId = some type
  type_active : type.deleted = false
  type_channel : type.channelId = channelId
  type_meant : match versionType with
    | some typeName => type.typeName = typeName
    | none => ∃ defaultTypeId row, channel.defaultTypeId = some defaultTypeId ∧
        channels.types.lookup defaultTypeId = some row ∧ row.deleted = false ∧
          row.typeName = type.typeName

namespace Channels

variable {channels : Channels} {user : UserRow} {descriptor : BuildDescriptor}
  {record : ChannelRecord}

theorem getChannelById_eq_some {id : Int} :
    channels.getChannelById id = some record ↔
      ∃ row, channels.channels.lookup id = some row ∧ row.deleted = false ∧
        record = ⟨id, row.name, row.defaultTypeId⟩ := by
  simp only [getChannelById, Option.map_eq_some_iff, Option.filter_eq_some_iff, Bool.not_eq_true']
  constructor
  · rintro ⟨row, ⟨stored, active⟩, rfl⟩
    exact ⟨row, stored, active, rfl⟩
  · rintro ⟨row, stored, active, rfl⟩
    exact ⟨row, ⟨stored, active⟩, rfl⟩

variable {name : String}

theorem getChannelByName_eq_some :
    channels.getChannelByName name = some record ↔
      ∃ id row, channels.channels.lookup id = some row ∧ row.deleted = false ∧ row.name = name ∧
        record = ⟨id, row.name, row.defaultTypeId⟩ := by
  have search : ∀ id row, channels.channels.entries.find? (fun entry =>
      entry.2.name = name && !entry.2.deleted) = some ⟨id, row⟩ ↔
        channels.channels.lookup id = some row ∧ (row.name = name && !row.deleted) = true := by
    intro id row
    apply Dictionary.find?_entries_iff
    intro first firstInside second secondInside firstFound secondFound
    simp only [Bool.and_eq_true, decide_eq_true_eq, Bool.not_eq_true'] at firstFound secondFound
    exact channels.unique_name first firstInside second secondInside firstFound.2 secondFound.2
      (firstFound.1.trans secondFound.1.symm)
  simp only [getChannelByName, Option.map_eq_some_iff]
  constructor
  · rintro ⟨⟨id, row⟩, found, rfl⟩
    obtain ⟨stored, checked⟩ := (search id row).mp found
    simp only [Bool.and_eq_true, decide_eq_true_eq, Bool.not_eq_true'] at checked
    exact ⟨id, row, stored, checked.2, checked.1, rfl⟩
  · rintro ⟨id, row, stored, active, named, rfl⟩
    exact ⟨⟨id, row⟩, (search id row).mpr ⟨stored, by simp [active, named]⟩, rfl⟩

variable {firstId secondId : Int} {first second : ChannelRow}

theorem unique_named (firstStored : channels.channels.lookup firstId = some first)
    (secondStored : channels.channels.lookup secondId = some second)
    (firstActive : first.deleted = false) (secondActive : second.deleted = false)
    (firstNamed : first.name = name) (secondNamed : second.name = name) : firstId = secondId :=
  channels.unique_name ⟨firstId, first⟩ (AList.mem_lookup_iff.mp firstStored) ⟨secondId, second⟩
    (AList.mem_lookup_iff.mp secondStored) firstActive secondActive
    (firstNamed.trans secondNamed.symm)

variable {typeName : VersionType}

theorem isTypeOf_iff {entry : Sigma fun _ : Int => ChannelTypeRow} :
    channels.isTypeOf name typeName entry = true ↔
      entry.2.typeName = typeName ∧ entry.2.deleted = false ∧
        ∃ channel, channels.channels.lookup entry.2.channelId = some channel ∧
          channel.name = name ∧ channel.deleted = false := by
  simp only [isTypeOf, Bool.and_eq_true, decide_eq_true_eq, Bool.not_eq_true', Option.any_eq_true,
    and_assoc]

variable {resolved : ResolvedChannelType}

theorem resolveChannelType_eq_some :
    channels.resolveChannelType name typeName = some resolved ↔
      ∃ channel typeId type, channels.types.lookup typeId = some type ∧ type.deleted = false ∧
        type.typeName = typeName ∧ channels.channels.lookup type.channelId = some channel ∧
        channel.deleted = false ∧ channel.name = name ∧
        resolved = ⟨type.channelId, typeId, type.project, type.prefixTemplate⟩ := by
  have search := Dictionary.find?_entries_iff channels.types (channels.isTypeOf name typeName) (by
    intro first firstInside second secondInside firstFound secondFound
    obtain ⟨firstType, firstActive, firstChannel, firstStored, firstNamed, firstLive⟩ :=
      isTypeOf_iff.mp firstFound
    obtain ⟨secondType, secondActive, secondChannel, secondStored, secondNamed, secondLive⟩ :=
      isTypeOf_iff.mp secondFound
    have sameChannel := unique_named firstStored secondStored firstLive secondLive firstNamed
      secondNamed
    exact channels.unique_type first firstInside second secondInside firstActive secondActive
      sameChannel (firstType.trans secondType.symm))
  simp only [resolveChannelType, Option.map_eq_some_iff]
  constructor
  · rintro ⟨⟨typeId, type⟩, found, rfl⟩
    obtain ⟨stored, isFound⟩ := (search typeId type).mp found
    obtain ⟨sameType, active, channel, channelStored, named, live⟩ := isTypeOf_iff.mp isFound
    exact ⟨channel, typeId, type, stored, active, sameType, channelStored, live, named, rfl⟩
  · rintro ⟨channel, typeId, type, stored, active, sameType, channelStored, live, named, rfl⟩
    have isFound : channels.isTypeOf name typeName ⟨typeId, type⟩ = true :=
      isTypeOf_iff.mpr ⟨sameType, active, channel, channelStored, named, live⟩
    exact ⟨⟨typeId, type⟩, (search typeId type).mpr ⟨stored, isFound⟩, rfl⟩

theorem resolveChannel_eq_ok :
    channels.resolveChannel user descriptor = .ok record ↔
      ∃ channelId channel, channels.channels.lookup channelId = some channel ∧
        channel.deleted = false ∧
        (match descriptor.channel.filter (· ≠ "") with
          | some name => channel.name = name
          | none => user.defaultChannelId = some channelId) ∧
        record = ⟨channelId, channel.name, channel.defaultTypeId⟩ := by
  unfold resolveChannel
  cases descriptor.channel.filter (· ≠ "") with
  | some name => simp only [orError_eq_ok, getChannelByName_eq_some]
  | none =>
    simp only [bind_eq_ok, orError_eq_ok, getChannelById_eq_some]
    constructor
    · rintro ⟨channelId, isDefault, channel, stored, active, rfl⟩
      exact ⟨channelId, channel, stored, active, isDefault, rfl⟩
    · rintro ⟨channelId, channel, stored, active, isDefault, rfl⟩
      exact ⟨channelId, isDefault, channel, stored, active, rfl⟩

theorem resolveTypeName_eq_ok :
    channels.resolveTypeName record descriptor = .ok typeName ↔
      match descriptor.versionType with
      | some given => typeName = given
      | none => ∃ defaultTypeId row, record.defaultTypeId = some defaultTypeId ∧
          channels.types.lookup defaultTypeId = some row ∧ row.deleted = false ∧
            row.typeName = typeName := by
  unfold resolveTypeName
  cases descriptor.versionType with
  | some given => simp [eq_comm]
  | none =>
    simp only [bind_eq_ok, orError_eq_ok, pure_eq_ok, getType, Option.filter_eq_some_iff,
      Bool.not_eq_true']
    constructor
    · rintro ⟨defaultTypeId, isDefault, row, ⟨stored, active⟩, named⟩
      exact ⟨defaultTypeId, row, isDefault, stored, active, named⟩
    · rintro ⟨defaultTypeId, row, isDefault, stored, active, named⟩
      exact ⟨defaultTypeId, isDefault, row, ⟨stored, active⟩, named⟩

/-- The resolution before the scope check finds exactly the channel and type that the build is
for. -/
theorem resolves_iff :
    (channels.resolveChannel user descriptor = .ok record ∧
        channels.resolveTypeName record descriptor = .ok typeName ∧
        channels.resolveChannelType record.name typeName = some resolved) ↔
      ∃ channelId channel typeId type,
        channels.Targets user descriptor.channel descriptor.versionType channelId channel typeId
          type ∧
          record = ⟨channelId, channel.name, channel.defaultTypeId⟩ ∧ typeName = type.typeName ∧
          resolved = ⟨channelId, typeId, type.project, type.prefixTemplate⟩ := by
  rw [resolveChannel_eq_ok, resolveTypeName_eq_ok, resolveChannelType_eq_some]
  constructor
  · rintro ⟨⟨channelId, channel, stored, active, meant, rfl⟩, typeMeant, other, typeId, type,
      typeStored, typeActive, rfl, otherStored, otherActive, otherNamed, rfl⟩
    have same : type.channelId = channelId :=
      unique_named otherStored stored otherActive active otherNamed rfl
    refine ⟨channelId, channel, typeId, type,
      ⟨stored, active, meant, typeStored, typeActive, same, ?_⟩, rfl, rfl, by rw [same]⟩
    exact typeMeant
  · rintro ⟨channelId, channel, typeId, type, targets, rfl, rfl, rfl⟩
    obtain ⟨stored, active, meant, typeStored, typeActive, rfl, typeMeant⟩ := targets
    exact ⟨⟨type.channelId, channel, stored, active, meant, rfl⟩, typeMeant, channel, typeId, type,
      typeStored, typeActive, rfl, stored, active, rfl, rfl⟩

theorem Targets.unique {firstTypeId secondTypeId : Int} {firstType secondType : ChannelTypeRow}
    (one : channels.Targets user descriptor.channel descriptor.versionType firstId first firstTypeId
      firstType)
    (other : channels.Targets user descriptor.channel descriptor.versionType secondId second
      secondTypeId secondType) :
    first = second ∧ firstType = secondType := by
  obtain ⟨oneChannel, oneName, oneType⟩ := resolves_iff.mpr ⟨_, _, _, _, one, rfl, rfl, rfl⟩
  obtain ⟨otherChannel, otherName, otherType⟩ :=
    resolves_iff.mpr ⟨_, _, _, _, other, rfl, rfl, rfl⟩
  have sameRecord := Except.ok.inj (oneChannel.symm.trans otherChannel)
  obtain ⟨rfl, sameName, sameDefault⟩ := ChannelRecord.mk.inj sameRecord
  rw [sameRecord] at oneName oneType
  have sameTypeName := Except.ok.inj (oneName.symm.trans otherName)
  rw [sameTypeName] at oneType
  have sameResolved := Option.some.inj (oneType.symm.trans otherType)
  obtain ⟨-, rfl, -, -⟩ := ResolvedChannelType.mk.inj sameResolved
  exact ⟨Option.some.inj (one.channel_stored.symm.trans other.channel_stored),
    Option.some.inj (one.type_stored.symm.trans other.type_stored)⟩

end Channels

/-- The text that a channel scope is matched against. -/
def channelScopeValue (channel : ChannelRow) (type : ChannelTypeRow) : String :=
  channel.name ++ "/" ++ type.typeName.asStr

/-- A build resolves exactly when it is for some channel and type and the user has the scope. -/
theorem resolveAndRewrite_eq_ok {accounts : Accounts} {channels : Channels} {email : String}
    {user : UserRow} {descriptor rewritten : BuildDescriptor} {resolved : ResolvedChannel} :
    resolveAndRewrite accounts channels email user descriptor = .ok (rewritten, resolved) ↔
      ∃ channelId channel typeId type,
        channels.Targets user descriptor.channel descriptor.versionType channelId channel typeId
          type ∧
          accounts.checkChannelScope email (channelScopeValue channel type) = true ∧
          resolved = ⟨channelId, typeId, type.prefixTemplate⟩ ∧
          rewritten =
            { descriptor with
              dstImage :=
                { descriptor.dstImage with
                  name := rewriteImageName type.project
                    (resolvePrefixTemplate type.prefixTemplate email) descriptor.dstImage.name }
              channel := some channel.name
              versionType := some type.typeName } := by
  simp only [resolveAndRewrite, bind_eq_ok, orError_eq_ok, require_eq_ok, pure_eq_ok, Prod.mk.injEq]
  constructor
  · rintro ⟨record, isRecord, typeName, isTypeName, row, isRow, -, allowed, rfl, rfl⟩
    obtain ⟨channelId, channel, typeId, type, targets, rfl, rfl, rfl⟩ :=
      Channels.resolves_iff.mp ⟨isRecord, isTypeName, isRow⟩
    exact ⟨channelId, channel, typeId, type, targets, allowed, rfl, rfl⟩
  · rintro ⟨channelId, channel, typeId, type, targets, allowed, rfl, rfl⟩
    obtain ⟨isRecord, isTypeName, isRow⟩ :=
      Channels.resolves_iff.mpr ⟨_, _, _, _, targets, rfl, rfl, rfl⟩
    exact ⟨_, isRecord, _, isTypeName, _, isRow, (), allowed, rfl, rfl⟩

end Cbs

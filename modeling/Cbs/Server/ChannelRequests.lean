import Cbs.Library.Rely
import Cbs.Server.Visibility

/-!
# Requests on channels

The routes that create, change and delete channels and their types, as statements and transactions
that may interleave in any order.  The default type of a channel stays usable.
-/

namespace Cbs

open Concurrency Checks

inductive StatementError where
  | uniqueViolation
  | other
  deriving DecidableEq

namespace Channels

def UniqueNames (table : Dictionary Int ChannelRow) : Prop :=
  ∀ first ∈ table.entries, ∀ second ∈ table.entries, first.2.deleted = false →
    second.2.deleted = false → first.2.name = second.2.name → first.1 = second.1

/-- The types of a channel that are not deleted have different names. -/
def UniqueTypes (table : Dictionary Int ChannelTypeRow) : Prop :=
  ∀ first ∈ table.entries, ∀ second ∈ table.entries, first.2.deleted = false →
    second.2.deleted = false → first.2.channelId = second.2.channelId →
      first.2.typeName = second.2.typeName → first.1 = second.1

instance (table : Dictionary Int ChannelRow) : Decidable (UniqueNames table) :=
  inferInstanceAs (Decidable (∀ first ∈ table.entries, _))

instance (table : Dictionary Int ChannelTypeRow) : Decidable (UniqueTypes table) :=
  inferInstanceAs (Decidable (∀ first ∈ table.entries, _))

/-- The tables as a statement leaves them, unless a unique index forbids it. -/
def store (channels : Dictionary Int ChannelRow) (types : Dictionary Int ChannelTypeRow) :
    Except StatementError Channels :=
  if unique : UniqueNames channels ∧ UniqueTypes types then
    .ok ⟨channels, types, unique.1, unique.2⟩
  else .error .uniqueViolation

/-- The tables of a new database. -/
def empty : Channels where
  channels := ∅
  types := ∅
  unique_name := by simp
  unique_type := by simp

def createChannel (db : Channels) (name : String) : Except StatementError (Channels × Int) := do
  let id := db.channels.nextKey
  let after ← store (db.channels.insert id ⟨name, none, false⟩) db.types
  pure (after, id)

def updateChannel (db : Channels) (id : Int) (name : String) :
    Except StatementError (Channels × Bool) := do
  let after ← store
    (db.channels.modify id fun row => if row.deleted then row else { row with name := name })
    db.types
  pure (after, (db.getChannelById id).isSome)

def softDeleteChannel (db : Channels) (id : Int) : Except StatementError (Channels × Bool) :=
  if (db.getChannelById id).isSome then do
    let after ← store (db.channels.modify id ({ · with deleted := true }))
      (db.types.mapValues fun row =>
        if row.channelId = id then { row with deleted := true } else row)
    pure (after, true)
  else .ok (db, false)

def createType (db : Channels) (channelId : Int) (typeName : VersionType)
    (project prefixTemplate : String) : Except StatementError (Channels × Int) :=
  if channelId ∈ db.channels then do
    let id := db.types.nextKey
    let after ← store db.channels
      (db.types.insert id ⟨channelId, typeName, project, prefixTemplate, false⟩)
    pure (after, id)
  else .error .other

def updateType (db : Channels) (id : Int) (project prefixTemplate : String) :
    Except StatementError (Channels × Bool) := do
  let after ← store db.channels
    (db.types.modify id fun row =>
      if row.deleted then row
      else { row with project := project, prefixTemplate := prefixTemplate })
  pure (after, (db.getType id).isSome)

/-- Delete a type, and clear it where it is a default. -/
def softDeleteType (db : Channels) (id : Int) : Except StatementError (Channels × Bool) :=
  if (db.getType id).isSome then do
    let after ← store
      (db.channels.mapValues fun row =>
        if row.defaultTypeId = some id then { row with defaultTypeId := none } else row)
      (db.types.modify id ({ · with deleted := true }))
    pure (after, true)
  else .ok (db, false)

/-- Make a type of a channel its default, if neither is deleted. -/
def setDefaultType (db : Channels) (channelId typeId : Int) :
    Except StatementError (Channels × Bool) :=
  if (db.getChannelById channelId).isSome ∧
      (db.getType typeId).any (·.channelId = channelId) = true then do
    let after ← store (db.channels.modify channelId ({ · with defaultTypeId := some typeId }))
      db.types
    pure (after, true)
  else .ok (db, false)

end Channels

inductive ChannelStatement where
  | readChannel
  | insertChannel
  | updateChannel
  | deleteChannel
  | rereadChannel
  | listTypes
  | readType
  | insertType
  | updateType
  | deleteType
  | setDefault
  | rereadType
  deriving DecidableEq

/-- Which statements of a request fail for a reason outside the tables. -/
structure ChannelEnv where
  fails : ChannelStatement → Bool

inductive ChannelReply where
  | channel (response : ChannelResponse)
  | type (response : TypeResponse)
  | detail (text : String)
  deriving DecidableEq

/-- A request on the tables of channels, cut into its statements and transactions. -/
abbrev ChannelTask (α : Type) : Type :=
  Routine Channels Empty α

namespace ChannelTask

def query {α : Type} (env : ChannelEnv) (statement : ChannelStatement) (read : Channels → α) :
    ChannelTask (Except StatementError α) :=
  .stepFree fun db => (db, if env.fails statement then .error .other else .ok (read db))

/-- A statement or transaction that writes; nothing is written if it fails. -/
def execute {α : Type} (env : ChannelEnv) (statement : ChannelStatement)
    (write : Channels → Except StatementError (Channels × α)) :
    ChannelTask (Except StatementError α) :=
  .stepFree fun db =>
    if env.fails statement then (db, .error .other)
    else
      match write db with
      | .error reason => (db, .error reason)
      | .ok (after, value) => (after, .ok value)

def orRefuse {α β : Type} (check : Except AuthError α)
    (next : α → ChannelTask (Except AuthError β)) : ChannelTask (Except AuthError β) :=
  Routine.orReply check .error next

def failure {α : Type} (text : String) (result : Except StatementError α) : Except AuthError α :=
  result.mapError fun _ => ⟨.internalServerError, text⟩

/-- The answer to a failure of a statement that a unique index may forbid. -/
def conflict {α : Type} (clash text : String) (result : Except StatementError α) :
    Except AuthError α :=
  result.mapError fun
    | .uniqueViolation => ⟨.conflict, clash⟩
    | .other => ⟨.internalServerError, text⟩

/-- Go on with a row that a query finds. -/
def find {α β : Type} (env : ChannelEnv) (statement : ChannelStatement)
    (read : Channels → Option α) (missing : AuthError)
    (next : α → ChannelTask (Except AuthError β)) : ChannelTask (Except AuthError β) := do
  let found ← query env statement read
  orRefuse (failure "database error" found) fun found => orRefuse (orError missing found) next

def typeToResponse (id : Int) (row : ChannelTypeRow) : TypeResponse :=
  ⟨id, row.typeName, row.project, row.prefixTemplate⟩

def respondChannel (env : ChannelEnv) (channel : ChannelRecord) :
    ChannelTask (Except AuthError ChannelReply) := do
  let types ← query env .listTypes (·.listTypesForChannel channel.id)
  orRefuse (failure "failed to list channel types" types) fun types =>
    pure (.ok (.channel ⟨channel.id, channel.name, channel.defaultTypeId, types⟩))

def requireName (name : String) : Except AuthError Unit :=
  require (name ≠ "") ⟨.badRequest, "channel name must not be empty"⟩

def createChannel (env : ChannelEnv) (user : AuthUser) (name : String) :
    ChannelTask (Except AuthError ChannelReply) :=
  orRefuse (requireCap user "channels:manage") fun _ =>
  orRefuse (requireName name) fun _ => do
  let inserted ← execute env .insertChannel (·.createChannel name)
  orRefuse (conflict ("channel '" ++ name ++ "' already exists") "failed to create channel"
    inserted) fun id =>
  find env .rereadChannel (·.getChannelById id)
    ⟨.internalServerError, "channel not found after create"⟩ (respondChannel env)

def updateChannel (env : ChannelEnv) (user : AuthUser) (id : Int) (newName : Option String) :
    ChannelTask (Except AuthError ChannelReply) :=
  orRefuse (requireCap user "channels:manage") fun _ =>
  find env .readChannel (·.getChannelById id) ⟨.notFound, "channel not found"⟩ fun existing =>
  let name := newName.getD existing.name
  orRefuse (requireName name) fun _ => do
  let updated ← execute env .updateChannel (·.updateChannel id name)
  orRefuse (conflict ("channel name '" ++ name ++ "' already in use") "failed to update channel"
    updated) fun _ =>
  find env .rereadChannel (·.getChannelById id) ⟨.notFound, "channel not found after update"⟩
    (respondChannel env)

def deleteChannel (env : ChannelEnv) (user : AuthUser) (id : Int) :
    ChannelTask (Except AuthError ChannelReply) :=
  orRefuse (requireCap user "channels:manage") fun _ => do
  let deleted ← execute env .deleteChannel (·.softDeleteChannel id)
  orRefuse (failure "failed to delete channel" deleted) fun deleted =>
  orRefuse (require deleted ⟨.notFound, "channel not found"⟩) fun _ =>
  pure (.ok (.detail ("channel " ++ toString id ++ " deleted")))

/-- The names of types that a request may use. -/
def parseTypeName : String → Option VersionType
  | "dev" => some .dev
  | "release" => some .release
  | "test" => some .test
  | "ci" => some .ci
  | _ => none

/-- Make the first type of a channel its default; a failure is ignored. -/
def setFirstDefault (env : ChannelEnv) (channel : ChannelRecord) (channelId typeId : Int) :
    ChannelTask Unit :=
  if channel.defaultTypeId = none then do
    let _ ← execute env .setDefault (·.setDefaultType channelId typeId)
    pure ()
  else pure ()

def addType (env : ChannelEnv) (user : AuthUser) (channelId : Int)
    (typeName project prefixTemplate : String) : ChannelTask (Except AuthError ChannelReply) :=
  orRefuse (requireCap user "channels:manage") fun _ =>
  orRefuse (orError ⟨.badRequest, "invalid type_name '" ++ typeName ++
    "': must be one of dev, release, test, ci"⟩ (parseTypeName typeName)) fun name =>
  find env .readChannel (·.getChannelById channelId) ⟨.notFound, "channel not found"⟩
    fun channel => do
  let inserted ← execute env .insertType (·.createType channelId name project prefixTemplate)
  orRefuse (conflict ("type '" ++ typeName ++ "' already exists for channel '" ++ channel.name ++
    "'") "failed to create type" inserted) fun typeId => do
  setFirstDefault env channel channelId typeId
  find env .rereadType (·.getType typeId) ⟨.internalServerError, "type not found after create"⟩
    fun row =>
  pure (.ok (.type (typeToResponse typeId row)))

/-- The checks that the requests on a type of a channel begin with. -/
def findOwnType (env : ChannelEnv) (user : AuthUser) (channelId typeId : Int)
    (foreign : StatusCode) (next : ChannelTypeRow → ChannelTask (Except AuthError ChannelReply)) :
    ChannelTask (Except AuthError ChannelReply) :=
  orRefuse (requireCap user "channels:manage") fun _ =>
  find env .readChannel (·.getChannelById channelId) ⟨.notFound, "channel not found"⟩ fun _ =>
  find env .readType (·.getType typeId) ⟨.notFound, "type not found"⟩ fun existing =>
  orRefuse (require (existing.channelId = channelId)
    ⟨foreign, "type does not belong to this channel"⟩) fun _ => next existing

def updateType (env : ChannelEnv) (user : AuthUser) (channelId typeId : Int)
    (newProject newTemplate : Option String) : ChannelTask (Except AuthError ChannelReply) :=
  findOwnType env user channelId typeId .notFound fun existing => do
  let updated ← execute env .updateType (·.updateType typeId
    (newProject.getD existing.project) (newTemplate.getD existing.prefixTemplate))
  orRefuse (failure "failed to update type" updated) fun _ =>
  find env .rereadType (·.getType typeId) ⟨.notFound, "type not found after update"⟩ fun row =>
  pure (.ok (.type (typeToResponse typeId row)))

def deleteType (env : ChannelEnv) (user : AuthUser) (channelId typeId : Int) :
    ChannelTask (Except AuthError ChannelReply) :=
  findOwnType env user channelId typeId .notFound fun _ => do
  let deleted ← execute env .deleteType (·.softDeleteType typeId)
  orRefuse (failure "failed to delete type" deleted) fun deleted =>
  orRefuse (require deleted ⟨.notFound, "type not found"⟩) fun _ =>
  pure (.ok (.detail ("type " ++ toString typeId ++ " deleted")))

/-- Set the default type of a channel; it is not checked whether the statement changed a row. -/
def setDefaultType (env : ChannelEnv) (user : AuthUser) (channelId typeId : Int) :
    ChannelTask (Except AuthError ChannelReply) :=
  findOwnType env user channelId typeId .badRequest fun _ => do
  let updated ← execute env .setDefault (·.setDefaultType channelId typeId)
  orRefuse (failure "failed to set default type" updated) fun _ =>
  pure (.ok (.detail ("default type set to " ++ toString typeId)))

end ChannelTask

inductive ChannelRequest where
  | createChannel (name : String)
  | updateChannel (id : Int) (name : Option String)
  | deleteChannel (id : Int)
  | addType (channelId : Int) (typeName project prefixTemplate : String)
  | updateType (channelId typeId : Int) (project prefixTemplate : Option String)
  | deleteType (channelId typeId : Int)
  | setDefaultType (channelId typeId : Int)
  deriving DecidableEq

def ChannelRequest.task (env : ChannelEnv) (user : AuthUser) :
    ChannelRequest → ChannelTask (Except AuthError ChannelReply)
  | createChannel name => .createChannel env user name
  | updateChannel id name => .updateChannel env user id name
  | deleteChannel id => .deleteChannel env user id
  | addType channelId typeName project prefixTemplate =>
    .addType env user channelId typeName project prefixTemplate
  | updateType channelId typeId project prefixTemplate =>
    .updateType env user channelId typeId project prefixTemplate
  | deleteType channelId typeId => .deleteType env user channelId typeId
  | setDefaultType channelId typeId => .setDefaultType env user channelId typeId

def ChannelRequest.routine (env : ChannelEnv) (user : AuthUser) (request : ChannelRequest) :
    ChannelTask Unit := do
  let _ ← request.task env user
  pure ()

/-- What may happen to the tables: a request comes in, or one of those under way executes its next
statement. -/
def ChannelEvent : Event Channels Empty → Prop
  | .spawn routine => ∃ env user request, routine = ChannelRequest.routine env user request
  | .advance _ => True

namespace Channels

def Offers (db : Channels) (channelId typeId : Int) : Prop :=
  ∃ type, db.types.lookup typeId = some type ∧ type.deleted = false ∧ type.channelId = channelId

/-- The default type of every channel that is not deleted is one of its types that are not
deleted. -/
def DefaultsUsable (db : Channels) : Prop :=
  ∀ channelId channel, db.channels.lookup channelId = some channel → channel.deleted = false →
    ∀ typeId, channel.defaultTypeId = some typeId → db.Offers channelId typeId

theorem defaultsUsable_empty : DefaultsUsable empty := by
  intro channelId channel stored
  simp [empty] at stored

section Statements

variable {db after : Channels} {id channelId typeId : Int} {affected : Bool}

theorem defaultsUsable_of_store {channels : Dictionary Int ChannelRow}
    {types : Dictionary Int ChannelTypeRow} {α : Type} {value result : α}
    (stored : (do pure (← store channels types, value) : Except _ _) = .ok (after, result))
    (usable : ∀ {channelId channel typeId}, channels.lookup channelId = some channel →
      channel.deleted = false → channel.defaultTypeId = some typeId →
        ∃ type, types.lookup typeId = some type ∧ type.deleted = false ∧
          type.channelId = channelId) : after.DefaultsUsable := by
  simp only [bind_eq_ok, pure_eq_ok, Prod.mk.injEq] at stored
  obtain ⟨_, stored, rfl, -⟩ := stored
  unfold store at stored
  split_ifs at stored
  obtain rfl := Except.ok.inj stored
  exact fun _ _ found active _ => usable found active

variable {name project prefixTemplate : String} {typeName : VersionType}
  (usable : db.DefaultsUsable)
include usable

theorem defaultsUsable_createChannel
    (created : db.createChannel name = .ok (after, id)) : after.DefaultsUsable := by
  refine defaultsUsable_of_store created fun found active isDefault => ?_
  rw [Dictionary.lookup_insert_eq] at found
  split_ifs at found with isNew
  · -- a new channel has no default
    obtain rfl := Option.some.inj found
    cases isDefault
  · exact usable _ _ found active _ isDefault

theorem defaultsUsable_updateChannel
    (updated : db.updateChannel id name = .ok (after, affected)) : after.DefaultsUsable := by
  refine defaultsUsable_of_store updated fun found active isDefault => ?_
  rw [Dictionary.lookup_modify] at found
  split_ifs at found with isRenamed
  · obtain ⟨old, isOld, rfl⟩ := Option.map_eq_some_iff.mp found
    split_ifs at active isDefault with isDeleted
    · exact usable _ old isOld active _ isDefault
    · exact usable _ old isOld active _ isDefault
  · exact usable _ _ found active _ isDefault

theorem defaultsUsable_softDeleteChannel
    (deleted : db.softDeleteChannel id = .ok (after, affected)) : after.DefaultsUsable := by
  unfold softDeleteChannel at deleted
  split_ifs at deleted with present
  · refine defaultsUsable_of_store deleted fun found active isDefault => ?_
    rw [Dictionary.lookup_modify] at found
    split_ifs at found with isDeleted
    · obtain ⟨old, -, rfl⟩ := Option.map_eq_some_iff.mp found
      cases active
    · -- the types of another channel stay
      obtain ⟨type, typeStored, typeActive, rfl⟩ := usable _ _ found active _ isDefault
      refine ⟨type, ?_, typeActive, rfl⟩
      rw [Dictionary.lookup_mapValues, typeStored, Option.map_some, if_neg isDeleted]
  · obtain ⟨rfl, -⟩ := Prod.mk.inj (Except.ok.inj deleted)
    exact usable

theorem defaultsUsable_createType
    (created : db.createType channelId typeName project prefixTemplate = .ok (after, id)) :
    after.DefaultsUsable := by
  unfold createType at created
  split_ifs at created with present
  refine defaultsUsable_of_store created fun found active isDefault => ?_
  obtain ⟨type, typeStored, typeActive, rfl⟩ := usable _ _ found active _ isDefault
  refine ⟨type, ?_, typeActive, rfl⟩
  rw [Dictionary.lookup_insert_eq, if_neg (Dictionary.ne_nextKey typeStored)]
  exact typeStored

theorem defaultsUsable_updateType
    (updated : db.updateType id project prefixTemplate = .ok (after, affected)) :
    after.DefaultsUsable := by
  refine defaultsUsable_of_store updated fun found active isDefault => ?_
  obtain ⟨type, typeStored, typeActive, rfl⟩ := usable _ _ found active _ isDefault
  rw [Dictionary.lookup_modify, typeStored]
  split_ifs with isChanged
  · exact ⟨_, rfl, by simp [typeActive], by simp [typeActive]⟩
  · exact ⟨type, rfl, typeActive, rfl⟩

theorem defaultsUsable_softDeleteType
    (deleted : db.softDeleteType id = .ok (after, affected)) : after.DefaultsUsable := by
  unfold softDeleteType at deleted
  split_ifs at deleted with present
  · refine defaultsUsable_of_store deleted
      fun {channelId channel typeId} found active isDefault => ?_
    rw [Dictionary.lookup_mapValues] at found
    obtain ⟨old, isOld, rfl⟩ := Option.map_eq_some_iff.mp found
    split_ifs at active isDefault with isCleared
    obtain ⟨type, typeStored, typeActive, belongs⟩ := usable _ old isOld active _ isDefault
    have isOther : typeId ≠ id := by
      rintro rfl
      exact isCleared isDefault
    refine ⟨type, ?_, typeActive, belongs⟩
    rw [Dictionary.lookup_modify, if_neg isOther, typeStored]
  · obtain ⟨rfl, -⟩ := Prod.mk.inj (Except.ok.inj deleted)
    exact usable

theorem defaultsUsable_setDefaultType
    (updated : db.setDefaultType channelId typeId = .ok (after, affected)) :
    after.DefaultsUsable := by
  unfold setDefaultType at updated
  split_ifs at updated with present
  · refine defaultsUsable_of_store updated fun found active isDefault => ?_
    rw [Dictionary.lookup_modify] at found
    split_ifs at found with isChanged
    · -- the statement has looked for the type itself
      obtain ⟨old, -, rfl⟩ := Option.map_eq_some_iff.mp found
      obtain rfl := Option.some.inj isDefault
      obtain ⟨type, isType, belongs⟩ := (Option.any_eq_true ..).mp present.2
      simp only [getType, Option.filter_eq_some_iff, Bool.not_eq_true'] at isType
      exact ⟨type, isType.1, isType.2, (of_decide_eq_true belongs).trans isChanged.symm⟩
    · exact usable _ _ found active _ isDefault
  · obtain ⟨rfl, -⟩ := Prod.mk.inj (Except.ok.inj updated)
    exact usable

end Statements

end Channels

/-- Every statement leaves the default types usable. -/
def usableRely : Rely Channels Empty where
  Invariant := Channels.DefaultsUsable
  Moves := fun before after => before.DefaultsUsable → after.DefaultsUsable
  Allows := nofun
  keeps := fun _ _ usable moves => moves usable

/-- Whatever the tables are, every statement of the task leaves the default types usable. -/
def ChannelTask.Upholds {α : Type} (task : ChannelTask α) : Prop :=
  usableRely.Outline nofun task (fun _ => True) fun _ _ => True

namespace ChannelTask

variable {α β : Type} {env : ChannelEnv} {statement : ChannelStatement}

theorem upholds_pure (value : α) : Upholds (pure value) :=
  Rely.outline_pure fun _ _ _ => trivial

theorem Upholds.bind {task : ChannelTask α} {next : α → ChannelTask β} (first : Upholds task)
    (second : ∀ value, Upholds (next value)) : Upholds (task >>= next) :=
  Rely.Outline.bind (fun _ _ => True) first second

theorem upholds_query {read : Channels → α} : Upholds (query env statement read) :=
  Rely.outline_stepFree fun _ _ _ => ⟨id, usableRely.stable_true, trivial⟩

theorem upholds_execute {write : Channels → Except StatementError (Channels × α)}
    (keeps : ∀ db after value, db.DefaultsUsable → write db = .ok (after, value) →
      after.DefaultsUsable) : Upholds (execute env statement write) := by
  refine Rely.outline_stepFree fun db usable _ => ⟨fun _ => ?_, usableRely.stable_true, trivial⟩
  split_ifs
  · exact usable
  · split
    · exact usable
    · rename_i after value written
      exact keeps db after value usable written

theorem upholds_orRefuse {check : Except AuthError α}
    {next : α → ChannelTask (Except AuthError β)} (goesOn : ∀ value, Upholds (next value)) :
    Upholds (orRefuse check next) :=
  Rely.outline_orReply (fun _ _ _ _ => trivial) fun value _ => goesOn value

variable {missing : AuthError}

theorem upholds_find {read : Channels → Option α} {next : α → ChannelTask (Except AuthError β)}
    (goesOn : ∀ row, Upholds (next row)) : Upholds (find env statement read missing next) :=
  upholds_query.bind fun _ => upholds_orRefuse fun _ => upholds_orRefuse goesOn

theorem upholds_findOwnType {user : AuthUser} {channelId typeId : Int} {foreign : StatusCode}
    {next : ChannelTypeRow → ChannelTask (Except AuthError ChannelReply)}
    (goesOn : ∀ row, Upholds (next row)) :
    Upholds (findOwnType env user channelId typeId foreign next) :=
  upholds_orRefuse fun _ => upholds_find fun _ => upholds_find fun row =>
    upholds_orRefuse fun _ => goesOn row

variable {channel : ChannelRecord}

theorem upholds_respondChannel : Upholds (respondChannel env channel) :=
  upholds_query.bind fun _ => upholds_orRefuse fun _ => upholds_pure _

theorem upholds_setFirstDefault {channelId typeId : Int} :
    Upholds (setFirstDefault env channel channelId typeId) := by
  unfold setFirstDefault
  split_ifs
  · exact (upholds_execute fun _ _ _ => Channels.defaultsUsable_setDefaultType).bind fun _ =>
      upholds_pure _
  · exact upholds_pure _

/-- One case for each request: its statements in their order. -/
theorem upholds_task (env : ChannelEnv) (user : AuthUser) (request : ChannelRequest) :
    Upholds (request.task env user) := by
  cases request with
  | createChannel name =>
    refine upholds_orRefuse fun _ => upholds_orRefuse fun _ => ?_
    refine (upholds_execute fun _ _ _ => Channels.defaultsUsable_createChannel).bind fun _ => ?_
    exact upholds_orRefuse fun _ => upholds_find fun _ => upholds_respondChannel
  | updateChannel id name =>
    refine upholds_orRefuse fun _ => upholds_find fun _ => upholds_orRefuse fun _ => ?_
    refine (upholds_execute fun _ _ _ => Channels.defaultsUsable_updateChannel).bind fun _ => ?_
    exact upholds_orRefuse fun _ => upholds_find fun _ => upholds_respondChannel
  | deleteChannel id =>
    refine upholds_orRefuse fun _ => ?_
    refine (upholds_execute fun _ _ _ =>
      Channels.defaultsUsable_softDeleteChannel).bind fun _ => ?_
    exact upholds_orRefuse fun _ => upholds_orRefuse fun _ => upholds_pure _
  | addType channelId typeName project prefixTemplate =>
    refine upholds_orRefuse fun _ => upholds_orRefuse fun _ => upholds_find fun _ => ?_
    refine (upholds_execute fun _ _ _ => Channels.defaultsUsable_createType).bind fun _ => ?_
    refine upholds_orRefuse fun _ => upholds_setFirstDefault.bind fun _ => ?_
    exact upholds_find fun _ => upholds_pure _
  | updateType channelId typeId project prefixTemplate =>
    refine upholds_findOwnType fun _ => ?_
    refine (upholds_execute fun _ _ _ => Channels.defaultsUsable_updateType).bind fun _ => ?_
    exact upholds_orRefuse fun _ => upholds_find fun _ => upholds_pure _
  | deleteType channelId typeId =>
    refine upholds_findOwnType fun _ => ?_
    refine (upholds_execute fun _ _ _ => Channels.defaultsUsable_softDeleteType).bind fun _ => ?_
    exact upholds_orRefuse fun _ => upholds_orRefuse fun _ => upholds_pure _
  | setDefaultType channelId typeId =>
    refine upholds_findOwnType fun _ => ?_
    refine (upholds_execute fun _ _ _ => Channels.defaultsUsable_setDefaultType).bind fun _ => ?_
    exact upholds_orRefuse fun _ => upholds_pure _

end ChannelTask

/-- The tables after a schedule of requests on a new database. -/
def channelsAfter (events : List (Event Channels Empty)) : Channels :=
  ((⟨Channels.empty, []⟩ : Pool Channels Empty).run events).state

theorem defaultsUsable_of_run {events : List (Event Channels Empty)}
    (served : ∀ event ∈ events, ChannelEvent event) : (channelsAfter events).DefaultsUsable := by
  have start : usableRely.Outlined (fun _ => nofun) ⟨Channels.empty, []⟩ :=
    ⟨Channels.defaultsUsable_empty, fun index thread found => by simp at found⟩
  refine (start.run usableRely.stable_true trivial
    (Pool.permittedRun_of_allows _ nofun events) fun index routine _ inside => ?_).1.invariant
  obtain ⟨env, user, request, rfl⟩ := served _ inside
  exact (ChannelTask.upholds_task env user request).bind fun _ => ChannelTask.upholds_pure _

/-- The error about a default type that is gone. -/
def defaultTypeGone (channelName : String) : String :=
  "channel '" ++ channelName ++ "' default type no longer exists — contact your administrator"

/-- The error about a type that the channel does not have. -/
def typeNotConfigured (typeName channelName : String) : String :=
  "type '" ++ typeName ++ "' is not configured for channel '" ++ channelName ++ "'"

/-- Why a build without a type may still be refused. -/
inductive UntypedRefusal : String → Prop where
  | channelMissing (name : String) : UntypedRefusal ("channel '" ++ name ++ "' not found")
  | noChannel : UntypedRefusal
      "no channel specified and no default channel assigned — contact your administrator"
  | defaultChannelGone : UntypedRefusal
      "default channel no longer exists — contact your administrator"
  | noDefaultType (name : String) : UntypedRefusal
      ("channel '" ++ name ++ "' has no default type — specify --type explicitly")
  | insufficientScope (value : String) : UntypedRefusal
      ("insufficient scope for channel/type '" ++ value ++ "'")

variable {reason : String}

theorem UntypedRefusal.ne_defaultTypeGone (refusal : UntypedRefusal reason)
    (channelName : String) : reason ≠ defaultTypeGone channelName := by
  have first : (defaultTypeGone channelName).toList.head? = some 'c' := by
    simp [defaultTypeGone, String.toList_append]
  have last : (defaultTypeGone channelName).toList.getLast? = some 'r' :=
    Text.getLast?_append rfl
  rintro rfl
  generalize defaultTypeGone channelName = text at *
  cases refusal with
  | channelMissing name => exact absurd last (by rw [Text.getLast?_append rfl]; decide)
  | noChannel | defaultChannelGone => simp at first
  | noDefaultType name => exact absurd last (by rw [Text.getLast?_append rfl]; decide)
  | insufficientScope value => simp [String.toList_append] at first

theorem UntypedRefusal.ne_typeNotConfigured (refusal : UntypedRefusal reason)
    (typeName channelName : String) : reason ≠ typeNotConfigured typeName channelName := by
  have first : (typeNotConfigured typeName channelName).toList.head? = some 't' := by
    simp [typeNotConfigured, String.toList_append]
  rintro rfl
  generalize typeNotConfigured typeName channelName = text at *
  cases refusal <;> simp [String.toList_append] at first

namespace Channels

variable {db : Channels} {user : UserRow} {descriptor : BuildDescriptor} {reason : String}

theorem untypedRefusal_of_resolveChannel
    (refused : db.resolveChannel user descriptor = .error reason) : UntypedRefusal reason := by
  unfold resolveChannel at refused
  split at refused
  · obtain ⟨-, rfl⟩ := orError_eq_error.mp refused
    exact .channelMissing _
  · rcases bind_eq_error.mp refused with missing | ⟨channelId, -, gone⟩
    · obtain ⟨-, rfl⟩ := orError_eq_error.mp missing
      exact .noChannel
    · obtain ⟨-, rfl⟩ := orError_eq_error.mp gone
      exact .defaultChannelGone

/-- With usable defaults, a build without a type is refused for its channel, for a missing default
or for the scope of the user only. -/
theorem DefaultsUsable.untypedRefusal (usable : db.DefaultsUsable) {accounts : Accounts}
    {email : String} (untyped : descriptor.versionType = none)
    (refused : resolveAndRewrite accounts db email user descriptor = .error reason) :
    UntypedRefusal reason := by
  unfold resolveAndRewrite at refused
  rcases bind_eq_error.mp refused with noChannel | ⟨record, isRecord, refused⟩
  · exact untypedRefusal_of_resolveChannel noChannel
  obtain ⟨channelId, channel, stored, active, -, rfl⟩ := resolveChannel_eq_ok.mp isRecord
  have offered := usable channelId channel stored active
  rcases bind_eq_error.mp refused with noType | ⟨typeName, isTypeName, refused⟩
  · rw [resolveTypeName, untyped] at noType
    rcases bind_eq_error.mp noType with missing | ⟨typeId, isDefault, gone⟩
    · obtain ⟨-, rfl⟩ := orError_eq_error.mp missing
      exact .noDefaultType _
    · -- the default type is there
      obtain ⟨type, typeStored, typeActive, -⟩ := offered typeId (orError_eq_ok.mp isDefault)
      have found : db.getType typeId = some type := by
        simp [getType, typeStored, typeActive]
      rcases bind_eq_error.mp gone with missing | ⟨_, _, done⟩
      · exact absurd (orError_eq_error.mp missing).1 (by simp [found])
      · cases done
  · rw [resolveTypeName_eq_ok, untyped] at isTypeName
    obtain ⟨typeId, row, isDefault, rowStored, rowActive, rfl⟩ := isTypeName
    obtain ⟨type, typeStored, -, belongs⟩ := offered typeId isDefault
    obtain rfl := Option.some.inj (rowStored.symm.trans typeStored)
    have resolved := resolveChannelType_eq_some.mpr ⟨channel, typeId, row, rowStored, rowActive,
      rfl, by rw [belongs]; exact stored, active, rfl, rfl⟩
    rcases bind_eq_error.mp refused with missing | ⟨_, _, refused⟩
    · exact absurd (orError_eq_error.mp missing).1 (by simp [resolved])
    · rcases bind_eq_error.mp refused with unscoped | ⟨_, _, done⟩
      · obtain ⟨-, rfl⟩ := require_eq_error.mp unscoped
        exact .insufficientScope _
      · cases done

end Channels

/-- After every schedule of requests, the default type of a channel is usable, and a build without a
type is never refused because of its type. -/
theorem default_type_usable {events : List (Event Channels Empty)}
    (served : ∀ event ∈ events, ChannelEvent event) :
    (∀ channelId channel, (channelsAfter events).channels.lookup channelId = some channel →
        channel.deleted = false →
          channel.defaultTypeId = none ∨ ∃ typeId type, channel.defaultTypeId = some typeId ∧
            (channelsAfter events).types.lookup typeId = some type ∧ type.deleted = false ∧
              type.channelId = channelId) ∧
      ∀ accounts email user descriptor reason, descriptor.versionType = none →
        resolveAndRewrite accounts (channelsAfter events) email user descriptor = .error reason →
          (∀ channelName, reason ≠ defaultTypeGone channelName) ∧
            ∀ typeName channelName, reason ≠ typeNotConfigured typeName channelName := by
  have usable := defaultsUsable_of_run served
  constructor
  · intro channelId channel stored active
    cases isDefault : channel.defaultTypeId with
    | none => exact Or.inl rfl
    | some typeId =>
      obtain ⟨type, found⟩ := usable channelId channel stored active typeId isDefault
      exact Or.inr ⟨typeId, type, rfl, found⟩
  · intro accounts email user descriptor reason untyped refused
    have refusal := usable.untypedRefusal untyped refused
    exact ⟨refusal.ne_defaultTypeGone, refusal.ne_typeNotConfigured⟩

/-- A request adds a type to a new channel, and another one deletes it before it becomes the
default; then a second type is added. -/
def crossingTypes : List (Event Channels Empty) :=
  let routine := ChannelRequest.routine ⟨fun _ => false⟩
    ⟨"admin@example.com", "Admin", ["*"], false⟩
  [.spawn (routine (.createChannel "ces")), .advance 0,
    .spawn (routine (.addType 1 "dev" "ces-devel" "")), .advance 1, .advance 1,
    .spawn (routine (.deleteType 1 1)), .advance 2, .advance 2, .advance 2, .advance 1,
    .spawn (routine (.addType 1 "release" "ces" "")), .advance 3, .advance 3, .advance 3]

/-- The type that was deleted in between is not the default. -/
theorem crossing_default_usable :
    (channelsAfter crossingTypes).types.lookup 1 = some ⟨1, .dev, "ces-devel", "", true⟩ ∧
      (channelsAfter crossingTypes).channels.lookup 1 = some ⟨"ces", some 2, false⟩ ∧
      ∃ type, (channelsAfter crossingTypes).types.lookup 2 = some type ∧ type.deleted = false ∧
        type.channelId = 1 := by
  have served : ∀ event ∈ crossingTypes, ChannelEvent event := by
    intro event inside
    simp only [crossingTypes, List.mem_cons, List.not_mem_nil, or_false] at inside
    rcases inside with rfl | rfl | rfl | rfl | rfl | rfl | rfl | rfl | rfl | rfl | rfl | rfl | rfl |
      rfl
    all_goals first | trivial | exact ⟨_, _, _, rfl⟩
  have stored : (channelsAfter crossingTypes).channels.lookup 1 = some ⟨"ces", some 2, false⟩ := by
    decide
  refine ⟨by decide, stored, ?_⟩
  rcases (default_type_usable served).1 1 _ stored rfl with missing | ⟨typeId, type, same, found⟩
  · cases missing
  · obtain rfl := Option.some.inj same
    exact ⟨type, found⟩

end Cbs

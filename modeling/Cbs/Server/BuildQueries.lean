import Cbs.Server.Admission
import Cbs.Server.LogTail

/-!
# Reading builds and their logs

The routes that list builds, show one build and return its log; they only read the state.
-/

namespace Cbs

open Checks

/-- Everything that the build routes read. -/
structure Service where
  site : Site
  state : AppState

structure ReadEnv (Json : Type) where
  fromStr : String → Option Json
  /-- The binary search in the index of a log: where the line with a sequence number starts. -/
  binarySearch : List (Nat × Nat) → Nat → Option Nat

variable {Json : Type}

/-- The text that `builds.state` holds. -/
def BuildState.asStr : BuildState → String
  | queued => "queued"
  | dispatched => "dispatched"
  | started => "started"
  | revoking => "revoking"
  | success => "success"
  | failure => "failure"
  | revoked => "revoked"

structure BuildListRecord where
  id : BuildId
  descriptor : Option BuildDescriptor
  userEmail : String
  isRobot : Bool
  priority : Priority
  state : BuildState
  workerId : Option WorkerId
  traceId : Option String
  error : Option String
  submittedAt : Int
  queuedAt : Int
  startedAt : Option Int
  finishedAt : Option Int
  channelId : Option Int
  channelTypeId : Option Int
  channelName : Option String
  channelTypeName : Option VersionType
  deriving DecidableEq

/-- A single build, with the report that a listing leaves out. -/
structure BuildRecord (Json : Type) extends BuildListRecord where
  buildReport : Option Json
  deriving DecidableEq

namespace Service

/-- A row joined with the user, the channel and the type it refers to; deleted channels and types
keep their names. -/
def listRecord (service : Service) (id : BuildId) (row : BuildRow) : BuildListRecord where
  id := id
  descriptor := row.descriptor
  userEmail := row.userEmail
  isRobot := (service.site.accounts.getUser row.userEmail).any (·.isRobot)
  priority := row.priority
  state := row.state
  workerId := row.workerId
  traceId := row.traceId
  error := row.error
  submittedAt := row.submittedAt
  queuedAt := row.queuedAt
  startedAt := row.startedAt
  finishedAt := row.finishedAt
  channelId := row.channelId
  channelTypeId := row.channelTypeId
  channelName := row.channelId.bind fun id =>
    (service.site.channels.channels.lookup id).map (·.name)
  channelTypeName := row.channelTypeId.bind fun id =>
    (service.site.channels.types.lookup id).map (·.typeName)

def getBuildRecord (env : ReadEnv Json) (service : Service) (id : BuildId) :
    Option (BuildRecord Json) :=
  (service.state.builds.getBuild id).map fun row =>
    { service.listRecord id row with buildReport := row.buildReport.bind env.fromStr }

/-- The optional conditions of a listing. -/
def passesFilters (userFilter stateFilter : Option String) (row : BuildRow) : Bool :=
  userFilter.all (row.userEmail = ·) && stateFilter.all (row.state.asStr = ·)

def listBuildRecords (service : Service) (userFilter stateFilter : Option String) :
    List BuildListRecord :=
  (service.state.builds.rows.selectDescending fun _ row =>
    passesFilters userFilter stateFilter row).map fun entry => service.listRecord entry.1 entry.2

/-- The path that the writer uses for the log of a build. -/
def logPath (id : BuildId) : String :=
  "builds/" ++ toString id ++ ".log"

/-- The file at a path below the log directory. -/
def openLog (service : Service) (path : String) : Option String :=
  (service.state.logFiles.entries.find? fun entry => logPath entry.1 = path).map (·.2)

end Service

def maxTailLines : Nat := 1000

def maxTailBytes : Nat := 4 * 1024 * 1024

structure LogsTail where
  buildId : BuildId
  result : TailReadResult
  maxTailBytes : Nat
  deriving DecidableEq

inductive LogEvent where
  | output (id : UInt64) (data : String)
  | done (data : String)
  deriving DecidableEq

/-- What a stream does after the events that are available. -/
inductive StreamEnd where
  | closed
  | watching
  | polling
  deriving DecidableEq

/-- The response of the follow route, as far as the state determines it. -/
structure LogStream where
  events : List LogEvent
  next : StreamEnd
  deriving DecidableEq

/-- Number lines from a sequence number on, up to the first one that is not UTF-8. -/
def numberLines (currentSeq : UInt64) : List (List UInt8) → List LogEvent
  | [] => []
  | line :: lines =>
    match String.fromUTF8? ⟨line.toArray⟩ with
    | none => []
    | some text => .output currentSeq text :: numberLines (currentSeq + 1) lines

/-- The lines that a reader finds; the last one may be partial. -/
def readAvailableLines (bytes : List UInt8) (currentSeq : UInt64) : List LogEvent :=
  let pieces := bytes.splitOn 10
  numberLines currentSeq (if pieces.getLast? = some [] then pieces.dropLast else pieces)

namespace Service

variable (env : ReadEnv Json) (service : Service)

/-- Where the line with a sequence number starts in the log of a build. -/
def getSeqOffset (id : BuildId) (seq : Nat) : Option Nat := do
  let entries ← service.state.seqIndices.lookup id
  env.binarySearch entries seq

/-- The stream of a build's log, after the last event that the client has seen. -/
def sseFollow (id : BuildId) (lastEventId : Option UInt64) : Except AuthError LogStream := do
  let _ ← orError ⟨.notFound, "build not found"⟩ (service.state.builds.getBuild id)
  let logRow ← orError ⟨.notFound, "no logs yet"⟩ (service.state.buildLogs.lookup id)
  let file := service.openLog logRow.logPath
  let startSeq : UInt64 := (lastEventId.map (· + 1)).getD 0
  let seekOffset := if 0 < startSeq then service.getSeqOffset env id startSeq.toNat else none
  let bytes := (file.getD "").toUTF8.data.toList.drop (seekOffset.getD 0)
  let lines := readAvailableLines bytes startSeq
  pure <|
    if logRow.finished then ⟨lines ++ [.done "build complete"], .closed⟩
    else if id ∈ service.state.logWatchers then ⟨lines, .watching⟩
    else ⟨lines, .polling⟩

/-- The lookup and the ownership rule that the routes for one build have in common. -/
def viewBuild (user : AuthUser) (id : BuildId) : Except AuthError (BuildRecord Json) := do
  let build ← orError ⟨.notFound, "build not found"⟩ (service.getBuildRecord env id)
  if user.hasCap "builds:list:any" then pure build
  else do
    require (user.hasCap "builds:list:own" = true)
      ⟨.forbidden, "missing required capability: builds:list:own or builds:list:any"⟩
    require (build.userEmail = user.email) ⟨.notFound, "build not found"⟩
    pure build

def listBuilds (user : AuthUser) (userParam stateParam : Option String) :
    Except AuthError (List BuildListRecord) := do
  require (user.hasCap "builds:list:any" = true ∨ user.hasCap "builds:list:own" = true)
    ⟨.forbidden, "missing required capability: builds:list:own or builds:list:any"⟩
  let userFilter := if user.hasCap "builds:list:any" then userParam else some user.email
  pure (service.listBuildRecords userFilter stateParam)

def getBuild (user : AuthUser) (id : BuildId) : Except AuthError (BuildRecord Json) :=
  service.viewBuild env user id

def logsTail (user : AuthUser) (id : BuildId) (lines : UInt32) : Except AuthError LogsTail := do
  let requested := min lines.toNat maxTailLines
  let _ ← service.viewBuild env user id
  let content ← orError ⟨.notFound, "no logs yet"⟩ (service.openLog (logPath id))
  pure ⟨id, readTail (Utf8.bytes content) requested maxTailBytes, maxTailBytes⟩

/-- Follow a build's log.  The errors of this route are plain texts. -/
def logsFollow (user : AuthUser) (id : BuildId)
    (lastEventId : Option UInt64) : Except AuthError LogStream := do
  let _ ← service.viewBuild env user id
  service.sseFollow env id lastEventId

def logsFull (user : AuthUser) (id : BuildId) : Except AuthError String := do
  let _ ← service.viewBuild env user id
  orError ⟨.notFound, "no logs yet"⟩ (service.openLog (logPath id))

end Service

/-- A request about existing builds. -/
inductive BuildRequest where
  | list (user state : Option String)
  | get (id : BuildId)
  | tail (id : BuildId) (lines : UInt32)
  | follow (id : BuildId) (lastEventId : Option UInt64)
  | full (id : BuildId)
  | revoke (id : BuildId)

inductive BuildResponse (Json : Type) where
  | builds (records : List BuildListRecord)
  | build (record : BuildRecord Json)
  | tail (tail : LogsTail)
  | stream (stream : LogStream)
  | file (content : String)
  | detail (text : String)

def BuildRequest.respond (env : ReadEnv Json) (service : Service) (user : AuthUser) :
    BuildRequest → Except AuthError (BuildResponse Json)
  | list userParam stateParam => (service.listBuilds user userParam stateParam).map .builds
  | get id => (service.getBuild env user id).map .build
  | tail id lines => (service.logsTail env user id lines).map .tail
  | follow id lastEventId => (service.logsFollow env user id lastEventId).map .stream
  | full id => (service.logsFull env user id).map .file
  | revoke id => ((revokeBuild user id).run service.state).2.map .detail

end Cbs

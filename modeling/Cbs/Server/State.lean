import Mathlib.Data.Finset.Basic
import Cbs.Library.Routine
import Cbs.Server.Builds
import Cbs.Server.Queue

/-!
# The state of the server

The database tables, the queue and the other shared maps, with the tasks that wait in the background
and the open sockets.  The steps of a handler are critical sections of the queue lock and SQL
statements, labelled with the build they are about.
-/

namespace Cbs

open Concurrency

/-- A spawned task that returns a build to the queue unless its token is cancelled first. -/
structure AckTimer where
  buildId : BuildId
  token : Nat
  deriving DecidableEq

/-- What the handler of an accepted connection knows about its worker, and its socket. -/
structure Connection where
  registeredWorkerId : WorkerId
  workerName : String
  /-- The worker takes no more frames, so that a write to the socket blocks. -/
  stalled : Bool
  deriving DecidableEq

/-- The state that the handlers share. -/
structure AppState where
  builds : BuildsTable
  buildLogs : BuildLogsTable
  queue : BuildQueue
  /-- The outbound channels, with the frames sent on them. -/
  workerSenders : Dictionary ConnectionId (List Frame)
  logWatchers : Finset BuildId
  /-- The sequence number and file offset of every indexed log line. -/
  seqIndices : Dictionary BuildId (List (Nat × Nat))
  logFiles : Dictionary BuildId String
  ackTimers : List AckTimer
  cancelled : Finset Nat
  nextToken : Nat
  revokeTimers : List BuildId
  graceMonitors : List ConnectionId
  connections : Dictionary ConnectionId Connection
  /-- Every connection identifier handed out so far. -/
  issued : Finset ConnectionId
  deriving DecidableEq

/-- The state of a process that has just started on a database. -/
def AppState.boot (builds : BuildsTable) (buildLogs : BuildLogsTable)
    (logFiles : Dictionary BuildId String) : AppState where
  builds := builds
  buildLogs := buildLogs
  queue := .new
  workerSenders := ∅
  logWatchers := ∅
  seqIndices := ∅
  logFiles := logFiles
  ackTimers := []
  cancelled := ∅
  nextToken := 0
  revokeTimers := []
  graceMonitors := []
  connections := ∅
  issued := ∅

/-- Put frames on the outbound channel of a connection, if there is one. -/
def AppState.deliver (state : AppState) (connectionId : ConnectionId) (frames : List Frame) :
    AppState :=
  { state with
    workerSenders := Dictionary.modify connectionId (· ++ frames) state.workerSenders }

structure Tarball where
  bytes : List UInt8
  sha256 : String
  deriving DecidableEq

structure Env where
  now : Int
  /-- The order in which the map of workers is traversed. -/
  workerRank : ConnectionId → Nat
  /-- The order in which the map of assignments is traversed. -/
  buildRank : BuildId → Nat
  traceId : String
  /-- The failure of the statement that records a dispatch, if it fails. -/
  databaseError : Option String
  packComponents : List String → Except String Tarball
  acceptsText : Bool
  acceptsBinary : Bool

abbrev Handler (α : Type) : Type :=
  Routine AppState BuildId α

namespace Handler

variable {α : Type}

/-- A critical section of the queue lock that is about one build. -/
def lockFor (buildId : BuildId) (action : BuildQueue → BuildQueue × α) : Handler α :=
  .step buildId fun state =>
    ({ state with queue := (action state.queue).1 }, (action state.queue).2)

/-- A critical section of the queue lock that is about no build in particular. -/
def lock (action : BuildQueue → BuildQueue × α) : Handler α :=
  .stepFree fun state =>
    ({ state with queue := (action state.queue).1 }, (action state.queue).2)

def execute (buildId : BuildId) (change : BuildsTable → BuildsTable) : Handler Unit :=
  .step buildId fun state => ({ state with builds := change state.builds }, ())

/-- `SELECT ... WHERE id = ?` on the builds table. -/
def getBuild (buildId : BuildId) : Handler (Option BuildRow) :=
  .step buildId fun state => (state, state.builds.getBuild buildId)

/-- A statement on the `build_logs` table. -/
def executeLogs (change : BuildLogsTable → BuildLogsTable) : Handler Unit :=
  .stepFree fun state => ({ state with buildLogs := change state.buildLogs }, ())

def removeWatcher (buildId : BuildId) : Handler Unit :=
  .stepFree fun state => ({ state with logWatchers := state.logWatchers.erase buildId }, ())

/-- Cancel a dispatch-ack timer. -/
def cancel (token : Nat) : Handler Unit :=
  .stepFree fun state => ({ state with cancelled := insert token state.cancelled }, ())

/-- Send a message on a connection's channel, if there is one. -/
def sendTextToConnection (connectionId : ConnectionId) (message : ServerMessage) : Handler Unit :=
  .stepFree fun state => (state.deliver connectionId [.text message], ())

end Handler

/-- A loop that updates one row after another, each of them once. -/
theorem getBuild_foldl {β : Type} {body : AppState → β → AppState} {key : β → BuildId}
    {change : BuildRow → BuildRow}
    (updates : ∀ state item, (body state item).builds = state.builds.update (key item) change)
    {items : List β} (nodup : (items.map key).Nodup) (state : AppState) (buildId : BuildId) :
    (items.foldl body state).builds.getBuild buildId =
      if buildId ∈ items.map key then (state.builds.getBuild buildId).map change
      else state.builds.getBuild buildId := by
  induction items generalizing state with
  | nil => simp
  | cons item items ih =>
    obtain ⟨fresh, rest⟩ := List.nodup_cons.mp nodup
    rw [List.foldl_cons, ih rest, updates, BuildsTable.getBuild_update]
    by_cases same : buildId = key item
    · subst same
      simp [fresh]
    · simp only [same, if_false, List.map_cons, List.mem_cons, false_or]

end Cbs

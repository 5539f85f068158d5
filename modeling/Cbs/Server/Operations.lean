import Cbs.Server.Recovery
import Cbs.Server.Requests
import Cbs.Server.Workers

/-!
# Server operations

The complete operations of the server, when each of them may happen, and the states that they reach
from the start of a server on an arbitrary database.
-/

namespace Cbs

open Concurrency

/-- What can happen to the server. -/
inductive Operation where
  | submit (submission : Submission)
  | dispatch
  | message (connectionId : ConnectionId) (connection : Connection) (received : WorkerMessage)
  | ackTimeout (timer : AckTimer)
  | revoke (user : AuthUser) (buildId : BuildId)
  | revokeTimeout (buildId : BuildId)
  /-- A worker connects; `welcomed` says whether the welcome message could be sent. -/
  | connect (connectionId : ConnectionId) (hello : Hello) (welcomed : Bool)
  | disconnect (connectionId : ConnectionId) (connection : Connection)
  | graceExpired (connectionId : ConnectionId)
  /-- The periodic sweep ticks; the list supplies its further dispatch attempts. -/
  | sweep (attempts : List Env)

def Operation.routine (env : Env) : Operation → Handler Unit
  | submit submission => do
    let _ ← insertBuildInternal env submission
    pure ()
  | dispatch => do
    let _ ← tryDispatch env
    pure ()
  | message connectionId connection received =>
    handleWorkerMessage env connectionId connection received
  | ackTimeout timer => do
    .stepFree fun state => ({ state with ackTimers := state.ackTimers.erase timer }, ())
    let _ ← rollbackActiveToQueued env timer.buildId
    pure ()
  | revoke user buildId => do
    let _ ← revokeBuild user buildId
    pure ()
  | revokeTimeout buildId => do
    .stepFree fun state => ({ state with revokeTimers := state.revokeTimers.erase buildId }, ())
    handleRevokeTimeout env buildId
  | connect connectionId hello welcomed => acceptConnection env connectionId hello welcomed
  | disconnect connectionId connection => closeConnection env connectionId connection
  | graceExpired connectionId => do
    .stepFree fun state =>
      ({ state with graceMonitors := state.graceMonitors.erase connectionId }, ())
    gracePeriodExpired env connectionId
  | sweep attempts => periodicSweep (env :: attempts)

/-- The message loop of a connection is running.  It ends once the channel of the connection was
dropped and its frames are written, so that only a blocked write lets it go on. -/
def AppState.Listens (state : AppState) (connectionId : ConnectionId) (connection : Connection) :
    Prop :=
  state.connections.lookup connectionId = some connection ∧
    (connectionId ∈ state.workerSenders ∨ connection.stalled = true)

/-- When an operation may happen: timers fire only while they are pending, messages are read by
running message loops, and a new connection gets a fresh identifier. -/
def Operation.Enabled (state : AppState) : Operation → Prop
  | submit _ | dispatch => True
  | message connectionId connection _ => state.Listens connectionId connection
  | ackTimeout timer => timer ∈ state.ackTimers ∧ timer.token ∉ state.cancelled
  | revoke _ _ => True
  | revokeTimeout buildId => buildId ∈ state.revokeTimers
  | connect connectionId _ _ => connectionId ∉ state.issued
  | disconnect connectionId connection => state.connections.lookup connectionId = some connection
  | graceExpired connectionId => connectionId ∈ state.graceMonitors
  | sweep _ => True

instance (state : AppState) : (operation : Operation) → Decidable (operation.Enabled state)
  | .submit _ | .dispatch | .revoke .. | .sweep _ => isTrue trivial
  | .message .. | .ackTimeout _ => inferInstanceAs (Decidable (_ ∧ _))
  | .revokeTimeout _ | .graceExpired _ => inferInstanceAs (Decidable (_ ∈ _))
  | .connect .. => inferInstanceAs (Decidable (_ ∉ _))
  | .disconnect .. => inferInstanceAs (Decidable (_ = _))

/-- No statement fails while the operation runs. -/
def Operation.NoDatabaseError (env : Env) : Operation → Prop
  | sweep attempts => ∀ attempt ∈ env :: attempts, attempt.databaseError = none
  | _ => env.databaseError = none

/-- Run an operation to completion. -/
def Operation.exec (env : Env) (operation : Operation) (state : AppState) : AppState :=
  ((operation.routine env).run state).1

/-- Which runs of a server are considered. -/
structure Schedule where
  /-- The tables of builds and logs that the server may start on. -/
  starts : BuildsTable → BuildLogsTable → Prop
  /-- What may happen in a state, together with what happens while it runs. -/
  admits : AppState → Env → Operation → Prop
  /-- The states in which the server may be restarted. -/
  restarts : AppState → Prop

/-- The states that complete operations and restarts of a schedule reach from a first start. -/
inductive Schedule.Reaches (schedule : Schedule) : AppState → Prop
  | start (env : Env) {builds : BuildsTable} {buildLogs : BuildLogsTable}
      (logFiles : Dictionary BuildId String) (starts : schedule.starts builds buildLogs) :
      schedule.Reaches (runStartupRecovery env (.boot builds buildLogs logFiles))
  | step {state : AppState} (reachable : schedule.Reaches state) (env : Env)
      (operation : Operation) (enabled : operation.Enabled state)
      (admitted : schedule.admits state env operation) :
      schedule.Reaches (operation.exec env state)
  | restarted {state : AppState} (reachable : schedule.Reaches state) (env : Env)
      (restarts : schedule.restarts state) : schedule.Reaches (restart env state)

/-- The states that complete operations reach from the start of a server on any database. -/
abbrev ReachableBy (admits : Env → Operation → Prop) : AppState → Prop :=
  Schedule.Reaches ⟨fun _ _ => True, fun _ => admits, fun _ => True⟩

/-- The states that complete operations reach without database errors. -/
abbrev Reachable : AppState → Prop :=
  ReachableBy fun env operation => operation.NoDatabaseError env

variable {state : AppState}

namespace Schedule.Reaches

variable {schedule : Schedule}

/-- A schedule that may start and be restarted anywhere only has to admit the operations. -/
theorem mono {admits : Env → Operation → Prop} (reachable : schedule.Reaches state)
    (weaken : ∀ state env operation, schedule.admits state env operation → admits env operation) :
    ReachableBy admits state := by
  induction reachable with
  | start env logFiles => exact .start env logFiles trivial
  | step _ env operation enabled admitted ih =>
    exact .step ih env operation enabled (weaken _ env operation admitted)
  | restarted _ env _ ih => exact .restarted ih env trivial

end Schedule.Reaches

/-- Run operations one after another; there is no result if one of them is not enabled. -/
def execAll (env : Env) : List Operation → AppState → Option AppState
  | [], state => some state
  | operation :: operations, state =>
    if operation.Enabled state then execAll env operations (operation.exec env state) else none

theorem Schedule.Reaches.execAll {schedule : Schedule} {env : Env} {operations : List Operation}
    (reachable : schedule.Reaches state)
    (admitted : ∀ operation ∈ operations, ∀ state, schedule.admits state env operation)
    (enabled : (execAll env operations state).isSome = true) :
    schedule.Reaches ((execAll env operations state).getD state) := by
  obtain ⟨final, run⟩ := Option.isSome_iff_exists.mp enabled
  rw [run, Option.getD_some]
  clear enabled
  induction operations generalizing state with
  | nil => rwa [← Option.some.inj run]
  | cons operation operations ih =>
    unfold Cbs.execAll at run
    split at run
    · rename_i enabled
      exact ih (reachable.step env operation enabled (admitted operation (by simp) state))
        (fun other inside => admitted other (by simp [inside])) run
    · exact absurd run (by simp)

def Env.smooth : Env where
  now := 0
  workerRank := fun _ => 0
  buildRank := fun _ => 0
  traceId := "trace"
  databaseError := none
  packComponents := fun _ => .ok ⟨[], "sha256"⟩
  acceptsText := true
  acceptsBinary := true

def cephDescriptor : BuildDescriptor where
  version := "19.2.3"
  channel := none
  versionType := none
  signedOffBy := ⟨"Alice", "alice@example.com"⟩
  dstImage := ⟨"harbor/ceph", "v19.2.3"⟩
  components := [⟨"ceph", "v19.2.3", none⟩]
  build := ⟨"rockylinux", "el9", "rpm", .x86_64⟩

def cephSubmission : Submission where
  descriptor := cephDescriptor
  userEmail := "alice@example.com"
  priority := .normal
  periodicTaskId := none
  channelId := some 1
  channelTypeId := some 1

def builder : Connection where
  registeredWorkerId := "worker-1"
  workerName := "builder"
  stalled := false

def builderHello : Hello where
  connection := builder
  arch := .x86_64
  coresTotal := 16
  ramTotalMb := 65536
  version := none

def admin : AuthUser where
  email := "admin@example.com"
  name := "Admin"
  caps := ["*"]
  isRobot := false

def freshServer : AppState :=
  runStartupRecovery .smooth (.boot .empty ∅ ∅)

theorem reachable_freshServer : Reachable freshServer :=
  .start .smooth ∅ trivial

def acceptedServer : AppState :=
  (execAll .smooth
    [.connect "first" builderHello true, .submit cephSubmission, .dispatch,
      .message "first" builder (.buildAccepted 1)]
    freshServer).getD freshServer

theorem reachable_acceptedServer : Reachable acceptedServer :=
  reachable_freshServer.execAll (by simp [Operation.NoDatabaseError, Env.smooth]) (by decide)

def executingServer : AppState :=
  (Operation.message "first" builder (.buildStarted 1)).exec .smooth acceptedServer

theorem reachable_executingServer : Reachable executingServer :=
  .step reachable_acceptedServer .smooth (.message "first" builder (.buildStarted 1)) (by decide)
    rfl

end Cbs

import Cbs.Proto

/-!
# The supervisor of the active build

The supervisor outlives the connections of a worker.  It keeps the build that was accepted and not
yet reported as ended, the sender of the present connection, and what the build has produced without
one.
-/

namespace Cbs

/-- How far the worker has come with a build. -/
inductive BuildPhase where
  | accepted
  | started
  | revoking
  | terminalPendingReport
  deriving DecidableEq

/-- The handle of the subprocess. -/
structure BuildExecutor where
  cancelled : Bool
  deriving DecidableEq

/-- Tell the subprocess to stop. -/
def BuildExecutor.kill (_ : BuildExecutor) : BuildExecutor :=
  ⟨true⟩

structure Supervisor.ActiveBuild where
  buildId : BuildId
  phase : BuildPhase
  /-- Its subprocess, until someone waits for it. -/
  executor : Option BuildExecutor
  outputTask : Option Nat
  /-- The end to be reported on the next connection. -/
  pendingTerminal : Option WorkerMessage
  /-- The spool file, which is named after the build. -/
  spoolPath : Option BuildId
  spoolBytes : Nat
  spoolExhausted : Bool
  deriving DecidableEq

/-- The state of the supervisor and its spool files. -/
structure Supervisor where
  /-- The number of the connection whose sender is attached. -/
  transport : Option Nat
  active : Option Supervisor.ActiveBuild
  spools : BuildId → List WorkerMessage

def Supervisor.initial : Supervisor :=
  ⟨none, none, fun _ => []⟩

structure WorkerConfig where
  capacity : Nat
  spoolCapBytes : Nat
  /-- The number of bytes of a message as JSON. -/
  size : WorkerMessage → Nat

/-- The build that a message of the streaming task is about. -/
def WorkerMessage.streamedBuild : WorkerMessage → Option BuildId
  | buildOutput buildId _ _ | buildFinished buildId _ _ _ => some buildId
  | _ => none

/-- The build whose end a message reports. -/
def WorkerMessage.finishedBuild : WorkerMessage → Option BuildId
  | buildFinished buildId _ _ _ => some buildId
  | _ => none

namespace Supervisor

variable (supervisor : Supervisor)

def modifyActive (buildId : BuildId) (change : ActiveBuild → ActiveBuild) : Supervisor :=
  { supervisor with
    active := supervisor.active.map fun active =>
      if active.buildId = buildId then change active else active }

def registerAccepted (buildId : BuildId) : Except BuildId Supervisor :=
  match supervisor.active with
  | some active => .error active.buildId
  | none =>
    .ok
      { supervisor with
        active := some
          { buildId
            phase := .accepted
            executor := some ⟨false⟩
            outputTask := none
            pendingTerminal := none
            spoolPath := none
            spoolBytes := 0
            spoolExhausted := false } }

def attachOutputTask (buildId : BuildId) (task : Nat) : Supervisor :=
  supervisor.modifyActive buildId fun active => { active with outputTask := some task }

/-- Record that the start was reported. -/
def markStarted (buildId : BuildId) : Supervisor :=
  supervisor.modifyActive buildId fun active =>
    if active.phase = .accepted then { active with phase := .started } else active

inductive RevokeOutcome where
  | revokingActive
  | nonActive (active : BuildId)
  | idle
  deriving DecidableEq

def onBuildRevoke (buildId : BuildId) : Supervisor × RevokeOutcome :=
  match supervisor.active with
  | some active =>
    if active.buildId = buildId then
      (supervisor.modifyActive buildId fun active =>
        { active with
          phase := .revoking
          pendingTerminal := none
          executor := active.executor.map .kill }, .revokingActive)
    else (supervisor, .nonActive active.buildId)
  | none => (supervisor, .idle)

/-- The end that is reported when the spool file would have become too large. -/
def spoolExceeded (buildId : BuildId) : WorkerMessage :=
  .buildFinished buildId .failure (some "worker disconnected output spool exceeded") none

/-- Keep a message for the next connection: an end with the build, everything else in the spool
file. -/
def spoolActive (config : WorkerConfig) (supervisor : Supervisor) (active : ActiveBuild)
    (message : WorkerMessage) (isTerminal : Bool) : Supervisor :=
  if active.spoolExhausted then supervisor
  else if isTerminal then
    { supervisor with
      active := some
        { active with phase := .terminalPendingReport, pendingTerminal := some message } }
  else
    let newTotal := active.spoolBytes + (config.size message + 1)
    if config.spoolCapBytes < newTotal then
      { supervisor with
        active := some
          { active with
            spoolExhausted := true
            executor := active.executor.map .kill
            phase := .terminalPendingReport
            pendingTerminal := some (spoolExceeded active.buildId) } }
    else
      let path := active.spoolPath.getD active.buildId
      { supervisor with
        active := some { active with spoolPath := some path, spoolBytes := newTotal }
        spools := Function.update supervisor.spools path (supervisor.spools path ++ [message]) }

/-- Keep a message of the active build for the next connection. -/
def spoolAndFinalize (config : WorkerConfig) (supervisor : Supervisor) (message : WorkerMessage) :
    Supervisor :=
  match supervisor.active with
  | none => supervisor
  | some active =>
    supervisor.spoolActive config active message message.finishedBuild.isSome

/-- What the reconnect messages are made from. -/
structure Snapshot where
  buildId : BuildId
  /-- Its spool file, if something is in it. -/
  spoolPath : Option BuildId
  pendingTerminal : Option WorkerMessage
  deriving DecidableEq

/-- Take the pending end for the reconnect messages. -/
def takeSnapshot : Supervisor × Option Snapshot :=
  match supervisor.active with
  | none => (supervisor, none)
  | some active =>
    let spoolPath := if 0 < active.spoolBytes then active.spoolPath else none
    if active.phase = .terminalPendingReport then
      ({ supervisor with active := some { active with pendingTerminal := none } },
        some ⟨active.buildId, spoolPath, active.pendingTerminal⟩)
    else (supervisor, some ⟨active.buildId, spoolPath, none⟩)

def removeSpool (path : BuildId) : Supervisor :=
  { supervisor with spools := Function.update supervisor.spools path [] }

/-- Record that the spool file was read. -/
def forgetSpool (buildId : BuildId) : Supervisor :=
  supervisor.modifyActive buildId fun active => { active with spoolBytes := 0, spoolPath := none }

def attachTransport (connection : Nat) : Supervisor :=
  { supervisor with transport := some connection }

def detachTransport : Supervisor :=
  { supervisor with transport := none }

/-- Take from a build that is reported what has to be waited for and removed. -/
def retireTake (buildId : BuildId) : Supervisor × Option (Option Nat × Option BuildId) :=
  match supervisor.active with
  | none => (supervisor, none)
  | some active =>
    if active.buildId = buildId then
      (supervisor.modifyActive buildId fun active =>
        { active with outputTask := none, executor := none, spoolPath := none },
        some (active.outputTask, active.spoolPath))
    else (supervisor, none)

/-- Drop a build that is reported. -/
def retireClear (buildId : BuildId) : Supervisor :=
  { supervisor with active := supervisor.active.filter (·.buildId ≠ buildId) }

end Supervisor

end Cbs

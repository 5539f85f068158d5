import Cbs.Library.Text
import Cbs.Server.State

/-!
# Dispatching builds

The dispatch engine: popping a waiting build and assigning it to an idle worker, returning a build
to the queue, and the handlers of the messages and timers that follow a dispatch.
-/

namespace Cbs

open Concurrency

inductive DispatchError where
  | nothingToDispatch
  | database (reason : String)
  | tarball (reason : String)
  | send (reason : String)
  deriving DecidableEq

/-- What the dispatch needs once the queue lock is released. -/
structure DispatchInfo where
  buildId : BuildId
  priority : Priority
  descriptor : BuildDescriptor
  traceId : String
  connectionId : ConnectionId
  deriving DecidableEq

/-- The terminal states that the server itself may give to an active build. -/
inductive TerminalStatus where
  | failure
  | revoked
  deriving DecidableEq

def TerminalStatus.toState : TerminalStatus → BuildState
  | .failure => .failure
  | .revoked => .revoked

theorem TerminalStatus.terminal_toState (status : TerminalStatus) : status.toState.Terminal := by
  cases status <;> decide

/-- The cleanup shared by every path on which the server ends an active build. -/
def cleanupTerminalState (env : Env) (buildId : BuildId) (status : TerminalStatus)
    (reason : String) : Handler Unit := do
  Handler.execute buildId (·.setBuildFinished env.now buildId status.toState (some reason) none)
  Handler.executeLogs (·.setBuildLogFinished env.now buildId)
  Handler.lockFor buildId fun queue =>
    ({ queue with active := queue.active.remove buildId }, ())
  Handler.removeWatcher buildId

/-- Return an active build to the front of its lane. -/
def rollbackActiveToQueued (env : Env) (buildId : BuildId) : Handler Bool := do
  let active ← Handler.lockFor buildId fun queue =>
    ({ queue with active := queue.active.remove buildId }, queue.active.get buildId)
  match active with
  | none => pure false
  | some build => do
    Handler.cancel build.ackCancel
    Handler.execute buildId (·.rollbackDispatchToQueued buildId)
    Handler.lockFor buildId fun queue =>
      (queue.enqueueFront
        { buildId := buildId
          priority := build.priority
          descriptor := build.descriptor
          userEmail := ""
          queuedAt := env.now }, ())
    Handler.removeWatcher buildId
    pure true

/-- The first idle worker of an architecture in the order of a traversal. -/
def BuildQueue.findIdleWorker (queue : BuildQueue) (rank : ConnectionId → Nat) (arch : Arch) :
    Option (Sigma fun _ : ConnectionId => WorkerState) :=
  (queue.workers.traverse rank).find? fun entry =>
    entry.2.isDispatchEligible && entry.2.arch = some arch && !queue.active.anyOf entry.1

/-- The build that the critical section of a dispatch takes out of its lane for good. -/
def dispatchTarget (env : Env) (state : AppState) : Option BuildId :=
  match state.queue.nextPending with
  | none => none
  | some (build, rest) =>
    (rest.findIdleWorker env.workerRank build.descriptor.build.arch).map fun _ => build.buildId

/-- The critical section of a dispatch: pop a build, find a worker for it, record the dispatch and
file the assignment, all under the queue lock. -/
def beginDispatch (env : Env) (state : AppState) : AppState × Except DispatchError DispatchInfo :=
  match state.queue.nextPending with
  | none => (state, .error .nothingToDispatch)
  | some (build, rest) =>
    match rest.findIdleWorker env.workerRank build.descriptor.build.arch with
    | none => ({ state with queue := rest.enqueueFront build }, .error .nothingToDispatch)
    | some ⟨connectionId, worker⟩ =>
      match env.databaseError with
      | some reason => ({ state with queue := rest }, .error (.database reason))
      | none =>
        ({ state with
            builds := state.builds.setBuildDispatched build.buildId env.traceId
              (worker.registeredWorkerId.getD "unknown")
            logWatchers := insert build.buildId state.logWatchers
            nextToken := state.nextToken + 1
            queue :=
              { rest with
                active := rest.active.insert
                  { buildId := build.buildId
                    connectionId := connectionId
                    traceId := env.traceId
                    descriptor := build.descriptor
                    priority := build.priority
                    ackCancel := state.nextToken
                    receipt := .awaitingReceipt } } },
          .ok
            { buildId := build.buildId
              priority := build.priority
              descriptor := build.descriptor
              traceId := env.traceId
              connectionId := connectionId })

/-- Pack the components of a build; a build without components is refused. -/
def packResult (env : Env) (descriptor : BuildDescriptor) : Except String Tarball :=
  if descriptor.components.isEmpty then .error "build has no components"
  else env.packComponents (descriptor.components.map (·.name))

/-- Put the two frames of a dispatch on the connection's channel. -/
def sendFrames (env : Env) (info : DispatchInfo) (tarball : Tarball) (state : AppState) :
    AppState × Except DispatchError Unit :=
  let text := Frame.text
    (.buildNew info.buildId info.traceId info.priority info.descriptor tarball.sha256)
  match state.workerSenders.lookup info.connectionId with
  | none => (state, .error (.send ("no sender for connection " ++ info.connectionId)))
  | some _ =>
    if env.acceptsText then
      if env.acceptsBinary then
        (state.deliver info.connectionId [text, .binary tarball.bytes], .ok ())
      else (state.deliver info.connectionId [text], .error (.send "channel closed"))
    else (state, .error (.send "channel closed"))

/-- Send a dispatched build to its worker, and return it to the queue if that fails. -/
def sendAndRecover (env : Env) (info : DispatchInfo) (tarball : Tarball) :
    Handler (Except DispatchError Unit) := do
  let sent ← .stepFree (sendFrames env info tarball)
  match sent with
  | .error reason => do
    let _ ← rollbackActiveToQueued env info.buildId
    pure (.error reason)
  | .ok () => pure (.ok ())

/-- Spawn the dispatch-ack timer of a build that is still active. -/
def spawnAckTimer (buildId : BuildId) : Handler Unit :=
  .step buildId fun state =>
    match state.queue.active.get buildId with
    | none => (state, ())
    | some build =>
      ({ state with ackTimers := state.ackTimers ++ [⟨buildId, build.ackCancel⟩] }, ())

/-- The rest of a dispatch after its critical section. -/
def finishDispatch (env : Env) (info : DispatchInfo) : Handler (Except DispatchError Unit) :=
  match packResult env info.descriptor with
  | .error reason => do
    cleanupTerminalState env info.buildId .failure
      ("failed to pack component tarball: " ++ reason)
    pure (.error (.tarball reason))
  | .ok tarball => do
    let sent ← sendAndRecover env info tarball
    match sent with
    | .error reason => pure (.error reason)
    | .ok () => do
      spawnAckTimer info.buildId
      pure (.ok ())

/-- Attempt to dispatch the next waiting build to an idle worker. -/
def tryDispatch (env : Env) : Handler (Except DispatchError Unit) := do
  let begun ← .stepAt (dispatchTarget env) (beginDispatch env)
  match begun with
  | .error reason => pure (.error reason)
  | .ok info => finishDispatch env info

/-- Dispatch until an attempt fails, and say why it failed. -/
def dispatchUntilError : List Env → Handler (Option DispatchError)
  | [] => pure none
  | env :: envs => do
    let outcome ← tryDispatch env
    match outcome with
    | .ok () => dispatchUntilError envs
    | .error reason => pure (some reason)

def periodicSweep (envs : List Env) : Handler Unit := do
  let shouldDispatch ← Handler.lock fun queue =>
    (queue, queue.hasPending && queue.hasIdleWorkers)
  if shouldDispatch then do
    let _ ← dispatchUntilError envs
    pure ()
  else pure ()

variable {env : Env} {state : AppState}

/-- The critical section leaves everything as it was unless it takes a build. -/
theorem beginDispatch_of_no_target (idle : dispatchTarget env state = none) :
    beginDispatch env state = (state, .error .nothingToDispatch) := by
  unfold beginDispatch
  unfold dispatchTarget at idle
  cases popped : state.queue.nextPending with
  | none => rfl
  | some found =>
    obtain ⟨build, rest⟩ := found
    simp only [popped, Option.map_eq_none_iff] at idle
    simp only [idle, BuildQueue.enqueueFront_nextPending popped]

theorem dispatchTarget_eq_some {buildId : BuildId}
    (taken : dispatchTarget env state = some buildId) :
    ∃ build rest connectionId worker,
      state.queue.nextPending = some (build, rest) ∧ build.buildId = buildId ∧
        rest.findIdleWorker env.workerRank build.descriptor.build.arch =
          some ⟨connectionId, worker⟩ := by
  unfold dispatchTarget at taken
  cases popped : state.queue.nextPending with
  | none => simp [popped] at taken
  | some found =>
    obtain ⟨build, rest⟩ := found
    simp only [popped, Option.map_eq_some_iff] at taken
    obtain ⟨⟨connectionId, worker⟩, isWorker, same⟩ := taken
    exact ⟨build, rest, connectionId, worker, rfl, same, isWorker⟩

/-- The assignment that a dispatch files. -/
def dispatchedBuild (env : Env) (build : QueuedBuild) (connectionId : ConnectionId)
    (token : Nat) : ActiveBuild where
  buildId := build.buildId
  connectionId := connectionId
  traceId := env.traceId
  descriptor := build.descriptor
  priority := build.priority
  ackCancel := token
  receipt := .awaitingReceipt

/-- The state after the critical section of a dispatch whose statement succeeds. -/
def dispatchedState (env : Env) (state : AppState) (build : QueuedBuild) (rest : BuildQueue)
    (connectionId : ConnectionId) (worker : WorkerState) : AppState :=
  { state with
    builds := state.builds.setBuildDispatched build.buildId env.traceId
      (worker.registeredWorkerId.getD "unknown")
    logWatchers := insert build.buildId state.logWatchers
    nextToken := state.nextToken + 1
    queue :=
      { rest with
        active := rest.active.insert (dispatchedBuild env build connectionId state.nextToken) } }

def dispatchInfo (env : Env) (build : QueuedBuild) (connectionId : ConnectionId) :
    DispatchInfo where
  buildId := build.buildId
  priority := build.priority
  descriptor := build.descriptor
  traceId := env.traceId
  connectionId := connectionId

variable {build : QueuedBuild} {rest : BuildQueue} {connectionId : ConnectionId}
  {worker : WorkerState}

theorem beginDispatch_of_failed {reason : String} (failed : env.databaseError = some reason)
    (popped : state.queue.nextPending = some (build, rest))
    (chosen : rest.findIdleWorker env.workerRank build.descriptor.build.arch =
      some ⟨connectionId, worker⟩) :
    beginDispatch env state = ({ state with queue := rest }, .error (.database reason)) := by
  simp only [beginDispatch, popped, chosen, failed]

theorem beginDispatch_of_healthy (healthy : env.databaseError = none)
    (popped : state.queue.nextPending = some (build, rest))
    (chosen : rest.findIdleWorker env.workerRank build.descriptor.build.arch =
      some ⟨connectionId, worker⟩) :
    beginDispatch env state =
      (dispatchedState env state build rest connectionId worker,
        .ok (dispatchInfo env build connectionId)) := by
  simp only [beginDispatch, popped, chosen, healthy]
  rfl

end Cbs

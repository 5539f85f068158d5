import Cbs.Server.Lifecycle

/-!
# Worker connections

The handlers behind the WebSocket endpoint of the workers: accepting a connection with migration of
an older one, the reconnection decision table, dead workers, and the close of a connection.
-/

namespace Cbs

open Concurrency Handler

/-- An assignment seen when a worker reports that it is idle. -/
structure IdleReconcileCandidate where
  buildId : BuildId
  prevConnectionId : ConnectionId
  receipt : ActiveAssignmentReceipt
  prevConnectionLive : Bool
  deriving DecidableEq

/-- What to do with an assignment that its idle worker does not know. -/
inductive IdleReconcileAction where
  | skip
  | rollbackToQueued
  | failBuild
  | markRevoked
  deriving DecidableEq

def idleReconcileDecision (dbState : BuildState) (receipt : ActiveAssignmentReceipt)
    (prevConnectionLive : Bool) : IdleReconcileAction :=
  match dbState with
  | .dispatched =>
    match receipt with
    | .awaitingReceipt => if prevConnectionLive then .skip else .rollbackToQueued
    | .receivedByWorker => .rollbackToQueued
  | .started => .failBuild
  | .revoking => .markRevoked
  | _ => .skip

variable (env : Env)

/-- The assignments of other connections, as they are when the worker reports. -/
def idleReconcileCandidates (connectionId : ConnectionId) (queue : BuildQueue) :
    List IdleReconcileCandidate :=
  ((queue.active.values env.buildRank).filter (·.connectionId ≠ connectionId)).map fun build =>
    { buildId := build.buildId
      prevConnectionId := build.connectionId
      receipt := build.receipt
      prevConnectionLive := (queue.getWorker build.connectionId).any (·.isDispatchEligible) }

/-- Reconcile one candidate with what the database says about it. -/
def idleReconcileOne (registeredWorkerId : WorkerId)
    (candidate : IdleReconcileCandidate) : Handler Unit := do
  let row ← getBuild candidate.buildId
  match row with
  | none => pure ()
  | some row =>
    if row.workerId ≠ some registeredWorkerId then pure ()
    else
      match idleReconcileDecision row.state candidate.receipt candidate.prevConnectionLive with
      | .skip => pure ()
      | .rollbackToQueued => do
        let _ ← rollbackActiveToQueued env candidate.buildId
        pure ()
      | .failBuild => cleanupTerminalState env candidate.buildId .failure "worker lost build"
      | .markRevoked =>
        cleanupTerminalState env candidate.buildId .revoked "idle worker on revoking build"

inductive DeadWorkerAction where
  | rollbackToQueued
  | fail (reason : String)
  | markRevoked (reason : String)
  | removeOnly
  deriving DecidableEq

def deadWorkerResolution (dbState : BuildState) (receipt : ActiveAssignmentReceipt) :
    DeadWorkerAction :=
  match dbState with
  | .dispatched =>
    match receipt with
    | .awaitingReceipt => .rollbackToQueued
    | .receivedByWorker => .fail "worker died after accepting assignment"
  | .started => .fail "worker died during execution"
  | .revoking => .markRevoked "revoke completed by worker death"
  | _ => .removeOnly

def resolveDeadBuild (buildId : BuildId) (receipt : ActiveAssignmentReceipt) : Handler Unit := do
  let row ← getBuild buildId
  match row with
  | none => pure ()
  | some row =>
    match deadWorkerResolution row.state receipt with
    | .rollbackToQueued => do
      let _ ← rollbackActiveToQueued env buildId
      pure ()
    | .fail reason => cleanupTerminalState env buildId .failure reason
    | .markRevoked reason => cleanupTerminalState env buildId .revoked reason
    | .removeOnly => lockFor buildId fun queue =>
      ({ queue with active := queue.active.remove buildId }, ())

/-- Resolve every assignment of a dead worker's connection, then redispatch. -/
def handleWorkerDead (connectionId : ConnectionId) : Handler Unit := do
  let owned ← lock fun queue =>
    (queue, queue.activeBuildsWithReceiptForConnection env.buildRank connectionId)
  owned.forM fun assignment => resolveDeadBuild env assignment.1 assignment.2
  let _ ← tryDispatch env
  pure ()

/-- The reconnection table for a worker that claims to be running a build. -/
def handleBuildingStatus (connectionId : ConnectionId) (registeredWorkerId : WorkerId)
    (buildId : BuildId) : Handler Unit := do
  let row ← getBuild buildId
  match row with
  | none => sendReporterDirectedRevoke connectionId buildId
  | some row =>
    if (row.state = .dispatched ∨ row.state = .started) ∧
        row.workerId ≠ some registeredWorkerId then do
      sendUnauthorizedAction connectionId buildId .workerStatus .notAssigned
      sendReporterDirectedRevoke connectionId buildId
    else
      match row.state with
      | .dispatched => attachConnectionAndMarkReceived buildId connectionId
      | .started => attachConnection buildId connectionId
      | .queued | .revoking | .failure | .success | .revoked => do
        let _ ← sendBuildRevoke buildId
        pure ()

/-- The reconnection table for a worker that reports to be idle. -/
def handleIdleStatus (connectionId : ConnectionId) (registeredWorkerId : WorkerId) :
    Handler Unit := do
  let candidates ← lock fun queue =>
    (queue, idleReconcileCandidates env connectionId queue)
  candidates.forM (idleReconcileOne env registeredWorkerId)
  let _ ← tryDispatch env
  pure ()

/-- The reconnection decision table. -/
def handleWorkerStatus (connectionId : ConnectionId) (registeredWorkerId : WorkerId)
    (reportedState : WorkerReportedState) (reportedBuildId : Option BuildId) : Handler Unit :=
  match reportedState, reportedBuildId with
  | .building, some buildId => handleBuildingStatus connectionId registeredWorkerId buildId
  | .idle, _ => handleIdleStatus env connectionId registeredWorkerId
  | .building, none => pure ()

def whenAuthorized (connectionId : ConnectionId) (buildId : BuildId) (action : WorkerBuildAction)
    (handler : Handler Unit) : Handler Unit := do
  let owned ← authorizeLifecycleMessage connectionId buildId action
  if owned then handler else pure ()

def handleWorkerMessage (connectionId : ConnectionId) (connection : Connection) :
    WorkerMessage → Handler Unit
  | .hello => pure ()
  | .buildAccepted buildId =>
    whenAuthorized connectionId buildId .buildAccepted (handleBuildAccepted buildId)
  | .buildStarted buildId =>
    whenAuthorized connectionId buildId .buildStarted (handleBuildStarted env buildId)
  | .buildOutput buildId startSeq lines =>
    whenAuthorized connectionId buildId .buildOutput
      (writeBuildOutput env buildId startSeq lines)
  | .buildFinished buildId status error buildReport =>
    whenAuthorized connectionId buildId .buildFinished
      (handleBuildFinished env buildId status.toState error
        (if status = .success then buildReport else none))
  | .buildRejected buildId reason =>
    whenAuthorized connectionId buildId .buildRejected (handleBuildRejected env buildId reason)
  | .workerStatus reportedState buildId =>
    handleWorkerStatus env connectionId connection.registeredWorkerId reportedState buildId
  | .workerStopping _ =>
    lock fun queue =>
      (queue.setWorkerState connectionId
        (.stopping connection.registeredWorkerId connection.workerName), ())
  | .metrics => pure ()

structure Hello where
  connection : Connection
  arch : Arch
  coresTotal : Nat
  ramTotalMb : Nat
  version : Option String
  deriving DecidableEq

/-- An older connection of the same registered worker, in the order of a traversal. -/
def BuildQueue.findOlderConnection (queue : BuildQueue) (rank : ConnectionId → Nat)
    (connectionId : ConnectionId) (registeredWorkerId : WorkerId) :
    Option (Sigma fun _ : ConnectionId => WorkerState) :=
  (queue.workers.traverse rank).find? fun entry =>
    entry.2.registeredWorkerId = some registeredWorkerId && entry.1 ≠ connectionId

/-- Hand the assignments of an old connection over to a new one. -/
def BuildQueue.migrate (queue : BuildQueue) (oldConnectionId connectionId : ConnectionId) :
    BuildQueue :=
  { queue with
    active := queue.active.modifyAll
      (fun build =>
        if build.connectionId = oldConnectionId then { build with connectionId := connectionId }
        else build)
      (fun build => by by_cases owned : build.connectionId = oldConnectionId <;> simp [owned])
    workers := queue.workers.erase oldConnectionId }

/-- The critical section of a hello: migrate an older connection, then register the new one. -/
def migrateAndRegister (connectionId : ConnectionId) (hello : Hello)
    (queue : BuildQueue) : BuildQueue × Option (ConnectionId × Bool × List BuildId) :=
  let register (queue : BuildQueue) : BuildQueue :=
    queue.registerWorker connectionId
      (.connected hello.connection.registeredWorkerId hello.connection.workerName hello.arch
        hello.coresTotal hello.ramTotalMb hello.version)
  match queue.findOlderConnection env.workerRank connectionId
      hello.connection.registeredWorkerId with
  | none => (register queue, none)
  | some ⟨oldConnectionId, worker⟩ =>
    (register (queue.migrate oldConnectionId connectionId),
      some (oldConnectionId, worker.isDispatchEligible,
        ((queue.active.values env.buildRank).filter
          (·.connectionId = oldConnectionId)).map (·.buildId)))

/-- Clean up after a connection: a stopping worker is dead at once, any other one gets a grace
period if its architecture is known. -/
def cleanupWorker (connectionId : ConnectionId) (connection : Connection)
    (isStopping : Bool) : Handler Unit := do
  .stepFree fun state =>
    ({ state with workerSenders := state.workerSenders.erase connectionId }, ())
  if isStopping then do
    lock fun queue => (queue.setWorkerState connectionId .dead, ())
    handleWorkerDead env connectionId
  else do
    let arch ← lock fun queue =>
      (queue, (queue.getWorker connectionId).bind (·.arch))
    match arch with
    | some arch => do
      lock fun queue =>
        (queue.setWorkerState connectionId
          (.disconnected env.now connection.registeredWorkerId connection.workerName arch), ())
      .stepFree fun state =>
        ({ state with graceMonitors := state.graceMonitors ++ [connectionId] }, ())
    | none => do
      lock fun queue => (queue.setWorkerState connectionId .dead, ())
      handleWorkerDead env connectionId

/-- Retire a superseded connection: stop its work, drop its channel and, if it was still connected,
treat its worker as dead. -/
def retireSuperseded : Option (ConnectionId × Bool × List BuildId) → Handler Unit
  | none => pure ()
  | some (oldConnectionId, wasConnected, migratedBuilds) => do
    revokeAndRemoveSuperseded oldConnectionId migratedBuilds
    if wasConnected then handleWorkerDead env oldConnectionId else pure ()

/-- Start the message loop of a connection whose welcome could be sent, or clean up after it. -/
def enterOrCleanUp (connectionId : ConnectionId) (hello : Hello) (welcomed : Bool) : Handler Unit :=
  if welcomed then
    .stepFree fun state =>
      ({ state with connections := state.connections.insert connectionId hello.connection }, ())
  else cleanupWorker env connectionId hello.connection false

/-- Accept a connection up to its welcome message. -/
def acceptConnection (connectionId : ConnectionId) (hello : Hello)
    (welcomed : Bool) : Handler Unit := do
  .stepFree fun state => ({ state with issued := insert connectionId state.issued }, ())
  let superseded ← lock (migrateAndRegister env connectionId hello)
  retireSuperseded env superseded
  .stepFree fun state =>
    ({ state with workerSenders := state.workerSenders.insert connectionId [] }, ())
  enterOrCleanUp env connectionId hello welcomed

/-- The message loop of a connection has ended. -/
def closeConnection (connectionId : ConnectionId) (connection : Connection) : Handler Unit := do
  .stepFree fun state =>
    ({ state with connections := state.connections.erase connectionId }, ())
  let isStopping ← lock fun queue =>
    (queue, (queue.getWorker connectionId).any (·.isStopping))
  cleanupWorker env connectionId connection isStopping

def gracePeriodExpired (connectionId : ConnectionId) : Handler Unit := do
  let stillDisconnected ← lock fun queue =>
    (queue, (queue.getWorker connectionId).any (·.isDisconnected))
  if stillDisconnected then do
    lock fun queue => (queue.setWorkerState connectionId .dead, ())
    handleWorkerDead env connectionId
  else pure ()

end Cbs

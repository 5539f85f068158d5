import Cbs.Server.Dispatch

/-!
# Lifecycle messages and revocation

The handlers of what a worker reports about a build, with the ownership check in front of them, and
the handlers that revoke a build.
-/

namespace Cbs

open Concurrency

variable (connectionId : ConnectionId)

/-- Tell a connection that it does not own a build. -/
def sendUnauthorizedAction (buildId : BuildId)
    (action : WorkerBuildAction) (reason : UnauthorizedBuildReason) : Handler Unit :=
  Handler.sendTextToConnection connectionId (.unauthorizedBuildAction buildId action reason)

/-- Tell the reporting connection to stop working on a build. -/
def sendReporterDirectedRevoke (buildId : BuildId) : Handler Unit :=
  Handler.sendTextToConnection connectionId (.buildRevoke buildId (some .unauthorizedAction))

/-- Refuse a lifecycle message of a connection that does not own the build; one that shows the
build to be running is answered with a revoke as well. -/
def refuseLifecycleMessage (buildId : BuildId) (action : WorkerBuildAction) : Handler Unit := do
  sendUnauthorizedAction connectionId buildId action .notAssigned
  if action = .buildStarted ∨ action = .buildOutput then
    sendReporterDirectedRevoke connectionId buildId
  else pure ()

/-- Tell a superseded connection to stop its builds, and drop its channel. -/
def revokeAndRemoveSuperseded (oldConnectionId : ConnectionId) (buildIds : List BuildId) :
    Handler Unit :=
  .stepFree fun state =>
    let told := state.deliver oldConnectionId
      (buildIds.map fun buildId => .text (.buildRevoke buildId (some .migrationSupersede)))
    ({ told with workerSenders := told.workerSenders.erase oldConnectionId }, ())

/-- Check under the queue lock that a connection owns a build; a message of the owner proves that
the assignment was received and cancels the dispatch-ack timer. -/
def claimReceipt (buildId : BuildId) (state : AppState) : AppState × Bool :=
  match state.queue.activeBuildForConnection buildId connectionId with
  | none => (state, false)
  | some build =>
    ({ state with
        cancelled := insert build.ackCancel state.cancelled
        queue :=
          { state.queue with
            active := state.queue.active.modify buildId
              (fun build => { build with receipt := .receivedByWorker }) fun _ => rfl } },
      true)

def authorizeLifecycleMessage (buildId : BuildId) (action : WorkerBuildAction) : Handler Bool := do
  let owned ← .step buildId (claimReceipt connectionId buildId)
  if owned then pure true
  else do
    refuseLifecycleMessage connectionId buildId action
    pure false

variable (buildId : BuildId)

def attachConnectionAndMarkReceived (connectionId : ConnectionId) : Handler Unit :=
  .step buildId fun state =>
    match state.queue.active.get buildId with
    | none => (state, ())
    | some build =>
      ({ state with
          cancelled := insert build.ackCancel state.cancelled
          queue :=
            { state.queue with
              active := state.queue.active.modify buildId
                (fun build =>
                  { build with connectionId := connectionId, receipt := .receivedByWorker })
                fun _ => rfl } },
        ())

def attachConnection (connectionId : ConnectionId) : Handler Unit :=
  Handler.lockFor buildId fun queue =>
    ({ queue with
        active := queue.active.modify buildId
          (fun build => { build with connectionId := connectionId }) fun _ => rfl }, ())

/-- The worker accepted the build: its dispatch-ack timer is cancelled. -/
def handleBuildAccepted : Handler Unit :=
  .step buildId fun state =>
    match state.queue.active.get buildId with
    | none => (state, ())
    | some build => ({ state with cancelled := insert build.ackCancel state.cancelled }, ())

variable (env : Env)

def handleBuildStarted (buildId : BuildId) : Handler Unit :=
  Handler.execute buildId (·.setBuildStarted env.now buildId)

/-- Drop the line index of a build's log and mark the log as complete. -/
def finishBuildLog (buildId : BuildId) : Handler Unit := do
  .stepFree fun state => ({ state with seqIndices := state.seqIndices.erase buildId }, ())
  Handler.executeLogs (·.setBuildLogFinished env.now buildId)

def handleBuildFinished (buildId : BuildId) (status : BuildState)
    (error buildReport : Option String) : Handler Unit := do
  Handler.execute buildId (·.setBuildFinished env.now buildId status error buildReport)
  Handler.lockFor buildId fun queue =>
    ({ queue with active := queue.active.remove buildId }, ())
  finishBuildLog env buildId
  Handler.removeWatcher buildId
  let _ ← tryDispatch env
  pure ()

/-- The worker rejected the build.  An integrity failure ends it, anything else returns it to the
queue.  No character but ASCII letters has a lower case that occurs in the word searched for. -/
def handleBuildRejected (buildId : BuildId) (reason : String) : Handler Unit :=
  if Text.containsLower reason "integrity" then
    cleanupTerminalState env buildId .failure reason
  else do
    let _ ← rollbackActiveToQueued env buildId
    let _ ← tryDispatch env
    pure ()

/-- The index entries and the new file content for a batch of output lines. -/
def appendLines (content : String) (startSeq : Nat) : List String → List (Nat × Nat) × String
  | [] => ([], content)
  | line :: lines =>
    let rest := appendLines (content ++ line ++ "\n") (startSeq + 1) lines
    ((startSeq, content.utf8ByteSize) :: rest.1, rest.2)

/-- Append output lines to a build's log file, index them and record the size of the file. -/
def writeBuildOutput (buildId : BuildId) (startSeq : Nat) (lines : List String) : Handler Unit :=
  if lines.isEmpty then pure ()
  else do
    let written ← .stepFree fun state =>
      let appended := appendLines ((state.logFiles.lookup buildId).getD "") startSeq lines
      ({ state with logFiles := state.logFiles.insert buildId appended.2 }, appended)
    .stepFree fun state =>
      let entries := (state.seqIndices.lookup buildId).getD []
      ({ state with seqIndices := state.seqIndices.insert buildId (entries ++ written.1) }, ())
    Handler.executeLogs (·.updateBuildLogSize env.now buildId written.2.utf8ByteSize)

/-- Revoke an active build: record it, tell the worker, and start the revoke timer. -/
def sendBuildRevoke : Handler (Except DispatchError Unit) := do
  let owner ← Handler.lockFor buildId fun queue =>
    (queue, (queue.active.get buildId).map (·.connectionId))
  match owner with
  | none => pure (.error (.send ("build " ++ toString buildId ++ " not in active map")))
  | some connectionId => do
    Handler.execute buildId (·.setBuildRevoking buildId)
    Handler.sendTextToConnection connectionId (.buildRevoke buildId (some .admin))
    .stepFree fun state => ({ state with revokeTimers := state.revokeTimers ++ [buildId] }, ())
    pure (.ok ())

/-- The revoke timer fired: end the build unless the worker has acknowledged. -/
def handleRevokeTimeout (buildId : BuildId) : Handler Unit := do
  let row ← Handler.getBuild buildId
  match row with
  | none => pure ()
  | some row =>
    if row.state = .revoking then
      cleanupTerminalState env buildId .revoked "revoke ack timeout"
    else pure ()

end Cbs

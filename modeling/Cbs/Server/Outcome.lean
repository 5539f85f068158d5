import Cbs.Server.Dispatch

/-!
# Outcomes of complete handlers

The states that the building blocks of the handlers leave when they run to completion, and every
outcome of a dispatch attempt.
-/

namespace Cbs

open Concurrency

def endedState (env : Env) (buildId : BuildId) (status : TerminalStatus) (reason : String)
    (state : AppState) : AppState :=
  { state with
    builds := state.builds.setBuildFinished env.now buildId status.toState (some reason) none
    buildLogs := state.buildLogs.setBuildLogFinished env.now buildId
    queue := { state.queue with active := state.queue.active.remove buildId }
    logWatchers := state.logWatchers.erase buildId }

/-- The state after an active build was returned to its lane. -/
def requeuedState (env : Env) (buildId : BuildId) (build : ActiveBuild) (state : AppState) :
    AppState :=
  { state with
    builds := state.builds.rollbackDispatchToQueued buildId
    cancelled := insert build.ackCancel state.cancelled
    queue := { state.queue with active := state.queue.active.remove buildId }.enqueueFront
      { buildId := buildId
        priority := build.priority
        descriptor := build.descriptor
        userEmail := ""
        queuedAt := env.now }
    logWatchers := state.logWatchers.erase buildId }

@[simp]
theorem run_cleanupTerminalState (env : Env) (buildId : BuildId) (status : TerminalStatus)
    (reason : String) (state : AppState) :
    (cleanupTerminalState env buildId status reason).run state =
      (endedState env buildId status reason state, ()) :=
  rfl

variable {env : Env} {buildId : BuildId} {state : AppState}

theorem run_rollbackActiveToQueued_of_active {build : ActiveBuild}
    (active : state.queue.active.get buildId = some build) :
    (rollbackActiveToQueued env buildId).run state =
      (requeuedState env buildId build state, true) := by
  simp only [rollbackActiveToQueued, Routine.bind_eq, Routine.run_bind, Handler.lockFor,
    Routine.run_step, active]
  rfl

theorem run_rollbackActiveToQueued_of_vacant (vacant : state.queue.active.get buildId = none) :
    ((rollbackActiveToQueued env buildId).run state).1 =
      { state with
        queue := { state.queue with active := state.queue.active.remove buildId } } := by
  simp only [rollbackActiveToQueued, Routine.bind_eq, Routine.run_bind, Handler.lockFor,
    Routine.run_step, vacant]
  rfl

theorem sendFrames_fst (env : Env) (info : DispatchInfo) (tarball : Tarball) (state : AppState) :
    (sendFrames env info tarball state).1 =
      { state with workerSenders := (sendFrames env info tarball state).1.workerSenders } := by
  unfold sendFrames
  repeat' split
  all_goals rfl

/-- The state after the frames of a dispatched build were put on the channel of its connection, as
far as the channel took them. -/
def framedState (env : Env) (state : AppState) (build : QueuedBuild) (rest : BuildQueue)
    (connectionId : ConnectionId) (worker : WorkerState) (tarball : Tarball) : AppState :=
  { dispatchedState env state build rest connectionId worker with
    workerSenders := (sendFrames env (dispatchInfo env build connectionId) tarball
      (dispatchedState env state build rest connectionId worker)).1.workerSenders }

/-- Every outcome of a dispatch attempt, with the state that it leaves. -/
inductive DispatchOutcome (env : Env) (state : AppState) :
    AppState → Except DispatchError Unit → Prop
  | nothing (idle : dispatchTarget env state = none) :
      DispatchOutcome env state state (.error .nothingToDispatch)
  | statementFailed {build : QueuedBuild} {rest : BuildQueue} {connectionId : ConnectionId}
      {worker : WorkerState} {reason : String}
      (popped : state.queue.nextPending = some (build, rest))
      (chosen : rest.findIdleWorker env.workerRank build.descriptor.build.arch =
        some ⟨connectionId, worker⟩)
      (failed : env.databaseError = some reason) :
      DispatchOutcome env state { state with queue := rest } (.error (.database reason))
  | packFailed {build : QueuedBuild} {rest : BuildQueue} {connectionId : ConnectionId}
      {worker : WorkerState} {reason : String}
      (popped : state.queue.nextPending = some (build, rest))
      (chosen : rest.findIdleWorker env.workerRank build.descriptor.build.arch =
        some ⟨connectionId, worker⟩)
      (healthy : env.databaseError = none)
      (unpacked : packResult env build.descriptor = .error reason) :
      DispatchOutcome env state
        (endedState env build.buildId .failure ("failed to pack component tarball: " ++ reason)
          (dispatchedState env state build rest connectionId worker))
        (.error (.tarball reason))
  | sendFailed {build : QueuedBuild} {rest : BuildQueue} {connectionId : ConnectionId}
      {worker : WorkerState} {tarball : Tarball} {reason : DispatchError}
      (packed : packResult env build.descriptor = .ok tarball)
      (popped : state.queue.nextPending = some (build, rest))
      (chosen : rest.findIdleWorker env.workerRank build.descriptor.build.arch =
        some ⟨connectionId, worker⟩)
      (healthy : env.databaseError = none)
      (unsent : (sendFrames env (dispatchInfo env build connectionId) tarball
        (dispatchedState env state build rest connectionId worker)).2 = .error reason) :
      DispatchOutcome env state
        (requeuedState env build.buildId (dispatchedBuild env build connectionId state.nextToken)
          (framedState env state build rest connectionId worker tarball))
        (.error reason)
  | sent {build : QueuedBuild} {rest : BuildQueue} {connectionId : ConnectionId}
      {worker : WorkerState} {tarball : Tarball}
      (packed : packResult env build.descriptor = .ok tarball)
      (popped : state.queue.nextPending = some (build, rest))
      (chosen : rest.findIdleWorker env.workerRank build.descriptor.build.arch =
        some ⟨connectionId, worker⟩)
      (healthy : env.databaseError = none)
      (delivered : (sendFrames env (dispatchInfo env build connectionId) tarball
        (dispatchedState env state build rest connectionId worker)).2 = .ok ()) :
      DispatchOutcome env state
        { framedState env state build rest connectionId worker tarball with
          ackTimers := state.ackTimers ++ [⟨build.buildId, state.nextToken⟩] }
        (.ok ())

theorem get_dispatchedState (env : Env) (state : AppState) (build : QueuedBuild)
    (rest : BuildQueue) (connectionId : ConnectionId) (worker : WorkerState) :
    (dispatchedState env state build rest connectionId worker).queue.active.get build.buildId =
      some (dispatchedBuild env build connectionId state.nextToken) := by
  simp [dispatchedState, dispatchedBuild]

theorem tryDispatch_outcome (env : Env) (state : AppState) :
    DispatchOutcome env state ((tryDispatch env).run state).1 ((tryDispatch env).run state).2 := by
  simp only [tryDispatch, Routine.bind_eq, Routine.run_bind, Routine.run_stepAt]
  cases target : dispatchTarget env state with
  | none =>
    rw [beginDispatch_of_no_target target]
    exact .nothing target
  | some buildId =>
    obtain ⟨build, rest, connectionId, worker, popped, -, chosen⟩ := dispatchTarget_eq_some target
    cases failed : env.databaseError with
    | some reason =>
      rw [beginDispatch_of_failed failed popped chosen]
      exact .statementFailed popped chosen failed
    | none =>
      rw [beginDispatch_of_healthy failed popped chosen]
      dsimp only
      unfold finishDispatch
      split
      · rename_i reason unpacked
        exact .packFailed popped chosen failed unpacked
      · rename_i tarball packed
        have framed : (sendFrames env (dispatchInfo env build connectionId) tarball
            (dispatchedState env state build rest connectionId worker)).1 =
            framedState env state build rest connectionId worker tarball := sendFrames_fst ..
        have active : (framedState env state build rest connectionId worker
            tarball).queue.active.get (dispatchInfo env build connectionId).buildId =
            some (dispatchedBuild env build connectionId state.nextToken) :=
          get_dispatchedState env state build rest connectionId worker
        simp only [sendAndRecover, Routine.bind_eq, Routine.run_bind, Routine.run_stepFree, framed]
        cases sent : (sendFrames env (dispatchInfo env build connectionId) tarball
          (dispatchedState env state build rest connectionId worker)).2 with
        | error reason =>
          simp only [Routine.run_bind]
          rw [run_rollbackActiveToQueued_of_active active]
          exact .sendFailed packed popped chosen failed sent
        | ok _ =>
          simp only [spawnAckTimer, Routine.pure_eq, Routine.run_done, Routine.run_bind,
            Routine.run_step, active]
          exact .sent packed popped chosen failed sent

end Cbs

import Cbs.Server.Attribution

/-!
# Queued builds carry no run data

The columns that a dispatch, a start or an end writes into the row of a build are empty again
whenever the build is queued.
-/

namespace Cbs

open Concurrency BuildsTable

structure BuildRow.Unrun (row : BuildRow) : Prop where
  workerId : row.workerId = none
  traceId : row.traceId = none
  startedAt : row.startedAt = none
  finishedAt : row.finishedAt = none
  error : row.error = none
  buildReport : row.buildReport = none

/-- The queued rows of a table carry no data of a run. -/
def BuildsTable.QueuedUnrun (table : BuildsTable) : Prop :=
  ∀ buildId row, table.getBuild buildId = some row → row.state = .queued → row.Unrun

theorem queuedUnrun_empty : empty.QueuedUnrun := by
  intro buildId row found
  exact absurd found (by simp [empty, getBuild])

namespace BuildsTable.QueuedUnrun

variable {table : BuildsTable} (unrun : table.QueuedUnrun)

include unrun

/-- An update keeps the queued rows clean if what it makes queued is clean. -/
theorem update (buildId : BuildId) {change : BuildRow → BuildRow}
    (clean : ∀ row, (change row).state = .queued → (change row).Unrun) :
    (table.update buildId change).QueuedUnrun := by
  intro other row found queued
  rw [getBuild_update] at found
  split_ifs at found
  · obtain ⟨old, -, rfl⟩ := Option.map_eq_some_iff.mp found
    exact clean old queued
  · exact unrun other row found queued

theorem setBuildDispatched (buildId : BuildId) (traceId : String)
    (workerId : WorkerId) : (table.setBuildDispatched buildId traceId workerId).QueuedUnrun :=
  unrun.update buildId fun _ queued => by simp at queued

theorem setBuildFinished (now : Int) (buildId : BuildId)
    {status : BuildState} (terminal : status.Terminal) (error buildReport : Option String) :
    (table.setBuildFinished now buildId status error buildReport).QueuedUnrun := by
  refine unrun.update buildId fun row queued => ?_
  cases (queued : status = .queued)
  simp [BuildState.Terminal] at terminal

theorem rollbackDispatchToQueued (buildId : BuildId) :
    (table.rollbackDispatchToQueued buildId).QueuedUnrun :=
  unrun.update buildId fun _ _ => ⟨rfl, rfl, rfl, rfl, rfl, rfl⟩

theorem insertBuild (now : Int) (descriptor : BuildDescriptor)
    (userEmail : String) (priority : Priority) (periodicTaskId : Option String)
    (channelId channelTypeId : Option Int) :
    (table.insertBuild now descriptor userEmail priority periodicTaskId channelId
      channelTypeId).QueuedUnrun := by
  intro other row found queued
  by_cases same : other = table.nextId
  · subst same
    have inserted : (table.insertBuild now descriptor userEmail priority periodicTaskId channelId
        channelTypeId).getBuild table.nextId = some _ := AList.lookup_insert ..
    cases inserted.symm.trans found
    exact ⟨rfl, rfl, rfl, rfl, rfl, rfl⟩
  · rw [getBuild_insertBuild _ _ _ _ _ _ _ _ _ same] at found
    exact unrun other row found queued

end BuildsTable.QueuedUnrun

variable {env : Env} {before after : AppState}

theorem DispatchOutcome.queuedUnrun
    {result : Except DispatchError Unit} (outcome : DispatchOutcome env before after result)
    (unrun : before.builds.QueuedUnrun) : after.builds.QueuedUnrun := by
  cases outcome with
  | nothing | statementFailed => exact unrun
  | packFailed => exact (unrun.setBuildDispatched _ _ _).setBuildFinished _ _ (by decide) _ _
  | sendFailed => exact (unrun.setBuildDispatched _ _ _).rollbackDispatchToQueued _
  | sent => exact unrun.setBuildDispatched _ _ _

theorem Change.queuedUnrun {deed : Deed}
    (change : Change deed before after) (unrun : before.builds.QueuedUnrun) :
    after.builds.QueuedUnrun := by
  cases change with
  | start _ buildId => exact unrun.update buildId fun _ queued => by simp at queued
  | finish _ buildId now terminal => exact unrun.setBuildFinished now buildId terminal _ _
  | @requeue env _ buildId => exact unrun.rollbackDispatchToQueued buildId
  | @revoke _ buildId | @withdraw _ buildId =>
    exact unrun.update buildId fun _ queued => by simp at queued
  | submit => exact unrun.insertBuild _ _ _ _ _ _ _
  | dispatch outcome => exact outcome.queuedUnrun unrun
  | _ => exact unrun

variable {state : AppState}

theorem queuedUnrun_finalizeBuilds (env : Env) (states : List BuildState)
    {change : BuildRow → BuildRow} (unrun : state.builds.QueuedUnrun)
    (ended : ∀ row, (change row).state ≠ .queued) :
    (finalizeBuilds env states change state).builds.QueuedUnrun := by
  intro buildId row found queued
  rw [getBuild_finalizeBuilds] at found
  obtain ⟨old, isOld, rfl⟩ := Option.map_eq_some_iff.mp found
  split_ifs at queued ⊢
  · exact absurd queued (ended old)
  · exact unrun buildId old isOld queued

theorem queuedUnrun_requeueBuilds (env : Env)
    (unrun : state.builds.QueuedUnrun) : (requeueBuilds env state).builds.QueuedUnrun := by
  unfold requeueBuilds
  generalize queuedRows env state.builds = entries
  induction entries generalizing state with
  | nil => exact unrun
  | cons entry entries ih =>
    refine ih (?_ : (requeueRow env state entry).builds.QueuedUnrun)
    unfold requeueRow
    split
    · exact unrun.update entry.1 fun _ queued => by simp [failCorrupt] at queued
    · exact unrun

variable {builds : BuildsTable}

theorem queuedUnrun_runStartupRecovery (env : Env)
    (unrun : builds.QueuedUnrun) (buildLogs : BuildLogsTable)
    (logFiles : Dictionary BuildId String) :
    (runStartupRecovery env (.boot builds buildLogs logFiles)).builds.QueuedUnrun := by
  have failed : (finalizeBuilds env [.dispatched, .started] (failRestarted env)
      (.boot builds buildLogs logFiles)).builds.QueuedUnrun :=
    queuedUnrun_finalizeBuilds env _ unrun fun _ queued => by simp [failRestarted] at queued
  have revoked : (finalizeInFlight env (.boot builds buildLogs logFiles)).builds.QueuedUnrun :=
    queuedUnrun_finalizeBuilds env _ failed fun _ queued => by simp [completeRevoke] at queued
  exact queuedUnrun_requeueBuilds env revoked

/-- The states that complete operations and restarts reach from the first start of a server, on the
given table of builds. -/
abbrev ReachableOn (admits : Env → Operation → Prop) (builds : BuildsTable) : AppState → Prop :=
  Schedule.Reaches ⟨fun table _ => table = builds, fun _ => admits, fun _ => True⟩

/-- From a table whose queued rows carry no data of a run, in particular from the empty one, every
reachable state has this property, whatever happens to the database. -/
theorem queued_rows_carry_no_run_data {admits : Env → Operation → Prop} {builds : BuildsTable}
    (unrun : builds.QueuedUnrun) {state : AppState} (reachable : ReachableOn admits builds state) :
    state.builds.QueuedUnrun := by
  induction reachable with
  | start env logFiles starts =>
    subst starts
    exact queuedUnrun_runStartupRecovery env unrun _ logFiles
  | step reachable env operation enabled _ ih =>
    exact (chain_exec_of_reachable (reachable.mono fun _ _ _ => id) env enabled).invariant ih
      fun unrun _ change => change.queuedUnrun unrun
  | restarted _ env _ ih => exact queuedUnrun_runStartupRecovery env ih _ _

/-- The server after a worker started a build, announced that it stops and gave the build back. -/
def givenBackServer : AppState :=
  (execAll .smooth
    [.connect "first" builderHello true, .submit cephSubmission, .dispatch,
      .message "first" builder (.buildAccepted 1), .message "first" builder (.buildStarted 1),
      .message "first" builder (.workerStopping "maintenance"),
      .message "first" builder (.buildRejected 1 "stopping")]
    freshServer).getD freshServer

/-- The build that was started and given back is queued and carries no data of its run. -/
theorem given_back_build_unrun :
    (givenBackServer.builds.getBuild 1).map (·.state) = some .queued ∧
      givenBackServer.builds.QueuedUnrun := by
  have fresh : ReachableOn (fun _ _ => True) .empty freshServer := .start .smooth ∅ rfl
  exact ⟨by decide, queued_rows_carry_no_run_data queuedUnrun_empty
    (fresh.execAll (by simp) (by decide))⟩

end Cbs

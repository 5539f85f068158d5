import Cbs.Server.Attribution

/-!
# Terminal rows

The row of an ended build says when it ended, and the row of its log that it is complete.  Of five
routines that end a build two leave something out: revoking a waiting build, and recovering one
whose descriptor cannot be read.
-/

namespace Cbs

open Concurrency BuildsTable

/-- Every build has a log row, and an ended one is recorded completely. -/
structure Recorded (builds : BuildsTable) (buildLogs : BuildLogsTable) : Prop where
  logged : ∀ buildId row, builds.getBuild buildId = some row → buildId ∈ buildLogs
  finished : ∀ buildId row, builds.getBuild buildId = some row → row.state.Terminal →
    row.finishedAt.isSome = true
  complete : ∀ buildId row log, builds.getBuild buildId = some row → row.state.Terminal →
    buildLogs.lookup buildId = some log → log.finished = true

section Statements

variable {builds : BuildsTable} {buildLogs : BuildLogsTable}

theorem recorded_empty : Recorded .empty ∅ where
  logged := fun _ _ found => nomatch found
  finished := fun _ _ found => nomatch found
  complete := fun _ _ _ found => nomatch found

variable {change : BuildRow → BuildRow} (recorded : Recorded builds buildLogs)

include recorded

theorem Recorded.update (buildId : BuildId) {status : BuildState} (unfinished : ¬ status.Terminal)
    (sets : ∀ row, (change row).state = status) :
    Recorded (builds.update buildId change) buildLogs := by
  have split : ∀ other row, (builds.update buildId change).getBuild other = some row →
      (∃ old, builds.getBuild other = some old) ∧
        (row.state.Terminal → builds.getBuild other = some row) := by
    intro other row found
    rw [getBuild_update] at found
    split_ifs at found with same
    · obtain ⟨old, isOld, rfl⟩ := Option.map_eq_some_iff.mp found
      exact ⟨⟨old, isOld⟩, fun terminal => absurd (sets old ▸ terminal) unfinished⟩
    · exact ⟨⟨row, found⟩, fun _ => found⟩
  constructor
  · intro other row found
    obtain ⟨⟨old, isOld⟩, -⟩ := split other row found
    exact recorded.logged other old isOld
  · intro other row found terminal
    exact recorded.finished other row ((split other row found).2 terminal) terminal
  · intro other row log found terminal
    exact recorded.complete other row log ((split other row found).2 terminal) terminal

theorem Recorded.end (now : Int) (buildId : BuildId)
    (dated : ∀ row, (change row).finishedAt.isSome = true) :
    Recorded (builds.update buildId change) (buildLogs.setBuildLogFinished now buildId) := by
  constructor
  · intro other row found
    rw [BuildLogsTable.setBuildLogFinished, Dictionary.mem_modify]
    rw [getBuild_update] at found
    split_ifs at found with same
    · obtain ⟨old, isOld, rfl⟩ := Option.map_eq_some_iff.mp found
      exact recorded.logged other old isOld
    · exact recorded.logged other row found
  · intro other row found terminal
    rw [getBuild_update] at found
    split_ifs at found with same
    · obtain ⟨old, isOld, rfl⟩ := Option.map_eq_some_iff.mp found
      exact dated old
    · exact recorded.finished other row found terminal
  · intro other row log found terminal isLog
    rw [BuildLogsTable.setBuildLogFinished, Dictionary.lookup_modify] at isLog
    rw [getBuild_update] at found
    split_ifs at found isLog with same
    · obtain ⟨old, isOld, rfl⟩ := Option.map_eq_some_iff.mp isLog
      rfl
    · exact recorded.complete other row log found terminal isLog

theorem Recorded.of_sameEnds {later : BuildLogsTable}
    (same : buildLogs.SameEnds later) : Recorded builds later := by
  constructor
  · intro other row found
    rw [← AList.lookup_isSome, ← Option.isSome_map, same, Option.isSome_map, AList.lookup_isSome]
    exact recorded.logged other row found
  · exact recorded.finished
  · intro other row log found terminal isLog
    have ends := same other
    rw [isLog] at ends
    obtain ⟨old, isOld, isSame⟩ := Option.map_eq_some_iff.mp ends.symm
    exact isSame.symm.trans (recorded.complete other row old found terminal isOld)

theorem Recorded.submit (now : Int) (submission : Submission) :
    Recorded
      (builds.insertBuild now submission.descriptor submission.userEmail submission.priority
        submission.periodicTaskId submission.channelId submission.channelTypeId)
      (buildLogs.insertBuildLogRow now builds.nextId) := by
  have split : ∀ other row, (builds.insertBuild now submission.descriptor submission.userEmail
      submission.priority submission.periodicTaskId submission.channelId
      submission.channelTypeId).getBuild other = some row →
      other = builds.nextId ∧ row.state = .queued ∨
        other ≠ builds.nextId ∧ builds.getBuild other = some row := by
    intro other row found
    by_cases same : other = builds.nextId
    · subst same
      rw [getBuild, insertBuild, AList.lookup_insert] at found
      obtain rfl := Option.some.inj found
      exact Or.inl ⟨rfl, rfl⟩
    · rw [getBuild_insertBuild _ _ _ _ _ _ _ _ _ same] at found
      exact Or.inr ⟨same, found⟩
  constructor
  · intro other row found
    rw [BuildLogsTable.insertBuildLogRow, AList.mem_insert]
    rcases split other row found with ⟨isNew, -⟩ | ⟨-, isOld⟩
    · exact Or.inl isNew
    · exact Or.inr (recorded.logged other row isOld)
  · intro other row found terminal
    rcases split other row found with ⟨-, queued⟩ | ⟨-, isOld⟩
    · rw [queued] at terminal
      exact absurd terminal (by decide)
    · exact recorded.finished other row isOld terminal
  · intro other row log found terminal isLog
    rcases split other row found with ⟨-, queued⟩ | ⟨different, isOld⟩
    · rw [queued] at terminal
      exact absurd terminal (by decide)
    · rw [BuildLogsTable.insertBuildLogRow, AList.lookup_insert_ne different] at isLog
      exact recorded.complete other row log isOld terminal isLog

end Statements

def AppState.Complete (state : AppState) : Prop :=
  Recorded state.builds state.buildLogs

variable {state after : AppState}

/-- A dispatch attempt ends a build only if its components cannot be packed. -/
theorem AppState.Complete.of_dispatch {env : Env} {result : Except DispatchError Unit}
    (complete : state.Complete) (outcome : DispatchOutcome env state after result) :
    after.Complete := by
  have begun : ∀ build rest connectionId worker,
      (dispatchedState env state build rest connectionId worker).Complete :=
    fun build _ _ _ => Recorded.update complete build.buildId
      (by decide : ¬ BuildState.dispatched.Terminal) fun _ => rfl
  cases outcome with
  | nothing | statementFailed => exact complete
  | packFailed => exact Recorded.end (begun ..) env.now _ fun _ => rfl
  | @sendFailed build rest connectionId worker =>
    exact Recorded.update (begun build rest connectionId worker) _
      (by decide : ¬ BuildState.queued.Terminal) fun _ => rfl
  | @sent build rest connectionId worker => exact begun build rest connectionId worker

/-- Every change but the withdrawal of a waiting build keeps the tables complete. -/
theorem AppState.Complete.change {deed : Deed} (complete : state.Complete)
    (change : Change deed state after) (kept : ∀ buildId, deed ≠ .withdraw buildId) :
    after.Complete := by
  cases change with
  | book _ _ _ _ same => exact Recorded.of_sameEnds complete same
  | start _ buildId =>
    exact Recorded.update complete buildId (by decide : ¬ BuildState.started.Terminal) fun _ => rfl
  | finish _ buildId now => exact Recorded.end complete now buildId fun _ => rfl
  | requeue =>
    exact Recorded.update complete _ (by decide : ¬ BuildState.queued.Terminal) fun _ => rfl
  | revoke =>
    exact Recorded.update complete _ (by decide : ¬ BuildState.revoking.Terminal) fun _ => rfl
  | withdraw => exact absurd rfl (kept _)
  | submit env submission => exact Recorded.submit complete env.now submission
  | dispatch outcome => exact complete.of_dispatch outcome
  | _ => exact complete

def Operation.RevokesQueued (state : AppState) : Operation → Prop
  | revoke user buildId => ∃ row, state.builds.getBuild buildId = some row ∧ row.state = .queued ∧
      MayRevoke user row
  | _ => False

/-- An operation that does not revoke a waiting build keeps the tables complete. -/
theorem complete_exec {admits : Env → Operation → Prop} (reachable : ReachableBy admits state)
    (env : Env) {operation : Operation} (enabled : operation.Enabled state)
    (complete : state.Complete) (careful : ¬ operation.RevokesQueued state) :
    (operation.exec env state).Complete := by
  let performs : Deed → AppState → Prop := fun deed _ => ∀ buildId, deed ≠ .withdraw buildId
  have chain : Chain performs state (operation.exec env state) := by
    cases operation with
    | revoke user buildId =>
      simp only [Operation.exec, Operation.routine, Routine.bind_eq, Routine.run_bind]
      refine chain_revokeBuild user (fun _ => by simp) fun row found queued may => ?_
      exact absurd ⟨row, found, queued, may⟩ careful
    | _ =>
      refine (chain_exec_of_reachable reachable env enabled).mono ?_
      rintro _ later permitted buildId rfl
      exact permitted
  refine chain.invariant complete fun complete permitted change => complete.change change ?_
  rcases permitted with rfl | different
  · intro buildId
    exact Deed.noConfusion
  · exact different

def BuildsTable.Readable (builds : BuildsTable) : Prop :=
  ∀ buildId row, builds.getBuild buildId = some row → row.state = .queued →
    row.descriptor.isSome = true

theorem complete_finalizeBuilds {change : BuildRow → BuildRow} (env : Env)
    (states : List BuildState)
    (dated : ∀ row, (change row).finishedAt.isSome = true) (complete : state.Complete) :
    (finalizeBuilds env states change state).Complete := by
  unfold finalizeBuilds
  generalize selectBuilds env states state.builds = entries
  induction entries generalizing state with
  | nil => exact complete
  | cons entry entries ih => exact ih (Recorded.end complete env.now entry.1 dated)

theorem complete_requeueBuilds (env : Env) (complete : state.Complete)
    (readable : state.builds.Readable) : (requeueBuilds env state).Complete := by
  have rows : ∀ entry ∈ queuedRows env state.builds, entry.2.descriptor.isSome = true := by
    rintro ⟨buildId, row⟩ inside
    obtain ⟨found, queued⟩ := mem_queuedRows.mp inside
    exact readable buildId row found queued
  unfold requeueBuilds
  generalize queuedRows env state.builds = entries at rows
  clear readable
  induction entries generalizing state with
  | nil => exact complete
  | cons entry entries ih =>
    obtain ⟨descriptor, isDescriptor⟩ := Option.isSome_iff_exists.mp (rows entry (by simp))
    refine ih ?_ fun other inside => rows other (by simp [inside])
    rw [requeueRow, isDescriptor]
    exact complete

theorem readable_finalizeInFlight (env : Env)
    (readable : state.builds.Readable) : (finalizeInFlight env state).builds.Readable := by
  intro buildId row found queued
  rw [finalizeInFlight, getBuild_finalizeBuilds, getBuild_finalizeBuilds, Option.map_map] at found
  obtain ⟨stored, isStored, rfl⟩ := Option.map_eq_some_iff.mp found
  rw [Function.comp_apply] at queued ⊢
  by_cases inFlight : stored.state ∈ [BuildState.dispatched, .started]
  · rw [if_pos inFlight, if_neg (by simp [failRestarted])] at queued
    cases queued
  · rw [if_neg inFlight] at queued ⊢
    by_cases revoking : stored.state ∈ [BuildState.revoking]
    · rw [if_pos revoking] at queued
      cases queued
    · rw [if_neg revoking] at queued ⊢
      exact readable buildId stored isStored queued

/-- Recovery keeps the tables complete if it can read the descriptors of the waiting builds. -/
theorem complete_runStartupRecovery (env : Env) (complete : state.Complete)
    (readable : state.builds.Readable) : (runStartupRecovery env state).Complete := by
  have failed : (finalizeBuilds env [.dispatched, .started] (failRestarted env) state).Complete :=
    complete_finalizeBuilds env _ (fun _ => rfl) complete
  have settled : (finalizeInFlight env state).Complete :=
    complete_finalizeBuilds env [.revoking] (fun _ => rfl) failed
  have requeued := complete_requeueBuilds env settled (readable_finalizeInFlight env readable)
  exact requeued

/-- The states of a server that starts on completely recorded tables, never revokes a waiting build,
and can read the descriptors of the waiting builds whenever it starts. -/
abbrev CompleteRun : AppState → Prop :=
  Schedule.Reaches
    ⟨fun builds buildLogs => Recorded builds buildLogs ∧ builds.Readable,
      fun state _ operation => ¬ operation.RevokesQueued state, (·.builds.Readable)⟩

theorem CompleteRun.complete (run : CompleteRun state) : state.Complete := by
  induction run with
  | start env logFiles starts => exact complete_runStartupRecovery env starts.1 starts.2
  | step run env operation enabled careful ih =>
    exact complete_exec (run.mono fun _ _ _ _ => trivial) env enabled ih careful
  | restarted _ env readable ih => exact complete_runStartupRecovery env ih readable

/-- The row of an ended build says when it ended, and the row of its log that it is complete, as
long as no waiting build is revoked and the descriptors of waiting builds can be read at every
start. -/
theorem terminal_rows_complete {state : AppState} (run : CompleteRun state) (buildId : BuildId)
    (row : BuildRow) (found : state.builds.getBuild buildId = some row)
    (terminal : row.state.Terminal) :
    row.finishedAt.isSome = true ∧
      ∃ log, state.buildLogs.lookup buildId = some log ∧ log.finished = true := by
  have complete := CompleteRun.complete run
  obtain ⟨log, isLog⟩ := Option.isSome_iff_exists.mp
    (AList.lookup_isSome.mpr (complete.logged buildId row found))
  exact ⟨complete.finished buildId row found terminal, log, isLog,
    complete.complete buildId row log found terminal isLog⟩

def finishedServer : AppState :=
  (Operation.message "first" builder (.buildFinished 1 .success none none)).exec .smooth
    executingServer

/-- The row of a build that its worker finished is complete. -/
theorem finished_row_complete :
    ∃ log, finishedServer.buildLogs.lookup 1 = some log ∧ log.finished = true := by
  have started : CompleteRun freshServer :=
    .start .smooth ∅ ⟨recorded_empty, fun _ _ found => nomatch found⟩
  have connected := started.step .smooth (.connect "first" builderHello true) (by decide) id
  have submitted := connected.step .smooth (.submit cephSubmission) trivial id
  have dispatched := submitted.step .smooth .dispatch trivial id
  have accepted := dispatched.step .smooth (.message "first" builder (.buildAccepted 1))
    (by decide) id
  have executing := accepted.step .smooth (.message "first" builder (.buildStarted 1))
    (by decide) id
  have finished := executing.step .smooth
    (.message "first" builder (.buildFinished 1 .success none none)) (by decide) id
  exact (terminal_rows_complete finished 1 _ rfl (by decide)).2

def withdrawnServer : AppState :=
  (execAll .smooth [.submit cephSubmission, .revoke admin 1] freshServer).getD freshServer

/-- A server that finds a waiting build whose descriptor cannot be read. -/
def corruptServer : AppState :=
  restart .smooth { freshServer with
    builds := (freshServer.builds.insertBuild 0 cephDescriptor "alice@example.com" .normal none
      none none).update 1 fun row => { row with descriptor := none }
    buildLogs := (∅ : BuildLogsTable).insertBuildLogRow 0 1 }

/-- The row of a build that was revoked while it waited does not say when it ended and its log is
not marked as complete; nor is the log of a build whose descriptor cannot be read. -/
theorem withdrawn_row_incomplete :
    Reachable withdrawnServer ∧
      (withdrawnServer.builds.getBuild 1).map (fun row => (row.state, row.finishedAt)) =
        some (.revoked, none) ∧
      (withdrawnServer.buildLogs.lookup 1).map (·.finished) = some false ∧
      (corruptServer.builds.getBuild 1).map (·.state) = some .failure ∧
      (corruptServer.buildLogs.lookup 1).map (·.finished) = some false :=
  ⟨reachable_freshServer.execAll (by simp [Operation.NoDatabaseError, Env.smooth])
    (by decide), by decide, by decide, by decide, by decide⟩

end Cbs

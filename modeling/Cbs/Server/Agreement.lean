import Cbs.Server.Footprint

/-!
# Agreement of queue, active map and database

Every handler follows the discipline on footprints, so the three stores agree about every build
after every complete operation.
-/

namespace Cbs

open Concurrency Discipline BuildsTable

section Handlers

variable {lossy : Prop} {guarded : BuildId → Prop} {buildId : BuildId} {print : Footprint}
  {state : BuildState} {priority : Priority}

theorem follows_cleanupTerminalState (env : Env)
    (row : print.row = some (state, priority)) (live : ¬ state.Terminal)
    (waiting : print.waiting = fun _ => 0) (status : TerminalStatus) (reason : String) :
    Settles lossy guarded (cleanupTerminalState env buildId status reason) buildId print := by
  simp only [cleanupTerminalState, Routine.bind_eq, follows_bind]
  refine follows_execute status.toState (fun _ => rfl) (fun _ => rfl)
    (.setState row live fun _ _ => Or.inr status.terminal_toState) ?_
  refine follows_stepFree (fun _ _ => rfl) fun _ _ => ?_
  refine follows_removeActive fun _ _ => ?_
  refine follows_stepFree (fun _ _ => rfl) fun _ _ => ?_
  refine (settled_some ..).mpr ?_
  exact Footprint.resting_of_terminal priority
    (by simp [Footprint.vacate, Footprint.setState, row]) status.terminal_toState rfl waiting

/-- A rollback is harmless on any build whose revoke need not be kept. -/
theorem follows_rollbackActiveToQueued (env : Env) (resting : print.Resting lossy)
    (free : guarded buildId → ∀ priority, print.row ≠ some (.revoking, priority)) :
    Settles lossy guarded (rollbackActiveToQueued env buildId) buildId print := by
  simp only [rollbackActiveToQueued, Routine.bind_eq, follows_bind]
  refine follows_removeActive fun queue active => ?_
  cases found : queue.active.get buildId with
  | none =>
    have vacant : print.active = none := by simpa [found] using active.symm
    refine (settled_some ..).mpr ⟨?_, resting.waiting⟩
    exact vacant.symm.trans resting.active
  | some build =>
    have occupied : print.active = some build.priority := by simpa [found] using active.symm
    obtain ⟨state, row, assigned⟩ := resting.assigned_of_active occupied
    have waiting := (resting.active_of_assigned row assigned).2
    simp only [follows_bind]
    refine follows_stepFree (fun _ _ => rfl) fun _ _ => ?_
    refine follows_execute .queued (fun _ => rfl) (fun _ => rfl)
      (.setState row (BuildState.not_terminal_of_assigned assigned) fun isGuarded isRevoking =>
        absurd (by rw [row, isRevoking]) (free isGuarded build.priority)) ?_
    refine follows_lockFor
      ⟨some (.queued, build.priority), none, waitingOf (some (.queued, build.priority))⟩
      (fun queue other different => ⟨by simp, ?_⟩)
      (by simp [Footprint.setState, Footprint.vacate, row])
      fun queue isVacant isWaiting => ⟨?_, ?_, ?_⟩
    · funext lane
      rw [BuildQueue.occurs_enqueueFront, if_neg (by simp [Ne.symm different]), Nat.add_zero]
    · simpa [Footprint.setState, Footprint.vacate] using isVacant
    · funext lane
      rw [BuildQueue.occurs_enqueueFront, isWaiting]
      simp [Footprint.setState, Footprint.vacate, waiting, waitingOf]
    · refine follows_stepFree (fun _ _ => rfl) fun _ _ => ?_
      exact (settled_some ..).mpr ⟨rfl, Or.inl rfl⟩

theorem footprint_sendFrames (env : Env) (info : DispatchInfo) (tarball : Tarball)
    (state : AppState) (other : BuildId) :
    footprint other (sendFrames env info tarball state).1 = footprint other state := by
  unfold sendFrames
  repeat' split
  all_goals rfl

theorem follows_finishDispatch (env : Env) {info : DispatchInfo} :
    Settles lossy guarded (finishDispatch env info) info.buildId
      ⟨some (.dispatched, priority), some priority, fun _ => 0⟩ := by
  unfold finishDispatch
  split
  · exact (follows_cleanupTerminalState env rfl (by decide) rfl _ _).bind_done
  · simp only [sendAndRecover, Routine.bind_eq, follows_bind]
    refine follows_stepFree (footprint_sendFrames env info _) fun state _ => ?_
    split
    · rw [follows_bind]
      exact (follows_rollbackActiveToQueued env ⟨rfl, Or.inl rfl⟩ (by simp)).mono
        fun _ _ rest => rest
    · simp only [Routine.pure_eq, follows_done, follows_bind]
      refine follows_step_same (fun state other => ?_) fun state _ => ?_
      · split <;> rfl
      · exact (settled_some ..).mpr ⟨rfl, Or.inl rfl⟩

section Popped

variable {env : Env} {state : AppState} {build : QueuedBuild} {rest : BuildQueue} {other : BuildId}

theorem footprint_popped_of_ne (popped : state.queue.nextPending = some (build, rest))
    (different : other ≠ build.buildId) :
    footprint other { state with queue := rest } = footprint other state := by
  refine Footprint.ext rfl ?_ ?_
  · simp [footprint, BuildQueue.active_of_nextPending popped]
  · funext priority
    simp only [footprint]
    rw [BuildQueue.occurs_of_nextPending popped, if_neg (by simp [Ne.symm different]),
      Nat.add_zero]

/-- A build that is taken out of its lane is queued and waits nowhere else. -/
theorem footprint_popped (popped : state.queue.nextPending = some (build, rest))
    (resting : (footprint build.buildId state).Resting lossy) :
    (footprint build.buildId state).row = some (.queued, build.priority) ∧
      footprint build.buildId { state with queue := rest } =
        ⟨some (.queued, build.priority), none, fun _ => 0⟩ := by
  have occurs := BuildQueue.occurs_of_nextPending popped build.buildId
  have waits : 0 < (footprint build.buildId state).waiting build.priority := by
    change 0 < state.queue.occurs build.buildId build.priority
    rw [occurs, if_pos ⟨rfl, rfl⟩]
    exact Nat.succ_pos _
  have queued := resting.queued_of_waiting waits
  have vacant := resting.not_active_of_not_assigned queued (by decide)
  refine ⟨queued, Footprint.ext queued ?_ ?_⟩
  · simpa [footprint, BuildQueue.active_of_nextPending popped] using vacant
  · funext priority
    have total := congrFun (resting.waiting_of_waiting waits) priority
    rw [queued] at total
    have here : state.queue.occurs build.buildId priority =
        waitingOf (some (.queued, build.priority)) priority := total
    rw [occurs priority] at here
    change rest.occurs build.buildId priority = 0
    simpa [waitingOf] using here

theorem footprint_dispatchedState_of_ne (connectionId : ConnectionId) (worker : WorkerState)
    (popped : state.queue.nextPending = some (build, rest)) (different : other ≠ build.buildId) :
    footprint other (dispatchedState env state build rest connectionId worker) =
      footprint other state := by
  rw [← footprint_popped_of_ne popped different]
  refine Footprint.ext ?_ ?_ rfl
  · simp [footprint, dispatchedState, setBuildDispatched, different]
  · simp [footprint, dispatchedState, dispatchedBuild, different]

theorem footprint_dispatchedState (connectionId : ConnectionId) (worker : WorkerState)
    (popped : state.queue.nextPending = some (build, rest))
    (resting : (footprint build.buildId state).Resting lossy) :
    footprint build.buildId (dispatchedState env state build rest connectionId worker) =
      ⟨some (.dispatched, build.priority), some build.priority, fun _ => 0⟩ := by
  obtain ⟨queued, print⟩ := footprint_popped popped resting
  have waiting : rest.occurs build.buildId = fun _ => 0 := congrArg Footprint.waiting print
  refine Footprint.ext ?_ ?_ waiting
  · obtain ⟨row, found, isQueued⟩ := Option.map_eq_some_iff.mp queued
    have priority : row.priority = build.priority := (Prod.mk.inj isQueued).2
    simp [footprint, dispatchedState, setBuildDispatched, found, priority]
  · simp [footprint, dispatchedState, dispatchedBuild]

end Popped

theorem Footprint.Allowed.of_queued {guarded : Prop} {before after : Footprint}
    (queued : before.row = some (.queued, priority)) :
    Footprint.Allowed guarded before after := by
  refine ⟨fun found priority isFound terminal => ?_, fun _ priority isRevoking => ?_⟩
  · obtain ⟨rfl, -⟩ := Prod.mk.inj (Option.some.inj (queued.symm.trans isFound))
    exact absurd terminal (by decide)
  · exact absurd (queued.symm.trans isRevoking) (by simp)

variable {env : Env}

theorem keeps_tryDispatch (healthy : ¬ lossy → env.databaseError = none) :
    (discipline lossy guarded).Keeps (tryDispatch env) := by
  intro engagement settled
  simp only [tryDispatch, Routine.bind_eq, follows_bind]
  refine follows_stepAt settled (fun state idle => ?_) fun state target taken rest => ?_
  · rw [beginDispatch_of_no_target idle]
    exact ⟨fun _ => rfl, settled⟩
  · obtain ⟨build, queue, connectionId, worker, popped, rfl, chosen⟩ := dispatchTarget_eq_some taken
    obtain ⟨queued, lost⟩ := footprint_popped popped rest
    cases failed : env.databaseError with
    | some reason =>
      have isLossy : lossy := by
        by_contra strict
        simp [healthy strict] at failed
      rw [beginDispatch_of_failed failed popped chosen]
      refine ⟨⟨fun other different => ?_, .of_queued queued⟩, ?_⟩
      · exact footprint_popped_of_ne popped different
      · refine (settled_some ..).mpr ?_
        change (footprint build.buildId _).Resting lossy
        rw [lost]
        exact ⟨rfl, Or.inr ⟨isLossy, rfl⟩⟩
    | none =>
      rw [beginDispatch_of_healthy failed popped chosen]
      refine ⟨⟨fun other different => ?_, .of_queued queued⟩, ?_⟩
      · exact footprint_dispatchedState_of_ne connectionId worker popped different
      · change (discipline lossy guarded).Follows _ (some (build.buildId, footprint _ _)) _
        rw [footprint_dispatchedState connectionId worker popped rest]
        exact follows_finishDispatch env

theorem footprint_claimReceipt (connectionId : ConnectionId) (state : AppState) (other : BuildId) :
    footprint other (claimReceipt connectionId buildId state).1 = footprint other state := by
  unfold claimReceipt
  split
  · rfl
  · refine Footprint.ext rfl ?_ rfl
    by_cases same : other = buildId <;> simp [footprint, same, Function.comp_def]

variable {connectionId : ConnectionId}

theorem active_of_claimReceipt {state : AppState}
    (owned : (claimReceipt connectionId buildId state).2 = true) :
    ∃ priority, (footprint buildId state).active = some priority := by
  unfold claimReceipt at owned
  split at owned
  · exact absurd owned (by simp)
  · rename_i build found
    obtain ⟨isActive, -⟩ := Option.filter_eq_some_iff.mp found
    exact ⟨build.priority, by simp [footprint, isActive]⟩

/-- A handler behind the ownership check only has to cope with active builds. -/
theorem keeps_whenAuthorized {action : WorkerBuildAction} {handler : Handler Unit}
    (follows : ∀ print state priority, Footprint.Resting lossy print →
      print.row = some (state, priority) → state.Assigned →
      Settles lossy guarded handler buildId print) :
    (discipline lossy guarded).Keeps (whenAuthorized connectionId buildId action handler) := by
  refine keeps_of_settles (fun _ => rfl) fun print resting => ?_
  simp only [whenAuthorized, authorizeLifecycleMessage, Routine.bind_eq, follows_bind]
  refine follows_step_same (footprint_claimReceipt connectionId) fun state here => ?_
  by_cases owned : (claimReceipt connectionId buildId state).2 = true
  · obtain ⟨priority, active⟩ := active_of_claimReceipt owned
    rw [here] at active
    obtain ⟨found, row, assigned⟩ := resting.assigned_of_active active
    simp only [owned, if_true, Routine.pure_eq, follows_done]
    exact follows print found priority resting row assigned
  · simp only [owned, Routine.pure_eq, refuseLifecycleMessage, Routine.bind_eq, if_neg,
      follows_bind, not_false_eq_true, Bool.false_eq_true]
    refine follows_stepFree (fun _ _ => rfl) fun _ _ => ?_
    split
    · refine follows_stepFree (fun _ _ => rfl) fun _ _ => ?_
      exact resting.settled
    · exact resting.settled

theorem follows_handleBuildAccepted (resting : print.Resting lossy) :
    Settles lossy guarded (handleBuildAccepted buildId) buildId print := by
  refine follows_step_same (fun state other => ?_) fun _ _ => ?_
  · split <;> rfl
  · exact resting.settled

theorem Footprint.Resting.setState_assigned (resting : print.Resting lossy)
    {old new : BuildState} (row : print.row = some (old, priority))
    (assigned : old.Assigned) (stays : new.Assigned) : (print.setState new).Resting lossy := by
  obtain ⟨active, waiting⟩ := resting.active_of_assigned row assigned
  have changed : (print.setState new).row = some (new, priority) := by
    simp [Footprint.setState, row]
  refine ⟨?_, Or.inl ?_⟩
  · rw [changed, show (print.setState new).active = print.active from rfl, active]
    rcases stays with rfl | rfl | rfl <;> rfl
  · rw [changed, show (print.setState new).waiting = print.waiting from rfl, waiting]
    rcases stays with rfl | rfl | rfl <;> rfl

theorem follows_handleBuildStarted (env : Env) (resting : print.Resting lossy)
    (row : print.row = some (state, priority))
    (assigned : state.Assigned) (free : ¬ guarded buildId) :
    Settles lossy guarded (handleBuildStarted env buildId) buildId print := by
  refine follows_execute .started (fun _ => rfl) (fun _ => rfl)
    (.setState row (BuildState.not_terminal_of_assigned assigned) fun isGuarded =>
      absurd isGuarded free) ?_
  exact (settled_some ..).mpr
    (resting.setState_assigned row assigned (Or.inr (Or.inl rfl)))

theorem follows_handleBuildFinished (healthy : ¬ lossy → env.databaseError = none)
    (resting : print.Resting lossy) {status : BuildState}
    (row : print.row = some (state, priority)) (assigned : state.Assigned)
    (terminal : status.Terminal) (error buildReport : Option String) :
    Settles lossy guarded (handleBuildFinished env buildId status error buildReport)
      buildId print := by
  simp only [handleBuildFinished, finishBuildLog, Routine.bind_eq, follows_bind]
  refine follows_execute status (fun _ => rfl) (fun _ => rfl)
    (.setState row (BuildState.not_terminal_of_assigned assigned) fun _ _ => Or.inr terminal) ?_
  refine follows_removeActive fun _ _ => ?_
  refine follows_stepFree (fun _ _ => rfl) fun _ _ => ?_
  refine follows_stepFree (fun _ _ => rfl) fun _ _ => ?_
  refine follows_stepFree (fun _ _ => rfl) fun _ _ => ?_
  refine (keeps_tryDispatch healthy _ ((settled_some ..).mpr ?_)).mono
    fun _ _ rest => rest
  exact Footprint.resting_of_terminal priority
    (by simp [Footprint.vacate, Footprint.setState, row]) terminal rfl
    (resting.active_of_assigned row assigned).2

theorem follows_handleBuildRejected (healthy : ¬ lossy → env.databaseError = none)
    (resting : print.Resting lossy)
    (row : print.row = some (state, priority)) (assigned : state.Assigned) (reason : String)
    (free : guarded buildId → Text.containsLower reason "integrity" = true) :
    Settles lossy guarded (handleBuildRejected env buildId reason) buildId print := by
  unfold handleBuildRejected
  split
  · exact follows_cleanupTerminalState env row (BuildState.not_terminal_of_assigned assigned)
      (resting.active_of_assigned row assigned).2 _ _
  · rename_i transient
    simp only [Routine.bind_eq, follows_bind]
    refine (follows_rollbackActiveToQueued env resting fun isGuarded =>
      absurd (free isGuarded) transient).mono fun last _ settled => ?_
    exact (keeps_tryDispatch healthy last settled).mono fun _ _ rest => rest

theorem follows_writeBuildOutput (env : Env) (resting : print.Resting lossy) (startSeq : Nat)
    (lines : List String) :
    Settles lossy guarded (writeBuildOutput env buildId startSeq lines) buildId print := by
  unfold writeBuildOutput
  split
  · exact resting.settled
  · simp only [Routine.bind_eq, follows_bind]
    refine follows_stepFree (fun _ _ => rfl) fun _ _ => ?_
    refine follows_stepFree (fun _ _ => rfl) fun _ _ => ?_
    refine follows_stepFree (fun _ _ => rfl) fun _ _ => ?_
    exact resting.settled

theorem follows_sendBuildRevoke (resting : print.Resting lossy) :
    Settles lossy guarded (sendBuildRevoke buildId) buildId print := by
  simp only [sendBuildRevoke, Routine.bind_eq, follows_bind]
  refine follows_lockFor print (fun _ _ _ => ⟨rfl, rfl⟩) rfl
    fun queue isActive isWaiting => ⟨isActive, isWaiting, ?_⟩
  cases found : queue.active.get buildId with
  | none => exact resting.settled
  | some build =>
    have occupied : print.active = some build.priority := by simpa [found] using isActive.symm
    obtain ⟨state, row, assigned⟩ := resting.assigned_of_active occupied
    simp only [Option.map_some, follows_bind]
    refine follows_execute .revoking (fun _ => rfl) (fun _ => rfl)
      (.setState row (BuildState.not_terminal_of_assigned assigned) fun _ _ => Or.inl rfl) ?_
    refine follows_stepFree (fun _ _ => rfl) fun _ _ => ?_
    refine follows_stepFree (fun _ _ => rfl) fun _ _ => ?_
    exact (settled_some ..).mpr
      (resting.setState_assigned row assigned (Or.inr (Or.inr rfl)))

theorem keeps_handleRevokeTimeout (env : Env) (buildId : BuildId) :
    (discipline lossy guarded).Keeps (handleRevokeTimeout env buildId) := by
  refine keeps_of_settles (fun _ => rfl) fun print resting => ?_
  simp only [handleRevokeTimeout, Routine.bind_eq, follows_bind]
  refine follows_getBuild fun row isRow => ?_
  cases row with
  | none => exact resting.settled
  | some row =>
    by_cases isRevoking : row.state = .revoking
    · simp only [isRevoking, if_true]
      have here : print.row = some (.revoking, row.priority) := by
        rw [← isRow, ← isRevoking]
        rfl
      exact follows_cleanupTerminalState env here (by decide)
        (resting.active_of_assigned here (by decide)).2 _ _
    · simp only [isRevoking, if_false]
      exact resting.settled

theorem keeps_idleReconcileOne (env : Env) (registeredWorkerId : WorkerId)
    (candidate : IdleReconcileCandidate) :
    (discipline lossy guarded).Keeps (idleReconcileOne env registeredWorkerId candidate) := by
  refine keeps_of_settles (fun _ => rfl) fun print resting => ?_
  have settled : (discipline lossy guarded).Settled (some (candidate.buildId, print)) :=
    resting.settled
  simp only [idleReconcileOne, Routine.bind_eq, follows_bind]
  refine follows_getBuild fun row isRow => ?_
  cases row with
  | none => exact settled
  | some row =>
    have here : print.row = some (row.state, row.priority) := isRow.symm
    dsimp only
    split
    · exact settled
    · cases state : row.state with
      | dispatched =>
        rw [state] at here
        have rollback : Settles lossy guarded (rollbackActiveToQueued env candidate.buildId)
            candidate.buildId print :=
          follows_rollbackActiveToQueued env resting fun _ priority => by simp [here]
        unfold idleReconcileDecision
        cases candidate.receipt with
        | awaitingReceipt =>
          cases candidate.prevConnectionLive with
          | true => exact settled
          | false =>
            simp only [Bool.false_eq_true, if_false]
            exact rollback.bind_done
        | receivedByWorker =>
          exact rollback.bind_done
      | started | revoking =>
        rw [state] at here
        exact follows_cleanupTerminalState env here (by decide)
          (resting.active_of_assigned here (by decide)).2 _ _
      | queued | success | failure | revoked => exact settled

theorem follows_removeOnly (resting : print.Resting lossy) (vacant : print.active = none) :
    Settles lossy guarded (Handler.lockFor buildId fun queue =>
        ({ queue with active := queue.active.remove buildId }, ())) buildId print := by
  refine follows_removeActive fun _ _ => (settled_some ..).mpr ?_
  exact ⟨vacant.symm.trans resting.active, resting.waiting⟩

theorem keeps_resolveDeadBuild (env : Env) (buildId : BuildId) (receipt : ActiveAssignmentReceipt) :
    (discipline lossy guarded).Keeps (resolveDeadBuild env buildId receipt) := by
  refine keeps_of_settles (fun _ => rfl) fun print resting => ?_
  simp only [resolveDeadBuild, Routine.bind_eq, follows_bind]
  refine follows_getBuild fun row isRow => ?_
  cases row with
  | none => exact resting.settled
  | some row =>
    have here : print.row = some (row.state, row.priority) := isRow.symm
    have unassigned : ¬ row.state.Assigned → print.active = none :=
      resting.not_active_of_not_assigned here
    have ended : row.state.Assigned → ∀ status reason,
        Settles lossy guarded (cleanupTerminalState env buildId status reason) buildId print :=
      fun assigned status reason =>
      follows_cleanupTerminalState env here (BuildState.not_terminal_of_assigned assigned)
        (resting.active_of_assigned here assigned).2 status reason
    dsimp only
    cases state : row.state with
    | dispatched =>
      cases receipt with
      | awaitingReceipt =>
        exact (follows_rollbackActiveToQueued env resting fun _ priority => by
          simp [here, state]).bind_done
      | receivedByWorker => exact ended (Or.inl state) _ _
    | started => exact ended (Or.inr (Or.inl state)) _ _
    | revoking => exact ended (Or.inr (Or.inr state)) _ _
    | queued | success | failure | revoked =>
      exact follows_removeOnly resting (unassigned (by rw [state]; decide))

variable {α : Type}

theorem keeps_lock {action : BuildQueue → BuildQueue × α}
    (active : ∀ queue other, ((action queue).1.active.get other).map (·.priority) =
      (queue.active.get other).map (·.priority))
    (lanes : ∀ queue other, (action queue).1.occurs other = queue.occurs other) :
    (discipline lossy guarded).Keeps (Handler.lock action) :=
  keeps_stepFree fun state other =>
    Footprint.ext rfl (active state.queue other) (lanes state.queue other)

theorem keeps_read (value : BuildQueue → α) :
    (discipline lossy guarded).Keeps (Handler.lock fun queue => (queue, value queue)) :=
  keeps_lock (fun _ _ => rfl) fun _ _ => rfl

theorem keeps_handleWorkerDead (healthy : ¬ lossy → env.databaseError = none)
    (connectionId : ConnectionId) :
    (discipline lossy guarded).Keeps (handleWorkerDead env connectionId) := by
  refine Keeps.bind (keeps_read _) fun owned => ?_
  refine (keeps_forM fun assignment _ =>
    keeps_resolveDeadBuild env assignment.1 assignment.2).bind fun _ => ?_
  exact (keeps_tryDispatch healthy).bind fun _ => keeps_done _ _

theorem keeps_handleBuildingStatus (connectionId : ConnectionId) (registeredWorkerId : WorkerId)
    (buildId : BuildId) :
    (discipline lossy guarded).Keeps
      (handleBuildingStatus connectionId registeredWorkerId buildId) := by
  refine keeps_of_settles (fun _ => rfl) fun print resting => ?_
  have settled : (discipline lossy guarded).Settled (some (buildId, print)) :=
    resting.settled
  simp only [handleBuildingStatus, Routine.bind_eq, follows_bind]
  refine follows_getBuild fun row isRow => ?_
  cases row with
  | none => exact follows_stepFree (fun _ _ => rfl) fun _ _ => settled
  | some row =>
    dsimp only
    split
    · simp only [follows_bind]
      refine follows_stepFree (fun _ _ => rfl) fun _ _ => ?_
      exact follows_stepFree (fun _ _ => rfl) fun _ _ => settled
    · split
      · refine follows_step_same (fun state other => ?_) fun _ _ => settled
        split
        · rfl
        · refine Footprint.ext rfl ?_ rfl
          by_cases same : other = buildId <;> simp [footprint, same, Function.comp_def]
      · refine follows_lockFor print (fun queue other different => ⟨by simp [different], rfl⟩) rfl
          fun queue isActive isWaiting => ⟨?_, isWaiting, settled⟩
        simpa [Function.comp_def] using isActive
      all_goals exact (follows_sendBuildRevoke resting).bind_done

variable (healthy : ¬ lossy → env.databaseError = none)

include healthy

variable (connectionId : ConnectionId)

theorem keeps_handleWorkerStatus (registeredWorkerId : WorkerId)
    (reportedState : WorkerReportedState) (reportedBuildId : Option BuildId) :
    (discipline lossy guarded).Keeps
      (handleWorkerStatus env connectionId registeredWorkerId reportedState reportedBuildId) := by
  unfold handleWorkerStatus
  split
  · exact keeps_handleBuildingStatus _ _ _
  · refine Keeps.bind (keeps_read _) fun candidates => ?_
    refine (keeps_forM fun candidate _ =>
      keeps_idleReconcileOne env registeredWorkerId candidate).bind fun _ => ?_
    exact (keeps_tryDispatch healthy).bind fun _ => keeps_done _ _
  · exact keeps_done _ _

theorem keeps_handleWorkerMessage (connection : Connection) (message : WorkerMessage)
    (free : ∀ buildId, guarded buildId → message ≠ .buildStarted buildId ∧
      ∀ reason, message = .buildRejected buildId reason →
        Text.containsLower reason "integrity" = true) :
    (discipline lossy guarded).Keeps (handleWorkerMessage env connectionId connection message) := by
  cases message with
  | hello | metrics => exact keeps_done _ _
  | workerStatus reportedState buildId =>
    exact keeps_handleWorkerStatus healthy connectionId _ reportedState buildId
  | buildAccepted buildId =>
    exact keeps_whenAuthorized fun _ _ _ resting _ _ =>
      follows_handleBuildAccepted resting
  | buildRejected buildId reason =>
    exact keeps_whenAuthorized fun _ _ _ resting row assigned =>
      follows_handleBuildRejected healthy resting row assigned reason fun isGuarded =>
        (free buildId isGuarded).2 reason rfl
  | buildStarted buildId =>
    exact keeps_whenAuthorized fun _ _ _ resting row assigned =>
      follows_handleBuildStarted env resting row assigned fun isGuarded =>
        (free buildId isGuarded).1 rfl
  | buildOutput buildId startSeq lines =>
    exact keeps_whenAuthorized fun _ _ _ resting _ _ =>
      follows_writeBuildOutput env resting startSeq lines
  | buildFinished buildId status error buildReport =>
    exact keeps_whenAuthorized fun _ _ _ resting row assigned =>
      follows_handleBuildFinished healthy resting row assigned status.terminal_toState _ _
  | workerStopping reason =>
    unfold handleWorkerMessage
    exact keeps_lock (fun _ _ => rfl) fun _ _ => rfl

theorem keeps_cleanupWorker (connection : Connection) (isStopping : Bool) :
    (discipline lossy guarded).Keeps (cleanupWorker env connectionId connection isStopping) := by
  have dead : (discipline lossy guarded).Keeps
      ((Handler.lock fun queue => (queue.setWorkerState connectionId .dead, ())).bind fun _ =>
        handleWorkerDead env connectionId) :=
    Keeps.bind (keeps_lock (fun _ _ => rfl) fun _ _ => rfl) fun _ =>
      keeps_handleWorkerDead healthy connectionId
  refine (keeps_stepFree fun _ _ => rfl).bind fun _ => ?_
  split
  · exact dead
  · refine Keeps.bind (keeps_read _) fun arch => ?_
    cases arch with
    | none => exact dead
    | some arch =>
      exact Keeps.bind (keeps_lock (fun _ _ => rfl) fun _ _ => rfl) fun _ =>
        keeps_stepFree fun _ _ => rfl

theorem keeps_acceptConnection (hello : Hello) (welcomed : Bool) :
    (discipline lossy guarded).Keeps (acceptConnection env connectionId hello welcomed) := by
  refine (keeps_stepFree fun _ _ => rfl).bind fun _ => ?_
  refine Keeps.bind (keeps_lock (fun queue other => ?_) fun queue other => ?_) fun superseded => ?_
  · unfold migrateAndRegister
    split
    · rfl
    · rename_i oldConnectionId _ _
      simp only [BuildQueue.registerWorker, BuildQueue.migrate, ActiveMap.get_modifyAll,
        Option.map_map]
      congr 1
      funext build
      by_cases owned : build.connectionId = oldConnectionId <;> simp [owned]
  · unfold migrateAndRegister
    split <;> rfl
  · refine Keeps.bind ?_ fun _ => ?_
    · rcases superseded with _ | ⟨oldConnectionId, wasConnected, migratedBuilds⟩
      · exact keeps_done _ _
      · refine (keeps_stepFree fun _ _ => rfl).bind fun _ => ?_
        split
        · exact keeps_handleWorkerDead healthy oldConnectionId
        · exact keeps_done _ _
    · refine (keeps_stepFree fun _ _ => rfl).bind fun _ => ?_
      unfold enterOrCleanUp
      split
      · exact keeps_stepFree fun _ _ => rfl
      · exact keeps_cleanupWorker healthy connectionId hello.connection false

theorem keeps_closeConnection (connection : Connection) :
    (discipline lossy guarded).Keeps (closeConnection env connectionId connection) := by
  refine (keeps_stepFree fun _ _ => rfl).bind fun _ => ?_
  exact Keeps.bind (keeps_read _) fun isStopping =>
    keeps_cleanupWorker healthy connectionId connection isStopping

theorem keeps_gracePeriodExpired :
    (discipline lossy guarded).Keeps (gracePeriodExpired env connectionId) := by
  refine Keeps.bind (keeps_read _) fun stillDisconnected => ?_
  split
  · exact Keeps.bind (keeps_lock (fun _ _ => rfl) fun _ _ => rfl) fun _ =>
      keeps_handleWorkerDead healthy connectionId
  · exact keeps_done _ _

omit healthy

theorem footprint_insertSubmission (env : Env) (submission : Submission) {state : AppState}
    (resting : (footprint state.builds.nextId state).Resting lossy) :
    (footprint state.builds.nextId state).row = none ∧
      footprint state.builds.nextId (insertSubmission env submission state).1 =
        ⟨some (.queued, submission.priority), none, fun _ => 0⟩ := by
  have fresh : (footprint state.builds.nextId state).row = none := by simp [footprint]
  refine ⟨fresh, Footprint.ext ?_ ?_ ?_⟩
  · simp [footprint, insertSubmission, insertBuild, getBuild]
  · exact resting.active.trans (by rw [fresh]; rfl)
  · funext lane
    have bound := resting.waiting_le lane
    rw [fresh] at bound
    exact Nat.le_zero.mp bound

theorem keeps_insertBuildInternal (env : Env) (submission : Submission) :
    (discipline lossy guarded).Keeps (insertBuildInternal env submission) := by
  intro engagement settled
  simp only [insertBuildInternal, Routine.bind_eq, follows_bind]
  refine follows_stepAt settled (by simp) fun state target isTarget rest => ?_
  obtain rfl : state.builds.nextId = target := Option.some.inj isTarget
  obtain ⟨fresh, print⟩ := footprint_insertSubmission env submission rest
  refine ⟨⟨fun other different => ?_, ?_⟩, ?_⟩
  · refine Footprint.ext ?_ rfl rfl
    change Option.map _ (getBuild _ other) = _
    rw [insertSubmission, getBuild_insertBuild _ _ _ _ _ _ _ _ _ different]
    rfl
  · exact ⟨fun found priority isRow _ => absurd (fresh.symm.trans isRow) (by simp),
      fun _ priority isRow => absurd (fresh.symm.trans isRow) (by simp)⟩
  · change (discipline lossy guarded).Follows _ (some (state.builds.nextId, footprint _ _)) _
    rw [print]
    refine follows_stepFree (fun _ _ => rfl) fun _ _ => ?_
    refine follows_lockFor
      ⟨some (.queued, submission.priority), none, waitingOf (some (.queued, submission.priority))⟩
      (fun queue other different => ⟨by simp, ?_⟩) rfl fun queue active waiting => ⟨?_, ?_, ?_⟩
    · funext lane
      rw [BuildQueue.occurs_enqueue, if_neg (fun both => different both.1.symm), Nat.add_zero]
    · simpa using active
    · funext lane
      rw [BuildQueue.occurs_enqueue, waiting]
      simp [waitingOf, insertSubmission]
    · exact (settled_some ..).mpr ⟨rfl, Or.inl rfl⟩

theorem follows_revokeQueued (resting : print.Resting lossy)
    (row : print.row = some (.queued, priority)) :
    Settles lossy guarded (revokeQueued buildId) buildId print := by
  have vacant := resting.not_active_of_not_assigned row (by decide)
  have waits : ∀ lane, print.waiting lane ≤ if lane = priority then 1 else 0 := by
    intro lane
    have bound := resting.waiting_le lane
    rwa [row] at bound
  simp only [revokeQueued, Routine.bind_eq, follows_bind]
  refine follows_lockFor ⟨some (.queued, priority), none, fun _ => 0⟩
    (fun queue other different => ⟨by simp, ?_⟩) row.symm fun queue active waiting => ⟨?_, ?_, ?_⟩
  · funext lane
    exact queue.occurs_removeById_of_ne different lane
  · simpa [vacant] using active
  · funext lane
    have only : ∀ other, other ≠ priority → queue.occurs buildId other = 0 := by
      intro other different
      have bound := waits other
      rw [if_neg different] at bound
      rw [waiting]
      exact Nat.le_zero.mp bound
    rw [queue.occurs_removeById_self only, waiting]
    have bound := waits lane
    change print.waiting lane - 1 = 0
    split at bound <;> omega
  · refine follows_execute .revoked (fun _ => rfl) (fun _ => rfl)
      (.setState rfl (by decide) fun _ _ => Or.inr (by decide)) ?_
    refine (settled_some ..).mpr ?_
    exact Footprint.resting_of_terminal priority rfl (Or.inr (Or.inr rfl)) rfl rfl

theorem follows_revokeAssigned (resting : print.Resting lossy) :
    Settles lossy guarded (revokeAssigned buildId) buildId print := by
  simp only [revokeAssigned, Routine.bind_eq, follows_bind]
  refine (follows_sendBuildRevoke resting).mono fun last sent rest => ?_
  cases sent <;> exact rest

theorem keeps_revokeBuild (user : AuthUser) (buildId : BuildId) :
    (discipline lossy guarded).Keeps (revokeBuild user buildId) := by
  unfold revokeBuild
  split
  · exact keeps_done _ _
  · refine keeps_of_settles (fun _ => rfl) fun print resting => ?_
    have settled : (discipline lossy guarded).Settled (some (buildId, print)) :=
      resting.settled
    simp only [Routine.bind_eq, follows_bind]
    refine follows_getBuild fun row isRow => ?_
    cases row with
    | none => exact settled
    | some row =>
      have here : print.row = some (row.state, row.priority) := isRow.symm
      dsimp only
      split
      · exact settled
      · cases state : row.state with
        | queued =>
          rw [state] at here
          exact (follows_revokeQueued resting here).bind_done
        | dispatched | started => exact follows_revokeAssigned resting
        | revoking | success | failure | revoked => exact settled

end Handlers

end Cbs

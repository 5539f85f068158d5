import Cbs.Server.Exclusivity

/-!
# Reports of running builds

A worker that reconnects reports the build that it is running, and should get the build or be told
to stop.  It is not told to stop when the build is queued or has ended, nor always when it is being
revoked, because a revoke goes to the holder.
-/

namespace Cbs

open Concurrency

def AppState.Attached (state : AppState) (connectionId : ConnectionId) (buildId : BuildId) : Prop :=
  state.Holds connectionId buildId ∧
    state.RowSays buildId fun row => row.state = .dispatched ∨ row.state = .started

/-- From one state to another, a revoke of the build was put on the connection's own channel. -/
def ToldToStop (before after : AppState) (connectionId : ConnectionId) (buildId : BuildId) : Prop :=
  ∃ sent added reason, before.workerSenders.lookup connectionId = some sent ∧
    after.workerSenders.lookup connectionId = some (sent ++ added) ∧
    Frame.text (.buildRevoke buildId reason) ∈ added

/-- The reports that are answered: the build has no row, or it was handed out and may go on, or it
is being revoked and the reporting connection is the one that holds it. -/
def AppState.AnswersReport (state : AppState) (connectionId : ConnectionId) (buildId : BuildId) :
    Prop :=
  match state.builds.getBuild buildId with
  | none => True
  | some row =>
    match row.state with
    | .dispatched | .started => True
    | .revoking => state.Holds connectionId buildId
    | .queued | .success | .failure | .revoked => False

/-- What was put on a channel decides who was told to stop. -/
theorem toldToStop_iff {before after : AppState} {connectionId : ConnectionId} {buildId : BuildId}
    {added : List Frame}
    (delivered : after.workerSenders.lookup connectionId =
      (before.workerSenders.lookup connectionId).map (· ++ added)) :
    ToldToStop before after connectionId buildId ↔
      connectionId ∈ before.workerSenders ∧
        ∃ reason, Frame.text (.buildRevoke buildId reason) ∈ added := by
  constructor
  · rintro ⟨sent, new, reason, isSent, isNew, inside⟩
    rw [isSent, isNew, Option.map_some] at delivered
    rw [List.append_cancel_left (Option.some.inj delivered)] at inside
    exact ⟨AList.lookup_isSome.mp (by simp [isSent]), reason, inside⟩
  · rintro ⟨plugged, reason, inside⟩
    obtain ⟨sent, isSent⟩ := Option.isSome_iff_exists.mp (AList.lookup_isSome.mpr plugged)
    exact ⟨sent, added, reason, isSent, by rw [delivered, isSent, Option.map_some], inside⟩

theorem lookup_deliver (state : AppState) (connectionId other : ConnectionId)
    (frames : List Frame) :
    (state.deliver connectionId frames).workerSenders.lookup other =
      (state.workerSenders.lookup other).map
        (· ++ if other = connectionId then frames else []) := by
  simp only [AppState.deliver, Dictionary.lookup_modify]
  split_ifs
  · rfl
  · simp

section Report

variable {state : AppState} {connectionId : ConnectionId} {connection : Connection}
  {buildId : BuildId}

def reportedState (connectionId : ConnectionId) (connection : Connection) (buildId : BuildId)
    (state : AppState) : AppState :=
  ((handleBuildingStatus connectionId connection.registeredWorkerId buildId).run state).1

theorem reportedState_of_missing (missing : state.builds.getBuild buildId = none) :
    reportedState connectionId connection buildId state =
      state.deliver connectionId [.text (.buildRevoke buildId (some .unauthorizedAction))] := by
  simp only [reportedState, handleBuildingStatus, Routine.bind_eq, Routine.run_bind,
    Handler.getBuild, Routine.run_step, missing]
  rfl

variable {row : BuildRow}

theorem reportedState_of_foreign (found : state.builds.getBuild buildId = some row)
    (claimable : row.state = .dispatched ∨ row.state = .started)
    (foreign : row.workerId ≠ some connection.registeredWorkerId) :
    reportedState connectionId connection buildId state =
      (state.deliver connectionId
        [.text (.unauthorizedBuildAction buildId .workerStatus .notAssigned)]).deliver connectionId
        [.text (.buildRevoke buildId (some .unauthorizedAction))] := by
  simp only [reportedState, handleBuildingStatus, Routine.bind_eq, Routine.run_bind,
    Handler.getBuild, Routine.run_step, found]
  rw [if_pos ⟨claimable, foreign⟩]
  rfl

theorem reportedState_of_unclaimable (found : state.builds.getBuild buildId = some row)
    (unclaimable : row.state ≠ .dispatched ∧ row.state ≠ .started) :
    reportedState connectionId connection buildId state =
      ((sendBuildRevoke buildId).run state).1 := by
  simp only [reportedState, handleBuildingStatus, Routine.bind_eq, Routine.run_bind,
    Handler.getBuild, Routine.run_step, found, unclaimable.1, unclaimable.2, false_or, false_and,
    if_false]
  cases isState : row.state with
  | dispatched => exact absurd isState unclaimable.1
  | started => exact absurd isState unclaimable.2
  | _ => rw [Routine.run_bind]; rfl

theorem run_sendBuildRevoke_of_vacant (vacant : state.queue.active.get buildId = none) :
    ((sendBuildRevoke buildId).run state).1 = state := by
  simp only [sendBuildRevoke, Routine.bind_eq, Routine.run_bind, Handler.lockFor,
    Routine.run_step, vacant]
  rfl

variable {build : ActiveBuild}

theorem run_sendBuildRevoke_of_active (active : state.queue.active.get buildId = some build) :
    ((sendBuildRevoke buildId).run state).1 =
      { ({ state with builds := state.builds.setBuildRevoking buildId }).deliver build.connectionId
          [.text (.buildRevoke buildId (some .admin))] with
        revokeTimers := state.revokeTimers ++ [buildId] } := by
  simp only [sendBuildRevoke, Routine.bind_eq, Routine.run_bind, Handler.lockFor,
    Routine.run_step, active]
  rfl

/-- In every reachable state, whatever happened to the database, a build has an assignment exactly
when its row says so. -/
theorem active_iff_of_reachable {admits : Env → Operation → Prop}
    (reachable : ReachableBy admits state) (found : state.builds.getBuild buildId = some row) :
    (∃ build, state.queue.active.get buildId = some build) ↔ row.state.Assigned := by
  have atRest : (discipline True fun _ => False).AtRest state :=
    atRest_of_reachable _ (fun _ _ _ sound => absurd trivial sound) reachable
  have print : (footprint buildId state).row = some (row.state, row.priority) := by
    simp [footprint, found]
  constructor
  · rintro ⟨build, active⟩
    by_contra unassigned
    have vacant : (footprint buildId state).active = none :=
      (atRest buildId).not_active_of_not_assigned print unassigned
    simp [footprint, active] at vacant
  · intro assigned
    obtain ⟨build, active, -⟩ := Option.map_eq_some_iff.mp
      ((atRest buildId).active_of_assigned print assigned).1
    exact ⟨build, active⟩

theorem workerId_of_holds (attributed : Attributed state)
    (isOpen : state.connections.lookup connectionId = some connection)
    (holds : state.Holds connectionId buildId) (found : state.builds.getBuild buildId = some row) :
    row.workerId = some connection.registeredWorkerId := by
  obtain ⟨owner, attributed⟩ := attributed
  obtain ⟨build, active, rfl⟩ := holds
  obtain ⟨stored, registeredWorkerId, isStored, isWorker, isOwner⟩ := attributed.held active
  cases isStored.symm.trans found
  rw [isWorker, ← isOwner, attributed.connection isOpen]

/-- The reporting connection gets the build or is told to stop. -/
def Answered (before after : AppState) (connectionId : ConnectionId) (buildId : BuildId) : Prop :=
  after.Attached connectionId buildId ∨ ToldToStop before after connectionId buildId

theorem answered_of_missing (missing : state.builds.getBuild buildId = none) :
    Answered state (reportedState connectionId connection buildId state) connectionId buildId ↔
      connectionId ∈ state.workerSenders := by
  have unattached : ¬ (reportedState connectionId connection buildId state).Attached connectionId
      buildId := by
    rw [reportedState_of_missing missing]
    rintro ⟨-, row, found, -⟩
    exact absurd (missing.symm.trans found) (by simp)
  rw [Answered, or_iff_right unattached, reportedState_of_missing missing,
    toldToStop_iff (lookup_deliver ..)]
  simp

theorem answered_of_foreign (attributed : Attributed state)
    (isOpen : state.connections.lookup connectionId = some connection)
    (found : state.builds.getBuild buildId = some row)
    (claimable : row.state = .dispatched ∨ row.state = .started)
    (foreign : row.workerId ≠ some connection.registeredWorkerId) :
    Answered state (reportedState connectionId connection buildId state) connectionId buildId ↔
      connectionId ∈ state.workerSenders := by
  have unattached : ¬ (reportedState connectionId connection buildId state).Attached connectionId
      buildId := by
    rw [reportedState_of_foreign found claimable foreign]
    rintro ⟨holds, -⟩
    exact foreign (workerId_of_holds attributed isOpen holds found)
  have delivered : (reportedState connectionId connection buildId state).workerSenders.lookup
      connectionId = (state.workerSenders.lookup connectionId).map
        (· ++ [.text (.unauthorizedBuildAction buildId .workerStatus .notAssigned),
          .text (.buildRevoke buildId (some .unauthorizedAction))]) := by
    rw [reportedState_of_foreign found claimable foreign, lookup_deliver, lookup_deliver,
      Option.map_map]
    simp [Function.comp_def]
  rw [Answered, or_iff_right unattached, toldToStop_iff delivered]
  simp

variable (found : state.builds.getBuild buildId = some row)

include found

theorem attached_of_own (claimable : row.state = .dispatched ∨ row.state = .started)
    (own : row.workerId = some connection.registeredWorkerId)
    (active : state.queue.active.get buildId = some build) :
    (reportedState connectionId connection buildId state).Attached connectionId buildId := by
  obtain ⟨isAttached, -⟩ :=
    attached_handleBuildingStatus connectionId found claimable own active
  obtain ⟨attached, isActive, isConnection⟩ := Option.map_eq_some_iff.mp isAttached
  refine ⟨⟨attached, isActive, isConnection⟩, row, ?_, claimable⟩
  simp only [reportedState, handleBuildingStatus, Routine.bind_eq, Routine.run_bind,
    Handler.getBuild, Routine.run_step, found, own, ne_eq, not_true_eq_false, and_false, if_false]
  rcases claimable with isState | isState
  · simp only [isState, attachConnectionAndMarkReceived, Routine.run_step, active]
    exact found
  · simp only [isState, attachConnection, Handler.lockFor, Routine.run_step]
    exact found

theorem answered_of_revoking (revoking : row.state = .revoking)
    (active : state.queue.active.get buildId = some build) :
    Answered state (reportedState connectionId connection buildId state) connectionId buildId ↔
      state.Holds connectionId buildId ∧ connectionId ∈ state.workerSenders := by
  have unclaimable : row.state ≠ .dispatched ∧ row.state ≠ .started := by simp [revoking]
  have unattached : ¬ (reportedState connectionId connection buildId state).Attached connectionId
      buildId := by
    rw [reportedState_of_unclaimable found unclaimable, run_sendBuildRevoke_of_active active]
    rintro ⟨-, other, isOther, claimable⟩
    have isRow : ({ row with state := .revoking } : BuildRow) = other := by
      simpa [AppState.deliver, BuildsTable.setBuildRevoking, found] using isOther
    subst isRow
    simp at claimable
  have delivered : (reportedState connectionId connection buildId state).workerSenders.lookup
      connectionId = (state.workerSenders.lookup connectionId).map
        (· ++ if connectionId = build.connectionId then
          [.text (.buildRevoke buildId (some .admin))] else []) := by
    rw [reportedState_of_unclaimable found unclaimable, run_sendBuildRevoke_of_active active]
    exact lookup_deliver ..
  rw [Answered, or_iff_right unattached, toldToStop_iff delivered, and_comm]
  refine and_congr_left fun _ => ⟨?_, ?_⟩
  · rintro ⟨reason, inside⟩
    split_ifs at inside with same
    · exact ⟨build, active, same.symm⟩
    · cases inside
  · rintro ⟨holder, isHolder, same⟩
    cases active.symm.trans isHolder
    exact ⟨some .admin, by simp [same]⟩

theorem unanswered_of_vacant (unclaimable : row.state ≠ .dispatched ∧ row.state ≠ .started)
    (vacant : state.queue.active.get buildId = none) :
    ¬ Answered state (reportedState connectionId connection buildId state) connectionId
      buildId := by
  rw [reportedState_of_unclaimable found unclaimable, run_sendBuildRevoke_of_vacant vacant]
  rintro (⟨-, other, isOther, claimable⟩ | told)
  · cases found.symm.trans isOther
    rcases claimable with isState | isState
    · exact unclaimable.1 isState
    · exact unclaimable.2 isState
  · have nothing : state.workerSenders.lookup connectionId =
        (state.workerSenders.lookup connectionId).map (· ++ []) := by
      simp
    obtain ⟨-, reason, inside⟩ := (toldToStop_iff nothing).mp told
    cases inside

end Report

/-- In every reachable state, a registered connection that reports a running build gets the build or
is told to stop exactly when the state is one that answers the report. -/
theorem report_answered_iff {admits : Env → Operation → Prop} {state : AppState}
    (reachable : ReachableBy admits state) {connectionId : ConnectionId} {connection : Connection}
    (isOpen : state.connections.lookup connectionId = some connection)
    (registered : connectionId ∈ state.queue.workers) (env : Env) (buildId : BuildId) :
    Answered state
        ((Operation.message connectionId connection (.workerStatus .building (some buildId))).exec
          env state) connectionId buildId ↔
      state.AnswersReport connectionId buildId := by
  change Answered state (reportedState connectionId connection buildId state) connectionId
    buildId ↔ _
  have attributed := attributed_of_reachable reachable
  have plugged : connectionId ∈ state.workerSenders :=
    plugged_of_reachable reachable connectionId (AList.lookup_isSome.mp (by simp [isOpen]))
      registered
  unfold AppState.AnswersReport
  cases found : state.builds.getBuild buildId with
  | none => exact iff_of_true ((answered_of_missing found).mpr plugged) trivial
  | some row =>
    have assigned := active_iff_of_reachable reachable found
    have resumable : row.state = .dispatched ∨ row.state = .started →
        Answered state (reportedState connectionId connection buildId state) connectionId
          buildId := by
      intro claimable
      by_cases own : row.workerId = some connection.registeredWorkerId
      · obtain ⟨build, active⟩ := assigned.mpr (by
          rcases claimable with isState | isState <;> rw [isState] <;> decide)
        exact Or.inl (attached_of_own found claimable own active)
      · exact (answered_of_foreign attributed isOpen found claimable own).mpr plugged
    have unassigned : ¬ row.state.Assigned →
        ¬ Answered state (reportedState connectionId connection buildId state) connectionId
          buildId := by
      intro isUnassigned
      refine unanswered_of_vacant found ⟨?_, ?_⟩ ?_
      · exact fun isState => isUnassigned (by rw [isState]; decide)
      · exact fun isState => isUnassigned (by rw [isState]; decide)
      · by_contra active
        exact isUnassigned (assigned.mp (Option.ne_none_iff_exists'.mp active))
    dsimp only
    cases isState : row.state with
    | dispatched => exact iff_of_true (resumable (Or.inl isState)) trivial
    | started => exact iff_of_true (resumable (Or.inr isState)) trivial
    | revoking =>
      obtain ⟨build, active⟩ := assigned.mpr (by rw [isState]; decide)
      rw [answered_of_revoking found isState active]
      exact and_iff_left plugged
    | _ => exact iff_of_false (unassigned (by rw [isState]; decide)) id

/-- The server after the builder lost its connection in the middle of a build and came back. -/
def reconnectedServer : AppState :=
  (execAll .smooth
    [.disconnect "first" builder, .connect "second" builderHello true]
    executingServer).getD executingServer

/-- The builder gets its build back on its new connection. -/
theorem report_answered_after_reconnect :
    Reachable reconnectedServer ∧
      Answered reconnectedServer
        ((Operation.message "second" builder (.workerStatus .building (some 1))).exec .smooth
          reconnectedServer) "second" 1 := by
  have reachable : Reachable reconnectedServer :=
    reachable_executingServer.execAll (by simp [Operation.NoDatabaseError, Env.smooth])
      (by decide)
  refine ⟨reachable, ?_⟩
  have isOpen : reconnectedServer.connections.lookup "second" = some builder := by decide
  refine (report_answered_iff reachable isOpen (by decide) .smooth 1).mpr ?_
  have found : (reconnectedServer.builds.getBuild 1).map (·.state) = some .started := by decide
  obtain ⟨row, isRow, started⟩ := Option.map_eq_some_iff.mp found
  simp only [AppState.AnswersReport, isRow, started]

/-- The server after the build was revoked without an answer of the builder, which then lost its
connection and came back. -/
def givenUpServer : AppState :=
  (execAll .smooth
    [.revoke admin 1, .revokeTimeout 1, .disconnect "first" builder,
      .connect "second" builderHello true]
    executingServer).getD executingServer

/-- The builder reports the build that was given up, and is not told to stop. -/
theorem report_of_ended_build_unanswered :
    Reachable givenUpServer ∧
      givenUpServer.connections.lookup "second" = some builder ∧
      "second" ∈ givenUpServer.queue.workers ∧
      givenUpServer.workerSenders.lookup "second" = some [] ∧
      (givenUpServer.builds.getBuild 1).map (·.state) = some .revoked ∧
      ¬ Answered givenUpServer
        ((Operation.message "second" builder (.workerStatus .building (some 1))).exec .smooth
          givenUpServer) "second" 1 := by
  refine ⟨reachable_executingServer.execAll
    (by simp [Operation.NoDatabaseError, Env.smooth]) (by decide), by decide, by decide, by decide,
    by decide, ?_⟩
  have found : (givenUpServer.builds.getBuild 1).map (·.state) = some .revoked := by decide
  obtain ⟨row, isRow, isState⟩ := Option.map_eq_some_iff.mp found
  exact unanswered_of_vacant isRow (by simp [isState]) (by decide)

end Cbs

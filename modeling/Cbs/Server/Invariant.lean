import Cbs.Server.Agreement

/-!
# The invariant of complete operations

Startup recovery makes the three stores agree on any database, and every complete operation keeps
them in agreement.
-/

namespace Cbs

open Concurrency Discipline

/-- The operations that may take a revoking build back to an earlier state. -/
def Operation.MayUndoRevoke (buildId : BuildId) : Operation → Prop
  | message _ _ (.buildStarted reported) => reported = buildId
  | message _ _ (.buildRejected reported reason) =>
    reported = buildId ∧ Text.containsLower reason "integrity" = false
  | ackTimeout timer => timer.buildId = buildId
  | _ => False

section

variable {lossy : Prop} {guarded : BuildId → Prop}

theorem keeps_dispatchUntilError {envs : List Env}
    (healthy : ¬ lossy → ∀ env ∈ envs, env.databaseError = none) :
    (discipline lossy guarded).Keeps (dispatchUntilError envs) := by
  induction envs with
  | nil => exact keeps_done _ _
  | cons env envs ih =>
    refine Keeps.bind (keeps_tryDispatch fun strict => healthy strict env (by simp))
      fun outcome => ?_
    cases outcome with
    | ok _ => exact ih fun strict other inside => healthy strict other (by simp [inside])
    | error _ => exact keeps_done _ _

theorem keeps_rollbackActiveToQueued (env : Env) {buildId : BuildId} (free : ¬ guarded buildId) :
    (discipline lossy guarded).Keeps (rollbackActiveToQueued env buildId) :=
  keeps_of_startsOn (fun _ => rfl) fun _ resting =>
    follows_rollbackActiveToQueued env resting fun isGuarded => absurd isGuarded free

/-- Every operation follows the discipline, as long as it may not undo a guarded revoke and loses no
build that is to be kept. -/
theorem keeps_routine {env : Env} {operation : Operation}
    (healthy : ¬ lossy → operation.NoDatabaseError env)
    (free : ∀ buildId, guarded buildId → ¬ operation.MayUndoRevoke buildId) :
    (discipline lossy guarded).Keeps (operation.routine env) := by
  cases operation with
  | submit submission =>
    exact Keeps.bind (keeps_insertBuildInternal env submission) fun _ =>
      keeps_done _ _
  | dispatch =>
    exact Keeps.bind (keeps_tryDispatch healthy) fun _ => keeps_done _ _
  | message connectionId connection received =>
    refine keeps_handleWorkerMessage healthy connectionId connection received
      fun buildId isGuarded => ⟨?_, ?_⟩
    · rintro rfl
      exact free buildId isGuarded rfl
    · rintro reason rfl
      by_contra transient
      exact free buildId isGuarded ⟨rfl, by simpa using transient⟩
  | ackTimeout timer =>
    refine Keeps.bind (keeps_stepFree fun _ _ => rfl) fun _ => ?_
    refine Keeps.bind (keeps_rollbackActiveToQueued env fun isGuarded => ?_) fun _ =>
      keeps_done _ _
    exact free timer.buildId isGuarded rfl
  | revoke user buildId =>
    exact Keeps.bind (keeps_revokeBuild user buildId) fun _ =>
      keeps_done _ _
  | revokeTimeout buildId =>
    exact Keeps.bind (keeps_stepFree fun _ _ => rfl) fun _ =>
      keeps_handleRevokeTimeout env buildId
  | connect connectionId hello welcomed =>
    exact keeps_acceptConnection healthy connectionId hello welcomed
  | disconnect connectionId connection =>
    exact keeps_closeConnection healthy connectionId connection
  | graceExpired connectionId =>
    exact Keeps.bind (keeps_stepFree fun _ _ => rfl) fun _ =>
      keeps_gracePeriodExpired healthy connectionId
  | sweep attempts =>
    refine Keeps.bind (keeps_read _) fun shouldDispatch => ?_
    cases shouldDispatch with
    | true => exact Keeps.bind (keeps_dispatchUntilError healthy) fun _ => keeps_done _ _
    | false => exact keeps_done _ _

end

/-- Some rows still have to be put back into their lanes; every other build is at rest. -/
def Requeueing (state : AppState) (pending : List (Sigma fun _ : BuildId => BuildRow)) : Prop :=
  (∀ entry ∈ pending, footprint entry.1 state =
    ⟨some (.queued, entry.2.priority), none, fun _ => 0⟩) ∧
  ∀ buildId, buildId ∉ pending.map Sigma.fst → (footprint buildId state).Consistent

variable {buildId : BuildId}

theorem footprint_requeueRow_of_ne (env : Env) (state : AppState)
    (entry : Sigma fun _ : BuildId => BuildRow) (different : buildId ≠ entry.1) :
    footprint buildId (requeueRow env state entry) = footprint buildId state := by
  unfold requeueRow
  split
  · exact Footprint.ext (by simp [footprint, different]) rfl rfl
  · refine Footprint.ext rfl (by simp [footprint]) ?_
    funext lane
    simp [footprint, BuildQueue.occurs_enqueue, Ne.symm different]

variable {state : AppState}

theorem consistent_requeueRow (env : Env) {entry : Sigma fun _ : BuildId => BuildRow}
    (print : footprint entry.1 state = ⟨some (.queued, entry.2.priority), none, fun _ => 0⟩) :
    (footprint entry.1 (requeueRow env state entry)).Consistent := by
  have row : Option.map (fun row : BuildRow => (row.state, row.priority))
      (state.builds.getBuild entry.1) = some (.queued, entry.2.priority) :=
    congrArg Footprint.row print
  have active : Option.map (fun build : ActiveBuild => build.priority)
      (state.queue.active.get entry.1) = none :=
    congrArg Footprint.active print
  have waiting : state.queue.occurs entry.1 = fun _ => 0 := congrArg Footprint.waiting print
  unfold requeueRow
  split
  · refine Footprint.Resting.consistent (Footprint.resting_of_terminal entry.2.priority ?_
      (Or.inr (Or.inl rfl)) active waiting)
    obtain ⟨stored, found, isQueued⟩ := Option.map_eq_some_iff.mp row
    simp [footprint, found, failCorrupt, (Prod.mk.inj isQueued).2]
  · refine ⟨?_, ?_⟩
    · simp only [footprint, BuildQueue.active_enqueue]
      rw [active, row]
      rfl
    · funext lane
      simp only [footprint, BuildQueue.occurs_enqueue]
      rw [waiting, row]
      simp [waitingOf]

theorem requeueing_foldl (env : Env) {pending : List (Sigma fun _ : BuildId => BuildRow)}
    (nodup : (pending.map Sigma.fst).Nodup)
    (requeueing : Requeueing state pending) (buildId : BuildId) :
    (footprint buildId (pending.foldl (requeueRow env) state)).Consistent := by
  induction pending generalizing state with
  | nil => exact requeueing.2 buildId (by simp)
  | cons entry pending ih =>
    obtain ⟨fresh, rest⟩ := List.nodup_cons.mp nodup
    refine ih rest ⟨fun other inside => ?_, fun other outside => ?_⟩
    · have different : other.1 ≠ entry.1 := fun same =>
        fresh (List.mem_map.mpr ⟨other, inside, same⟩)
      rw [footprint_requeueRow_of_ne env state entry different]
      exact requeueing.1 other (by simp [inside])
    · by_cases same : other = entry.1
      · subst same
        exact consistent_requeueRow env (requeueing.1 entry (by simp))
      · rw [footprint_requeueRow_of_ne env state entry same]
        exact requeueing.2 other (by simpa [same] using outside)

theorem footprint_runStartupRecovery (env : Env) (state : AppState) (buildId : BuildId) :
    footprint buildId (runStartupRecovery env state) =
      footprint buildId ((queuedRows env (finalizeInFlight env state).builds).foldl
        (requeueRow env) (finalizeInFlight env state)) := by
  simp only [runStartupRecovery, requeueBuilds, footprint]

/-- On an empty queue the rows that are left after finalization are all that has to be requeued. -/
theorem requeueing_finalizeInFlight (env : Env) (empty : state.queue = .new) :
    Requeueing (finalizeInFlight env state)
      (queuedRows env (finalizeInFlight env state).builds) := by
  have vacant : ∀ buildId, (footprint buildId (finalizeInFlight env state)).active = none := by
    simp [footprint, empty, BuildQueue.new]
  have unqueued : ∀ buildId,
      (footprint buildId (finalizeInFlight env state)).waiting = fun _ => 0 := by
    intro buildId
    funext lane
    cases lane <;> simp [footprint, empty, BuildQueue.new, BuildQueue.occurs, BuildQueue.lane,
      Lane.empty]
  refine ⟨fun entry inside => ?_, fun buildId outside => ?_⟩
  · obtain ⟨found, isQueued⟩ := mem_queuedRows.mp inside
    exact Footprint.ext (by simp [footprint, found, isQueued]) (vacant entry.1) (unqueued entry.1)
  · cases found : (finalizeInFlight env state).builds.getBuild buildId with
    | none =>
      refine ⟨(vacant buildId).trans ?_, (unqueued buildId).trans ?_⟩ <;>
        simp [footprint, found, assignmentOf, waitingOf]
    | some row =>
      rcases state_of_finalizeInFlight found with isQueued | terminal
      · have inside : ⟨buildId, row⟩ ∈ queuedRows env (finalizeInFlight env state).builds :=
          mem_queuedRows.mpr ⟨found, isQueued⟩
        exact absurd (List.mem_map.mpr ⟨_, inside, rfl⟩) outside
      · exact Footprint.Resting.consistent (Footprint.resting_of_terminal row.priority
          (by simp [footprint, found]) terminal (vacant buildId) (unqueued buildId))

/-- On any database, recovery leaves the three stores in agreement about every build. -/
theorem atRest_runStartupRecovery (lossy : Prop) (guarded : BuildId → Prop) (env : Env)
    (empty : state.queue = .new) :
    (discipline lossy guarded).AtRest (runStartupRecovery env state) := by
  intro buildId
  have consistent := requeueing_foldl env (nodup_queuedRows ..)
    (requeueing_finalizeInFlight env empty) buildId
  rw [← footprint_runStartupRecovery] at consistent
  exact consistent.resting

/-- The stores agree about every build in every reachable state, up to builds that were lost if a
statement may have failed. -/
theorem atRest_of_reachable {lossy : Prop} (guarded : BuildId → Prop)
    {admits : Env → Operation → Prop}
    (healthy : ∀ env operation, admits env operation → ¬ lossy → operation.NoDatabaseError env)
    (reachable : ReachableBy admits state) :
    (discipline lossy guarded).AtRest state := by
  have unguarded : ∀ {state}, (discipline lossy fun _ => False).AtRest state →
      (discipline lossy guarded).AtRest state := fun atRest => atRest
  refine unguarded ?_
  induction reachable with
  | start env logFiles => exact atRest_runStartupRecovery _ _ env rfl
  | step _ env operation _ admitted ih =>
    have keeps : (discipline lossy fun _ => False).Keeps (operation.routine env) :=
      keeps_routine (healthy env operation admitted) (by simp)
    exact keeps.obeys.run_atRest ih
  | restarted _ env _ => exact atRest_runStartupRecovery _ _ env rfl

/-- Without database errors the stores agree about every build. -/
theorem consistent_of_reachable (reachable : Reachable state)
    (buildId : BuildId) : (footprint buildId state).Consistent := by
  have atRest : (discipline False fun _ => False).AtRest state :=
    atRest_of_reachable _ (fun _ _ healthy _ => healthy) reachable
  exact (atRest buildId).consistent

/-- What the row of a build says holds of its place in the lanes and in the active map. -/
structure Agreement (state : AppState) (buildId : BuildId) : Prop where
  /-- The row is queued exactly when the build waits once, in the lane of its priority, and is not
  active. -/
  queued_iff : (∃ row, state.builds.getBuild buildId = some row ∧ row.state = .queued) ↔
    ∃ row, state.builds.getBuild buildId = some row ∧
      state.queue.occurs buildId row.priority = 1 ∧
      (∀ priority, priority ≠ row.priority → state.queue.occurs buildId priority = 0) ∧
      state.queue.active.get buildId = none
  assigned_iff : (∃ row, state.builds.getBuild buildId = some row ∧ row.state.Assigned) ↔
    ∃ active, state.queue.active.get buildId = some active
  not_waiting_of_active : (∃ active, state.queue.active.get buildId = some active) →
    ∀ priority, state.queue.occurs buildId priority = 0
  terminal : ∀ row, state.builds.getBuild buildId = some row → row.state.Terminal →
    state.queue.active.get buildId = none ∧
      ∀ priority, state.queue.occurs buildId priority = 0
  /-- An identifier without a row is neither active nor in a lane. -/
  unfiled : state.builds.getBuild buildId = none →
    state.queue.active.get buildId = none ∧
      ∀ priority, state.queue.occurs buildId priority = 0

theorem agreement_of_consistent
    (consistent : (footprint buildId state).Consistent) : Agreement state buildId := by
  have resting : (footprint buildId state).Resting False := consistent.resting
  have isRow : ∀ {row}, state.builds.getBuild buildId = some row →
      (footprint buildId state).row = some (row.state, row.priority) := by
    intro row found
    simp [footprint, found]
  have vacant : (footprint buildId state).active = none →
      state.queue.active.get buildId = none := Option.map_eq_none_iff.mp
  refine ⟨⟨?_, ?_⟩, ⟨?_, ?_⟩, ?_, ?_, ?_⟩
  · rintro ⟨row, found, isQueued⟩
    have here := isRow found
    have waiting : ∀ priority, state.queue.occurs buildId priority =
        waitingOf (some (row.state, row.priority)) priority := by
      intro priority
      rw [← here]
      exact congrFun consistent.waiting priority
    refine ⟨row, found, ?_, fun priority different => ?_, ?_⟩
    · simp [waiting, isQueued, waitingOf]
    · simp [waiting, isQueued, waitingOf, different]
    · exact vacant (resting.not_active_of_not_assigned here (by rw [isQueued]; decide))
  · rintro ⟨row, found, once, -, -⟩
    have waits : 0 < (footprint buildId state).waiting row.priority := by
      change 0 < state.queue.occurs buildId row.priority
      omega
    have queued := resting.queued_of_waiting waits
    exact ⟨row, found, (Prod.mk.inj (Option.some.inj ((isRow found).symm.trans queued))).1⟩
  · rintro ⟨row, found, assigned⟩
    obtain ⟨active, isActive, -⟩ := Option.map_eq_some_iff.mp
      (resting.active_of_assigned (isRow found) assigned).1
    exact ⟨active, isActive⟩
  · rintro ⟨active, isActive⟩
    obtain ⟨stored, here, assigned⟩ := resting.assigned_of_active
      (show (footprint buildId state).active = some active.priority by simp [footprint, isActive])
    obtain ⟨row, found, same⟩ := Option.map_eq_some_iff.mp here
    exact ⟨row, found, by rwa [(Prod.mk.inj same).1]⟩
  · rintro ⟨active, isActive⟩ priority
    obtain ⟨stored, here, assigned⟩ := resting.assigned_of_active
      (show (footprint buildId state).active = some active.priority by simp [footprint, isActive])
    exact congrFun (resting.active_of_assigned here assigned).2 priority
  · intro row found terminal
    have here := isRow found
    refine ⟨vacant (resting.not_active_of_not_assigned here fun assigned =>
      BuildState.not_terminal_of_assigned assigned terminal), fun priority => ?_⟩
    by_contra waits
    have queued := resting.queued_of_waiting (Nat.pos_of_ne_zero waits)
    rw [(Prod.mk.inj (Option.some.inj (here.symm.trans queued))).1] at terminal
    exact absurd terminal (by decide)
  · intro missing
    have here : (footprint buildId state).row = none := by simp [footprint, missing]
    refine ⟨vacant ?_, fun priority => ?_⟩
    · by_contra isActive
      obtain ⟨priority, isActive⟩ := Option.ne_none_iff_exists'.mp isActive
      obtain ⟨stored, filed, -⟩ := resting.assigned_of_active isActive
      rw [here] at filed
      cases filed
    · by_contra waits
      have queued := resting.queued_of_waiting (Nat.pos_of_ne_zero waits)
      rw [here] at queued
      cases queued

/-- In every reachable state the queue, the active map and the database agree about every
build. -/
theorem agreement_of_reachable {state : AppState} (reachable : Reachable state)
    (buildId : BuildId) : Agreement state buildId :=
  agreement_of_consistent (consistent_of_reachable reachable buildId)

def submittedServer : AppState :=
  (Operation.submit cephSubmission).exec .smooth freshServer

theorem agreement_of_submittedServer :
    Reachable submittedServer ∧
      (submittedServer.builds.getBuild 1).map (·.state) = some .queued ∧
      Agreement submittedServer 1 :=
  have reachable : Reachable submittedServer :=
    .step (.start .smooth ∅ trivial) .smooth (.submit cephSubmission) trivial rfl
  ⟨reachable, by decide, agreement_of_reachable reachable 1⟩

/-- Whatever statements fail, assignments are as the rows say, and a build waits as its row says or,
if it was lost from its lane, nowhere.  A restart brings every lost build back. -/
theorem lost_from_lanes_only {admits : Env → Operation → Prop} {state : AppState}
    (reachable : ReachableBy admits state) (env : Env) (buildId : BuildId) :
    (footprint buildId state).Resting True ∧
      (footprint buildId (restart env state)).Consistent := by
  have atRest : (discipline True fun _ => False).AtRest state :=
    atRest_of_reachable _ (fun _ _ _ healthy => absurd trivial healthy) reachable
  have restarted : (discipline False fun _ => False).AtRest (restart env state) :=
    atRest_runStartupRecovery _ _ env rfl
  exact ⟨atRest buildId, (restarted buildId).consistent⟩

theorem lost_from_lanes_only_executing :
    (footprint 1 executingServer).Resting True ∧
      (footprint 1 (restart .smooth executingServer)).Consistent :=
  lost_from_lanes_only reachable_executingServer .smooth 1

end Cbs

import Cbs.Server.Invariant

/-!
# Accepted revokes

A revoking row stays revoking or becomes terminal under every operation but three: the owner reports
that it started the build, the owner rejects it for a transient reason, or its dispatch-ack timer
fires.
-/

namespace Cbs

open Concurrency

def Revoking (state : AppState) (buildId : BuildId) : Prop :=
  (state.builds.getBuild buildId).map (·.state) = some .revoking

def RevokeKept (state : AppState) (buildId : BuildId) : Prop :=
  ∃ row, state.builds.getBuild buildId = some row ∧
    (row.state = .revoking ∨ row.state.Terminal)

/-- The operation crosses the revoke of a build: its owner reports a start or a transient rejection,
or its dispatch-ack timer fires. -/
def Operation.CrossesRevoke (state : AppState) (buildId : BuildId) : Operation → Prop
  | message connectionId _ (.buildStarted reported) =>
    reported = buildId ∧
      (state.queue.activeBuildForConnection buildId connectionId).isSome = true
  | message connectionId _ (.buildRejected reported reason) =>
    reported = buildId ∧ Text.containsLower reason "integrity" = false ∧
      (state.queue.activeBuildForConnection buildId connectionId).isSome = true
  | ackTimeout timer => timer.buildId = buildId
  | _ => False

theorem revokeKept_of_moves {before after : Footprint} {priority : Priority}
    (row : before.row = some (.revoking, priority))
    (moves : Relation.ReflTransGen (Footprint.Allowed True) before after) :
    ∃ state priority, after.row = some (state, priority) ∧
      (state = .revoking ∨ state.Terminal) := by
  induction moves with
  | refl => exact ⟨.revoking, priority, row, Or.inl rfl⟩
  | tail _ move ih =>
    obtain ⟨state, found, isRow, rfl | terminal⟩ := ih
    · exact move.revoking trivial found isRow
    · exact ⟨state, found, (move.absorbing state found isRow terminal).trans isRow,
        Or.inr terminal⟩

variable {buildId : BuildId} {state : AppState}

theorem builds_whenAuthorized_of_not_owner {connectionId : ConnectionId}
    {action : WorkerBuildAction} {handler : Handler Unit}
    (stranger : state.queue.activeBuildForConnection buildId connectionId = none) :
    ((whenAuthorized connectionId buildId action handler).run state).1.builds = state.builds := by
  have refused : claimReceipt connectionId buildId state = (state, false) := by
    simp [claimReceipt, stranger]
  simp only [whenAuthorized, authorizeLifecycleMessage, Routine.bind_eq, Routine.run_bind,
    Routine.run_step, refused, Bool.false_eq_true, if_false, Routine.pure_eq, Routine.run_done,
    refuseLifecycleMessage]
  split <;> rfl

theorem revokeKept_of_same_builds {before after : AppState}
    (revoking : Revoking before buildId) (same : after.builds = before.builds) :
    RevokeKept after buildId := by
  obtain ⟨row, found, isRevoking⟩ := Option.map_eq_some_iff.mp revoking
  exact ⟨row, by rw [same, found], Or.inl isRevoking⟩

theorem revokeKept_of_footprint
    (kept : ∃ found priority, (footprint buildId state).row = some (found, priority) ∧
      (found = .revoking ∨ found.Terminal)) : RevokeKept state buildId := by
  obtain ⟨found, priority, isRow, status⟩ := kept
  obtain ⟨row, stored, same⟩ := Option.map_eq_some_iff.mp isRow
  refine ⟨row, stored, ?_⟩
  rwa [(Prod.mk.inj same).1]

theorem row_of_revoking (revoking : Revoking state buildId) :
    ∃ priority, (footprint buildId state).row = some (.revoking, priority) := by
  obtain ⟨row, found, isRevoking⟩ := Option.map_eq_some_iff.mp revoking
  exact ⟨row.priority, by simp [footprint, found, isRevoking]⟩

theorem revokeKept_exec {admits : Env → Operation → Prop} (reachable : ReachableBy admits state)
    (revoking : Revoking state buildId) {operation : Operation}
    (harmless : ¬ operation.MayUndoRevoke buildId) (env : Env) :
    RevokeKept (operation.exec env state) buildId := by
  have keeps : (discipline True (· = buildId)).Keeps (operation.routine env) :=
    keeps_routine (by simp) fun other same => by rwa [same]
  have moves := keeps.obeys.run_moves (atRest_of_reachable _ (by simp) reachable) buildId
  obtain ⟨priority, row⟩ := row_of_revoking revoking
  refine revokeKept_of_footprint (revokeKept_of_moves row ?_)
  refine Relation.ReflTransGen.mono (fun _ _ move => ?_) _ _ moves
  exact ⟨move.absorbing, fun _ => move.revoking rfl⟩

theorem footprint_foldl_requeueRow (env : Env)
    {pending : List (Sigma fun _ : BuildId => BuildRow)} (state : AppState)
    (outside : buildId ∉ pending.map Sigma.fst) :
    footprint buildId (pending.foldl (requeueRow env) state) = footprint buildId state := by
  induction pending generalizing state with
  | nil => rfl
  | cons entry pending ih =>
    obtain ⟨different, rest⟩ : buildId ≠ entry.1 ∧ buildId ∉ pending.map Sigma.fst := by
      simpa using outside
    rw [List.foldl_cons, ih _ rest, footprint_requeueRow_of_ne env state entry different]

theorem revokeKept_restart (env : Env)
    (revoking : Revoking state buildId) : RevokeKept (restart env state) buildId := by
  obtain ⟨row, found, isRevoking⟩ := Option.map_eq_some_iff.mp revoking
  have finished : (finalizeInFlight env
      (.boot state.builds state.buildLogs state.logFiles)).builds.getBuild buildId =
      some (completeRevoke env row) := by
    simp [finalizeInFlight, getBuild_finalizeBuilds, AppState.boot, found, isRevoking]
  refine revokeKept_of_footprint ⟨.revoked, row.priority, ?_, Or.inr (by decide)⟩
  rw [restart, footprint_runStartupRecovery, footprint_foldl_requeueRow]
  · simp [footprint, finished, completeRevoke]
  · intro inside
    obtain ⟨⟨_, stored⟩, isEntry, rfl⟩ := List.mem_map.mp inside
    obtain ⟨isRow, isQueued⟩ := mem_queuedRows.mp isEntry
    rw [finished] at isRow
    rw [← Option.some.inj isRow] at isQueued
    exact absurd isQueued (by simp [completeRevoke])

/-- In every reachable state an accepted revoke survives a restart and every operation that does
not cross it. -/
theorem revoke_kept_unless_crossed {state : AppState}
    (reachable : ReachableBy (fun _ _ => True) state) {buildId : BuildId}
    (revoking : Revoking state buildId) :
    (∀ env (operation : Operation), operation.Enabled state →
      ¬ operation.CrossesRevoke state buildId →
        RevokeKept (operation.exec env state) buildId) ∧
      ∀ env, RevokeKept (restart env state) buildId := by
  refine ⟨fun env operation _ apart => ?_, fun env => revokeKept_restart env revoking⟩
  by_cases harmless : operation.MayUndoRevoke buildId
  · cases operation with
    | message connectionId connection received =>
      refine revokeKept_of_same_builds revoking ?_
      cases received with
      | buildStarted reported =>
        obtain rfl : reported = buildId := harmless
        refine builds_whenAuthorized_of_not_owner (Option.not_isSome_iff_eq_none.mp ?_)
        exact fun owner => apart ⟨rfl, owner⟩
      | buildRejected reported reason =>
        obtain ⟨rfl, transient⟩ : reported = buildId ∧ _ := harmless
        refine builds_whenAuthorized_of_not_owner (Option.not_isSome_iff_eq_none.mp ?_)
        exact fun owner => apart ⟨rfl, transient, owner⟩
      | _ => exact harmless.elim
    | ackTimeout timer => exact absurd harmless apart
    | _ => exact harmless.elim
  · exact revokeKept_exec reachable revoking harmless env

def revokingServer : AppState :=
  (Operation.revoke admin 1).exec .smooth acceptedServer

theorem reachable_revokingServer : Reachable revokingServer :=
  .step reachable_acceptedServer .smooth (.revoke admin 1) trivial rfl

/-- The revoke timer ends the revoked build. -/
theorem revoke_kept_by_timeout :
    Operation.Enabled revokingServer (.revokeTimeout 1) ∧
      RevokeKept ((Operation.revokeTimeout 1).exec .smooth revokingServer) 1 :=
  have revoking : Revoking revokingServer 1 := by
    unfold Revoking
    decide
  have reachable : ReachableBy (fun _ _ => True) revokingServer :=
    reachable_revokingServer.mono fun _ _ _ _ => trivial
  ⟨by decide, (revoke_kept_unless_crossed reachable revoking).1 .smooth (.revokeTimeout 1)
    (by decide) id⟩

/-- A report of the start that crosses the revoke takes the build back to started. -/
theorem revoke_undone_by_start :
    Reachable revokingServer ∧ Revoking revokingServer 1 ∧
      Operation.Enabled revokingServer (.message "first" builder (.buildStarted 1)) ∧
      (((Operation.message "first" builder (.buildStarted 1)).exec .smooth
        revokingServer).builds.getBuild 1).map (·.state) = some .started := by
  refine ⟨reachable_revokingServer, ?_, by decide, by decide⟩
  unfold Revoking
  decide

end Cbs

import Cbs.Server.Attribution

/-!
# What a submission fixes

Along every run the rows of the builds that were submitted so far are neither deleted nor created
anew, and what the submission stored in them stays as it is.
-/

namespace Cbs

open Concurrency

/-- What the submission of a build stores in its row for good. -/
def BuildRow.filing (row : BuildRow) :=
  (row.descriptor, row.userEmail, row.priority, row.submittedAt, row.queuedAt, row.periodicTaskId,
    row.channelId, row.channelTypeId)

namespace BuildsTable

/-- The keys handed out so far stay used, each for the same submission. -/
def Extends (before after : BuildsTable) : Prop :=
  before.sequence ≤ after.sequence ∧ ∀ buildId ≤ before.sequence,
    (after.getBuild buildId).map BuildRow.filing = (before.getBuild buildId).map BuildRow.filing

theorem Extends.refl (table : BuildsTable) : table.Extends table :=
  ⟨le_rfl, fun _ _ => rfl⟩

theorem Extends.trans {first second third : BuildsTable} (left : first.Extends second)
    (right : second.Extends third) : first.Extends third :=
  ⟨left.1.trans right.1, fun buildId old =>
    (right.2 buildId (old.trans left.1)).trans (left.2 buildId old)⟩

theorem extends_update (table : BuildsTable) (buildId : BuildId) (change : BuildRow → BuildRow)
    (same : ∀ row, (change row).filing = row.filing) :
    table.Extends (table.update buildId change) := by
  refine ⟨le_rfl, fun other _ => ?_⟩
  rw [getBuild_update]
  split_ifs
  · cases found : table.getBuild other <;> simp [same]
  · rfl

end BuildsTable

variable {before after : AppState}

theorem DispatchOutcome.extends {env : Env} {result : Except DispatchError Unit}
    (outcome : DispatchOutcome env before after result) : before.builds.Extends after.builds := by
  have dispatched : ∀ build rest connectionId worker, before.builds.Extends
      (dispatchedState env before build rest connectionId worker).builds :=
    fun _ _ _ _ => BuildsTable.extends_update _ _ _ fun _ => rfl
  cases outcome with
  | nothing | statementFailed => exact .refl _
  | @packFailed build rest connectionId worker | @sendFailed build rest connectionId worker =>
    exact (dispatched build rest connectionId worker).trans
      (BuildsTable.extends_update _ _ _ fun _ => rfl)
  | @sent build rest connectionId worker => exact dispatched build rest connectionId worker

theorem Change.extends {deed : Deed} (change : Change deed before after) :
    before.builds.Extends after.builds := by
  cases change with
  | start | finish | revoke | withdraw | requeue =>
    exact BuildsTable.extends_update _ _ _ fun _ => rfl
  | submit =>
    refine ⟨Int.le_of_lt (Int.lt_succ _), fun buildId old => congrArg _ ?_⟩
    refine BuildsTable.getBuild_insertBuild _ _ _ _ _ _ _ _ _ (Int.ne_of_lt ?_)
    exact Int.lt_add_one_of_le old
  | dispatch outcome => exact outcome.extends
  | _ => exact .refl _

theorem extends_foldl {step : AppState → (Sigma fun _ : BuildId => BuildRow) → AppState}
    (one : ∀ (state : AppState) entry, state.builds.Extends (step state entry).builds)
    (entries : List (Sigma fun _ : BuildId => BuildRow)) (state : AppState) :
    state.builds.Extends (entries.foldl step state).builds := by
  induction entries generalizing state with
  | nil => exact .refl _
  | cons entry entries ih => exact (one state entry).trans (ih _)

theorem extends_finalizeBuilds (env : Env) (states : List BuildState) {change : BuildRow → BuildRow}
    (same : ∀ row, (change row).filing = row.filing) (state : AppState) :
    state.builds.Extends (finalizeBuilds env states change state).builds :=
  extends_foldl (fun _ _ => BuildsTable.extends_update _ _ _ same) _ _

theorem extends_restart (env : Env) (state : AppState) :
    state.builds.Extends (restart env state).builds := by
  have failed := @extends_finalizeBuilds env [.dispatched, .started] (failRestarted env)
    (fun _ => rfl) (.boot state.builds state.buildLogs state.logFiles)
  have revoked := @extends_finalizeBuilds env [.revoking] (completeRevoke env) (fun _ => rfl)
  simp only [restart, runStartupRecovery, requeueBuilds, finalizeInFlight]
  refine (failed.trans (revoked _)).trans (extends_foldl (fun state entry => ?_) _ _)
  unfold requeueRow
  split
  · exact BuildsTable.extends_update _ _ _ fun _ => rfl
  · exact .refl _

/-- Complete operations and restarts lead from one state to another. -/
inductive Leads (first : AppState) : AppState → Prop
  | refl : Leads first first
  | step {state : AppState} (leads : Leads first state) (env : Env) {operation : Operation}
      (enabled : operation.Enabled state) : Leads first (operation.exec env state)
  | restarted {state : AppState} (leads : Leads first state) (env : Env) :
      Leads first (restart env state)

/-- Rows are never deleted, keys are never reused, and no later operation or restart changes what a
submission stored. -/
theorem submissions_kept {admits : Env → Operation → Prop} {first later : AppState}
    (reachable : ReachableBy admits first) (leads : Leads first later) :
    first.builds.Extends later.builds := by
  have both : ReachableBy (fun _ _ => True) later ∧ first.builds.Extends later.builds := by
    induction leads with
    | refl => exact ⟨reachable.mono fun _ _ _ _ => trivial, .refl _⟩
    | @step state leads env operation enabled ih =>
      refine ⟨.step ih.1 env operation enabled trivial, ?_⟩
      have chain := chain_exec_of_reachable ih.1 env enabled
      exact @Chain.invariant _ _ _ (first.builds.Extends ·.builds) chain ih.2
        fun kept _ change => kept.trans change.extends
    | restarted leads env ih =>
      exact ⟨.restarted ih.1 env trivial, ih.2.trans (extends_restart env _)⟩
  exact both.2

theorem submissions_kept_by_restart :
    executingServer.builds.Extends (restart .smooth executingServer).builds :=
  submissions_kept reachable_executingServer (.restarted .refl .smooth)

end Cbs

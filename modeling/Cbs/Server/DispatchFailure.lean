import Cbs.Server.Invariant
import Cbs.Server.Outcome

/-!
# Failed dispatch attempts

A dispatch attempt pops its build before the first step that can fail.  Every recovery path but one
puts the build back or ends it.
-/

namespace Cbs

open Concurrency

/-- The row of a build says that it failed. -/
def Failed (state : AppState) (buildId : BuildId) : Prop :=
  (state.builds.getBuild buildId).map (·.state) = some .failure

/-- No waiting build is lost between two states. -/
structure NothingDropped (before after : AppState) : Prop where
  kept : ∀ buildId priority, 0 < before.queue.occurs buildId priority →
    0 < after.queue.occurs buildId priority ∨ Failed after buildId
  not_stranded : ∀ buildId priority, 0 < before.queue.occurs buildId priority →
    (∀ lane, after.queue.occurs buildId lane = 0) → after.queue.active.get buildId = none →
      (after.builds.getBuild buildId).map (·.state) ≠ some .queued

theorem nothingDropped_of_kept {before after : AppState}
    (kept : ∀ buildId priority, 0 < before.queue.occurs buildId priority →
      0 < after.queue.occurs buildId priority ∨ Failed after buildId) :
    NothingDropped before after := by
  refine ⟨kept, fun buildId priority waits gone _ queued => ?_⟩
  rcases kept buildId priority waits with stillWaits | failed
  · rw [gone priority] at stillWaits
    exact absurd stillWaits (lt_irrefl 0)
  · have same : some BuildState.queued = some BuildState.failure := queued.symm.trans failed
    exact absurd same (by simp)

/-- The build that a dispatch attempt takes does not get lost by a failure: it waits a second time
in its lane, or the statement of the dispatch succeeds and a failure to pack finds a row to end. -/
def DispatchSafe (env : Env) (state : AppState) : Prop :=
  ∀ build rest, state.queue.nextPending = some (build, rest) →
    (rest.findIdleWorker env.workerRank build.descriptor.build.arch).isSome = true →
    rest.occurs build.buildId build.priority = 0 →
      if env.databaseError.isSome = true then Failed state build.buildId
      else (packResult env build.descriptor).isOk = true ∨
        (state.builds.getBuild build.buildId).isSome = true

section

variable {env : Env} {state : AppState} {build : QueuedBuild} {rest : BuildQueue}

/-- The terminal cleanup gives the row of the build, if there is one, the state `failure`. -/
theorem failed_endedState_iff (env : Env) (buildId : BuildId) (reason : String) (state : AppState) :
    Failed (endedState env buildId .failure reason state) buildId ↔
      (state.builds.getBuild buildId).isSome = true := by
  unfold Failed endedState BuildsTable.setBuildFinished
  cases found : state.builds.getBuild buildId <;> simp [found, TerminalStatus.toState]

variable (popped : state.queue.nextPending = some (build, rest))
include popped

/-- What is popped is the only thing that the lanes lose. -/
theorem waits_or_popped {buildId : BuildId} {priority : Priority}
    (waits : 0 < state.queue.occurs buildId priority) :
    0 < rest.occurs buildId priority ∨ buildId = build.buildId ∧ priority = build.priority := by
  rw [BuildQueue.occurs_of_nextPending popped] at waits
  by_cases isPopped : build.buildId = buildId ∧ priority = build.priority
  · exact Or.inr ⟨isPopped.1.symm, isPopped.2⟩
  · rw [if_neg isPopped] at waits
    exact Or.inl waits

theorem waits_of_popped : 0 < state.queue.occurs build.buildId build.priority := by
  rw [BuildQueue.occurs_of_nextPending popped]
  simp

/-- An attempt that leaves the lanes without the popped build drops nothing exactly when this build
waits a second time or has failed. -/
theorem nothingDropped_popped_iff {final : AppState} (lanes : final.queue.occurs = rest.occurs) :
    NothingDropped state final ↔
      (rest.occurs build.buildId build.priority = 0 → Failed final build.buildId) := by
  constructor
  · intro nothing once
    rcases nothing.kept _ _ (waits_of_popped popped) with waits | failed
    · rw [lanes, once] at waits
      exact absurd waits (lt_irrefl 0)
    · exact failed
  · intro safe
    refine nothingDropped_of_kept fun buildId priority waits => ?_
    rw [lanes]
    rcases waits_or_popped popped waits with stillWaits | ⟨rfl, rfl⟩
    · exact Or.inl stillWaits
    · rcases Nat.eq_zero_or_pos (rest.occurs build.buildId build.priority) with once | again
      · exact Or.inr (safe once)
      · exact Or.inl again

/-- A failure to pack ends the popped build if it has a row. -/
theorem nothingDropped_endedState_iff {connectionId : ConnectionId} {worker : WorkerState}
    (reason : String) :
    NothingDropped state
        (endedState env build.buildId .failure reason
          (dispatchedState env state build rest connectionId worker)) ↔
      (rest.occurs build.buildId build.priority = 0 →
        (state.builds.getBuild build.buildId).isSome = true) := by
  rw [nothingDropped_popped_iff popped rfl, failed_endedState_iff]
  simp [dispatchedState, BuildsTable.setBuildDispatched]

theorem nothingDropped_requeuedState {active : ActiveBuild} {unsent : AppState}
    (same : active.priority = build.priority) (lanes : unsent.queue.occurs = rest.occurs) :
    NothingDropped state (requeuedState env build.buildId active unsent) := by
  refine nothingDropped_of_kept fun buildId priority waits => Or.inl ?_
  have occurs : (requeuedState env build.buildId active unsent).queue.occurs buildId priority =
      rest.occurs buildId priority +
        if build.buildId = buildId ∧ priority = build.priority then 1 else 0 := by
    rw [← lanes, ← same]
    exact BuildQueue.occurs_enqueueFront ..
  rw [occurs, ← BuildQueue.occurs_of_nextPending popped]
  exact waits

end

variable {env : Env} {state : AppState}

theorem dispatchSafe_of_no_target
    (idle : dispatchTarget env state = none) : DispatchSafe env state := by
  intro build rest popped chosen
  obtain ⟨worker, isWorker⟩ := Option.isSome_iff_exists.mp chosen
  simp [dispatchTarget, popped, isWorker] at idle

/-- A dispatch attempt that returns an error drops no build exactly when the attempt is safe for the
build that it takes. -/
theorem nothing_dropped_iff (env : Env) (state : AppState) :
    (∀ reason, ((tryDispatch env).run state).2 = .error reason →
      NothingDropped state ((tryDispatch env).run state).1) ↔ DispatchSafe env state := by
  generalize isFinal : ((tryDispatch env).run state).1 = final
  generalize isResult : ((tryDispatch env).run state).2 = result
  have outcome : DispatchOutcome env state final result := by
    rw [← isFinal, ← isResult]
    exact tryDispatch_outcome env state
  cases outcome with
  | nothing idle =>
    constructor
    · intro _
      exact dispatchSafe_of_no_target idle
    · intro _ _ _
      exact nothingDropped_of_kept fun _ _ waits => Or.inl waits
  | @statementFailed build rest connectionId worker reason popped chosen failed =>
    have isSafe : DispatchSafe env state ↔
        (rest.occurs build.buildId build.priority = 0 → Failed state build.buildId) := by
      simp [DispatchSafe, popped, chosen, failed]
    have dropped : NothingDropped state { state with queue := rest } ↔ _ :=
      nothingDropped_popped_iff popped rfl
    rw [isSafe]
    exact ⟨fun kept => dropped.mp (kept _ rfl), fun safe _ _ => dropped.mpr safe⟩
  | @packFailed build rest connectionId worker reason popped chosen healthy unpacked =>
    have isSafe : DispatchSafe env state ↔
        (rest.occurs build.buildId build.priority = 0 →
          (state.builds.getBuild build.buildId).isSome = true) := by
      simp [DispatchSafe, popped, chosen, healthy, unpacked, Except.isOk, Except.toBool]
    rw [isSafe, ← nothingDropped_endedState_iff popped]
    exact ⟨fun kept => kept _ rfl, fun nothing _ _ => nothing⟩
  | @sendFailed build rest connectionId worker tarball reason packed popped chosen healthy unsent =>
    have isSafe : DispatchSafe env state := by
      simp [DispatchSafe, popped, chosen, healthy, packed, Except.isOk, Except.toBool]
    exact ⟨fun _ => isSafe, fun _ _ _ => nothingDropped_requeuedState popped rfl rfl⟩
  | @sent build rest connectionId worker tarball packed popped chosen healthy delivered =>
    have isSafe : DispatchSafe env state := by
      simp [DispatchSafe, popped, chosen, healthy, packed, Except.isOk, Except.toBool]
    exact ⟨fun _ => isSafe, fun _ _ isError => absurd isError (by simp)⟩

/-- Where the stores agree about the waiting builds, an attempt is safe exactly when it takes no
build or its statement succeeds. -/
theorem dispatchSafe_iff_of_consistent
    (sound : ∀ buildId priority, 0 < state.queue.occurs buildId priority →
      (footprint buildId state).Consistent) :
    DispatchSafe env state ↔ dispatchTarget env state = none ∨ env.databaseError = none := by
  cases target : dispatchTarget env state with
  | none => simp [dispatchSafe_of_no_target target]
  | some buildId =>
    obtain ⟨build, rest, connectionId, worker, popped, rfl, chosen⟩ :=
      dispatchTarget_eq_some target
    -- the popped build is queued and waits nowhere else
    have resting : (footprint build.buildId state).Resting False :=
      (sound _ _ (waits_of_popped popped)).resting
    obtain ⟨isRow, print⟩ := footprint_popped popped resting
    obtain ⟨row, found, same⟩ := Option.map_eq_some_iff.mp isRow
    have queued : row.state = .queued := (Prod.mk.inj same).1
    have once : rest.occurs build.buildId = fun _ => 0 := congrArg Footprint.waiting print
    cases failed : env.databaseError <;>
      simp [DispatchSafe, Failed, popped, chosen, once, failed, found, queued]

def waitingServer : AppState :=
  (execAll .smooth [.connect "first" builderHello true, .submit cephSubmission]
    freshServer).getD freshServer

theorem reachable_waitingServer : Reachable waitingServer :=
  reachable_freshServer.execAll (by simp [Operation.NoDatabaseError, Env.smooth]) (by decide)

/-- An environment in which the statement that records a dispatch fails. -/
def Env.locked : Env :=
  { Env.smooth with databaseError := some "database is locked" }

/-- A failed statement strands the popped build: its row stays queued, but it is in no lane and has
no assignment. -/
theorem statement_failure_strands :
    Reachable waitingServer ∧
      ((tryDispatch .locked).run waitingServer).2 = .error (.database "database is locked") ∧
      waitingServer.queue.occurs 1 .normal = 1 ∧
      (∀ priority, ((tryDispatch .locked).run waitingServer).1.queue.occurs 1 priority = 0) ∧
      ((tryDispatch .locked).run waitingServer).1.queue.active.get 1 = none ∧
      (((tryDispatch .locked).run waitingServer).1.builds.getBuild 1).map (·.state) =
        some .queued ∧
      ¬ NothingDropped waitingServer ((tryDispatch .locked).run waitingServer).1 := by
  have gone : ∀ priority,
      ((tryDispatch .locked).run waitingServer).1.queue.occurs 1 priority = 0 := by
    intro priority
    cases priority <;> decide
  refine ⟨reachable_waitingServer, by decide, by decide, gone, by decide, by decide, ?_⟩
  intro nothing
  exact nothing.not_stranded 1 .normal (by decide) gone (by decide) (by decide)

end Cbs

import Cbs.Server.Operations
import Cbs.Server.Outcome

/-!
# Idle workers after a sweep

When the sweep has nothing more to dispatch, no waiting build should have an idle worker.  An
attempt only looks at the first build of the highest lane, so a build without a worker holds back
those behind it.
-/

namespace Cbs

open Concurrency

namespace BuildQueue

/-- Some worker of an architecture is eligible for dispatch and has no active build. -/
def HasIdleWorker (queue : BuildQueue) (arch : Arch) : Prop :=
  ∃ connectionId worker, queue.getWorker connectionId = some worker ∧
    worker.isDispatchEligible = true ∧ worker.arch = some arch ∧
    ∀ buildId build, queue.active.get buildId = some build → build.connectionId ≠ connectionId

def NoUsableWorkerIdle (queue : BuildQueue) : Prop :=
  ∀ priority, ∀ build ∈ queue.lane priority, ¬ queue.HasIdleWorker build.descriptor.build.arch

/-- The next build has no idle worker, and a build of the other architecture that waits behind it
has one. -/
def HeadBlocks (queue : BuildQueue) : Prop :=
  ∃ head rest, queue.nextPending = some (head, rest) ∧
    ¬ queue.HasIdleWorker head.descriptor.build.arch ∧
    ∃ priority, ∃ build ∈ queue.lane priority,
      build.descriptor.build.arch ≠ head.descriptor.build.arch ∧
        queue.HasIdleWorker build.descriptor.build.arch

variable {queue : BuildQueue} {arch : Arch}

/-- The search for a worker fails exactly when no worker of the architecture is idle. -/
theorem findIdleWorker_eq_none {rank : ConnectionId → Nat} :
    queue.findIdleWorker rank arch = none ↔ ¬ queue.HasIdleWorker arch := by
  have free : ∀ connectionId, queue.active.anyOf connectionId = false ↔
      ∀ buildId build, queue.active.get buildId = some build →
        build.connectionId ≠ connectionId := by
    intro connectionId
    rw [← Bool.not_eq_true, ActiveMap.anyOf_iff]
    simp only [not_exists, not_and, ne_eq]
  rw [findIdleWorker, List.find?_eq_none]
  constructor
  · rintro unsuited ⟨connectionId, worker, stored, eligible, suited, unassigned⟩
    refine unsuited ⟨connectionId, worker⟩ (Dictionary.mem_traverse.mpr stored) ?_
    simp [eligible, suited, (free connectionId).mpr unassigned]
  · rintro busy ⟨connectionId, worker⟩ inside suited
    simp only [Bool.and_eq_true, decide_eq_true_eq, Bool.not_eq_true'] at suited
    exact busy ⟨connectionId, worker, Dictionary.mem_traverse.mp inside, suited.1.1, suited.1.2,
      (free connectionId).mp suited.2⟩

variable {rest : BuildQueue} {build : QueuedBuild}

theorem hasIdleWorker_of_nextPending (popped : queue.nextPending = some (build, rest)) :
    rest.HasIdleWorker arch ↔ queue.HasIdleWorker arch := by
  simp only [HasIdleWorker, getWorker, active_of_nextPending popped, workers_of_nextPending popped]

theorem mem_lane_of_nextPending
    (popped : queue.nextPending = some (build, rest)) : build ∈ queue.lane build.priority := by
  rw [← enqueueFront_nextPending popped, lane_enqueueFront, if_pos rfl]
  exact List.mem_cons_self

end BuildQueue

theorem run_dispatchUntilError_cons (env : Env) (envs : List Env) (state : AppState) :
    (dispatchUntilError (env :: envs)).run state =
      match ((tryDispatch env).run state).2 with
      | .ok () => (dispatchUntilError envs).run ((tryDispatch env).run state).1
      | .error reason => (((tryDispatch env).run state).1, some reason) := by
  simp only [dispatchUntilError, Routine.bind_eq, Routine.run_bind]
  cases ((tryDispatch env).run state).2 <;> rfl

variable {env : Env} {state : AppState}

/-- An attempt that finds nothing to dispatch changes nothing, and no build was taken. -/
theorem tryDispatch_nothing
    (stopped : ((tryDispatch env).run state).2 = .error .nothingToDispatch) :
    ((tryDispatch env).run state).1 = state ∧ dispatchTarget env state = none := by
  have outcome := tryDispatch_outcome env state
  generalize (tryDispatch env).run state = result at stopped outcome
  obtain ⟨after, response⟩ := result
  dsimp only at stopped outcome ⊢
  subst stopped
  cases outcome with
  | nothing idle => exact ⟨rfl, idle⟩
  | sendFailed packed popped chosen healthy unsent =>
    unfold sendFrames at unsent
    split at unsent
    · cases unsent
    · split_ifs at unsent <;> cases unsent

/-- If no build can be taken, there is none or the next one has no idle worker. -/
theorem nextPending_of_no_target (idle : dispatchTarget env state = none) :
    state.queue.nextPending = none ∨
      ∃ head rest, state.queue.nextPending = some (head, rest) ∧
        ¬ state.queue.HasIdleWorker head.descriptor.build.arch := by
  unfold dispatchTarget at idle
  cases popped : state.queue.nextPending with
  | none => exact Or.inl rfl
  | some found =>
    obtain ⟨head, rest⟩ := found
    simp only [popped, Option.map_eq_none_iff, BuildQueue.findIdleWorker_eq_none] at idle
    refine Or.inr ⟨head, rest, rfl, ?_⟩
    rwa [← BuildQueue.hasIdleWorker_of_nextPending popped]

/-- Where no build can be taken, workers are left idle exactly when the next build blocks. -/
theorem noUsableWorkerIdle_iff (idle : dispatchTarget env state = none) :
    state.queue.NoUsableWorkerIdle ↔ ¬ state.queue.HeadBlocks := by
  constructor
  · rintro busy ⟨head, rest, -, -, priority, build, waits, -, usable⟩
    exact busy priority build waits usable
  · intro passes priority build waits usable
    rcases nextPending_of_no_target idle with empty | ⟨head, rest, popped, stuck⟩
    · rw [BuildQueue.nextPending_eq_none empty priority] at waits
      cases waits
    · have other : build.descriptor.build.arch ≠ head.descriptor.build.arch := by
        intro same
        rw [same] at usable
        exact stuck usable
      exact passes ⟨head, rest, popped, stuck, priority, build, waits, other, usable⟩

/-- If the next build blocks, no build can be taken. -/
theorem no_target_of_headBlocks (env : Env) (blocks : state.queue.HeadBlocks) :
    dispatchTarget env state = none := by
  obtain ⟨head, rest, popped, stuck, -⟩ := blocks
  rw [← BuildQueue.hasIdleWorker_of_nextPending popped] at stuck
  have unsuited : rest.findIdleWorker env.workerRank head.descriptor.build.arch = none :=
    BuildQueue.findIdleWorker_eq_none.mpr stuck
  simp only [dispatchTarget, popped, unsuited, Option.map_none]

/-- After attempts that all dispatched a build, the loop makes the next attempt. -/
theorem run_dispatchUntilError_append {envs : List Env}
    (dispatched : ((dispatchUntilError envs).run state).2 = none) :
    (dispatchUntilError (envs ++ [env])).run state =
      (dispatchUntilError [env]).run ((dispatchUntilError envs).run state).1 := by
  induction envs generalizing state with
  | nil => rfl
  | cons first envs ih =>
    rw [List.cons_append, run_dispatchUntilError_cons first (envs ++ [env])]
    rw [run_dispatchUntilError_cons first envs] at dispatched ⊢
    cases attempt : ((tryDispatch first).run state).2 with
    | ok _ =>
      rw [attempt] at dispatched
      exact ih dispatched
    | error reason =>
      rw [attempt] at dispatched
      cases dispatched

/-- One attempt stops the loop exactly when it takes no build, and then it changes nothing. -/
theorem run_dispatchUntilError_nothing :
    ((dispatchUntilError [env]).run state).2 = some .nothingToDispatch ↔
      dispatchTarget env state = none := by
  rw [run_dispatchUntilError_cons]
  constructor
  · intro stopped
    cases attempt : ((tryDispatch env).run state).2 with
    | ok _ =>
      rw [attempt] at stopped
      cases stopped
    | error reason =>
      rw [attempt] at stopped
      obtain rfl := Option.some.inj stopped
      exact (tryDispatch_nothing attempt).2
  · intro idle
    simp [tryDispatch, Routine.run_bind, beginDispatch_of_no_target idle]

theorem run_dispatchUntilError_unchanged (idle : dispatchTarget env state = none) :
    ((dispatchUntilError [env]).run state).1 = state := by
  rw [run_dispatchUntilError_cons]
  simp [tryDispatch, Routine.run_bind, beginDispatch_of_no_target idle]

/-- When an attempt stops the sweep because there is nothing to dispatch, no usable worker is left
idle, unless the next build blocks when the attempt starts. -/
theorem sweep_leaves_no_usable_worker_iff (envs : List Env) (env : Env) {state : AppState}
    (dispatched : ((dispatchUntilError envs).run state).2 = none) :
    (((dispatchUntilError (envs ++ [env])).run state).2 = some .nothingToDispatch →
        ((dispatchUntilError (envs ++ [env])).run state).1.queue.NoUsableWorkerIdle) ↔
      ¬ ((dispatchUntilError envs).run state).1.queue.HeadBlocks := by
  rw [run_dispatchUntilError_append dispatched, run_dispatchUntilError_nothing]
  constructor
  · intro busy blocks
    have idle := no_target_of_headBlocks env blocks
    have unused := busy idle
    rw [run_dispatchUntilError_unchanged idle, noUsableWorkerIdle_iff idle] at unused
    exact unused blocks
  · intro passes idle
    rw [run_dispatchUntilError_unchanged idle]
    exact (noUsableWorkerIdle_iff idle).mpr passes

def armHello : Hello :=
  { builderHello with connection := ⟨"worker-2", "arm-builder", false⟩, arch := .aarch64 }

def armSubmission : Submission :=
  { cephSubmission with
    descriptor := { cephDescriptor with build := ⟨"rockylinux", "el9", "rpm", .aarch64⟩ } }

/-- The server with an idle worker for one architecture, a build for the other architecture, and
behind it a build for the worker. -/
def blockedServer : AppState :=
  (execAll .smooth [.connect "first" armHello true, .submit cephSubmission, .submit armSubmission]
    freshServer).getD freshServer

theorem reachable_blockedServer : Reachable blockedServer :=
  reachable_freshServer.execAll (by simp [Operation.NoDatabaseError, Env.smooth]) (by decide)

/-- The server with a second, idle worker for the other architecture. -/
def mixedServer : AppState :=
  (execAll .smooth
    [.connect "first" builderHello true, .connect "second" armHello true, .submit cephSubmission,
      .submit cephSubmission]
    freshServer).getD freshServer

/-- One build is dispatched; the other one waits for the same worker, and the idle worker has
nothing to do. -/
theorem sweep_leaves_no_usable_worker_mixed :
    ((dispatchUntilError [.smooth, .smooth]).run mixedServer).2 = some .nothingToDispatch ∧
      ((dispatchUntilError [.smooth, .smooth]).run mixedServer).1.queue.NoUsableWorkerIdle := by
  have stopped : ((dispatchUntilError [.smooth, .smooth]).run mixedServer).2 =
      some .nothingToDispatch := by
    decide
  refine ⟨stopped, (sweep_leaves_no_usable_worker_iff [.smooth] .smooth (by decide)).mpr ?_
    stopped⟩
  rintro ⟨head, rest, popped, -, priority, build, waits, other, -⟩
  have oneArch : ∀ priority,
      ∀ build ∈ ((dispatchUntilError [.smooth]).run mixedServer).1.queue.lane priority,
        build.descriptor.build.arch = .x86_64 := by
    intro priority
    cases priority <;> decide
  have first := oneArch head.priority head (BuildQueue.mem_lane_of_nextPending popped)
  exact other ((oneArch priority build waits).trans first.symm)

/-- The sweep has nothing to dispatch, although the worker could take the second build. -/
theorem head_blocks_usable_worker :
    Reachable blockedServer ∧
      ((dispatchUntilError [.smooth]).run blockedServer).2 = some .nothingToDispatch ∧
      ¬ ((dispatchUntilError [.smooth]).run blockedServer).1.queue.NoUsableWorkerIdle := by
  refine ⟨reachable_blockedServer, by decide, fun busy => ?_⟩
  have waits : ∃ build ∈ ((dispatchUntilError [.smooth]).run blockedServer).1.queue.lane .normal,
      build.descriptor.build.arch = .aarch64 := by
    decide
  obtain ⟨build, inside, isArm⟩ := waits
  refine busy .normal build inside
    ⟨"first", .connected "worker-2" "arm-builder" .aarch64 16 65536 none, by decide, rfl,
      by rw [isArm]; rfl, ?_⟩
  intro buildId active found owned
  have vacant :
      ¬ ((dispatchUntilError [.smooth]).run blockedServer).1.queue.active.anyOf "first" = true := by
    decide
  exact vacant (ActiveMap.anyOf_iff.mpr ⟨buildId, active, found, owned⟩)

end Cbs

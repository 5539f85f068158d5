import Mathlib.Logic.Relation
import Cbs.Server.Invariant
import Cbs.Server.Outcome

/-!
# What operations do

The elementary changes of the server's state.  Every complete operation is a chain of them, and each
of them is one that the operation may perform in the state in which it happens.
-/

namespace Cbs

open Concurrency Handler BuildQueue

inductive Deed where
  /-- Send messages, plug channels, set timers, keep books about logs. -/
  | aside
  /-- Take a message of the holder as proof that a build was received. -/
  | claim (buildId : BuildId)
  | attach (buildId : BuildId)
  | write (buildId : BuildId)
  | start (buildId : BuildId)
  | finish (buildId : BuildId)
  | requeue (buildId : BuildId)
  | release (buildId : BuildId)
  | revoke (buildId : BuildId)
  | withdraw (buildId : BuildId)
  | submit
  | dispatch
  | expire (timer : AckTimer)
  | restand (connectionId : ConnectionId)
  | register (connectionId : ConnectionId)
  | welcome (connectionId : ConnectionId)
  | close (connectionId : ConnectionId)

def ServerMessage.DispatchesNothing : ServerMessage → Prop
  | buildNew .. => False
  | _ => True

/-- The state after a submission was stored and put into its lane. -/
def submittedState (env : Env) (submission : Submission) (state : AppState) : AppState :=
  { state with
    builds := state.builds.insertBuild env.now submission.descriptor submission.userEmail
      submission.priority submission.periodicTaskId submission.channelId submission.channelTypeId
    queue := state.queue.enqueue
      { buildId := state.builds.nextId
        priority := submission.priority
        descriptor := submission.descriptor
        userEmail := submission.userEmail
        queuedAt := env.now }
    buildLogs := state.buildLogs.insertBuildLogRow env.now state.builds.nextId }

def BuildLogsTable.SameEnds (before after : BuildLogsTable) : Prop :=
  ∀ buildId, (after.lookup buildId).map (·.finished) = (before.lookup buildId).map (·.finished)

def registeredState (env : Env) (connectionId : ConnectionId) (hello : Hello)
    (state : AppState) : AppState :=
  { state with
    issued := insert connectionId state.issued
    queue := (migrateAndRegister env connectionId hello state.queue).1 }

inductive Change : Deed → AppState → AppState → Prop
  | book (state : AppState) (revokeTimers : List BuildId) (graceMonitors : List ConnectionId)
      {buildLogs : BuildLogsTable} (seqIndices : Dictionary BuildId (List (Nat × Nat)))
      (same : state.buildLogs.SameEnds buildLogs) :
      Change .aside state { state with revokeTimers, graceMonitors, buildLogs, seqIndices }
  | tell (state : AppState) (connectionId : ConnectionId) (messages : List ServerMessage)
      (harmless : ∀ message ∈ messages, message.DispatchesNothing) :
      Change .aside state (state.deliver connectionId (messages.map .text))
  | plug (state : AppState) (connectionId : ConnectionId) :
      Change .aside state
        { state with workerSenders := state.workerSenders.insert connectionId [] }
  | unplug (state : AppState) {connectionId : ConnectionId}
      (retired : connectionId ∉ state.connections ∨ connectionId ∉ state.queue.workers) :
      Change .aside state { state with workerSenders := state.workerSenders.erase connectionId }
  | claim {state : AppState} {buildId : BuildId} {build : ActiveBuild}
      (active : state.queue.active.get buildId = some build) :
      Change (.claim buildId) state
        { state with
          cancelled := insert build.ackCancel state.cancelled
          queue :=
            { state.queue with
              active := state.queue.active.modify buildId
                (fun build => { build with receipt := .receivedByWorker }) fun _ => rfl } }
  | accept {state : AppState} {buildId : BuildId} {build : ActiveBuild}
      (active : state.queue.active.get buildId = some build) :
      Change (.claim buildId) state
        { state with cancelled := insert build.ackCancel state.cancelled }
  | attachReceived {state : AppState} {buildId : BuildId} {build : ActiveBuild} {row : BuildRow}
      {connectionId : ConnectionId} {connection : Connection}
      (active : state.queue.active.get buildId = some build)
      (isOpen : state.connections.lookup connectionId = some connection)
      (found : state.builds.getBuild buildId = some row)
      (assigned : row.workerId = some connection.registeredWorkerId) :
      Change (.attach buildId) state
        { state with
          cancelled := insert build.ackCancel state.cancelled
          queue :=
            { state.queue with
              active := state.queue.active.modify buildId
                (fun build =>
                  { build with connectionId := connectionId, receipt := .receivedByWorker })
                fun _ => rfl } }
  | attach {state : AppState} {buildId : BuildId} {row : BuildRow} {connectionId : ConnectionId}
      {connection : Connection}
      (isOpen : state.connections.lookup connectionId = some connection)
      (found : state.builds.getBuild buildId = some row)
      (assigned : row.workerId = some connection.registeredWorkerId) :
      Change (.attach buildId) state
        { state with
          queue :=
            { state.queue with
              active := state.queue.active.modify buildId
                (fun build => { build with connectionId := connectionId }) fun _ => rfl } }
  | write (state : AppState) (buildId : BuildId) (content : String) :
      Change (.write buildId) state
        { state with logFiles := state.logFiles.insert buildId content }
  | start (state : AppState) (buildId : BuildId) (now : Int) :
      Change (.start buildId) state
        { state with builds := state.builds.setBuildStarted now buildId }
  | finish (state : AppState) (buildId : BuildId) (now : Int) {status : BuildState}
      (terminal : status.Terminal) (error buildReport : Option String) :
      Change (.finish buildId) state
        { state with
          builds := state.builds.setBuildFinished now buildId status error buildReport
          buildLogs := state.buildLogs.setBuildLogFinished now buildId
          queue := { state.queue with active := state.queue.active.remove buildId }
          logWatchers := state.logWatchers.erase buildId }
  | requeue (env : Env) {state : AppState} {buildId : BuildId} {build : ActiveBuild}
      (active : state.queue.active.get buildId = some build) :
      Change (.requeue buildId) state (requeuedState env buildId build state)
  /-- A build that is not active, or not assigned according to its row, is dropped from the active
  map. -/
  | release {state : AppState} {buildId : BuildId}
      (idle : state.queue.active.get buildId = none ∨
        ∃ row, state.builds.getBuild buildId = some row ∧ ¬ row.state.Assigned) :
      Change (.release buildId) state
        { state with queue := { state.queue with active := state.queue.active.remove buildId } }
  | revoke {state : AppState} {buildId : BuildId} {build : ActiveBuild}
      (active : state.queue.active.get buildId = some build) :
      Change (.revoke buildId) state { state with builds := state.builds.setBuildRevoking buildId }
  | withdraw {state : AppState} {buildId : BuildId} {row : BuildRow}
      (found : state.builds.getBuild buildId = some row) (queued : row.state = .queued) :
      Change (.withdraw buildId) state
        { state with
          queue := state.queue.removeById buildId
          builds := state.builds.updateBuildState buildId .revoked none }
  | submit (env : Env) (submission : Submission) (state : AppState) :
      Change .submit state (submittedState env submission state)
  | dispatch {env : Env} {before after : AppState} {result : Except DispatchError Unit}
      (outcome : DispatchOutcome env before after result) : Change .dispatch before after
  | expire (state : AppState) (timer : AckTimer) :
      Change (.expire timer) state { state with ackTimers := state.ackTimers.erase timer }
  /-- A worker gets another state, as what it is known to be, in which nothing is dispatched to
  it. -/
  | restand {state : AppState} {connectionId : ConnectionId} {worker : WorkerState}
      (known : ∀ registeredWorkerId, worker.registeredWorkerId = some registeredWorkerId →
        (∃ connection, state.connections.lookup connectionId = some connection ∧
          connection.registeredWorkerId = registeredWorkerId) ∨
        ∃ old, state.queue.workers.lookup connectionId = some old ∧
          old.registeredWorkerId = some registeredWorkerId)
      (down : worker.isDispatchEligible = false) :
      Change (.restand connectionId) state
        { state with queue := state.queue.setWorkerState connectionId worker }
  | register (env : Env) {state : AppState} {connectionId : ConnectionId} (hello : Hello)
      (fresh : connectionId ∉ state.issued) :
      Change (.register connectionId) state (registeredState env connectionId hello state)
  | welcome {state : AppState} {connectionId : ConnectionId} {connection : Connection}
      {worker : WorkerState} (registered : state.queue.workers.lookup connectionId = some worker)
      (known : worker.registeredWorkerId = some connection.registeredWorkerId)
      (plugged : connectionId ∈ state.workerSenders) :
      Change (.welcome connectionId) state
        { state with connections := state.connections.insert connectionId connection }
  | close {state : AppState} {connectionId : ConnectionId} {connection : Connection}
      {worker : WorkerState} (isOpen : state.connections.lookup connectionId = some connection)
      (known : ∀ registeredWorkerId, worker.registeredWorkerId = some registeredWorkerId →
        connection.registeredWorkerId = registeredWorkerId)
      (down : worker.isDispatchEligible = false) :
      Change (.close connectionId) state
        { state with
          connections := state.connections.erase connectionId
          queue := state.queue.setWorkerState connectionId worker }

def Chain (performs : Deed → AppState → Prop) : AppState → AppState → Prop :=
  Relation.ReflTransGen fun before after =>
    ∃ deed, (deed = .aside ∨ performs deed before) ∧ Change deed before after

section Chain

variable {performs : Deed → AppState → Prop} {first second third : AppState}

theorem Chain.refl (state : AppState) : Chain performs state state :=
  Relation.ReflTransGen.refl

theorem Chain.trans (left : Chain performs first second) (right : Chain performs second third) :
    Chain performs first third :=
  Relation.ReflTransGen.trans left right

theorem Chain.aside (change : Change .aside first second) : Chain performs first second :=
  .single ⟨.aside, Or.inl rfl, change⟩

theorem Chain.of_change {deed : Deed} (change : Change deed first second)
    (permitted : performs deed first) : Chain performs first second :=
  .single ⟨deed, Or.inr permitted, change⟩

theorem Chain.mono {allowed : Deed → AppState → Prop} (chain : Chain performs first second)
    (weaker : ∀ deed state, performs deed state → allowed deed state) :
    Chain allowed first second := by
  refine Relation.ReflTransGen.mono ?_ _ _ chain
  rintro before after ⟨deed, permitted, change⟩
  exact ⟨deed, permitted.imp_right (weaker deed before), change⟩

theorem Chain.invariant {invariant : AppState → Prop} (chain : Chain performs first second)
    (initially : invariant first)
    (kept : ∀ {deed before after}, invariant before → (deed = .aside ∨ performs deed before) →
      Change deed before after → invariant after) : invariant second := by
  unfold Chain at chain
  induction chain with
  | refl => exact initially
  | tail _ step ih =>
    obtain ⟨deed, permitted, change⟩ := step
    exact kept ih permitted change

end Chain

/-- The deed is about connections. -/
def Deed.IsSessional : Deed → Prop
  | restand _ | register _ | welcome _ | close _ => True
  | _ => False

variable {before after : AppState}

theorem DispatchOutcome.sessions_eq {env : Env}
    {result : Except DispatchError Unit} (outcome : DispatchOutcome env before after result) :
    after.queue.workers = before.queue.workers ∧ after.connections = before.connections ∧
      after.issued = before.issued := by
  cases outcome with
  | nothing => exact ⟨rfl, rfl, rfl⟩
  | statementFailed popped | packFailed popped | sent _ popped =>
    have kept := workers_of_nextPending popped
    exact ⟨kept, rfl, rfl⟩
  | sendFailed _ popped =>
    have kept := workers_of_nextPending popped
    exact ⟨(workers_enqueueFront ..).trans kept, rfl, rfl⟩

theorem Change.sessions_eq {deed : Deed} (change : Change deed before after)
    (unsessional : ¬ deed.IsSessional) :
    after.queue.workers = before.queue.workers ∧ after.connections = before.connections ∧
      after.issued = before.issued := by
  cases change with
  | dispatch outcome => exact outcome.sessions_eq
  | requeue => exact ⟨workers_enqueueFront .., rfl, rfl⟩
  | withdraw => exact ⟨workers_removeById .., rfl, rfl⟩
  | submit => exact ⟨workers_enqueue .., rfl, rfl⟩
  | restand | register | welcome | close => exact absurd trivial unsessional
  | _ => exact ⟨rfl, rfl, rfl⟩

/-- The handler makes only changes that are permitted. -/
def Makes {α : Type} (performs : Deed → AppState → Prop) (handler : Handler α) : Prop :=
  ∀ state, Chain performs state (handler.run state).1

section Makes

variable {α β : Type} {performs : Deed → AppState → Prop}

theorem makes_done (value : α) : Makes performs (.done value : Handler α) :=
  fun state => .refl state

theorem makes_bind {handler : Handler α} {next : α → Handler β} (first : Makes performs handler)
    (second : ∀ value, Makes performs (next value)) : Makes performs (handler >>= next) := by
  intro state
  rw [Routine.bind_eq, Routine.run_bind]
  exact (first state).trans (second _ _)

theorem makes_forM {body : α → Handler PUnit} {items : List α}
    (step : ∀ item ∈ items, Makes performs (body item)) : Makes performs (items.forM body) := by
  induction items with
  | nil => exact makes_done _
  | cons item items ih =>
    refine makes_bind (step item (by simp)) fun _ => ?_
    exact ih fun other inside => step other (by simp [inside])

theorem makes_of_same {handler : Handler α} (same : ∀ state, (handler.run state).1 = state) :
    Makes performs handler := by
  intro state
  rw [same]
  exact .refl state

theorem makes_read (read : BuildQueue → α) :
    Makes performs (lock fun queue => (queue, read queue)) :=
  makes_of_same fun _ => rfl

theorem makes_sendTextToConnection (connectionId : ConnectionId) {message : ServerMessage}
    (harmless : message.DispatchesNothing) :
    Makes performs (sendTextToConnection connectionId message) := by
  intro state
  refine .aside (.tell state connectionId [message] ?_)
  simpa using harmless

variable {env : Env} (permitted : ∀ state, performs .dispatch state)
include permitted

theorem makes_tryDispatch : Makes performs (tryDispatch env) :=
  fun state => .of_change (.dispatch (tryDispatch_outcome env state)) (permitted state)

theorem makes_redispatch :
    Makes performs (do
      let _ ← tryDispatch env
      pure () : Handler Unit) :=
  makes_bind (makes_tryDispatch permitted) fun _ => makes_done ()

theorem makes_dispatchUntilError (envs : List Env) : Makes performs (dispatchUntilError envs) := by
  induction envs with
  | nil => exact makes_done _
  | cons env envs ih =>
    refine makes_bind (makes_tryDispatch permitted) fun outcome => ?_
    cases outcome with
    | ok _ => exact ih
    | error _ => exact makes_done _

end Makes

section Parts

variable {performs : Deed → AppState → Prop} {state : AppState} {buildId : BuildId}

theorem chain_endedState (env : Env) (status : TerminalStatus) (reason : String)
    (permitted : performs (.finish buildId) state) :
    Chain performs state (endedState env buildId status reason state) :=
  .of_change (.finish state buildId env.now status.terminal_toState (some reason) none) permitted

/-- Returning a build to its lane, or dropping it from the active map where it is not. -/
theorem chain_rollbackActiveToQueued (env : Env) (requeue : performs (.requeue buildId) state)
    (release : performs (.release buildId) state) :
    Chain performs state ((rollbackActiveToQueued env buildId).run state).1 := by
  cases active : state.queue.active.get buildId with
  | none =>
    rw [run_rollbackActiveToQueued_of_vacant active]
    exact .of_change (.release (Or.inl active)) release
  | some build =>
    rw [run_rollbackActiveToQueued_of_active active]
    exact .of_change (.requeue env active) requeue

theorem chain_sendBuildRevoke (permitted : ∀ build, state.queue.active.get buildId = some build →
      performs (.revoke buildId) state) :
    Chain performs state ((sendBuildRevoke buildId).run state).1 := by
  simp only [sendBuildRevoke, Routine.bind_eq, Routine.run_bind, lockFor,
    Routine.run_step]
  cases active : state.queue.active.get buildId with
  | none => exact .refl _
  | some build =>
    have revoked := Chain.of_change (Change.revoke active) (permitted build active)
    refine revoked.trans ?_
    refine (Chain.aside (.tell _ build.connectionId [.buildRevoke buildId (some .admin)]
      (by simp [ServerMessage.DispatchesNothing]))).trans ?_
    exact .aside (.book _ (state.revokeTimers ++ [buildId]) _ _ fun _ => rfl)

/-- A row is there and passes a check. -/
def AppState.RowSays (state : AppState) (buildId : BuildId) (check : BuildRow → Prop) : Prop :=
  ∃ row, state.builds.getBuild buildId = some row ∧ check row

theorem chain_handleRevokeTimeout (env : Env)
    (permitted : state.RowSays buildId (·.state = .revoking) →
      performs (.finish buildId) state) :
    Chain performs state ((handleRevokeTimeout env buildId).run state).1 := by
  simp only [handleRevokeTimeout, Routine.bind_eq, Routine.run_bind, getBuild,
    Routine.run_step]
  cases found : state.builds.getBuild buildId with
  | none => exact .refl _
  | some row =>
    dsimp only
    split_ifs with revoking
    · exact chain_endedState env .revoked _ (permitted ⟨row, found, revoking⟩)
    · exact .refl _

variable {dbState : BuildState} {receipt : ActiveAssignmentReceipt}

theorem dispatched_of_deadWorkerResolution
    (returned : deadWorkerResolution dbState receipt = .rollbackToQueued) :
    dbState = .dispatched := by
  cases dbState <;> simp_all [deadWorkerResolution]

theorem chain_resolveDeadBuild (env : Env) (receipt : ActiveAssignmentReceipt)
    (finish : state.RowSays buildId (·.state.Assigned) → performs (.finish buildId) state)
    (requeue : state.RowSays buildId (deadWorkerResolution ·.state receipt = .rollbackToQueued) →
      performs (.requeue buildId) state)
    (release : performs (.release buildId) state) :
    Chain performs state ((resolveDeadBuild env buildId receipt).run state).1 := by
  simp only [resolveDeadBuild, Routine.bind_eq, Routine.run_bind, getBuild,
    Routine.run_step]
  cases found : state.builds.getBuild buildId with
  | none => exact .refl _
  | some row =>
    have ended : row.state.Assigned → ∀ status reason,
        Chain performs state (endedState env buildId status reason state) :=
      fun assigned status reason =>
        chain_endedState env status reason (finish ⟨row, found, assigned⟩)
    have released : ¬ row.state.Assigned → Chain performs state { state with
        queue := { state.queue with active := state.queue.active.remove buildId } } :=
      fun unassigned => .of_change (.release (Or.inr ⟨row, found, unassigned⟩)) release
    dsimp only
    cases isState : row.state with
    | dispatched =>
      cases receipt with
      | awaitingReceipt =>
        have returned : deadWorkerResolution row.state .awaitingReceipt =
            .rollbackToQueued := by rw [isState]; rfl
        simp only [deadWorkerResolution, Routine.run_bind]
        exact chain_rollbackActiveToQueued env (requeue ⟨row, found, returned⟩) release
      | receivedByWorker => exact ended (by rw [isState]; decide) .failure _
    | started => exact ended (by rw [isState]; decide) .failure _
    | revoking => exact ended (by rw [isState]; decide) .revoked _
    | _ => exact released (by rw [isState]; decide)

def AppState.Holds (state : AppState) (connectionId : ConnectionId) (buildId : BuildId) : Prop :=
  ∃ build, state.queue.active.get buildId = some build ∧ build.connectionId = connectionId

def AppState.HeldElsewhere (state : AppState) (connectionId : ConnectionId) (buildId : BuildId) :
    Prop :=
  ∃ build, state.queue.active.get buildId = some build ∧ build.connectionId ≠ connectionId

theorem holds_of_mem_activeBuildsWithReceiptForConnection {rank : BuildId → Nat}
    {connectionId : ConnectionId} {assignment : BuildId × ActiveAssignmentReceipt}
    (inside : assignment ∈ state.queue.activeBuildsWithReceiptForConnection rank connectionId) :
    state.Holds connectionId assignment.1 := by
  obtain ⟨build, isBuild, rfl⟩ := List.mem_map.mp inside
  obtain ⟨isValue, owned⟩ := List.mem_filter.mp isBuild
  exact ⟨build, ActiveMap.mem_values.mp isValue, by simpa using owned⟩

/-- The assignments of a dead worker may be resolved. -/
structure Resolves (performs : Deed → AppState → Prop) (held : BuildId → Prop) : Prop where
  finish : ∀ buildId later, held buildId → AppState.RowSays later buildId (·.state.Assigned) →
    performs (.finish buildId) later
  requeue : ∀ buildId later, held buildId → AppState.RowSays later buildId (·.state = .dispatched) →
    performs (.requeue buildId) later
  release : ∀ buildId later, performs (.release buildId) later

theorem chain_handleWorkerDead (env : Env) {connectionId : ConnectionId}
    (resolves : Resolves performs (state.Holds connectionId))
    (dispatch : ∀ later, performs .dispatch later) :
    Chain performs state ((handleWorkerDead env connectionId).run state).1 := by
  simp only [handleWorkerDead, Routine.bind_eq, Routine.run_bind, lock,
    Routine.run_stepFree]
  have resolved : Makes performs
      ((state.queue.activeBuildsWithReceiptForConnection env.buildRank connectionId).forM
        fun assignment => resolveDeadBuild env assignment.1 assignment.2) := by
    refine makes_forM fun assignment inside later => ?_
    have held := holds_of_mem_activeBuildsWithReceiptForConnection inside
    refine chain_resolveDeadBuild env assignment.2 (resolves.finish _ later held) ?_
      (resolves.release _ later)
    rintro ⟨row, found, returned⟩
    exact resolves.requeue _ later held ⟨row, found, dispatched_of_deadWorkerResolution returned⟩
  exact (resolved state).trans (makes_tryDispatch dispatch _)

theorem dispatched_of_idleReconcileDecision {prevConnectionLive : Bool}
    (returned : idleReconcileDecision dbState receipt prevConnectionLive = .rollbackToQueued) :
    dbState = .dispatched := by
  cases dbState <;> simp_all [idleReconcileDecision]

theorem chain_idleReconcileOne (env : Env) (registeredWorkerId : WorkerId)
    (candidate : IdleReconcileCandidate)
    (finish : state.RowSays candidate.buildId
      (fun row => row.workerId = some registeredWorkerId ∧ row.state.Assigned) →
        performs (.finish candidate.buildId) state)
    (requeue : state.RowSays candidate.buildId
      (fun row => row.workerId = some registeredWorkerId ∧
        idleReconcileDecision row.state candidate.receipt candidate.prevConnectionLive =
          .rollbackToQueued) → performs (.requeue candidate.buildId) state)
    (release : performs (.release candidate.buildId) state) :
    Chain performs state ((idleReconcileOne env registeredWorkerId candidate).run state).1 := by
  simp only [idleReconcileOne, Routine.bind_eq, Routine.run_bind, getBuild,
    Routine.run_step]
  cases found : state.builds.getBuild candidate.buildId with
  | none => exact .refl _
  | some row =>
    dsimp only
    split_ifs with foreign
    · exact .refl _
    · have own : row.workerId = some registeredWorkerId := not_not.mp foreign
      have ended : row.state.Assigned → ∀ status reason,
          Chain performs state (endedState env candidate.buildId status reason state) :=
        fun assigned status reason =>
          chain_endedState env status reason (finish ⟨row, found, own, assigned⟩)
      cases isState : row.state with
      | dispatched =>
        have rolledBack : idleReconcileDecision row.state candidate.receipt
            candidate.prevConnectionLive = .rollbackToQueued →
            Chain performs state ((rollbackActiveToQueued env candidate.buildId).run state).1 :=
          fun returned =>
            chain_rollbackActiveToQueued env (requeue ⟨row, found, own, returned⟩) release
        rw [isState] at rolledBack
        cases isDecision : idleReconcileDecision .dispatched candidate.receipt
            candidate.prevConnectionLive with
        | rollbackToQueued => simpa [Routine.run_bind] using rolledBack isDecision
        | skip => exact .refl _
        | _ =>
          simp only [idleReconcileDecision] at isDecision
          repeat' split at isDecision
          all_goals cases isDecision
      | started => exact ended (by rw [isState]; decide) .failure _
      | revoking => exact ended (by rw [isState]; decide) .revoked _
      | _ => exact .refl _

end Parts

def WorkerMessage.Ends (received : WorkerMessage) (buildId : BuildId) : Prop :=
  (∃ status error buildReport, received = .buildFinished buildId status error buildReport) ∨
    ∃ reason, received = .buildRejected buildId reason

def WorkerMessage.ReportsIdle (received : WorkerMessage) : Prop :=
  ∃ reported, received = .workerStatus .idle reported

def WorkerMessage.Dispatches (initial : AppState) (connectionId : ConnectionId) :
    WorkerMessage → Prop
  | buildFinished buildId _ _ _ => initial.Holds connectionId buildId
  | buildRejected buildId reason =>
    initial.Holds connectionId buildId ∧ Text.containsLower reason "integrity" = false
  | workerStatus .idle _ => True
  | _ => False

/-- What the handling of a message that arrives in a given state may do. -/
def MessagePerforms (initial : AppState) (connectionId : ConnectionId) (connection : Connection)
    (received : WorkerMessage) : Deed → AppState → Prop
  | .claim buildId, state | .write buildId, state => state.Holds connectionId buildId
  | .start buildId, state => received = .buildStarted buildId ∧ state.Holds connectionId buildId
  | .attach buildId, state =>
    received = .workerStatus .building (some buildId) ∧
      state.RowSays buildId fun row => row.workerId = some connection.registeredWorkerId
  | .finish buildId, state =>
    state.Holds connectionId buildId ∧ received.Ends buildId ∨
      received.ReportsIdle ∧ initial.HeldElsewhere connectionId buildId ∧
        state.RowSays buildId fun row =>
          row.workerId = some connection.registeredWorkerId ∧ row.state.Assigned
  | .requeue buildId, state =>
    (state.Holds connectionId buildId ∧ initial.Holds connectionId buildId ∧
      ∃ reason, received = .buildRejected buildId reason ∧
        Text.containsLower reason "integrity" = false) ∨
      received.ReportsIdle ∧ state.RowSays buildId fun row =>
        row.workerId = some connection.registeredWorkerId ∧ row.state = .dispatched
  | .release _, _ => True
  | .revoke buildId, state =>
    received = .workerStatus .building (some buildId) ∧
      state.RowSays buildId fun row => row.state ≠ .dispatched ∧ row.state ≠ .started
  | .restand other, _ => other = connectionId ∧ ∃ reason, received = .workerStopping reason
  | .dispatch, _ => received.Dispatches initial connectionId
  | _, _ => False

section Messages

variable {performs : Deed → AppState → Prop} {state : AppState} {connectionId : ConnectionId}
  {buildId : BuildId}

/-- A lifecycle message is refused, or it is claimed and handled. -/
theorem chain_whenAuthorized {action : WorkerBuildAction} {handler : Handler Unit}
    (claim : state.Holds connectionId buildId → performs (.claim buildId) state)
    (handled : state.Holds connectionId buildId → ∀ claimed : AppState,
      Change (.claim buildId) state claimed → claimed.Holds connectionId buildId →
        Chain performs claimed (handler.run claimed).1) :
    Chain performs state ((whenAuthorized connectionId buildId action handler).run state).1 := by
  have refused : Makes performs (refuseLifecycleMessage connectionId buildId action) := by
    refine makes_bind (makes_sendTextToConnection _ (by trivial)) fun _ => ?_
    split_ifs
    · exact makes_sendTextToConnection _ (by trivial)
    · exact makes_done _
  simp only [whenAuthorized, authorizeLifecycleMessage, Routine.bind_eq, Routine.run_bind,
    Routine.run_step]
  cases owned : state.queue.activeBuildForConnection buildId connectionId with
  | none =>
    have unclaimed : claimReceipt connectionId buildId state = (state, false) := by
      simp only [claimReceipt, owned]
    simp only [unclaimed, Bool.false_eq_true, if_false, Routine.run_bind]
    exact refused state
  | some build =>
    obtain ⟨active, isConnection⟩ := Option.filter_eq_some_iff.mp owned
    have held : state.Holds connectionId buildId := ⟨build, active, by simpa using isConnection⟩
    have claimed : claimReceipt connectionId buildId state =
        ({ state with
            cancelled := insert build.ackCancel state.cancelled
            queue :=
              { state.queue with
                active := state.queue.active.modify buildId
                  (fun build => { build with receipt := .receivedByWorker }) fun _ => rfl } },
          true) := by
      simp only [claimReceipt, owned]
    simp only [claimed, if_true]
    refine (Chain.of_change (.claim active) (claim held)).trans (handled held _ (.claim active) ?_)
    refine ⟨{ build with receipt := .receivedByWorker }, ?_, by simpa using isConnection⟩
    simp [active]

theorem chain_handleBuildAccepted (claim : performs (.claim buildId) state) :
    Chain performs state ((handleBuildAccepted buildId).run state).1 := by
  simp only [handleBuildAccepted, Routine.run_step]
  cases active : state.queue.active.get buildId with
  | none => exact .refl _
  | some build => exact .of_change (.accept active) claim

theorem chain_writeBuildOutput (env : Env) (startSeq : Nat) (lines : List String)
    (write : performs (.write buildId) state) :
    Chain performs state ((writeBuildOutput env buildId startSeq lines).run state).1 := by
  unfold writeBuildOutput
  split_ifs
  · exact .refl _
  · refine (Chain.of_change (.write state buildId _) write).trans
      (.aside (.book _ _ _ (state.seqIndices.insert buildId _) fun other => ?_))
    refine (congrArg (Option.map _) (Dictionary.lookup_modify ..)).trans ?_
    split_ifs
    · rw [Option.map_map]
      rfl
    · rfl

theorem chain_handleBuildFinished (env : Env) {status : BuildState} (terminal : status.Terminal)
    (error buildReport : Option String) (finish : performs (.finish buildId) state)
    (dispatch : ∀ later, performs .dispatch later) :
    Chain performs state
      ((handleBuildFinished env buildId status error buildReport).run state).1 := by
  have finished := Change.finish state buildId env.now terminal error buildReport
  refine (Chain.of_change finished finish).trans ?_
  refine (Chain.aside (.book _ state.revokeTimers state.graceMonitors
    (state.seqIndices.erase buildId) fun _ => rfl)).trans ?_
  exact makes_redispatch dispatch _

theorem chain_handleBuildRejected (env : Env) (reason : String)
    (finish : performs (.finish buildId) state)
    (requeue : Text.containsLower reason "integrity" = false →
      performs (.requeue buildId) state)
    (release : performs (.release buildId) state)
    (dispatch : Text.containsLower reason "integrity" = false →
      ∀ later, performs .dispatch later) :
    Chain performs state ((handleBuildRejected env buildId reason).run state).1 := by
  unfold handleBuildRejected
  split_ifs with integrity
  · exact chain_endedState env .failure reason finish
  · have mild : Text.containsLower reason "integrity" = false := by simpa using integrity
    simp only [Routine.bind_eq, Routine.run_bind]
    refine (chain_rollbackActiveToQueued env (requeue mild) release).trans ?_
    exact makes_tryDispatch (dispatch mild) _

theorem chain_handleBuildingStatus {connection : Connection}
    (isOpen : state.connections.lookup connectionId = some connection)
    (attach : state.RowSays buildId (fun row => (row.state = .dispatched ∨ row.state = .started) ∧
      row.workerId = some connection.registeredWorkerId) → performs (.attach buildId) state)
    (revoke : state.RowSays buildId (fun row =>
      row.state ≠ .dispatched ∧ row.state ≠ .started) → performs (.revoke buildId) state) :
    Chain performs state ((handleBuildingStatus connectionId connection.registeredWorkerId
      buildId).run state).1 := by
  have refused : Makes performs (do
      sendUnauthorizedAction connectionId buildId .workerStatus .notAssigned
      sendReporterDirectedRevoke connectionId buildId) :=
    makes_bind (makes_sendTextToConnection _ (by trivial)) fun _ =>
      makes_sendTextToConnection _ (by trivial)
  simp only [handleBuildingStatus, Routine.bind_eq, Routine.run_bind, getBuild,
    Routine.run_step]
  cases found : state.builds.getBuild buildId with
  | none => exact makes_sendTextToConnection _ (by trivial) state
  | some row =>
    dsimp only
    split_ifs with unassigned
    · exact refused state
    · have assigned : row.state = .dispatched ∨ row.state = .started →
          row.workerId = some connection.registeredWorkerId := by
        intro claimable
        by_contra other
        exact unassigned ⟨claimable, other⟩
      have revoked : row.state ≠ .dispatched ∧ row.state ≠ .started →
          Chain performs state ((sendBuildRevoke buildId).run state).1 :=
        fun unclaimable =>
          chain_sendBuildRevoke fun _ _ => revoke ⟨row, found, unclaimable⟩
      cases isState : row.state with
      | dispatched =>
        have own := assigned (Or.inl isState)
        simp only [attachConnectionAndMarkReceived, Routine.run_step]
        cases active : state.queue.active.get buildId with
        | none => exact .refl _
        | some build =>
          exact .of_change (.attachReceived active isOpen found own)
            (attach ⟨row, found, Or.inl isState, own⟩)
      | started =>
        have own := assigned (Or.inr isState)
        exact .of_change (.attach isOpen found own) (attach ⟨row, found, Or.inr isState, own⟩)
      | _ =>
        simp only [Routine.run_bind]
        exact revoked (by rw [isState]; decide)

theorem heldElsewhere_of_mem_idleReconcileCandidates {env : Env}
    {candidate : IdleReconcileCandidate}
    (inside : candidate ∈ idleReconcileCandidates env connectionId state.queue) :
    state.HeldElsewhere connectionId candidate.buildId := by
  obtain ⟨build, isBuild, rfl⟩ := List.mem_map.mp inside
  obtain ⟨isValue, elsewhere⟩ := List.mem_filter.mp isBuild
  exact ⟨build, ActiveMap.mem_values.mp isValue, by simpa using elsewhere⟩

theorem chain_handleIdleStatus (env : Env) (registeredWorkerId : WorkerId)
    (finish : ∀ buildId later, state.HeldElsewhere connectionId buildId →
      AppState.RowSays later buildId (fun row =>
        row.workerId = some registeredWorkerId ∧ row.state.Assigned) →
          performs (.finish buildId) later)
    (requeue : ∀ buildId later, AppState.RowSays later buildId (fun row =>
      row.workerId = some registeredWorkerId ∧ row.state = .dispatched) →
        performs (.requeue buildId) later)
    (release : ∀ buildId later, performs (.release buildId) later)
    (dispatch : ∀ later, performs .dispatch later) :
    Chain performs state ((handleIdleStatus env connectionId registeredWorkerId).run state).1 := by
  have reconciled : Makes performs ((idleReconcileCandidates env connectionId state.queue).forM
      (idleReconcileOne env registeredWorkerId)) := by
    refine makes_forM fun candidate inside later => ?_
    have elsewhere := heldElsewhere_of_mem_idleReconcileCandidates inside
    refine chain_idleReconcileOne env registeredWorkerId candidate (finish _ later elsewhere) ?_
      (release _ later)
    rintro ⟨row, found, own, returned⟩
    exact requeue _ later ⟨row, found, own, dispatched_of_idleReconcileDecision returned⟩
  simp only [handleIdleStatus, Routine.bind_eq, Routine.run_bind, lock,
    Routine.run_stepFree]
  exact (reconciled state).trans (makes_tryDispatch dispatch _)

end Messages

theorem chain_handleWorkerMessage (env : Env) {connectionId : ConnectionId}
    {connection : Connection} (received : WorkerMessage) {state : AppState}
    (isOpen : state.connections.lookup connectionId = some connection) :
    Chain (MessagePerforms state connectionId connection received) state
      ((handleWorkerMessage env connectionId connection received).run state).1 := by
  cases received with
  | hello => exact .refl _
  | buildAccepted buildId =>
    exact chain_whenAuthorized id fun _ claimed _ holds => chain_handleBuildAccepted holds
  | buildStarted buildId =>
    exact chain_whenAuthorized id fun _ claimed _ holds =>
      .of_change (.start claimed buildId env.now) (by exact ⟨rfl, holds⟩)
  | buildOutput buildId startSeq lines =>
    exact chain_whenAuthorized id fun _ claimed _ holds =>
      chain_writeBuildOutput env startSeq lines holds
  | buildFinished buildId status error buildReport =>
    have ends : (WorkerMessage.buildFinished buildId status error buildReport).Ends buildId :=
      Or.inl ⟨_, _, _, rfl⟩
    exact chain_whenAuthorized id fun held claimed _ holds =>
      chain_handleBuildFinished env status.terminal_toState _ _ (Or.inl ⟨holds, ends⟩)
        fun _ => held
  | buildRejected buildId reason =>
    have ends : (WorkerMessage.buildRejected buildId reason).Ends buildId := Or.inr ⟨_, rfl⟩
    exact chain_whenAuthorized id fun held claimed _ holds =>
      chain_handleBuildRejected env reason (Or.inl ⟨holds, ends⟩)
        (fun mild => Or.inl ⟨holds, held, reason, rfl, mild⟩) trivial
        fun mild _ => ⟨held, mild⟩
  | workerStatus reportedState reported =>
    cases reportedState with
    | idle =>
      have idle : (WorkerMessage.workerStatus .idle reported).ReportsIdle := ⟨_, rfl⟩
      exact chain_handleIdleStatus env _
        (fun _ _ elsewhere stored => Or.inr ⟨idle, elsewhere, stored⟩)
        (fun _ _ stored => Or.inr ⟨idle, stored⟩) (fun _ _ => trivial) fun _ => trivial
    | building =>
      cases reported with
      | none => exact .refl _
      | some buildId =>
        refine chain_handleBuildingStatus isOpen (fun stored => ⟨rfl, ?_⟩)
          fun stored => ⟨rfl, stored⟩
        obtain ⟨row, found, -, own⟩ := stored
        exact ⟨row, found, own⟩
  | workerStopping reason =>
    refine .of_change (.restand ?_ rfl) ⟨rfl, reason, rfl⟩
    rintro registeredWorkerId ⟨⟩
    exact Or.inl ⟨connection, isOpen, rfl⟩
  | metrics => exact .refl _

/-- The worker of the connection is dead as soon as the connection is closed: it is stopping, or its
architecture is not known. -/
def AppState.DiesAtOnce (state : AppState) (connectionId : ConnectionId) : Prop :=
  (state.queue.getWorker connectionId).any (·.isStopping) = true ∨
    (state.queue.getWorker connectionId).bind (·.arch) = none

def Operation.Dispatches (initial : AppState) : Operation → Prop
  | dispatch => True
  | message connectionId _ received => received.Dispatches initial connectionId
  | connect .. => True
  | disconnect connectionId _ => initial.DiesAtOnce connectionId
  | graceExpired connectionId =>
    (initial.queue.getWorker connectionId).any (·.isDisconnected) = true
  | sweep _ => True
  | _ => False

def Operation.Performs (initial : AppState) : Operation → Deed → AppState → Prop
  | submit _, .submit, _ | dispatch, .dispatch, _ => True
  | message connectionId connection received, deed, state =>
    MessagePerforms initial connectionId connection received deed state
  | ackTimeout timer, .expire fired, _ => fired = timer
  | ackTimeout timer, .requeue buildId, _ | ackTimeout timer, .release buildId, _ =>
    buildId = timer.buildId
  | revoke _ buildId, .revoke other, _ | revoke _ buildId, .withdraw other, _ => other = buildId
  | revokeTimeout buildId, .finish other, state =>
    other = buildId ∧ state.RowSays buildId (·.state = .revoking)
  | connect connectionId _ _, .register other, _ | connect connectionId _ _, .welcome other, _
  | connect connectionId _ _, .restand other, _ => other = connectionId
  | connect .., .finish buildId, state => state.RowSays buildId (·.state.Assigned)
  | connect .., .requeue buildId, state => state.RowSays buildId (·.state = .dispatched)
  | connect .., .release _, _ | connect .., .dispatch, _ => True
  | disconnect connectionId _, .close other, _ => other = connectionId
  | disconnect connectionId _, .finish buildId, state =>
    initial.Holds connectionId buildId ∧ state.RowSays buildId (·.state.Assigned)
  | disconnect connectionId _, .requeue buildId, state =>
    initial.Holds connectionId buildId ∧ state.RowSays buildId (·.state = .dispatched)
  | disconnect .., .release _, _ => True
  | disconnect connectionId _, .dispatch, _ => initial.DiesAtOnce connectionId
  | graceExpired connectionId, .restand other, _ => other = connectionId
  | graceExpired connectionId, .finish buildId, state =>
    initial.Holds connectionId buildId ∧ state.RowSays buildId (·.state.Assigned)
  | graceExpired connectionId, .requeue buildId, state =>
    initial.Holds connectionId buildId ∧ state.RowSays buildId (·.state = .dispatched)
  | graceExpired _, .release _, _ => True
  | graceExpired connectionId, .dispatch, _ =>
    (initial.queue.getWorker connectionId).any (·.isDisconnected) = true
  | sweep _, .dispatch, _ => True
  | _, _, _ => False

section Operations

variable {performs : Deed → AppState → Prop} {connectionId : ConnectionId}

/-- Cleaning up after a connection, given how its worker gets another state. -/
theorem chain_cleanupWorker (env : Env) {connection : Connection}
    (isStopping : Bool) {start closed : AppState}
    (down : ∀ worker : WorkerState, worker.isDispatchEligible = false →
      (∀ registeredWorkerId, worker.registeredWorkerId = some registeredWorkerId →
        connection.registeredWorkerId = registeredWorkerId) →
      Chain performs start
        { closed with queue := closed.queue.setWorkerState connectionId worker })
    (isClosed : connectionId ∉ closed.connections)
    (resolves : Resolves performs (closed.Holds connectionId))
    (dispatch : isStopping = true ∨ (closed.queue.getWorker connectionId).bind (·.arch) = none →
      ∀ later, performs .dispatch later) :
    Chain performs start
      ((cleanupWorker env connectionId connection isStopping).run closed).1 := by
  have unplugged : ∀ worker : WorkerState, worker.isDispatchEligible = false →
      (∀ registeredWorkerId, worker.registeredWorkerId = some registeredWorkerId →
        connection.registeredWorkerId = registeredWorkerId) →
      Chain performs start
        { closed with
          workerSenders := closed.workerSenders.erase connectionId
          queue := closed.queue.setWorkerState connectionId worker } :=
    fun worker isDown known => (down worker isDown known).trans
      (.aside (.unplug _ (Or.inl isClosed)))
  have dead := unplugged .dead rfl (by simp [WorkerState.registeredWorkerId])
  have given := fun dies => dead.trans
    (chain_handleWorkerDead env resolves (dispatch dies))
  simp only [cleanupWorker, Routine.bind_eq, Routine.run_bind, Routine.run_stepFree]
  cases isStopping with
  | true => exact given (Or.inl rfl)
  | false =>
    simp only [Bool.false_eq_true, if_false, lock, Routine.run_bind,
      Routine.run_stepFree]
    cases isArch : (closed.queue.getWorker connectionId).bind (·.arch) with
    | none => exact given (Or.inr isArch)
    | some arch =>
      refine (unplugged _ rfl ?_).trans
        (.aside (.book _ _ (closed.graceMonitors ++ [connectionId]) _ fun _ => rfl))
      simp [WorkerState.registeredWorkerId]

variable {state : AppState}

theorem chain_gracePeriodExpired (env : Env) (restand : performs (.restand connectionId) state)
    (resolves : Resolves performs (state.Holds connectionId))
    (dispatch : (state.queue.getWorker connectionId).any (·.isDisconnected) = true →
      ∀ later, performs .dispatch later) :
    Chain performs state ((gracePeriodExpired env connectionId).run state).1 := by
  have dead : Chain performs state
      { state with queue := state.queue.setWorkerState connectionId .dead } :=
    .of_change (.restand (by simp [WorkerState.registeredWorkerId]) rfl) restand
  have rest : ∀ stillDisconnected : Bool,
      (stillDisconnected = true → ∀ later, performs .dispatch later) → Chain performs state
      ((if stillDisconnected then do
          lock fun queue => (queue.setWorkerState connectionId .dead, ())
          handleWorkerDead env connectionId
        else pure () : Handler Unit).run state).1 := by
    intro stillDisconnected dispatch
    cases stillDisconnected with
    | false => exact .refl _
    | true =>
      exact dead.trans (chain_handleWorkerDead env resolves (dispatch rfl))
  rw [gracePeriodExpired, Routine.bind_eq, Routine.run_bind]
  exact rest _ dispatch

def MayRevoke (user : AuthUser) (row : BuildRow) : Prop :=
  user.hasCap "builds:revoke:any" = true ∨
    user.hasCap "builds:revoke:own" = true ∧ row.userEmail = user.email

theorem chain_revokeBuild (user : AuthUser) {buildId : BuildId}
    (revoke : performs (.revoke buildId) state)
    (withdraw : ∀ row, state.builds.getBuild buildId = some row → row.state = .queued →
      MayRevoke user row → performs (.withdraw buildId) state) :
    Chain performs state ((revokeBuild user buildId).run state).1 := by
  have assigned : Chain performs state ((revokeAssigned buildId).run state).1 := by
    simp only [revokeAssigned, Routine.bind_eq, Routine.run_bind]
    have revoked : Chain performs state ((sendBuildRevoke buildId).run state).1 :=
      chain_sendBuildRevoke fun _ _ => revoke
    split <;> exact revoked
  unfold revokeBuild
  split_ifs with refused
  · exact .refl _
  · simp only [Routine.bind_eq, Routine.run_bind, getBuild, Routine.run_step]
    cases found : state.builds.getBuild buildId with
    | none => exact .refl _
    | some row =>
      dsimp only
      split_ifs with foreign
      · exact .refl _
      · have permitted : MayRevoke user row := by
          unfold MayRevoke
          grind
        cases isState : row.state with
        | queued =>
          exact .of_change (.withdraw found isState) (withdraw row found isState permitted)
        | dispatched | started => exact assigned
        | _ => exact .refl _

theorem chain_retireSuperseded (env : Env)
    (superseded : Option (ConnectionId × Bool × List BuildId))
    (retired : ∀ entry, superseded = some entry → entry.1 ∉ state.queue.workers)
    (resolves : ∀ held, Resolves performs held) (dispatch : ∀ later, performs .dispatch later) :
    Chain performs state ((retireSuperseded env superseded).run state).1 := by
  rcases superseded with _ | ⟨oldConnectionId, wasConnected, migratedBuilds⟩
  · exact .refl _
  · have told : Chain performs state
        ((revokeAndRemoveSuperseded oldConnectionId migratedBuilds).run state).1 := by
      have frames : (migratedBuilds.map fun buildId =>
          Frame.text (.buildRevoke buildId (some .migrationSupersede))) =
          (migratedBuilds.map fun buildId =>
            ServerMessage.buildRevoke buildId (some .migrationSupersede)).map .text := by
        simp
      simp only [revokeAndRemoveSuperseded, Routine.run_stepFree, frames]
      refine (Chain.aside (.tell state oldConnectionId _ ?_)).trans
        (.aside (.unplug _ (Or.inr (retired _ rfl))))
      simp [ServerMessage.DispatchesNothing]
    simp only [retireSuperseded, Routine.bind_eq, Routine.run_bind]
    refine told.trans ?_
    cases wasConnected with
    | false => exact .refl _
    | true =>
      exact chain_handleWorkerDead env (resolves _) dispatch

/-- The state of a worker that has just been registered. -/
def Hello.connected (hello : Hello) : WorkerState :=
  .connected hello.connection.registeredWorkerId hello.connection.workerName hello.arch
    hello.coresTotal hello.ramTotalMb hello.version

theorem lookup_registeredState (env : Env) (connectionId : ConnectionId) (hello : Hello)
    (state : AppState) :
    (registeredState env connectionId hello state).queue.workers.lookup connectionId =
      some hello.connected := by
  simp only [registeredState, migrateAndRegister]
  split <;> simp [BuildQueue.registerWorker, Hello.connected]

variable {hello : Hello}

theorem superseded_registeredState {env : Env} {entry : ConnectionId × Bool × List BuildId}
    (superseded : (migrateAndRegister env connectionId hello state.queue).2 = some entry) :
    entry.1 ∉ (registeredState env connectionId hello state).queue.workers := by
  simp only [registeredState]
  unfold migrateAndRegister at superseded ⊢
  split at superseded
  · cases superseded
  · rename_i older worker found
    cases superseded
    have isMatch := List.find?_some found
    simp only [Bool.and_eq_true, decide_eq_true_eq] at isMatch
    rw [← AList.lookup_eq_none]
    simp only [BuildQueue.registerWorker, migrate, Dictionary.lookup_insert_eq,
      Dictionary.lookup_erase_eq, isMatch.2, if_false, if_true]

theorem sessions_of_chain {first second : AppState}
    (chain : Chain (fun deed later => ¬ deed.IsSessional ∧ performs deed later) first second) :
    second.queue.workers = first.queue.workers ∧ second.connections = first.connections := by
  have kept : ∀ {deed before after}, before.queue.workers = first.queue.workers ∧
      before.connections = first.connections →
      (deed = .aside ∨ ¬ deed.IsSessional ∧ performs deed before) → Change deed before after →
      after.queue.workers = first.queue.workers ∧ after.connections = first.connections := by
    intro deed before after same permitted change
    have unsessional : ¬ deed.IsSessional := by
      rcases permitted with rfl | ⟨unsessional, -⟩
      · exact id
      · exact unsessional
    obtain ⟨workers, connections, -⟩ := change.sessions_eq unsessional
    exact ⟨workers.trans same.1, connections.trans same.2⟩
  exact chain.invariant ⟨rfl, rfl⟩ kept

theorem chain_enterOrCleanUp (env : Env) (welcomed : Bool) {initial : AppState}
    (registered : state.queue.workers.lookup connectionId = some hello.connected)
    (plugged : connectionId ∈ state.workerSenders) (isClosed : connectionId ∉ state.connections) :
    Chain ((Operation.connect connectionId hello welcomed).Performs initial) state
      ((enterOrCleanUp env connectionId hello welcomed).run state).1 := by
  cases welcomed with
  | true =>
    have entered : Change (.welcome connectionId) state { state with
        connections := state.connections.insert connectionId hello.connection } :=
      .welcome registered rfl plugged
    exact .of_change entered rfl
  | false =>
    refine chain_cleanupWorker env false (fun worker down known => ?_) isClosed
      ⟨fun _ _ _ stored => stored, fun _ _ _ stored => stored, fun _ _ => trivial⟩
      fun _ _ => trivial
    have restood : Change (.restand connectionId) state
        { state with queue := state.queue.setWorkerState connectionId worker } := by
      refine .restand (fun registeredWorkerId isWorker => Or.inr ⟨_, registered, ?_⟩) down
      rw [← known registeredWorkerId isWorker]
      rfl
    exact .of_change restood rfl

/-- The state after the connection that a hello supersedes was retired. -/
abbrev retiredState (env : Env) (connectionId : ConnectionId) (hello : Hello) (state : AppState) :
    AppState :=
  ((retireSuperseded env (migrateAndRegister env connectionId hello state.queue).2).run
    (registeredState env connectionId hello state)).1

theorem sessions_retireSuperseded (env : Env) (connectionId : ConnectionId) (hello : Hello)
    (state : AppState) :
    (retiredState env connectionId hello state).queue.workers =
        (registeredState env connectionId hello state).queue.workers ∧
      (retiredState env connectionId hello state).connections =
        (registeredState env connectionId hello state).connections := by
  have retired : Chain (fun deed _ => ¬ deed.IsSessional ∧ True)
      (registeredState env connectionId hello state)
      (retiredState env connectionId hello state) :=
    chain_retireSuperseded env _ (fun _ => superseded_registeredState)
      (fun _ => ⟨fun _ _ _ _ => ⟨id, trivial⟩, fun _ _ _ _ => ⟨id, trivial⟩,
        fun _ _ => ⟨id, trivial⟩⟩) fun _ => ⟨id, trivial⟩
  exact sessions_of_chain retired

theorem chain_acceptConnection (env : Env) (hello : Hello)
    (welcomed : Bool) (fresh : connectionId ∉ state.issued)
    (issued : ∀ other ∈ state.connections, other ∈ state.issued) :
    Chain ((Operation.connect connectionId hello welcomed).Performs state) state
      ((acceptConnection env connectionId hello welcomed).run state).1 := by
  have registered : Change (.register connectionId) state
      (registeredState env connectionId hello state) := .register env hello fresh
  have performed : Chain ((Operation.connect connectionId hello welcomed).Performs state) state
      (registeredState env connectionId hello state) := .of_change registered rfl
  have retired : Chain ((Operation.connect connectionId hello welcomed).Performs state)
      (registeredState env connectionId hello state)
      (retiredState env connectionId hello state) :=
    chain_retireSuperseded env _ (fun _ => superseded_registeredState)
      (fun _ => ⟨fun _ _ _ stored => stored, fun _ _ _ stored => stored, fun _ _ => trivial⟩)
      fun _ => trivial
  obtain ⟨workers, connections⟩ := sessions_retireSuperseded env connectionId hello state
  have present := lookup_registeredState env connectionId hello state
  rw [← workers] at present
  have isClosed : connectionId ∉ (registeredState env connectionId hello state).connections :=
    fun isOpen => fresh (issued connectionId isOpen)
  rw [← connections] at isClosed
  refine performed.trans (retired.trans ?_)
  simp only [acceptConnection, Routine.bind_eq, Routine.run_bind, lock,
    Routine.run_stepFree]
  exact (Chain.aside (.plug _ connectionId)).trans
    (chain_enterOrCleanUp env welcomed present ((AList.mem_insert _).mpr (Or.inl rfl)) isClosed)

/-- Every complete operation is a chain of changes that it may perform. -/
theorem chain_exec (env : Env) {operation : Operation} (enabled : operation.Enabled state)
    (issued : ∀ connectionId ∈ state.connections, connectionId ∈ state.issued) :
    Chain (operation.Performs state) state (operation.exec env state) := by
  cases operation with
  | submit submission =>
    exact .of_change (.submit env submission state) trivial
  | dispatch => exact makes_redispatch (fun _ => trivial) state
  | message connectionId connection received =>
    exact chain_handleWorkerMessage env received enabled.1
  | ackTimeout timer =>
    have expired : Chain ((Operation.ackTimeout timer).Performs state) state
        { state with ackTimers := state.ackTimers.erase timer } :=
      .of_change (.expire state timer) rfl
    simp only [Operation.exec, Operation.routine, Routine.bind_eq, Routine.run_bind,
      Routine.run_stepFree]
    exact expired.trans (chain_rollbackActiveToQueued env (by exact rfl) (by exact rfl))
  | revoke user buildId =>
    simp only [Operation.exec, Operation.routine, Routine.bind_eq, Routine.run_bind]
    exact chain_revokeBuild user (by exact rfl) fun _ _ _ _ => by exact rfl
  | revokeTimeout buildId =>
    have fired : Chain ((Operation.revokeTimeout buildId).Performs state) state
        { state with revokeTimers := state.revokeTimers.erase buildId } :=
      .aside (.book state _ _ _ fun _ => rfl)
    exact fired.trans (chain_handleRevokeTimeout env fun stored => ⟨rfl, stored⟩)
  | connect connectionId hello welcomed =>
    exact chain_acceptConnection env hello welcomed enabled issued
  | disconnect connectionId connection =>
    refine chain_cleanupWorker env _ (fun worker isDown known => ?_) ?_
      ⟨fun _ _ held stored => ⟨held, stored⟩, fun _ _ held stored => ⟨held, stored⟩,
        fun _ _ => trivial⟩ fun dies _ => dies
    · exact .of_change (.close enabled known isDown) rfl
    · simp [AList.mem_erase]
  | graceExpired connectionId =>
    have fired : Chain ((Operation.graceExpired connectionId).Performs state) state
        { state with graceMonitors := state.graceMonitors.erase connectionId } :=
      .aside (.book state _ _ _ fun _ => rfl)
    exact fired.trans (chain_gracePeriodExpired env (by exact rfl)
      ⟨fun _ _ held stored => ⟨held, stored⟩, fun _ _ held stored => ⟨held, stored⟩,
        fun _ _ => trivial⟩ fun still _ => still)
  | sweep attempts =>
    have swept : Makes ((Operation.sweep attempts).Performs state)
        (periodicSweep (env :: attempts)) := by
      refine makes_bind (makes_read _) fun shouldDispatch => ?_
      cases shouldDispatch with
      | true =>
        exact makes_bind (makes_dispatchUntilError (fun _ => trivial) _) fun _ => makes_done ()
      | false => exact makes_done _
    exact swept state

end Operations

end Cbs

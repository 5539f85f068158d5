import Cbs.Library.Transition
import Cbs.Server.Reattachment

/-!
# Draining

A server that is decommissioned revokes its running builds, waits, and fails those that still run.
All handlers go on while it waits: a build that is returned to its lane is not ended, and one that
waits may be dispatched.
-/

namespace Cbs

open Concurrency Transition BuildsTable

/-- Record that a running build is being revoked, and tell its worker. -/
def revokeRunning (state : AppState) (build : ActiveBuild) : AppState :=
  ({ state with builds := state.builds.setBuildRevoking build.buildId }).deliver build.connectionId
    [.text (.buildRevoke build.buildId (some .admin))]

def revokeAllRunning (env : Env) (state : AppState) : AppState :=
  (state.queue.active.values env.buildRank).foldl revokeRunning state

/-- Fail a build that did not finish in time, and mark its log as complete. -/
def failStraggler (env : Env) (state : AppState) (build : ActiveBuild) : AppState :=
  { state with
    builds := state.builds.setBuildFinished env.now build.buildId .failure
      (some "server decommissioned") none
    buildLogs := state.buildLogs.setBuildLogFinished env.now build.buildId }

def failStragglers (env : Env) (state : AppState) : AppState :=
  (state.queue.active.values env.buildRank).foldl (failStraggler env) state

/-- The server has stopped to listen, but connections, timers and the sweep go on. -/
def Operation.DuringDrain : Operation → Prop
  | message .. | disconnect .. | graceExpired _ | ackTimeout _ | revokeTimeout _ | sweep _ => True
  | _ => False

instance : (operation : Operation) → Decidable operation.DuringDrain
  | .submit _ | .dispatch | .revoke .. | .connect .. => isFalse id
  | .message .. | .ackTimeout _ | .revokeTimeout _ | .disconnect .. | .graceExpired _
  | .sweep _ => isTrue trivial

def drainStep (state : AppState) (event : Env × Operation) : Option AppState :=
  if event.2.DuringDrain ∧ event.2.Enabled state then some (event.2.exec event.1 state) else none

/-- Revoke the running builds, handle the events of the wait, and fail what is still running; there
is nothing to wait for if nothing runs. -/
def runDrainShutdown (start finish : Env) (events : List (Env × Operation)) (state : AppState) :
    Option AppState :=
  if (state.queue.active.values start.buildRank).isEmpty then some state
  else (run drainStep (revokeAllRunning start state) events).map (failStragglers finish)

def Operation.Returns (state : AppState) : Operation → Prop
  | ackTimeout timer => ∃ build, state.queue.active.get timer.buildId = some build
  | message connectionId _ (.buildRejected buildId reason) =>
    state.Holds connectionId buildId ∧ Text.containsLower reason "integrity" = false
  | _ => False

/-- The builds that the event takes from the connections that hold them. -/
def Operation.Frees (state : AppState) : Operation → BuildId → Prop
  | message connectionId connection received, buildId =>
    received.Ends buildId ∨
      received.ReportsIdle ∧ state.HeldElsewhere connectionId buildId ∧
        state.RowSays buildId fun row => row.workerId = some connection.registeredWorkerId
  | disconnect connectionId _, buildId | graceExpired connectionId, buildId =>
    state.Holds connectionId buildId
  | _, _ => False

/-- Every connected worker for the first waiting build has a build that the event, which began in
the initial state, does not take from it. -/
def AppState.Occupied (initial : AppState) (operation : Operation) (state : AppState) : Prop :=
  ∀ first rest, state.queue.nextPending = some (first, rest) →
    ∀ connectionId worker, state.queue.workers.lookup connectionId = some worker →
      worker.isDispatchEligible = true → worker.arch = some first.descriptor.build.arch →
      ∃ buildId, state.Holds connectionId buildId ∧ ¬ operation.Frees initial buildId

/-- The event returns no running build to its lane, and if it makes the server attempt a dispatch,
there is no worker for the first waiting build. -/
def DrainsSafely (state : AppState) (event : Env × Operation) : Prop :=
  ¬ event.2.Returns state ∧ (event.2.Dispatches state → state.Occupied event.2 state)

def AppState.dispatchesOn (state : AppState) (connectionId : ConnectionId) (buildId : BuildId) :
    Nat :=
  ((state.workerSenders.lookup connectionId).getD []).countP fun
    | .text (.buildNew dispatched _ _ _ _) => dispatched = buildId
    | _ => false

/-- What runs was running at the start and was revoked, what was running and does not run any more
has ended, and what waited still waits and was not sent. -/
structure Draining (start state : AppState) : Prop where
  attributed : Attributed state
  assigned : ∀ {buildId}, state.RowSays buildId (·.state.Assigned) →
    ∃ build, state.queue.active.get buildId = some build
  revoked : ∀ {buildId build}, state.queue.active.get buildId = some build →
    state.RowSays buildId fun row => row.state = .revoking ∨ row.state = .started
  ended : ∀ {buildId old}, start.queue.active.get buildId = some old →
    state.queue.active.get buildId = none → state.RowSays buildId (·.state.Terminal)
  spared : ∀ {buildId row}, start.builds.getBuild buildId = some row → row.state = .queued →
    state.builds.getBuild buildId = some row
  unsent : ∀ connectionId buildId,
    state.dispatchesOn connectionId buildId ≤ start.dispatchesOn connectionId buildId

section Draining

variable {start before after : AppState} {buildId other : BuildId} {build : ActiveBuild}

theorem Draining.ne_of_running (draining : Draining start before)
    (active : before.queue.active.get buildId = some build) {row : BuildRow}
    (found : start.builds.getBuild other = some row) (queued : row.state = .queued) :
    other ≠ buildId := by
  rintro rfl
  obtain ⟨stored, isStored, isState⟩ := draining.revoked active
  cases (draining.spared found queued).symm.trans isStored
  rcases isState with isState | isState <;> exact absurd (queued.symm.trans isState) (by decide)

/-- Nothing changes for a build, or it runs and goes on, or it runs and ends. -/
inductive Course (before after : AppState) (buildId : BuildId) : Prop
  | kept (row : after.builds.getBuild buildId = before.builds.getBuild buildId)
      (active : (after.queue.active.get buildId).map (·.connectionId) =
        (before.queue.active.get buildId).map (·.connectionId))
  | marked {build : ActiveBuild} (running : before.queue.active.get buildId = some build)
      {later : ActiveBuild} (active : after.queue.active.get buildId = some later)
      (row : after.RowSays buildId fun row => row.state = .revoking ∨ row.state = .started)
  | ended {build : ActiveBuild} (running : before.queue.active.get buildId = some build)
      (vacant : after.queue.active.get buildId = none)
      (row : after.RowSays buildId (·.state.Terminal))

theorem Course.running (course : Course before after buildId)
    (active : after.queue.active.get buildId = some build) :
    ∃ old, before.queue.active.get buildId = some old := by
  cases course with
  | kept _ same =>
    rw [active, Option.map_some] at same
    obtain ⟨old, wasActive, -⟩ := Option.map_eq_some_iff.mp same.symm
    exact ⟨old, wasActive⟩
  | marked running | ended running => exact ⟨_, running⟩

theorem Draining.step (draining : Draining start before) (attributed : Attributed after)
    (unsent : ∀ connectionId other,
      after.dispatchesOn connectionId other ≤ before.dispatchesOn connectionId other)
    (course : ∀ other, Course before after other) : Draining start after := by
  refine ⟨attributed, ?_, ?_, ?_, ?_, fun connectionId other =>
    (unsent connectionId other).trans (draining.unsent connectionId other)⟩
  · rintro other ⟨row, found, assigned⟩
    cases course other with
    | kept same active =>
      obtain ⟨old, wasActive⟩ := draining.assigned ⟨row, same.symm.trans found, assigned⟩
      rw [wasActive, Option.map_some] at active
      obtain ⟨later, isActive, -⟩ := Option.map_eq_some_iff.mp active
      exact ⟨later, isActive⟩
    | marked _ active => exact ⟨_, active⟩
    | ended _ _ isRow =>
      obtain ⟨stored, isStored, terminal⟩ := isRow
      cases found.symm.trans isStored
      exact absurd terminal (BuildState.not_terminal_of_assigned assigned)
  · intro other build active
    obtain ⟨old, wasActive⟩ := (course other).running active
    cases course other with
    | kept same =>
      rw [AppState.RowSays, same]
      exact draining.revoked wasActive
    | marked _ _ row => exact row
    | ended _ vacant => exact absurd (active.symm.trans vacant) (by simp)
  · intro other old running vacant
    cases course other with
    | kept same active =>
      rw [vacant, Option.map_none, eq_comm, Option.map_eq_none_iff] at active
      rw [AppState.RowSays, same]
      exact draining.ended running active
    | marked _ active => exact absurd (active.symm.trans vacant) (by simp)
    | ended _ _ row => exact row
  · intro other row found queued
    cases course other with
    | kept same => exact same.trans (draining.spared found queued)
    | marked running | ended running =>
      exact absurd rfl (draining.ne_of_running running found queued)

end Draining

section Wait

variable {start initial state after : AppState} {operation : Operation} {buildId : BuildId}

/-- What holds along the changes that an event makes. -/
structure Waiting (start initial : AppState) (operation : Operation) (state : AppState) : Prop where
  draining : Draining start state
  shrunk : ∀ {buildId build}, state.queue.active.get buildId = some build →
    ∃ old, initial.queue.active.get buildId = some old
  /-- If the event makes the server attempt a dispatch, running builds have the rows that they
  had. -/
  rows : operation.Dispatches initial → ∀ {buildId build},
    state.queue.active.get buildId = some build →
    state.builds.getBuild buildId = initial.builds.getBuild buildId
  occupied : operation.Dispatches initial → initial.Occupied operation state

theorem Waiting.not_requeue (waiting : Waiting start initial operation state)
    (during : operation.DuringDrain) (safe : ¬ operation.Returns initial) {build : ActiveBuild}
    (active : state.queue.active.get buildId = some build)
    (permitted : operation.Performs initial (.requeue buildId) state) : False := by
  have undispatched : ∀ {holds : BuildRow → Prop},
      (∀ row, holds row → row.state = .dispatched) → ¬ state.RowSays buildId holds := by
    rintro holds isDispatched ⟨row, found, isSo⟩
    obtain ⟨stored, isStored, isState⟩ := waiting.draining.revoked active
    cases found.symm.trans isStored
    rcases isState with isState | isState <;>
      exact absurd ((isDispatched _ isSo).symm.trans isState) (by decide)
  cases operation with
  | message connectionId connection received =>
    rcases permitted with ⟨-, held, reason, rfl, mild⟩ | ⟨-, stored⟩
    · exact safe ⟨held, mild⟩
    · exact undispatched (fun _ isSo => isSo.2) stored
  | ackTimeout timer =>
    cases permitted
    exact safe (waiting.shrunk active)
  | disconnect connectionId connection | graceExpired connectionId =>
    exact undispatched (fun _ isSo => isSo) permitted.2
  | connect => exact during
  | _ => exact permitted

theorem Draining.running_of_finish (draining : Draining start state)
    (during : operation.DuringDrain)
    (permitted : operation.Performs initial (.finish buildId) state) :
    ∃ build, state.queue.active.get buildId = some build := by
  cases operation with
  | message connectionId connection received =>
    rcases permitted with ⟨⟨build, active, -⟩, -⟩ | ⟨-, -, row, found, -, assigned⟩
    · exact ⟨build, active⟩
    · exact draining.assigned ⟨row, found, assigned⟩
  | revokeTimeout other =>
    obtain ⟨rfl, row, found, revoking⟩ := permitted
    exact draining.assigned ⟨row, found, Or.inr (Or.inr revoking)⟩
  | disconnect connectionId connection | graceExpired connectionId =>
    exact draining.assigned permitted.2
  | connect => exact during.elim
  | _ => exact permitted.elim

/-- An event that makes the server attempt a dispatch ends only builds that it frees. -/
theorem frees_of_finish (during : operation.DuringDrain) (dispatches : operation.Dispatches initial)
    (same : state.builds.getBuild buildId = initial.builds.getBuild buildId)
    (permitted : operation.Performs initial (.finish buildId) state) :
    operation.Frees initial buildId := by
  cases operation with
  | message connectionId connection received =>
    rcases permitted with ⟨-, ends⟩ | ⟨idle, elsewhere, row, found, own, -⟩
    · exact Or.inl ends
    · exact Or.inr ⟨idle, elsewhere, row, same ▸ found, own⟩
  | revokeTimeout other => exact dispatches.elim
  | disconnect connectionId connection | graceExpired connectionId => exact permitted.1
  | connect => exact during.elim
  | _ => exact permitted.elim

/-- If every worker for the first waiting build is occupied, a dispatch attempt does nothing. -/
theorem DispatchOutcome.eq_of_occupied {env : Env} {result : Except DispatchError Unit}
    (outcome : DispatchOutcome env state after result)
    (occupied : initial.Occupied operation state) : after = state := by
  have unchosen : ∀ {build rest connectionId worker},
      state.queue.nextPending = some (build, rest) →
      rest.findIdleWorker env.workerRank build.descriptor.build.arch ≠
        some ⟨connectionId, worker⟩ := by
    intro build rest connectionId worker popped chosen
    have isMatch := List.find?_some chosen
    simp only [Bool.and_eq_true, decide_eq_true_eq, Bool.not_eq_true'] at isMatch
    obtain ⟨⟨eligible, isArch⟩, isFree⟩ := isMatch
    have registered := Dictionary.mem_traverse.mp (List.mem_of_find?_eq_some chosen)
    rw [BuildQueue.workers_of_nextPending popped] at registered
    obtain ⟨buildId, ⟨held, active, isConnection⟩, -⟩ :=
      occupied build rest popped connectionId worker registered eligible isArch
    rw [BuildQueue.active_of_nextPending popped, Bool.eq_false_iff] at isFree
    exact isFree (ActiveMap.anyOf_iff.mpr ⟨buildId, held, active, isConnection⟩)
  cases outcome with
  | nothing => rfl
  | statementFailed popped chosen | packFailed popped chosen | sendFailed packed popped chosen
  | sent packed popped chosen => exact absurd chosen (unchosen popped)

/-- The lanes are the same, no dispatch is put on a channel and no worker becomes eligible. -/
structure Calm (before after : AppState) : Prop where
  lanes : after.queue.high = before.queue.high ∧ after.queue.normal = before.queue.normal ∧
    after.queue.low = before.queue.low
  unsent : ∀ connectionId other,
    after.dispatchesOn connectionId other ≤ before.dispatchesOn connectionId other
  workers : ∀ connectionId worker, after.queue.workers.lookup connectionId = some worker →
    worker.isDispatchEligible = true → before.queue.workers.lookup connectionId = some worker

/-- What concerns neither lanes nor workers nor channels is calm. -/
theorem Calm.of_active {active : ActiveMap}
    (queue : after.queue = { state.queue with active := active })
    (channels : after.workerSenders = state.workerSenders) : Calm state after where
  lanes := by simp [queue]
  unsent := by simp [AppState.dispatchesOn, channels]
  workers := fun _ _ registered _ => by rwa [queue] at registered

theorem BuildQueue.nextPending_of_lanes {queue other rest : BuildQueue} {first : QueuedBuild}
    (lanes : queue.high = other.high ∧ queue.normal = other.normal ∧ queue.low = other.low)
    (popped : queue.nextPending = some (first, rest)) :
    ∃ rest, other.nextPending = some (first, rest) := by
  obtain ⟨high, normal, low⟩ := lanes
  unfold nextPending at popped ⊢
  rw [high, normal, low] at popped
  repeat' split at popped
  all_goals cases popped
  all_goals exact ⟨_, rfl⟩

theorem dispatchesOn_deliver (state : AppState) (connectionId other : ConnectionId)
    (buildId : BuildId) {messages : List ServerMessage}
    (harmless : ∀ message ∈ messages, message.DispatchesNothing) :
    (state.deliver connectionId (messages.map .text)).dispatchesOn other buildId =
      state.dispatchesOn other buildId := by
  have none : (messages.map Frame.text).countP (fun
      | .text (.buildNew dispatched _ _ _ _) => dispatched = buildId
      | _ => false) = 0 := by
    rw [List.countP_eq_zero]
    intro frame inside
    obtain ⟨message, isMessage, rfl⟩ := List.mem_map.mp inside
    have nothing := harmless message isMessage
    cases message with
    | buildNew => exact nothing.elim
    | buildRevoke | unauthorizedBuildAction => simp
  simp only [AppState.dispatchesOn, lookup_deliver]
  cases state.workerSenders.lookup other with
  | none => rfl
  | some sent =>
    simp only [Option.map_some, Option.getD_some, List.countP_append]
    split_ifs
    · rw [none, Nat.add_zero]
    · rfl

/-- Only events that attempt no dispatch start a build, move it to another connection or revoke
it. -/
theorem not_dispatches_of_performs (during : operation.DuringDrain)
    (permitted : operation.Performs initial (.start buildId) state ∨
      operation.Performs initial (.attach buildId) state ∨
      operation.Performs initial (.revoke buildId) state) : ¬ operation.Dispatches initial := by
  cases operation with
  | message connectionId connection received =>
    rcases permitted with ⟨rfl, -⟩ | ⟨rfl, -⟩ | ⟨rfl, -⟩ <;> exact id
  | revoke => exact during.elim
  | submit | ackTimeout | revokeTimeout => exact id
  | _ => exact (permitted.elim id fun rest => rest.elim id id).elim

section

variable (waiting : Waiting start initial operation state) (attributed : Attributed after)
include waiting attributed

/-- A change that makes no worker eligible, and if the event makes the server attempt a dispatch,
changes only builds that it frees. -/
theorem Waiting.step (calm : Calm state after) (course : ∀ other, Course state after other)
    (frees : operation.Dispatches initial → ∀ other,
      (after.builds.getBuild other = state.builds.getBuild other ∧
        (after.queue.active.get other).map (·.connectionId) =
          (state.queue.active.get other).map (·.connectionId)) ∨
      operation.Frees initial other ∧ after.queue.active.get other = none) :
    Waiting start initial operation after := by
  refine ⟨waiting.draining.step attributed calm.unsent course, ?_, ?_, ?_⟩
  · intro other build active
    exact waiting.shrunk ((course other).running active).choose_spec
  · intro dispatches other build active
    rcases frees dispatches other with ⟨same, -⟩ | ⟨-, vacant⟩
    · rw [same]
      exact waiting.rows dispatches ((course other).running active).choose_spec
    · exact absurd (active.symm.trans vacant) (by simp)
  · intro dispatches first rest popped connectionId worker registered eligible isArch
    obtain ⟨left, wasPopped⟩ := BuildQueue.nextPending_of_lanes calm.lanes popped
    obtain ⟨buildId, ⟨build, active, isConnection⟩, unfreed⟩ :=
      waiting.occupied dispatches first left wasPopped connectionId worker
        (calm.workers connectionId worker registered eligible) eligible isArch
    rcases frees dispatches buildId with ⟨-, same⟩ | ⟨freed, -⟩
    · rw [active, Option.map_some, isConnection] at same
      obtain ⟨now, isActive, isHolder⟩ := Option.map_eq_some_iff.mp same
      exact ⟨buildId, ⟨now, isActive, isHolder⟩, unfreed⟩
    · exact absurd freed unfreed

/-- What changes neither rows nor lanes nor holders, and makes no worker eligible. -/
theorem Waiting.keep (calm : Calm state after) (builds : after.builds = state.builds)
    (holders : ∀ other, (after.queue.active.get other).map (·.connectionId) =
      (state.queue.active.get other).map (·.connectionId)) :
    Waiting start initial operation after :=
  waiting.step attributed calm (fun other => .kept (by rw [builds]) (holders other))
    fun _ other => Or.inl ⟨by rw [builds], holders other⟩

/-- A change of the channels that puts no dispatch on them. -/
theorem Waiting.retune (builds : after.builds = state.builds)
    (queue : after.queue = state.queue) (fewer : ∀ connectionId other,
      after.dispatchesOn connectionId other ≤ state.dispatchesOn connectionId other) :
    Waiting start initial operation after := by
  refine waiting.keep attributed ⟨by simp [queue], fewer, ?_⟩ builds (by simp [queue])
  intro connectionId worker registered _
  rwa [queue] at registered

/-- A worker changes to a state in which it gets no build. -/
theorem Waiting.standDown {connectionId : ConnectionId} {worker : WorkerState}
    (down : worker.isDispatchEligible = false) (builds : after.builds = state.builds)
    (channels : after.workerSenders = state.workerSenders)
    (queue : after.queue = state.queue.setWorkerState connectionId worker) :
    Waiting start initial operation after := by
  refine waiting.keep attributed ⟨by simp [queue, BuildQueue.setWorkerState],
    by simp [AppState.dispatchesOn, channels], fun other standing registered eligible => ?_⟩
    builds (by simp [queue, BuildQueue.setWorkerState])
  rw [queue, BuildQueue.setWorkerState, Dictionary.lookup_modify] at registered
  split_ifs at registered
  · obtain ⟨-, -, rfl⟩ := Option.map_eq_some_iff.mp registered
    exact absurd (down.symm.trans eligible) (by simp)
  · exact registered

/-- An event that attempts no dispatch changes the assignment of a build. -/
theorem Waiting.attach {change : ActiveBuild → ActiveBuild}
    {keeps : ∀ build, (change build).buildId = build.buildId}
    (builds : after.builds = state.builds) (channels : after.workerSenders = state.workerSenders)
    (queue : after.queue =
      { state.queue with active := state.queue.active.modify buildId change keeps })
    (quiet : ¬ operation.Dispatches initial) : Waiting start initial operation after := by
  refine waiting.step attributed (.of_active queue channels) (fun other => ?_)
    fun dispatches => absurd dispatches quiet
  cases active : state.queue.active.get other with
  | none =>
    refine .kept (by rw [builds]) ?_
    rw [queue, ActiveMap.get_modify, active]
    split_ifs <;> rfl
  | some build =>
    obtain ⟨later, isActive⟩ : ∃ later, after.queue.active.get other = some later := by
      rw [queue, ActiveMap.get_modify, active]
      split_ifs
      exacts [⟨_, rfl⟩, ⟨_, rfl⟩]
    refine .marked active isActive ?_
    rw [AppState.RowSays, builds]
    exact waiting.draining.revoked active

/-- A running build ends.  An event that attempts a dispatch frees its worker. -/
theorem Waiting.finish {build : ActiveBuild} {change : BuildRow → BuildRow}
    (active : state.queue.active.get buildId = some build)
    (terminal : ∀ row, (change row).state.Terminal)
    (frees : operation.Dispatches initial → operation.Frees initial buildId)
    (builds : after.builds = state.builds.update buildId change)
    (channels : after.workerSenders = state.workerSenders)
    (queue : after.queue =
      { state.queue with active := state.queue.active.remove buildId }) :
    Waiting start initial operation after := by
  have untouched : ∀ {other}, other ≠ buildId →
      after.builds.getBuild other = state.builds.getBuild other ∧
        after.queue.active.get other = state.queue.active.get other := by
    intro other different
    rw [builds, queue, BuildsTable.getBuild_update, ActiveMap.get_remove, if_neg different,
      if_neg different]
    exact ⟨rfl, rfl⟩
  have vacant : after.queue.active.get buildId = none := by simp [queue]
  refine waiting.step attributed (.of_active queue channels) (fun other => ?_)
    fun dispatches other => ?_
  all_goals by_cases same : other = buildId
  · subst same
    obtain ⟨old, found, -⟩ := waiting.draining.revoked active
    exact .ended active vacant ⟨change old, by simp [builds, found], terminal old⟩
  · exact .kept (untouched same).1 (congrArg _ (untouched same).2)
  · subst same
    exact Or.inr ⟨frees dispatches, vacant⟩
  · exact Or.inl ⟨(untouched same).1, congrArg _ (untouched same).2⟩

omit attributed

/-- A running build is started or revoked by an event that attempts no dispatch. -/
theorem Waiting.mark {build : ActiveBuild} {update : BuildRow → BuildRow}
    (attributed : Attributed { state with builds := state.builds.update buildId update })
    (active : state.queue.active.get buildId = some build)
    (marks : ∀ row, (update row).state = .revoking ∨ (update row).state = .started)
    (quiet : ¬ operation.Dispatches initial) :
    Waiting start initial operation
      { state with builds := state.builds.update buildId update } := by
  refine waiting.step attributed (.of_active rfl rfl) (fun other => ?_)
    fun dispatches => absurd dispatches quiet
  by_cases same : other = buildId
  · subst same
    obtain ⟨old, found, -⟩ := waiting.draining.revoked active
    exact .marked active active ⟨update old, by simp [found], marks old⟩
  · exact .kept (by simp [same]) rfl

theorem Waiting.change {deed : Deed} (during : operation.DuringDrain)
    (safe : ¬ operation.Returns initial)
    (permitted : deed = .aside ∨ operation.Performs initial deed state)
    (change : Change deed state after) : Waiting start initial operation after := by
  have attributed := change.attributed waiting.draining.attributed
  cases change with
  | book | accept active | write | expire =>
    exact waiting.retune attributed rfl rfl fun _ _ => le_rfl
  | tell _ connectionId messages harmless =>
    exact waiting.retune attributed rfl rfl fun other buildId =>
      le_of_eq (dispatchesOn_deliver state connectionId other buildId harmless)
  | plug connectionId =>
    refine waiting.retune attributed rfl rfl fun other buildId => ?_
    simp only [AppState.dispatchesOn, Dictionary.lookup_insert_eq]
    split_ifs
    · exact Nat.zero_le _
    · exact le_rfl
  | unplug =>
    refine waiting.retune attributed rfl rfl fun other buildId => ?_
    simp only [AppState.dispatchesOn, Dictionary.lookup_erase_eq]
    split_ifs
    · exact Nat.zero_le _
    · exact le_rfl
  | claim active =>
    refine waiting.keep attributed (.of_active rfl rfl) rfl fun other => ?_
    rw [ActiveMap.get_modify]
    split_ifs
    · rw [Option.map_map]
      rfl
    · rfl
  | attachReceived | attach =>
    have performed := permitted.resolve_left (by simp)
    exact waiting.attach attributed rfl rfl rfl
      (not_dispatches_of_performs during (Or.inr (Or.inl performed)))
  | start _ other now =>
    have performed := permitted.resolve_left (by simp)
    obtain ⟨build, active⟩ : ∃ build, state.queue.active.get other = some build := by
      cases operation with
      | message => exact ⟨_, performed.2.choose_spec.1⟩
      | _ => exact performed.elim
    exact waiting.mark attributed active (fun _ => Or.inr rfl)
      (not_dispatches_of_performs during (Or.inl performed))
  | @finish _ other now status terminal error buildReport =>
    have performed := permitted.resolve_left (by simp)
    obtain ⟨build, active⟩ := waiting.draining.running_of_finish during performed
    exact waiting.finish attributed active (fun _ => terminal)
      (fun dispatches =>
        frees_of_finish during dispatches (waiting.rows dispatches active) performed)
      rfl rfl rfl
  | requeue env active =>
    exact (waiting.not_requeue during safe active (permitted.resolve_left (by simp))).elim
  | @release _ other idle =>
    have vacant : state.queue.active.get other = none := by
      rcases idle with vacant | ⟨row, found, unassigned⟩
      · exact vacant
      · by_contra running
        obtain ⟨build, active⟩ := Option.ne_none_iff_exists'.mp running
        obtain ⟨stored, isStored, isState⟩ := waiting.draining.revoked active
        cases found.symm.trans isStored
        exact unassigned (Or.inr isState.symm)
    refine waiting.keep attributed (.of_active rfl rfl) rfl fun running => ?_
    rw [ActiveMap.get_remove]
    split_ifs with same
    · rw [same, vacant]
    · rfl
  | revoke active =>
    have performed := permitted.resolve_left (by simp)
    exact waiting.mark attributed active (fun _ => Or.inl rfl)
      (not_dispatches_of_performs during (Or.inr (Or.inr performed)))
  | dispatch outcome =>
    have performed := permitted.resolve_left (by simp)
    have dispatches : operation.Dispatches initial := by
      cases operation with
      | message | disconnect | graceExpired => exact performed
      | sweep | dispatch | connect => exact trivial
      | _ => exact performed.elim
    rw [outcome.eq_of_occupied (waiting.occupied dispatches)]
    exact waiting
  | restand known down | close isOpen known down =>
    exact waiting.standDown attributed down rfl rfl rfl
  | _ =>
    have performed := permitted.resolve_left (by simp)
    cases operation with
    | submit | revoke | connect => exact during.elim
    | _ => exact performed.elim

end

theorem Draining.drainStep {event : Env × Operation} (draining : Draining start state)
    (safe : DrainsSafely state event) (stepped : drainStep state event = some after) :
    Draining start after := by
  unfold Cbs.drainStep at stepped
  split_ifs at stepped with isPossible
  obtain ⟨during, enabled⟩ := isPossible
  cases stepped
  have initially : Waiting start state event.2 state :=
    ⟨draining, fun active => ⟨_, active⟩, fun _ => fun _ => rfl, safe.2⟩
  have chain := chain_exec event.1 enabled draining.attributed.issued
  have kept : Waiting start state event.2 (event.2.exec event.1 state) :=
    chain.invariant initially fun waiting permitted change =>
      waiting.change during safe.1 permitted change
  exact kept.draining

end Wait

section Ends

variable {builds : List ActiveBuild} {state : AppState}

theorem revokeRunning_dispatchesOn (state : AppState) (build : ActiveBuild)
    (connectionId : ConnectionId) (buildId : BuildId) :
    (revokeRunning state build).dispatchesOn connectionId buildId =
      state.dispatchesOn connectionId buildId := by
  have harmless : ∀ message ∈ [ServerMessage.buildRevoke build.buildId (some .admin)],
      message.DispatchesNothing := by
    simp [ServerMessage.DispatchesNothing]
  exact dispatchesOn_deliver _ build.connectionId connectionId buildId harmless

/-- Revoking running builds changes only their rows, and puts no dispatch on a channel. -/
theorem foldl_revokeRunning {state : AppState} (builds : List ActiveBuild)
    (running : ∀ build ∈ builds, state.queue.active.get build.buildId = some build)
    (attributed : Attributed state) :
    Attributed (builds.foldl revokeRunning state) ∧
      (builds.foldl revokeRunning state).queue = state.queue ∧
      ∀ connectionId buildId, (builds.foldl revokeRunning state).dispatchesOn connectionId buildId =
        state.dispatchesOn connectionId buildId := by
  induction builds generalizing state with
  | nil => exact ⟨attributed, rfl, fun _ _ => rfl⟩
  | cons build builds ih =>
    have revoked := (Change.revoke (running build (by simp))).attributed attributed
    have told : Attributed (revokeRunning state build) :=
      (Change.tell { state with builds := state.builds.setBuildRevoking build.buildId }
        build.connectionId [.buildRevoke build.buildId (some .admin)]
        (by simp [ServerMessage.DispatchesNothing])).attributed revoked
    have rest : ∀ other ∈ builds,
        (revokeRunning state build).queue.active.get other.buildId = some other :=
      fun other inside => running other (by simp [inside])
    obtain ⟨isAttributed, queue, unsent⟩ := ih rest told
    refine ⟨isAttributed, queue, fun connectionId buildId => ?_⟩
    rw [List.foldl_cons, unsent, revokeRunning_dispatchesOn]

/-- A loop that updates the row of each running build. -/
theorem getBuild_foldl_values {body : AppState → ActiveBuild → AppState}
    {change : BuildRow → BuildRow} (updates : ∀ state build, (body state build).builds =
      state.builds.update build.buildId change) (state : AppState) (rank : BuildId → Nat)
    (buildId : BuildId) :
    ((state.queue.active.values rank).foldl body state).builds.getBuild buildId =
      if (state.queue.active.get buildId).isSome = true then
        (state.builds.getBuild buildId).map change
      else state.builds.getBuild buildId := by
  rw [getBuild_foldl updates (ActiveMap.nodup_values ..)]
  refine if_congr ?_ rfl rfl
  rw [Option.isSome_iff_exists]
  constructor
  · intro inside
    obtain ⟨build, isValue, rfl⟩ := List.mem_map.mp inside
    exact ⟨build, ActiveMap.mem_values.mp isValue⟩
  · rintro ⟨build, active⟩
    have same := ActiveMap.buildId_of_get active
    exact List.mem_map.mpr ⟨build, ActiveMap.mem_values.mpr (by rw [same, active]), same⟩

/-- Once the running builds of a reachable state are revoked, the server drains. -/
theorem draining_revokeAllRunning {admits : Env → Operation → Prop}
    (reachable : ReachableBy admits state) (env : Env) :
    Draining state (revokeAllRunning env state) := by
  have attributed := attributed_of_reachable reachable
  have stored : ∀ {buildId build}, state.queue.active.get buildId = some build →
      ∃ row, state.builds.getBuild buildId = some row := by
    intro buildId build active
    obtain ⟨owner, attributed⟩ := attributed
    obtain ⟨row, -, found, -⟩ := attributed.held active
    exact ⟨row, found⟩
  obtain ⟨isAttributed, queue, unsent⟩ := foldl_revokeRunning
    (state.queue.active.values env.buildRank)
    (fun build inside => ActiveMap.mem_values.mp inside) attributed
  have updates : ∀ (state : AppState) (build : ActiveBuild), (revokeRunning state build).builds =
      state.builds.update build.buildId fun row => { row with state := .revoking } :=
    fun _ _ => rfl
  have untouched : ∀ {buildId}, state.queue.active.get buildId = none →
      (revokeAllRunning env state).builds.getBuild buildId = state.builds.getBuild buildId := by
    intro buildId vacant
    rw [revokeAllRunning, getBuild_foldl_values updates, vacant]
    rfl
  refine ⟨isAttributed, ?_, ?_, ?_, ?_, ?_⟩
  · rintro buildId ⟨row, found, assigned⟩
    rw [revokeAllRunning, queue]
    by_contra vacant
    have isVacant : state.queue.active.get buildId = none := by
      by_contra running
      exact vacant (Option.ne_none_iff_exists'.mp running)
    rw [untouched isVacant] at found
    exact vacant ((active_iff_of_reachable reachable found).mpr assigned)
  · intro buildId build active
    rw [revokeAllRunning, queue] at active
    obtain ⟨row, found⟩ := stored active
    have revoked := getBuild_foldl_values updates state env.buildRank buildId
    rw [active, found] at revoked
    exact ⟨_, revoked, Or.inl rfl⟩
  · intro buildId old running vacant
    rw [revokeAllRunning, queue, running] at vacant
    cases vacant
  · intro buildId row found queued
    rw [untouched, found]
    by_contra running
    have assigned := (active_iff_of_reachable reachable found).mp
      (Option.ne_none_iff_exists'.mp running)
    rw [queued] at assigned
    exact absurd assigned (by decide)
  · exact fun connectionId buildId => le_of_eq (unsent connectionId buildId)

/-- At the end of the drain, what was running has ended and what waited has its row. -/
theorem Draining.failStragglers {start : AppState} (draining : Draining start state) (env : Env) :
    (∀ buildId build, start.queue.active.get buildId = some build →
      (failStragglers env state).RowSays buildId (·.state.Terminal)) ∧
    ∀ buildId row, start.builds.getBuild buildId = some row → row.state = .queued →
      (Cbs.failStragglers env state).builds.getBuild buildId = some row := by
  have updates : ∀ (state : AppState) (build : ActiveBuild),
      (failStraggler env state build).builds = state.builds.update build.buildId fun row =>
        { row with
          state := .failure
          finishedAt := some env.now
          error := (some "server decommissioned").or row.error
          buildReport := none } :=
    fun _ _ => rfl
  constructor
  · intro buildId build running
    cases active : state.queue.active.get buildId with
    | none =>
      obtain ⟨row, found, terminal⟩ := draining.ended running active
      refine ⟨row, ?_, terminal⟩
      rw [Cbs.failStragglers, getBuild_foldl_values updates, active]
      exact found
    | some straggler =>
      obtain ⟨row, found, -⟩ := draining.revoked active
      have ended := getBuild_foldl_values updates state env.buildRank buildId
      rw [active, found] at ended
      exact ⟨_, ended, by simp [BuildState.Terminal]⟩
  · intro buildId row found queued
    rw [← draining.spared found queued]
    rw [Cbs.failStragglers, getBuild_foldl_values updates, if_neg]
    intro running
    obtain ⟨build, active⟩ := Option.isSome_iff_exists.mp running
    exact draining.ne_of_running active found queued rfl

end Ends

/-- If no event of the wait returns a running build to its lane or dispatches a waiting one, every
build that was running at the start has ended when the drain is over, and every queued one is still
queued, with the row that it had, and was never sent to a worker. -/
theorem drain_ends_running_and_spares_waiting {admits : Env → Operation → Prop}
    {before after : AppState} (reachable : ReachableBy admits before) {start finish : Env}
    {events : List (Env × Operation)}
    (safe : AllowedRun drainStep DrainsSafely (revokeAllRunning start before) events)
    (drained : runDrainShutdown start finish events before = some after) :
    (∀ buildId build, before.queue.active.get buildId = some build →
      after.RowSays buildId (·.state.Terminal)) ∧
    ∀ buildId row, before.builds.getBuild buildId = some row → row.state = .queued →
      after.builds.getBuild buildId = some row ∧
        ∀ earlier later moment, events = earlier ++ later →
          run drainStep (revokeAllRunning start before) earlier = some moment →
          ∀ connectionId, moment.dispatchesOn connectionId buildId ≤
            before.dispatchesOn connectionId buildId := by
  have initially := draining_revokeAllRunning reachable start
  have along : ∀ {earlier later moment}, events = earlier ++ later →
      run drainStep (revokeAllRunning start before) earlier = some moment →
      Draining before moment := by
    intro earlier later moment isPrefix ran
    subst isPrefix
    exact invariant_of_run (Draining before) initially
      (fun _ _ _ draining isSafe stepped => draining.drainStep isSafe stepped) safe.of_append ran
  have ends : (∀ buildId build, before.queue.active.get buildId = some build →
      after.RowSays buildId (·.state.Terminal)) ∧
      ∀ buildId row, before.builds.getBuild buildId = some row → row.state = .queued →
        after.builds.getBuild buildId = some row := by
    unfold runDrainShutdown at drained
    split_ifs at drained with idle
    · cases drained
      refine ⟨fun buildId build running => ?_, fun buildId row found _ => found⟩
      have inside : build ∈ before.queue.active.values start.buildRank :=
        ActiveMap.mem_values.mpr (by rw [ActiveMap.buildId_of_get running, running])
      rw [List.isEmpty_iff.mp idle] at inside
      cases inside
    · obtain ⟨waited, ran, rfl⟩ := Option.map_eq_some_iff.mp drained
      exact (along (List.append_nil events).symm ran).failStragglers finish
  refine ⟨ends.1, fun buildId row found queued => ⟨ends.2 buildId row found queued, ?_⟩⟩
  intro earlier later moment isPrefix ran connectionId
  exact (along isPrefix ran).unsent connectionId buildId

/-- The worker acknowledges the revoke. -/
def acknowledged : Env × Operation :=
  (.smooth, .message "first" builder (.buildFinished 1 .revoked none none))

/-- The server while the builder runs a build and a build of another architecture waits. -/
def unservedServer : AppState :=
  (Operation.submit { cephSubmission with
    descriptor := { cephDescriptor with
      build := { cephDescriptor.build with arch := .aarch64 } } }).exec .smooth executingServer

/-- The builder acknowledges, and the other build, which it cannot run, goes on waiting. -/
theorem drain_spares_unserved_build :
    ((runDrainShutdown .smooth .smooth [acknowledged] unservedServer).bind
        (·.builds.getBuild 1)).map (·.state) = some .revoked ∧
      ∃ after row, runDrainShutdown .smooth .smooth [acknowledged] unservedServer = some after ∧
        unservedServer.builds.getBuild 2 = some row ∧ after.builds.getBuild 2 = some row := by
  have reachable : Reachable unservedServer :=
    .step reachable_executingServer .smooth _ (by decide) rfl
  have arch : ((revokeAllRunning .smooth unservedServer).queue.nextPending.map
      fun popped => popped.1.descriptor.build.arch) = some .aarch64 := by
    decide
  have workers : ∀ entry ∈ (revokeAllRunning .smooth unservedServer).queue.workers.entries,
      entry.2.arch = some .x86_64 := by
    decide
  have safe : AllowedRun drainStep DrainsSafely (revokeAllRunning .smooth unservedServer)
      [acknowledged] := by
    refine ⟨⟨id, ?_⟩, fun _ _ => trivial⟩
    intro _ first rest popped connectionId worker registered eligible isArch
    rw [popped, Option.map_some] at arch
    have isX86 := workers ⟨connectionId, worker⟩ (AList.mem_lookup_iff.mp registered)
    rw [isArch, Option.some.inj arch] at isX86
    exact absurd isX86 (by decide)
  have queued : (unservedServer.builds.getBuild 2).map (·.state) = some .queued := by decide
  obtain ⟨row, found, isQueued⟩ := Option.map_eq_some_iff.mp queued
  obtain ⟨after, drained⟩ : ∃ after,
      runDrainShutdown .smooth .smooth [acknowledged] unservedServer = some after :=
    Option.isSome_iff_exists.mp (by decide)
  have spared :=
    (drain_ends_running_and_spares_waiting reachable safe drained).2 2 row found isQueued
  exact ⟨by decide, after, row, drained, found, spared.1⟩

/-- The server while the builder runs a build and another build waits. -/
def crowdedServer : AppState :=
  (Operation.submit cephSubmission).exec .smooth executingServer

/-- The server after a build was sent to the builder, which has not answered. -/
def unansweredServer : AppState :=
  (execAll .smooth
    [.connect "first" builderHello true, .submit cephSubmission, .dispatch]
    freshServer).getD freshServer

/-- When the builder acknowledges the revoke, the waiting build is sent to it and fails; and a build
whose dispatch-ack timer fires in the drain is queued at its end. -/
theorem drain_dispatches_and_returns_builds :
    (Reachable crowdedServer ∧
      (crowdedServer.builds.getBuild 2).map (·.state) = some .queued ∧
      (run drainStep (revokeAllRunning .smooth crowdedServer) [acknowledged]).map
        (·.dispatchesOn "first" 2) = some 1 ∧
      ((runDrainShutdown .smooth .smooth [acknowledged] crowdedServer).bind
        (·.builds.getBuild 2)).map (fun row => (row.state, row.error)) =
          some (.failure, some "server decommissioned")) ∧
    Reachable unansweredServer ∧
      (unansweredServer.queue.active.get 1).isSome ∧
      ((runDrainShutdown .smooth .smooth [(.smooth, .ackTimeout ⟨1, 0⟩)] unansweredServer).bind
        (·.builds.getBuild 1)).map (·.state) = some .queued := by
  refine ⟨⟨.step reachable_executingServer .smooth _ (by decide) rfl, by decide, by decide,
    by decide⟩, reachable_freshServer.execAll ?_ (by decide), by decide, by decide⟩
  simp [Operation.NoDatabaseError, Env.smooth]

end Cbs

import Cbs.Server.Reattachment

/-!
# Messages of other workers

What the server stores of a build in the hands of one worker is not touched by the messages of
another.  Some guards ask which connection holds the build, others which worker its row names.
-/

namespace Cbs

open Concurrency BuildQueue

structure StoredBuild where
  row : Option BuildRow
  active : Option ActiveBuild
  ackCancelled : Option Bool
  ackTimers : List AckTimer
  logFile : Option String
  watched : Bool

def storedBuild (buildId : BuildId) (state : AppState) : StoredBuild where
  row := state.builds.getBuild buildId
  active := state.queue.active.get buildId
  ackCancelled := (state.queue.active.get buildId).map fun build =>
    decide (build.ackCancel ∈ state.cancelled)
  ackTimers := state.ackTimers.filter (·.buildId = buildId)
  logFile := state.logFiles.lookup buildId
  watched := decide (buildId ∈ state.logWatchers)

section Record

variable {before after : AppState} {buildId other : BuildId}

theorem storedBuild_congr (row : after.builds.getBuild buildId = before.builds.getBuild buildId)
    (active : after.queue.active.get buildId = before.queue.active.get buildId)
    (cancelled : ∀ build, before.queue.active.get buildId = some build →
      (build.ackCancel ∈ after.cancelled ↔ build.ackCancel ∈ before.cancelled))
    (timers : after.ackTimers.filter (·.buildId = buildId) =
      before.ackTimers.filter (·.buildId = buildId))
    (file : after.logFiles.lookup buildId = before.logFiles.lookup buildId)
    (watched : buildId ∈ after.logWatchers ↔ buildId ∈ before.logWatchers) :
    storedBuild buildId after = storedBuild buildId before := by
  have sameCancelled : (after.queue.active.get buildId).map
      (fun build => decide (build.ackCancel ∈ after.cancelled)) =
      (before.queue.active.get buildId).map
        fun build => decide (build.ackCancel ∈ before.cancelled) := by
    rw [active]
    cases isActive : before.queue.active.get buildId with
    | none => rfl
    | some build => simp [cancelled build isActive]
  simp only [storedBuild, row, active, timers, file, watched] at sameCancelled ⊢
  rw [sameCancelled]

variable {build : ActiveBuild}

/-- The tokens of two builds differ, so that cancelling one does not cancel the other. -/
theorem Tokened.mem_insert_iff (tokened : Tokened before) (different : buildId ≠ other)
    {otherBuild : ActiveBuild} (active : before.queue.active.get buildId = some build)
    (otherActive : before.queue.active.get other = some otherBuild) :
    build.ackCancel ∈ insert otherBuild.ackCancel before.cancelled ↔
      build.ackCancel ∈ before.cancelled := by
  rw [Finset.mem_insert, or_iff_right]
  exact fun same => different (tokened.distinct active otherActive same)

theorem storedBuild_endedState (env : Env) (status : TerminalStatus) (reason : String)
    (different : buildId ≠ other) :
    storedBuild buildId (endedState env other status reason before) =
      storedBuild buildId before := by
  apply storedBuild_congr
  · simp [endedState, BuildsTable.setBuildFinished, different]
  · simp [endedState, ActiveMap.get_remove, different]
  · exact fun _ _ => Iff.rfl
  · rfl
  · rfl
  · simp [endedState, different]

theorem storedBuild_requeuedState (env : Env) (different : buildId ≠ other)
    (apart : ∀ {own}, before.queue.active.get buildId = some own →
      own.ackCancel ≠ build.ackCancel) :
    storedBuild buildId (requeuedState env other build before) = storedBuild buildId before := by
  apply storedBuild_congr
  · simp [requeuedState, BuildsTable.rollbackDispatchToQueued, different]
  · simp [requeuedState, ActiveMap.get_remove, different]
  · exact fun _ isActive => Finset.mem_insert.trans (or_iff_right (apart isActive))
  · rfl
  · rfl
  · simp [requeuedState, different]

theorem storedBuild_dispatchedState (env : Env) {build : QueuedBuild} {rest : BuildQueue}
    (popped : before.queue.nextPending = some (build, rest)) (connectionId : ConnectionId)
    (worker : WorkerState) (different : buildId ≠ build.buildId) :
    storedBuild buildId (dispatchedState env before build rest connectionId worker) =
      storedBuild buildId before := by
  apply storedBuild_congr
  · simp [dispatchedState, BuildsTable.setBuildDispatched, different]
  · simp [dispatchedState, dispatchedBuild, ActiveMap.get_insert, different,
      active_of_nextPending popped]
  · exact fun _ _ => Iff.rfl
  · rfl
  · rfl
  · simp [dispatchedState, different]

variable {env : Env} {result : Except DispatchError Unit}

theorem DispatchOutcome.storedBuild_eq
    (outcome : DispatchOutcome env before after result) (tokened : Tokened before)
    (absent : before.queue.occurs buildId = fun _ => 0) :
    storedBuild buildId after = storedBuild buildId before := by
  have different : ∀ {build rest}, before.queue.nextPending = some (build, rest) →
      buildId ≠ build.buildId := by
    rintro build rest popped rfl
    have waits := occurs_of_nextPending popped build.buildId build.priority
    rw [absent] at waits
    simp at waits
  cases outcome with
  | nothing => rfl
  | statementFailed popped =>
    refine storedBuild_congr rfl ?_ (fun _ _ => Iff.rfl) rfl rfl Iff.rfl
    rw [active_of_nextPending popped]
  | packFailed popped =>
    rw [storedBuild_endedState env _ _ (different popped),
      storedBuild_dispatchedState env popped _ _ (different popped)]
  | sendFailed packed popped =>
    rw [storedBuild_requeuedState env (different popped)]
    · exact storedBuild_dispatchedState env popped _ _ (different popped)
    · intro own isActive
      simp only [framedState, dispatchedState, ActiveMap.get_insert, active_of_nextPending popped]
        at isActive
      split_ifs at isActive with same
      · exact absurd same (different popped)
      · exact Nat.ne_of_lt (tokened.used isActive)
  | @sent build rest connectionId worker tarball packed popped =>
    refine .trans ?_
      (storedBuild_dispatchedState env popped connectionId worker (different popped))
    refine storedBuild_congr rfl rfl (fun _ _ => Iff.rfl) ?_ rfl Iff.rfl
    simp [dispatchedState, (different popped).symm]

theorem DispatchOutcome.absent (outcome : DispatchOutcome env before after result)
    (absent : before.queue.occurs buildId = fun _ => 0) :
    after.queue.occurs buildId = fun _ => 0 := by
  have popped : ∀ {build rest}, before.queue.nextPending = some (build, rest) →
      rest.occurs buildId = (fun _ => 0) ∧ buildId ≠ build.buildId := by
    intro build rest popped
    have waits := occurs_of_nextPending popped buildId
    simp only [absent] at waits
    refine ⟨funext fun priority => ?_, ?_⟩
    · have := waits priority
      omega
    · rintro rfl
      simpa using waits build.priority
  cases outcome with
  | nothing => exact absent
  | statementFailed isPopped | packFailed isPopped => exact (popped isPopped).1
  | sendFailed packed isPopped =>
    funext priority
    simp only [requeuedState, occurs_enqueueFront]
    rw [if_neg fun same => (popped isPopped).2 same.1.symm, Nat.add_zero]
    exact congrFun (popped isPopped).1 priority
  | sent packed isPopped => exact (popped isPopped).1

end Record

/-- The deed may touch the record of the build. -/
def Deed.Concerns (buildId : BuildId) : Deed → Prop
  | claim other | attach other | write other | start other | finish other | requeue other
  | release other | revoke other | withdraw other => other = buildId
  | expire timer => timer.buildId = buildId
  | register _ => True
  | _ => False

/-- A change that does not concern a stored build that does not wait leaves its record alone, and
the build does not wait afterwards. -/
theorem Change.storedBuild_eq {deed : Deed} {before after : AppState} {buildId : BuildId}
    (change : Change deed before after) (tokened : Tokened before)
    (stored : ∃ row, before.builds.getBuild buildId = some row)
    (absent : before.queue.occurs buildId = fun _ => 0) (elsewhere : ¬ deed.Concerns buildId) :
    storedBuild buildId after = storedBuild buildId before ∧
      after.queue.occurs buildId = fun _ => 0 := by
  have cancelled : ∀ {other otherBuild}, ¬ other = buildId →
      before.queue.active.get other = some otherBuild →
      ∀ build, before.queue.active.get buildId = some build →
        (build.ackCancel ∈ insert otherBuild.ackCancel before.cancelled ↔
          build.ackCancel ∈ before.cancelled) :=
    fun different otherActive _ active =>
      tokened.mem_insert_iff (Ne.symm different) active otherActive
  cases change with
  | claim active =>
    refine ⟨storedBuild_congr rfl ?_ (cancelled elsewhere active) rfl rfl Iff.rfl, absent⟩
    rw [ActiveMap.get_modify, if_neg (Ne.symm elsewhere)]
  | accept active =>
    exact ⟨storedBuild_congr rfl rfl (cancelled elsewhere active) rfl rfl Iff.rfl, absent⟩
  | attachReceived active =>
    refine ⟨storedBuild_congr rfl ?_ (cancelled elsewhere active) rfl rfl Iff.rfl, absent⟩
    rw [ActiveMap.get_modify, if_neg (Ne.symm elsewhere)]
  | attach =>
    refine ⟨storedBuild_congr rfl ?_ (fun _ _ => Iff.rfl) rfl rfl Iff.rfl, absent⟩
    rw [ActiveMap.get_modify, if_neg (Ne.symm elsewhere)]
  | write _ other content =>
    refine ⟨storedBuild_congr rfl rfl (fun _ _ => Iff.rfl) rfl ?_ Iff.rfl, absent⟩
    exact AList.lookup_insert_ne (Ne.symm elsewhere)
  | start _ other now =>
    refine ⟨storedBuild_congr ?_ rfl (fun _ _ => Iff.rfl) rfl rfl Iff.rfl, absent⟩
    exact (BuildsTable.getBuild_update ..).trans (if_neg (Ne.symm elsewhere))
  | finish _ other now =>
    refine ⟨storedBuild_congr ?_ ?_ (fun _ _ => Iff.rfl) rfl rfl ?_, absent⟩
    · exact (BuildsTable.getBuild_update ..).trans (if_neg (Ne.symm elsewhere))
    · exact (ActiveMap.get_remove ..).trans (if_neg (Ne.symm elsewhere))
    · exact Finset.mem_erase.trans (and_iff_right (Ne.symm elsewhere))
  | requeue env active =>
    refine ⟨storedBuild_requeuedState env (Ne.symm elsewhere) fun isActive same => elsewhere
      (tokened.distinct isActive active same).symm, ?_⟩
    funext priority
    rw [requeuedState, occurs_enqueueFront, if_neg fun same => elsewhere same.1]
    exact congrFun absent priority
  | release =>
    refine ⟨storedBuild_congr rfl ?_ (fun _ _ => Iff.rfl) rfl rfl Iff.rfl, absent⟩
    exact (ActiveMap.get_remove ..).trans (if_neg (Ne.symm elsewhere))
  | revoke =>
    refine ⟨storedBuild_congr ?_ rfl (fun _ _ => Iff.rfl) rfl rfl Iff.rfl, absent⟩
    exact (BuildsTable.getBuild_update ..).trans (if_neg (Ne.symm elsewhere))
  | withdraw =>
    refine ⟨storedBuild_congr ?_ ?_ (fun _ _ => Iff.rfl) rfl rfl Iff.rfl, ?_⟩
    · exact (BuildsTable.getBuild_update ..).trans (if_neg (Ne.symm elsewhere))
    · rw [active_removeById]
    · funext priority
      rw [occurs_removeById_of_ne _ (Ne.symm elsewhere)]
      exact congrFun absent priority
  | submit env submission =>
    obtain ⟨row, found⟩ := stored
    have different : buildId ≠ before.builds.nextId := by
      rintro rfl
      simp at found
    refine ⟨storedBuild_congr ?_ ?_ (fun _ _ => Iff.rfl) rfl rfl Iff.rfl, ?_⟩
    · exact BuildsTable.getBuild_insertBuild _ _ _ _ _ _ _ _ _ different
    · rw [submittedState, active_enqueue]
    · funext priority
      rw [submittedState, occurs_enqueue, if_neg fun same => different same.1.symm]
      exact congrFun absent priority
  | dispatch outcome => exact ⟨outcome.storedBuild_eq tokened absent, outcome.absent absent⟩
  | expire _ timer =>
    refine ⟨storedBuild_congr rfl rfl (fun _ _ => Iff.rfl) ?_ rfl Iff.rfl, absent⟩
    have different : ¬ timer.buildId = buildId := elsewhere
    rw [← List.erase_filter, List.erase_of_not_mem]
    simp [different]
  | register => exact absurd trivial elsewhere
  | _ => exact ⟨rfl, absent⟩

/-- The build is in the hands of the worker: its row says so, it has an assignment, and it does not
wait. -/
structure AppState.InHandsOf (state : AppState) (buildId : BuildId) (workerId : WorkerId)
    (row : BuildRow) : Prop where
  found : state.builds.getBuild buildId = some row
  worker : row.workerId = some workerId
  assigned : row.state.Assigned
  active : ∃ build, state.queue.active.get buildId = some build
  absent : state.queue.occurs buildId = fun _ => 0

section Foreign

variable {initial state : AppState} {connectionId : ConnectionId} {connection : Connection}
  {buildId : BuildId} {workerId : WorkerId} {row : BuildRow}

theorem inHandsOf_of_reachable {admits : Env → Operation → Prop}
    (reachable : ReachableBy admits state) (found : state.builds.getBuild buildId = some row)
    (isWorker : row.workerId = some workerId) (assigned : row.state.Assigned) :
    state.InHandsOf buildId workerId row := by
  have atRest : (discipline True fun _ => False).AtRest state :=
    atRest_of_reachable _ (fun _ _ _ sound => absurd trivial sound) reachable
  have print : (footprint buildId state).row = some (row.state, row.priority) := by
    simp [footprint, found]
  exact ⟨found, isWorker, assigned, (active_iff_of_reachable reachable found).mpr assigned,
    ((atRest buildId).active_of_assigned print assigned).2⟩

theorem not_holds_of_foreign (attributed : Attributed state)
    (isOpen : state.connections.lookup connectionId = some connection)
    (foreign : connection.registeredWorkerId ≠ workerId)
    (hands : state.InHandsOf buildId workerId row) : ¬ state.Holds connectionId buildId := by
  intro holds
  have own := workerId_of_holds attributed isOpen holds hands.found
  exact foreign (Option.some.inj (own.symm.trans hands.worker))

variable {received : WorkerMessage} {deed : Deed} {after : AppState}

/-- What a message of another worker makes the server do does not concern the build, except that the
server may record once more that the build is being revoked. -/
theorem elsewhere_of_foreign (attributed : Attributed state)
    (isOpen : state.connections.lookup connectionId = some connection)
    (foreign : connection.registeredWorkerId ≠ workerId)
    (hands : state.InHandsOf buildId workerId row) (change : Change deed state after)
    (permitted : deed = .aside ∨ MessagePerforms initial connectionId connection received
      deed state) :
    ¬ deed.Concerns buildId ∨ deed = .revoke buildId ∧ row.state = .revoking := by
  have unheld := not_holds_of_foreign attributed isOpen foreign hands
  have unnamed : ∀ {holds : BuildRow → Prop},
      (∀ row, holds row → row.workerId = some connection.registeredWorkerId) →
      ¬ state.RowSays buildId holds := by
    rintro holds names ⟨stored, isStored, isSo⟩
    cases hands.found.symm.trans isStored
    exact foreign (Option.some.inj ((names _ isSo).symm.trans hands.worker))
  rcases permitted with rfl | permitted
  · exact Or.inl id
  cases deed with
  | claim other | write other => exact Or.inl fun same => unheld (same ▸ permitted)
  | start other => exact Or.inl fun same => unheld (same ▸ permitted.2)
  | attach other =>
    refine Or.inl fun same => ?_
    cases same
    exact unnamed (fun _ names => names) permitted.2
  | finish other =>
    refine Or.inl fun same => ?_
    cases same
    rcases permitted with ⟨holds, -⟩ | ⟨-, -, stored⟩
    · exact unheld holds
    · exact unnamed (fun _ names => names.1) stored
  | requeue other =>
    refine Or.inl fun same => ?_
    cases same
    rcases permitted with ⟨holds, -⟩ | ⟨-, stored⟩
    · exact unheld holds
    · exact unnamed (fun _ names => names.1) stored
  | release other =>
    refine Or.inl fun same => ?_
    cases same
    cases change with
    | release idle =>
      obtain ⟨build, active⟩ := hands.active
      rcases idle with vacant | ⟨stored, isStored, unassigned⟩
      · exact absurd (active.symm.trans vacant) (by simp)
      · cases hands.found.symm.trans isStored
        exact unassigned hands.assigned
  | revoke other =>
    by_cases same : other = buildId
    · subst same
      obtain ⟨-, stored, isStored, unclaimable⟩ := permitted
      cases hands.found.symm.trans isStored
      refine Or.inr ⟨rfl, ?_⟩
      rcases hands.assigned with isState | isState | isState
      · exact absurd isState unclaimable.1
      · exact absurd isState unclaimable.2
      · exact isState
    · exact Or.inl same
  | dispatch | restand other => exact Or.inl id
  | _ => exact permitted.elim

/-- The record of a build that is in the hands of a worker, and what keeps it from others. -/
structure Undisturbed (connectionId : ConnectionId) (connection : Connection) (buildId : BuildId)
    (workerId : WorkerId) (row : BuildRow) (record : StoredBuild) (state : AppState) : Prop where
  record : storedBuild buildId state = record
  hands : state.InHandsOf buildId workerId row
  isOpen : state.connections.lookup connectionId = some connection
  attributed : Attributed state
  tokened : Tokened state

variable {record : StoredBuild}

theorem Undisturbed.of_record
    (undisturbed : Undisturbed connectionId connection buildId workerId row record state)
    (change : Change deed state after)
    (same : storedBuild buildId after = storedBuild buildId state)
    (absent : after.queue.occurs buildId = fun _ => 0)
    (isOpen : after.connections.lookup connectionId = some connection) :
    Undisturbed connectionId connection buildId workerId row record after := by
  have sameRow := congrArg StoredBuild.row same
  have sameActive := congrArg StoredBuild.active same
  refine ⟨same.trans undisturbed.record, ?_, isOpen, change.attributed undisturbed.attributed,
    change.tokened undisturbed.tokened⟩
  obtain ⟨found, isWorker, assigned, ⟨build, active⟩, -⟩ := undisturbed.hands
  exact ⟨sameRow.trans found, isWorker, assigned, ⟨build, sameActive.trans active⟩, absent⟩

theorem connections_of_messagePerforms (change : Change deed state after)
    (permitted : deed = .aside ∨ MessagePerforms initial connectionId connection received
      deed state) :
    after.connections = state.connections := by
  cases change with
  | dispatch outcome => exact outcome.sessions_eq.2.1
  | register | welcome | close => simp [MessagePerforms] at permitted
  | _ => rfl

theorem Undisturbed.change (foreign : connection.registeredWorkerId ≠ workerId)
    (undisturbed : Undisturbed connectionId connection buildId workerId row record state)
    (permitted : deed = .aside ∨ MessagePerforms initial connectionId connection
      received deed state)
    (change : Change deed state after) :
    Undisturbed connectionId connection buildId workerId row record after := by
  have hands := undisturbed.hands
  have isOpen : after.connections.lookup connectionId = some connection := by
    rw [connections_of_messagePerforms change permitted]
    exact undisturbed.isOpen
  rcases elsewhere_of_foreign undisturbed.attributed undisturbed.isOpen foreign hands change
    permitted with elsewhere | ⟨rfl, revoking⟩
  · obtain ⟨same, absent⟩ := change.storedBuild_eq undisturbed.tokened ⟨row, hands.found⟩
      hands.absent elsewhere
    exact undisturbed.of_record change same absent isOpen
  · cases change with
    | revoke active =>
      refine undisturbed.of_record (.revoke active) ?_ hands.absent isOpen
      refine storedBuild_congr ?_ rfl (fun _ _ => Iff.rfl) rfl rfl Iff.rfl
      -- The row already says what is recorded.
      simp only [BuildsTable.setBuildRevoking, BuildsTable.getBuild_update, if_true,
        hands.found, Option.map_some, ← revoking]

end Foreign

/-- In every reachable state, a message of one worker leaves the record of a build that is in the
hands of another as it was. -/
theorem foreign_message_leaves_build {admits : Env → Operation → Prop} {state : AppState}
    (reachable : ReachableBy admits state) {buildId : BuildId} {row : BuildRow}
    {workerId : WorkerId} (found : state.builds.getBuild buildId = some row)
    (isWorker : row.workerId = some workerId)
    (assigned : row.state = .dispatched ∨ row.state = .started ∨ row.state = .revoking)
    {connectionId : ConnectionId} {connection : Connection}
    (isOpen : state.connections.lookup connectionId = some connection)
    (foreign : connection.registeredWorkerId ≠ workerId) (received : WorkerMessage) (env : Env) :
    storedBuild buildId ((Operation.message connectionId connection received).exec env state) =
      storedBuild buildId state := by
  have initially : Undisturbed connectionId connection buildId workerId row
      (storedBuild buildId state) state :=
    ⟨rfl, inHandsOf_of_reachable reachable found isWorker assigned, isOpen,
      attributed_of_reachable reachable, tokened_of_reachable reachable⟩
  have chain := chain_handleWorkerMessage env received isOpen
  exact (chain.invariant initially fun undisturbed permitted change =>
    undisturbed.change foreign permitted change).record

def rival : Connection where
  registeredWorkerId := "worker-2"
  workerName := "rival"
  stalled := false

/-- The server while the builder executes a build and the second worker is connected. -/
def contestedServer : AppState :=
  (execAll .smooth [.connect "second" { builderHello with connection := rival } true]
    executingServer).getD executingServer

/-- The second worker cannot end the build of the builder. -/
theorem rival_cannot_finish_build :
    Reachable contestedServer ∧
      storedBuild 1 ((Operation.message "second" rival
        (.buildFinished 1 .failure none none)).exec .smooth contestedServer) =
          storedBuild 1 contestedServer := by
  have reachable : Reachable contestedServer :=
    reachable_executingServer.execAll (by simp [Operation.NoDatabaseError, Env.smooth])
      (by decide)
  have isOpen : contestedServer.connections.lookup "second" = some rival := by decide
  have stored : (contestedServer.builds.getBuild 1).map (fun row => (row.state, row.workerId)) =
      some (.started, some "worker-1") := by
    decide
  obtain ⟨row, found, isRow⟩ := Option.map_eq_some_iff.mp stored
  obtain ⟨started, isWorker⟩ := Prod.mk.inj isRow
  exact ⟨reachable, foreign_message_leaves_build reachable found isWorker (Or.inr (Or.inl started))
    isOpen (by decide) (.buildFinished 1 .failure none none) .smooth⟩


end Cbs

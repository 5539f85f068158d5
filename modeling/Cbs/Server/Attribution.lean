import Cbs.Server.Changes

/-!
# Whom connections belong to

A connection identifier belongs to one registered worker for ever.  Whoever holds a build has an
identifier of the worker that is stored with it, and no two builds share the token of a timer.
-/

namespace Cbs

open Concurrency ActiveMap

/-- Every record about a connection respects an attribution of identifiers to workers. -/
structure AttributedTo (owner : ConnectionId → Option WorkerId) (state : AppState) : Prop where
  worker : ∀ {connectionId worker registeredWorkerId},
    state.queue.workers.lookup connectionId = some worker →
    worker.registeredWorkerId = some registeredWorkerId →
    owner connectionId = some registeredWorkerId
  connection : ∀ {connectionId connection},
    state.connections.lookup connectionId = some connection →
    owner connectionId = some connection.registeredWorkerId
  held : ∀ {buildId build}, state.queue.active.get buildId = some build →
    ∃ row registeredWorkerId, state.builds.getBuild buildId = some row ∧
      row.workerId = some registeredWorkerId ∧
      owner build.connectionId = some registeredWorkerId
  stored : ∀ {buildId priority}, 0 < state.queue.occurs buildId priority →
    ∃ row, state.builds.getBuild buildId = some row
  issued : ∀ {connectionId registeredWorkerId}, owner connectionId = some registeredWorkerId →
    connectionId ∈ state.issued

/-- Every connection identifier belongs to one worker. -/
def Attributed (state : AppState) : Prop :=
  ∃ owner, AttributedTo owner state

section Attribution

variable {owner : ConnectionId → Option WorkerId} {before after : AppState}
  (attributed : AttributedTo owner before)

include attributed

/-- Assignments are dropped or changed while the connections stay. -/
theorem AttributedTo.reassign
    (sessions : after.queue.workers = before.queue.workers ∧
      after.connections = before.connections ∧ after.issued = before.issued)
    (held : ∀ {buildId build}, after.queue.active.get buildId = some build →
      ∃ row registeredWorkerId, after.builds.getBuild buildId = some row ∧
        row.workerId = some registeredWorkerId ∧
        owner build.connectionId = some registeredWorkerId)
    (stored : ∀ {buildId priority}, 0 < after.queue.occurs buildId priority →
      ∃ row, after.builds.getBuild buildId = some row) : AttributedTo owner after := by
  obtain ⟨workers, connections, issued⟩ := sessions
  constructor
  · rw [workers]
    exact attributed.worker
  · rw [connections]
    exact attributed.connection
  · exact held
  · exact stored
  · rw [issued]
    exact attributed.issued

theorem AttributedTo.congr
    (builds : after.builds = before.builds) (queue : after.queue = before.queue)
    (sessions : after.connections = before.connections ∧ after.issued = before.issued) :
    AttributedTo owner after := by
  refine attributed.reassign ⟨by rw [queue], sessions⟩ ?_ ?_
  · rw [builds, queue]
    exact attributed.held
  · rw [builds, queue]
    exact attributed.stored

theorem AttributedTo.update (buildId : BuildId)
    {change : BuildRow → BuildRow} (builds : after.builds = before.builds.update buildId change)
    (keeps : ∀ row, (change row).workerId = row.workerId)
    (sessions : after.queue.workers = before.queue.workers ∧
      after.connections = before.connections ∧ after.issued = before.issued)
    (active : ∀ {other build}, after.queue.active.get other = some build →
      before.queue.active.get other = some build)
    (waiting : ∀ other priority,
      after.queue.occurs other priority ≤ before.queue.occurs other priority) :
    AttributedTo owner after := by
  have kept : ∀ {other row}, before.builds.getBuild other = some row →
      ∃ row', after.builds.getBuild other = some row' ∧ row'.workerId = row.workerId := by
    intro other row found
    rw [builds, BuildsTable.getBuild_update, found]
    split_ifs
    · exact ⟨_, rfl, keeps row⟩
    · exact ⟨_, rfl, rfl⟩
  refine attributed.reassign sessions ?_ ?_
  · intro other build isActive
    obtain ⟨row, registeredWorkerId, found, isWorker, isOwner⟩ := attributed.held (active isActive)
    obtain ⟨row', found', same⟩ := kept found
    exact ⟨row', registeredWorkerId, found', same.trans isWorker, isOwner⟩
  · intro other priority waits
    obtain ⟨row, found⟩ := attributed.stored (waits.trans_le (waiting other priority))
    obtain ⟨row', found', -⟩ := kept found
    exact ⟨row', found'⟩

variable {buildId : BuildId}

theorem AttributedTo.modify {change : ActiveBuild → ActiveBuild} {keeps}
    (builds : after.builds = before.builds)
    (queue : after.queue =
      { before.queue with active := before.queue.active.modify buildId change keeps })
    (sessions : after.connections = before.connections ∧ after.issued = before.issued)
    (owned : ∀ {build}, before.queue.active.get buildId = some build →
      owner (change build).connectionId = owner build.connectionId) :
    AttributedTo owner after := by
  refine attributed.reassign ⟨by rw [queue], sessions⟩ ?_ ?_
  · intro other build isActive
    rw [builds]
    rw [queue, get_modify] at isActive
    split_ifs at isActive with same
    · subst same
      obtain ⟨old, isOld, rfl⟩ := Option.map_eq_some_iff.mp isActive
      rw [owned isOld]
      exact attributed.held isOld
    · exact attributed.held isActive
  · rw [builds, queue]
    exact attributed.stored

theorem AttributedTo.endedState (env : Env)
    (buildId : BuildId) (status : TerminalStatus) (reason : String) :
    AttributedTo owner (endedState env buildId status reason before) := by
  refine attributed.update buildId rfl (fun _ => rfl) ⟨rfl, rfl, rfl⟩ ?_ fun _ _ => le_rfl
  intro other build isActive
  simp only [Cbs.endedState, get_remove] at isActive
  split_ifs at isActive
  exact isActive

theorem AttributedTo.requeuedState (env : Env) {build : ActiveBuild}
    (active : before.queue.active.get buildId = some build) :
    AttributedTo owner (requeuedState env buildId build before) := by
  have sessions : (Cbs.requeuedState env buildId build before).queue.workers =
      before.queue.workers := BuildQueue.workers_enqueueFront ..
  obtain ⟨row, _, found, -⟩ := attributed.held active
  refine attributed.reassign ⟨sessions, rfl, rfl⟩ ?_ ?_
  · intro other otherBuild isActive
    simp only [Cbs.requeuedState, BuildQueue.active_enqueueFront, get_remove] at isActive
    split_ifs at isActive with same
    simp only [Cbs.requeuedState, BuildsTable.rollbackDispatchToQueued,
      BuildsTable.getBuild_update, same, if_false]
    exact attributed.held isActive
  · intro other priority waits
    simp only [Cbs.requeuedState, BuildsTable.rollbackDispatchToQueued,
      BuildsTable.getBuild_update]
    split_ifs with same
    · subst same
      simp [found]
    · simp only [Cbs.requeuedState, BuildQueue.occurs_enqueueFront, Ne.symm same, false_and,
        if_false] at waits
      exact attributed.stored waits

omit attributed

variable {env : Env} {connectionId : ConnectionId} {worker : WorkerState}

theorem connected_of_findIdleWorker {queue : BuildQueue} {rank : ConnectionId → Nat} {arch : Arch}
    (chosen : queue.findIdleWorker rank arch = some ⟨connectionId, worker⟩) :
    queue.workers.lookup connectionId = some worker ∧ worker.isDispatchEligible = true ∧
      ∀ buildId build, queue.active.get buildId = some build →
        build.connectionId ≠ connectionId := by
  have eligible := List.find?_some chosen
  simp only [Bool.and_eq_true, Bool.not_eq_true', ← Bool.not_eq_true, anyOf_iff]
    at eligible
  refine ⟨Dictionary.mem_traverse.mp (List.mem_of_find?_eq_some chosen), eligible.1.1, ?_⟩
  intro buildId build active owned
  exact eligible.2 ⟨buildId, build, active, owned⟩

theorem registeredWorkerId_of_eligible (eligible : worker.isDispatchEligible = true) :
    ∃ identity, worker.registeredWorkerId = some identity := by
  cases worker <;> first
    | exact ⟨_, rfl⟩
    | exact absurd eligible (by simp [WorkerState.isDispatchEligible])

theorem AttributedTo.dispatchedState (attributed : AttributedTo owner before)
    {build : QueuedBuild} {rest : BuildQueue}
    (popped : before.queue.nextPending = some (build, rest))
    (chosen : rest.findIdleWorker env.workerRank build.descriptor.build.arch =
      some ⟨connectionId, worker⟩) :
    AttributedTo owner (dispatchedState env before build rest connectionId worker) := by
  obtain ⟨isWorker, eligible, -⟩ := connected_of_findIdleWorker chosen
  obtain ⟨identity, isIdentity⟩ := registeredWorkerId_of_eligible eligible
  have sameWorkers := BuildQueue.workers_of_nextPending popped
  have sameActive := BuildQueue.active_of_nextPending popped
  rw [sameWorkers] at isWorker
  have waited : 0 < before.queue.occurs build.buildId build.priority := by
    simp [BuildQueue.occurs_of_nextPending popped]
  obtain ⟨row, found⟩ := attributed.stored waited
  have rows : ∀ other,
      (Cbs.dispatchedState env before build rest connectionId worker).builds.getBuild other =
        if other = build.buildId then
          some { row with
            state := .dispatched, traceId := some env.traceId, workerId := some identity }
        else before.builds.getBuild other := by
    intro other
    simp only [Cbs.dispatchedState, BuildsTable.setBuildDispatched, BuildsTable.getBuild_update,
      isIdentity, Option.getD_some]
    split_ifs with same
    · simp [same, found]
    · rfl
  refine attributed.reassign ⟨sameWorkers, rfl, rfl⟩ ?_ ?_
  · intro other active isActive
    rw [rows]
    simp only [Cbs.dispatchedState, get_insert, sameActive, dispatchedBuild] at isActive
    split_ifs at isActive ⊢
    · cases isActive
      exact ⟨_, identity, rfl, rfl, attributed.worker isWorker isIdentity⟩
    · exact attributed.held isActive
  · intro other priority waits
    rw [rows]
    split_ifs
    · exact ⟨_, rfl⟩
    · have waited : 0 < before.queue.occurs other priority := by
        rw [BuildQueue.occurs_of_nextPending popped]
        exact Nat.lt_of_lt_of_le waits (Nat.le_add_right ..)
      exact attributed.stored waited

/-- The older connection found at a hello belongs to the same worker. -/
theorem registered_of_findOlderConnection {queue : BuildQueue} {rank : ConnectionId → Nat}
    {older : ConnectionId} {registeredWorkerId : WorkerId}
    (found : queue.findOlderConnection rank connectionId registeredWorkerId =
      some ⟨older, worker⟩) :
    queue.workers.lookup older = some worker ∧
      worker.registeredWorkerId = some registeredWorkerId := by
  have isMatch := List.find?_some found
  simp only [Bool.and_eq_true, decide_eq_true_eq] at isMatch
  exact ⟨Dictionary.mem_traverse.mp (List.mem_of_find?_eq_some found), isMatch.1⟩

variable (attributed : AttributedTo owner before)

include attributed

theorem AttributedTo.registeredState (env : Env)
    (hello : Hello) (fresh : connectionId ∉ before.issued) :
    AttributedTo (Function.update owner connectionId (some hello.connection.registeredWorkerId))
      (registeredState env connectionId hello before) := by
  have elsewhere : ∀ {other registeredWorkerId}, owner other = some registeredWorkerId →
      Function.update owner connectionId (some hello.connection.registeredWorkerId) other =
        some registeredWorkerId := by
    intro other registeredWorkerId isOwner
    rw [Function.update_of_ne, isOwner]
    rintro rfl
    exact fresh (attributed.issued isOwner)
  have here : Function.update owner connectionId (some hello.connection.registeredWorkerId)
      connectionId = some hello.connection.registeredWorkerId := Function.update_self ..
  have workers : ∀ {other worker}, other ≠ connectionId →
      (Cbs.registeredState env connectionId hello before).queue.workers.lookup other = some worker →
      before.queue.workers.lookup other = some worker := by
    intro other worker different
    simp only [Cbs.registeredState, migrateAndRegister]
    split
    · simp [BuildQueue.registerWorker, different]
    · simp only [BuildQueue.registerWorker, BuildQueue.migrate, Dictionary.lookup_insert_eq,
        Dictionary.lookup_erase_eq, different, if_false]
      split_ifs
      · simp
      · exact id
  constructor
  · intro other worker registeredWorkerId found isWorker
    by_cases same : other = connectionId
    · subst same
      rw [lookup_registeredState] at found
      cases found
      cases isWorker
      exact here
    · exact elsewhere (attributed.worker (workers same found) isWorker)
  · intro other connection isOpen
    exact elsewhere (attributed.connection isOpen)
  · intro buildId build isActive
    simp only [Cbs.registeredState, migrateAndRegister] at isActive
    split at isActive
    · obtain ⟨row, registeredWorkerId, found, isWorker, isOwner⟩ := attributed.held isActive
      exact ⟨row, registeredWorkerId, found, isWorker, elsewhere isOwner⟩
    · rename_i older worker isOlder
      obtain ⟨isRegistered, isWorker⟩ := registered_of_findOlderConnection isOlder
      simp only [BuildQueue.registerWorker, BuildQueue.migrate, get_modifyAll]
        at isActive
      obtain ⟨old, isOld, rfl⟩ := Option.map_eq_some_iff.mp isActive
      obtain ⟨row, registeredWorkerId, found, isRecorded, isOwner⟩ := attributed.held isOld
      refine ⟨row, registeredWorkerId, found, isRecorded, ?_⟩
      split_ifs with moved
      · rw [moved, attributed.worker isRegistered isWorker] at isOwner
        rw [← Option.some.inj isOwner]
        exact here
      · exact elsewhere isOwner
  · intro buildId priority waits
    refine attributed.stored (?_ : 0 < before.queue.occurs buildId priority)
    simp only [Cbs.registeredState, migrateAndRegister] at waits
    split at waits <;> exact waits
  · intro other registeredWorkerId isOwner
    simp only [Cbs.registeredState, Finset.mem_insert]
    by_cases same : other = connectionId
    · exact Or.inl same
    · rw [Function.update_of_ne same] at isOwner
      exact Or.inr (attributed.issued isOwner)

theorem AttributedTo.setWorkerState
    (known : ∀ {registeredWorkerId}, worker.registeredWorkerId = some registeredWorkerId →
      owner connectionId = some registeredWorkerId) :
    AttributedTo owner { before with
      queue := before.queue.setWorkerState connectionId worker } := by
  refine ⟨?_, attributed.connection, attributed.held, attributed.stored, attributed.issued⟩
  intro other found registeredWorkerId isFound isWorker
  simp only [BuildQueue.setWorkerState, Dictionary.lookup_modify] at isFound
  split_ifs at isFound with same
  · subst same
    obtain ⟨_, -, rfl⟩ := Option.map_eq_some_iff.mp isFound
    exact known isWorker
  · exact attributed.worker isFound isWorker

theorem AttributedTo.submittedState (env : Env)
    (submission : Submission) : AttributedTo owner (submittedState env submission before) := by
  have rows : ∀ {other row}, before.builds.getBuild other = some row →
      (Cbs.submittedState env submission before).builds.getBuild other = some row := by
    intro other row found
    rw [← found]
    refine BuildsTable.getBuild_insertBuild _ _ _ _ _ _ _ _ _ ?_
    rintro rfl
    rw [BuildsTable.getBuild_nextId] at found
    cases found
  refine attributed.reassign ⟨BuildQueue.workers_enqueue .., rfl, rfl⟩ ?_ ?_
  · intro other build isActive
    simp only [Cbs.submittedState, BuildQueue.active_enqueue] at isActive
    obtain ⟨row, registeredWorkerId, found, isWorker, isOwner⟩ := attributed.held isActive
    exact ⟨row, registeredWorkerId, rows found, isWorker, isOwner⟩
  · intro other priority waits
    by_cases same : other = before.builds.nextId
    · subst same
      exact ⟨_, AList.lookup_insert _⟩
    · simp only [Cbs.submittedState, BuildQueue.occurs_enqueue, Ne.symm same, false_and,
        if_false] at waits
      obtain ⟨row, found⟩ := attributed.stored waits
      exact ⟨row, rows found⟩

theorem AttributedTo.of_outcome
    {result : Except DispatchError Unit} (outcome : DispatchOutcome env before after result) :
    AttributedTo owner after := by
  have sessions := outcome.sessions_eq
  cases outcome with
  | nothing => exact attributed
  | statementFailed popped =>
    refine attributed.reassign sessions ?_ ?_
    · rw [BuildQueue.active_of_nextPending popped]
      exact attributed.held
    · intro buildId priority waits
      refine attributed.stored (?_ : 0 < before.queue.occurs buildId priority)
      rw [BuildQueue.occurs_of_nextPending popped]
      exact Nat.lt_of_lt_of_le waits (Nat.le_add_right ..)
  | packFailed popped chosen => exact (attributed.dispatchedState popped chosen).endedState ..
  | @sendFailed build rest connectionId worker tarball reason packed popped chosen =>
    have framed : AttributedTo owner
        (framedState env before build rest connectionId worker tarball) :=
      (attributed.dispatchedState popped chosen).congr rfl rfl ⟨rfl, rfl⟩
    exact framed.requeuedState env (get_dispatchedState env before build rest connectionId worker)
  | sent packed popped chosen =>
    exact (attributed.dispatchedState popped chosen).congr rfl rfl ⟨rfl, rfl⟩

end Attribution

variable {deed : Deed} {before after : AppState}

theorem Change.attributed
    (attributed : Attributed before) (change : Change deed before after) : Attributed after := by
  obtain ⟨owner, attributed⟩ := attributed
  have moved : ∀ {buildId build row connectionId connection},
      before.queue.active.get buildId = some build →
      before.connections.lookup connectionId = some connection →
      before.builds.getBuild buildId = some row →
      row.workerId = some connection.registeredWorkerId →
      owner connectionId = owner build.connectionId := by
    intro buildId build row connectionId connection isActive isOpen found assigned
    obtain ⟨stored, registeredWorkerId, isStored, isWorker, isOwner⟩ := attributed.held isActive
    cases isStored.symm.trans found
    rw [attributed.connection isOpen, isOwner, ← assigned, ← isWorker]
  have removed : ∀ {buildId other build},
      (before.queue.active.remove buildId).get other = some build →
      before.queue.active.get other = some build := by
    intro buildId other build isActive
    rw [get_remove] at isActive
    split_ifs at isActive
    exact isActive
  cases change with
  | claim active => exact ⟨owner, attributed.modify rfl rfl ⟨rfl, rfl⟩ fun _ => rfl⟩
  | attachReceived active isOpen found assigned | attach isOpen found assigned =>
    exact ⟨owner, attributed.modify rfl rfl ⟨rfl, rfl⟩ fun isActive =>
      moved isActive isOpen found assigned⟩
  | start =>
    exact ⟨owner, attributed.update _ rfl (fun _ => rfl) ⟨rfl, rfl, rfl⟩ id fun _ _ => le_rfl⟩
  | finish =>
    exact ⟨owner, attributed.update _ rfl (fun _ => rfl) ⟨rfl, rfl, rfl⟩ removed
      fun _ _ => le_rfl⟩
  | requeue env active => exact ⟨owner, attributed.requeuedState env active⟩
  | release idle =>
    exact ⟨owner, attributed.reassign ⟨rfl, rfl, rfl⟩
      (fun isActive => attributed.held (removed isActive)) attributed.stored⟩
  | revoke active =>
    exact ⟨owner, attributed.update _ rfl (fun _ => rfl) ⟨rfl, rfl, rfl⟩ id fun _ _ => le_rfl⟩
  | withdraw found queued =>
    refine ⟨owner, attributed.update _ rfl (fun _ => rfl)
      ⟨BuildQueue.workers_removeById .., rfl, rfl⟩ ?_ fun _ _ => ?_⟩
    · intro other build isActive
      rwa [BuildQueue.active_removeById] at isActive
    · exact BuildQueue.occurs_removeById_le ..
  | submit env submission => exact ⟨owner, attributed.submittedState env submission⟩
  | dispatch outcome => exact ⟨owner, attributed.of_outcome outcome⟩
  | restand known down =>
    refine ⟨owner, attributed.setWorkerState fun {registeredWorkerId} isWorker => ?_⟩
    rcases known registeredWorkerId isWorker with ⟨connection, isOpen, rfl⟩ | ⟨old, isOld, same⟩
    · exact attributed.connection isOpen
    · exact attributed.worker isOld same
  | register env hello fresh => exact ⟨_, attributed.registeredState env hello fresh⟩
  | welcome registered known plugged =>
    refine ⟨owner, attributed.worker, ?_, attributed.held, attributed.stored, attributed.issued⟩
    intro other connection isOpen
    rw [Dictionary.lookup_insert_eq] at isOpen
    split_ifs at isOpen with same
    · subst same
      cases isOpen
      exact attributed.worker registered known
    · exact attributed.connection isOpen
  | close isOpen known down =>
    have closed := attributed.setWorkerState fun {registeredWorkerId} isWorker =>
      (attributed.connection isOpen).trans (congrArg some (known registeredWorkerId isWorker))
    refine ⟨owner, closed.worker, ?_, closed.held, closed.stored, closed.issued⟩
    intro other connection isOpenOther
    rw [Dictionary.lookup_erase_eq] at isOpenOther
    split_ifs at isOpenOther
    exact attributed.connection isOpenOther
  | _ => exact ⟨owner, attributed.congr rfl rfl ⟨rfl, rfl⟩⟩

section Active

variable {env : Env} {result : Except DispatchError Unit} {buildId : BuildId} {build : ActiveBuild}

theorem DispatchOutcome.nextToken_le (outcome : DispatchOutcome env before after result) :
    before.nextToken ≤ after.nextToken := by
  cases outcome with
  | nothing | statementFailed => exact le_rfl
  | packFailed | sendFailed | sent => exact Nat.le_succ _

/-- After a dispatch attempt, an active build was active before, or it has just been dispatched. -/
theorem DispatchOutcome.active_cases (outcome : DispatchOutcome env before after result)
    (isActive : after.queue.active.get buildId = some build) :
    before.queue.active.get buildId = some build ∨
      after.nextToken = before.nextToken + 1 ∧ build.ackCancel = before.nextToken ∧
      ∃ queued rest worker, before.queue.nextPending = some (queued, rest) ∧
        rest.findIdleWorker env.workerRank queued.descriptor.build.arch =
          some ⟨build.connectionId, worker⟩ ∧ buildId = queued.buildId := by
  have dispatched : ∀ {queued rest connectionId worker},
      before.queue.nextPending = some (queued, rest) →
      (dispatchedState env before queued rest connectionId worker).queue.active.get buildId =
        if buildId = queued.buildId then
          some (dispatchedBuild env queued connectionId before.nextToken)
        else before.queue.active.get buildId := by
    intro queued rest connectionId worker popped
    simp only [dispatchedState, get_insert, BuildQueue.active_of_nextPending popped]
    rfl
  cases outcome with
  | nothing => exact Or.inl isActive
  | statementFailed popped =>
    rw [BuildQueue.active_of_nextPending popped] at isActive
    exact Or.inl isActive
  | packFailed popped =>
    simp only [endedState, get_remove] at isActive
    split_ifs at isActive with same
    rw [dispatched popped, if_neg same] at isActive
    exact Or.inl isActive
  | sendFailed packed popped =>
    simp only [requeuedState, BuildQueue.active_enqueueFront, get_remove, framedState] at isActive
    split_ifs at isActive with same
    rw [dispatched popped, if_neg same] at isActive
    exact Or.inl isActive
  | @sent queued rest connectionId worker tarball packed popped chosen =>
    simp only [framedState] at isActive
    rw [dispatched popped] at isActive
    split_ifs at isActive with same
    · cases isActive
      exact Or.inr ⟨rfl, rfl, queued, rest, worker, popped, chosen, same⟩
    · exact Or.inl isActive

/-- The deed gives active builds to other connections. -/
def Deed.Moves : Deed → Prop
  | attach _ | register _ => True
  | _ => False

/-- After any other change, an active build was active before, with the same token, and the same
connection unless it is moved. -/
theorem Change.old_of_active (change : Change deed before after) (undispatched : deed ≠ .dispatch)
    (isActive : after.queue.active.get buildId = some build) :
    ∃ old, before.queue.active.get buildId = some old ∧ build.ackCancel = old.ackCancel ∧
      (¬ deed.Moves → build.connectionId = old.connectionId) := by
  have modified : ∀ {other : BuildId} {edit : ActiveBuild → ActiveBuild} {keeps},
      after.queue = { before.queue with
        active := before.queue.active.modify other edit keeps } →
      (∀ old, (edit old).ackCancel = old.ackCancel ∧
        (¬ deed.Moves → (edit old).connectionId = old.connectionId)) →
      ∃ old, before.queue.active.get buildId = some old ∧ build.ackCancel = old.ackCancel ∧
        (¬ deed.Moves → build.connectionId = old.connectionId) := by
    intro other edit keeps isQueue same
    rw [isQueue, get_modify] at isActive
    split_ifs at isActive
    · obtain ⟨old, isOld, rfl⟩ := Option.map_eq_some_iff.mp isActive
      exact ⟨old, isOld, same old⟩
    · exact ⟨build, isActive, rfl, fun _ => rfl⟩
  have removed : ∀ {other : BuildId}, (before.queue.active.remove other).get buildId = some build →
      ∃ old, before.queue.active.get buildId = some old ∧ build.ackCancel = old.ackCancel ∧
        (¬ deed.Moves → build.connectionId = old.connectionId) := by
    intro other isLeft
    rw [get_remove] at isLeft
    split_ifs at isLeft
    exact ⟨build, isLeft, rfl, fun _ => rfl⟩
  cases change with
  | claim => exact modified rfl fun _ => ⟨rfl, fun _ => rfl⟩
  | attachReceived | attach =>
    exact modified rfl fun _ => ⟨rfl, fun stays => absurd trivial stays⟩
  | finish => exact removed isActive
  | requeue =>
    rw [requeuedState, BuildQueue.active_enqueueFront] at isActive
    exact removed isActive
  | release => exact removed isActive
  | withdraw =>
    rw [BuildQueue.active_removeById] at isActive
    exact ⟨build, isActive, rfl, fun _ => rfl⟩
  | submit =>
    rw [submittedState, BuildQueue.active_enqueue] at isActive
    exact ⟨build, isActive, rfl, fun _ => rfl⟩
  | register env hello fresh =>
    simp only [registeredState, migrateAndRegister] at isActive
    split at isActive
    · exact ⟨build, isActive, rfl, fun _ => rfl⟩
    · simp only [BuildQueue.registerWorker, BuildQueue.migrate, get_modifyAll]
        at isActive
      obtain ⟨old, isOld, rfl⟩ := Option.map_eq_some_iff.mp isActive
      refine ⟨old, isOld, ?_, fun stays => absurd trivial stays⟩
      split_ifs <;> rfl
  | dispatch => exact absurd rfl undispatched
  | _ => exact ⟨build, isActive, rfl, fun _ => rfl⟩

end Active

/-- The dispatch-ack timers of active builds have different tokens, and none of them is the next
one. -/
structure Tokened (state : AppState) : Prop where
  used : ∀ {buildId build}, state.queue.active.get buildId = some build →
    build.ackCancel < state.nextToken
  distinct : ∀ {first second firstBuild secondBuild},
    state.queue.active.get first = some firstBuild →
    state.queue.active.get second = some secondBuild →
    firstBuild.ackCancel = secondBuild.ackCancel → first = second

theorem Change.tokened (tokened : Tokened before)
    (change : Change deed before after) : Tokened after := by
  by_cases dispatches : deed = .dispatch
  · subst dispatches
    cases change with
    | dispatch outcome =>
      have grows := outcome.nextToken_le
      constructor
      · intro buildId build isActive
        rcases outcome.active_cases isActive with isOld | ⟨next, isNext, -⟩
        · have used := tokened.used isOld
          omega
        · omega
      · intro first second firstBuild secondBuild isFirst isSecond same
        rcases outcome.active_cases isFirst with
            oldFirst | ⟨-, nextFirst, _, _, _, popped, -, rfl⟩ <;>
          rcases outcome.active_cases isSecond with
            oldSecond | ⟨-, nextSecond, _, _, _, poppedToo, -, rfl⟩
        · exact tokened.distinct oldFirst oldSecond same
        · have used := tokened.used oldFirst
          omega
        · have used := tokened.used oldSecond
          omega
        · cases popped.symm.trans poppedToo
          rfl
  · have next : after.nextToken = before.nextToken := by
      cases change with
      | dispatch => exact absurd rfl dispatches
      | _ => rfl
    constructor
    · intro buildId build isActive
      obtain ⟨old, isOld, same, -⟩ := change.old_of_active dispatches isActive
      rw [next, same]
      exact tokened.used isOld
    · intro first second firstBuild secondBuild isFirst isSecond sameToken
      obtain ⟨old, isOld, same, -⟩ := change.old_of_active dispatches isFirst
      obtain ⟨other, isOther, sameOther, -⟩ := change.old_of_active dispatches isSecond
      exact tokened.distinct isOld isOther (same.symm.trans (sameToken.trans sameOther))

/-- What recovery does not touch: the assignments, the workers and the connections. -/
def sessionsOf (state : AppState) :
    ActiveMap × Dictionary ConnectionId WorkerState × Dictionary ConnectionId Connection :=
  (state.queue.active, state.queue.workers, state.connections)

theorem sessionsOf_foldl (step : AppState → (Sigma fun _ : BuildId => BuildRow) → AppState)
    (same : ∀ state entry, sessionsOf (step state entry) = sessionsOf state)
    (entries : List (Sigma fun _ : BuildId => BuildRow)) (state : AppState) :
    sessionsOf (entries.foldl step state) = sessionsOf state := by
  induction entries generalizing state with
  | nil => rfl
  | cons entry entries ih => rw [List.foldl_cons, ih, same]

theorem sessionsOf_requeueRow (env : Env) (state : AppState)
    (entry : Sigma fun _ : BuildId => BuildRow) :
    sessionsOf (requeueRow env state entry) = sessionsOf state := by
  unfold requeueRow
  split
  · rfl
  · simp [sessionsOf]

theorem sessionsOf_finalizeBuilds (env : Env) (states : List BuildState)
    (change : BuildRow → BuildRow) (state : AppState) :
    sessionsOf (finalizeBuilds env states change state) = sessionsOf state :=
  sessionsOf_foldl (finalizeRow env change) (fun _ _ => rfl) _ state

theorem sessionsOf_runStartupRecovery (env : Env) (state : AppState) :
    sessionsOf (runStartupRecovery env state) = sessionsOf state := by
  have requeued : sessionsOf (requeueBuilds env (finalizeInFlight env state)) =
      sessionsOf (finalizeInFlight env state) :=
    sessionsOf_foldl (requeueRow env) (sessionsOf_requeueRow env) _ _
  have finalized : sessionsOf (finalizeInFlight env state) = sessionsOf state := by
    rw [finalizeInFlight, sessionsOf_finalizeBuilds, sessionsOf_finalizeBuilds]
  rw [← finalized, ← requeued]
  simp only [runStartupRecovery, sessionsOf]

theorem sessions_runStartupRecovery (env : Env) (builds : BuildsTable)
    (buildLogs : BuildLogsTable) (logFiles : Dictionary BuildId String) :
    (runStartupRecovery env (.boot builds buildLogs logFiles)).queue.active = .empty ∧
      (runStartupRecovery env (.boot builds buildLogs logFiles)).queue.workers = ∅ ∧
      (runStartupRecovery env (.boot builds buildLogs logFiles)).connections = ∅ := by
  have sessions := sessionsOf_runStartupRecovery env (.boot builds buildLogs logFiles)
  simpa [sessionsOf, AppState.boot, BuildQueue.new] using sessions

theorem fresh_runStartupRecovery (env : Env) (builds : BuildsTable) (buildLogs : BuildLogsTable)
    (logFiles : Dictionary BuildId String) :
    Attributed (runStartupRecovery env (.boot builds buildLogs logFiles)) ∧
      Tokened (runStartupRecovery env (.boot builds buildLogs logFiles)) := by
  have empty : (AppState.boot builds buildLogs logFiles).queue = .new := rfl
  have atRest := atRest_runStartupRecovery False (fun _ => False) env empty
  obtain ⟨active, workers, connections⟩ :=
    sessions_runStartupRecovery env builds buildLogs logFiles
  generalize runStartupRecovery env (.boot builds buildLogs logFiles) = state
    at atRest active workers connections ⊢
  refine ⟨⟨fun _ => none, ?_, ?_, ?_, ?_, ?_⟩, ?_, ?_⟩
  · simp [workers]
  · simp [connections]
  · simp [active]
  · intro buildId priority waits
    have queued := (atRest buildId).queued_of_waiting waits
    obtain ⟨row, found, -⟩ := Option.map_eq_some_iff.mp queued
    exact ⟨row, found⟩
  · simp
  · simp [active]
  · simp [active]

variable {state : AppState}

theorem Attributed.issued (attributed : Attributed state)
    (connectionId : ConnectionId) (isOpen : connectionId ∈ state.connections) :
    connectionId ∈ state.issued := by
  obtain ⟨owner, attributed⟩ := attributed
  obtain ⟨connection, found⟩ := Option.isSome_iff_exists.mp (AList.lookup_isSome.mpr isOpen)
  exact attributed.issued (attributed.connection found)

variable {admits : Env → Operation → Prop} (reachable : ReachableBy admits state)

include reachable

theorem attributed_of_reachable : Attributed state := by
  induction reachable with
  | start env logFiles =>
    exact (fresh_runStartupRecovery env _ _ logFiles).1
  | step _ env operation enabled _ ih =>
    exact (chain_exec env enabled ih.issued).invariant ih fun holds _ change =>
      change.attributed holds
  | restarted _ env _ => exact (fresh_runStartupRecovery env _ _ _).1

theorem chain_exec_of_reachable (env : Env) {operation : Operation}
    (enabled : operation.Enabled state) :
    Chain (operation.Performs state) state (operation.exec env state) :=
  chain_exec env enabled (attributed_of_reachable reachable).issued

/-- What every change keeps and every start establishes holds in every reachable state. -/
theorem invariant_of_reachable {invariant : AppState → Prop}
    (initially : ∀ env builds buildLogs logFiles,
      invariant (runStartupRecovery env (.boot builds buildLogs logFiles)))
    (kept : ∀ {deed before after}, Attributed before → invariant before →
      Change deed before after → invariant after) : invariant state := by
  induction reachable with
  | start env logFiles => exact initially env _ _ logFiles
  | step reachable env operation enabled _ ih =>
    have chain := chain_exec_of_reachable reachable env enabled
    let both : AppState → Prop := fun state => Attributed state ∧ invariant state
    have holds : both _ := ⟨attributed_of_reachable reachable, ih⟩
    have kept : both (operation.exec env _) := chain.invariant holds fun holds _ change =>
      ⟨change.attributed holds.1, kept holds.1 holds.2 change⟩
    exact kept.2
  | restarted _ env _ => exact initially env _ _ _

theorem tokened_of_reachable : Tokened state :=
  invariant_of_reachable reachable
    (fun env builds buildLogs logFiles =>
      (fresh_runStartupRecovery env builds buildLogs logFiles).2) fun _ => Change.tokened

omit reachable

/-- An open connection that is registered has its channel. -/
def Plugged (state : AppState) : Prop :=
  ∀ connectionId ∈ state.connections, connectionId ∈ state.queue.workers →
    connectionId ∈ state.workerSenders

theorem mem_workerSenders_deliver {connectionId other : ConnectionId} {frames : List Frame} :
    other ∈ (state.deliver connectionId frames).workerSenders ↔ other ∈ state.workerSenders :=
  Dictionary.mem_modify

theorem DispatchOutcome.mem_workerSenders (outcome : DispatchOutcome env before after result)
    (connectionId : ConnectionId) :
    connectionId ∈ after.workerSenders ↔ connectionId ∈ before.workerSenders := by
  have sent : ∀ info tarball (state : AppState),
      connectionId ∈ (sendFrames env info tarball state).1.workerSenders ↔
        connectionId ∈ state.workerSenders := by
    intro info tarball state
    unfold sendFrames
    repeat' split
    all_goals first | exact Iff.rfl | exact mem_workerSenders_deliver
  cases outcome with
  | nothing | statementFailed | packFailed => exact Iff.rfl
  | sendFailed | sent => exact sent ..

theorem Change.plugged (attributed : Attributed before)
    (plugged : Plugged before) (change : Change deed before after) : Plugged after := by
  cases change with
  | tell connectionId messages harmless =>
    intro other isOpen registered
    exact mem_workerSenders_deliver.mpr (plugged other isOpen registered)
  | plug connectionId =>
    intro other isOpen registered
    exact (AList.mem_insert _).mpr (Or.inr (plugged other isOpen registered))
  | unplug _ retired =>
    intro other isOpen registered
    refine AList.mem_erase.mpr ⟨?_, plugged other isOpen registered⟩
    rintro rfl
    rcases retired with isClosed | superseded
    · exact isClosed isOpen
    · exact superseded registered
  | dispatch outcome =>
    intro other isOpen registered
    obtain ⟨workers, connections, -⟩ := outcome.sessions_eq
    rw [connections] at isOpen
    rw [workers] at registered
    exact (outcome.mem_workerSenders other).mpr (plugged other isOpen registered)
  | requeue env active =>
    intro other isOpen registered
    rw [requeuedState, BuildQueue.workers_enqueueFront] at registered
    exact plugged other isOpen registered
  | withdraw =>
    intro other isOpen registered
    rw [BuildQueue.workers_removeById] at registered
    exact plugged other isOpen registered
  | submit =>
    intro other isOpen registered
    rw [submittedState, BuildQueue.workers_enqueue] at registered
    exact plugged other isOpen registered
  | @register env _ newId hello fresh =>
    intro other isOpen registered
    refine plugged other isOpen ?_
    have different : other ≠ newId := by
      rintro rfl
      exact fresh (attributed.issued other isOpen)
    simp only [registeredState, migrateAndRegister] at registered
    split at registered
    · exact ((AList.mem_insert _).mp registered).resolve_left different
    · exact (AList.mem_erase.mp (((AList.mem_insert _).mp registered).resolve_left different)).2
  | welcome isRegistered known isPlugged =>
    intro other isOpen registered
    rcases (AList.mem_insert _).mp isOpen with rfl | isOpen
    · exact isPlugged
    · exact plugged other isOpen registered
  | restand known down =>
    intro other isOpen registered
    exact plugged other isOpen (Dictionary.mem_modify.mp registered)
  | close wasOpen known down =>
    intro other isOpen registered
    exact plugged other (AList.mem_erase.mp isOpen).2 (Dictionary.mem_modify.mp registered)
  | _ => exact plugged

theorem plugged_of_reachable (reachable : ReachableBy admits state) : Plugged state := by
  refine invariant_of_reachable reachable (fun env builds buildLogs logFiles => ?_)
    fun attributed plugged change => change.plugged attributed plugged
  obtain ⟨-, -, connections⟩ := sessions_runStartupRecovery env builds buildLogs logFiles
  intro other isOpen
  rw [connections] at isOpen
  exact absurd isOpen (AList.notMem_empty other)

/-- Whatever fails, connections belong to the workers that are stored with the builds they hold, no
two assignments share a timer, and registered open connections have their channels. -/
theorem sessions_sound (reachable : ReachableBy admits state) :
    Attributed state ∧ Tokened state ∧ Plugged state :=
  ⟨attributed_of_reachable reachable, tokened_of_reachable reachable,
    plugged_of_reachable reachable⟩

theorem sessions_sound_executing :
    Attributed executingServer ∧ Tokened executingServer ∧ Plugged executingServer :=
  sessions_sound reachable_executingServer

end Cbs

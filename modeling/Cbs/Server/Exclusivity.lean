import Cbs.Library.Triple
import Cbs.Server.Attribution

/-!
# Exclusive assignment

Along every run without a stale claim, a connection holds at most one build, and belongs to the
registered worker that is stored with the build.  A stale claim always breaks this.
-/

namespace Cbs

open Concurrency

/-- Assignments are exclusive, and their two records agree. -/
structure ConsistentAssignment (state : AppState) : Prop where
  exclusive : ∀ first second firstBuild secondBuild,
    state.queue.active.get first = some firstBuild →
    state.queue.active.get second = some secondBuild →
    firstBuild.connectionId = secondBuild.connectionId → first = second
  /-- The connection of an active build is registered, is not dead, and belongs to the worker that
  is stored with the build. -/
  owned : ∀ buildId build, state.queue.active.get buildId = some build →
    ∃ worker row registeredWorkerId,
      state.queue.workers.lookup build.connectionId = some worker ∧ worker ≠ .dead ∧
        worker.registeredWorkerId = some registeredWorkerId ∧
        state.builds.getBuild buildId = some row ∧ row.workerId = some registeredWorkerId

/-- A connection holds at most one build, a worker has at most one connection, and whoever holds a
build is registered for its worker or exempt. -/
structure SoundSessions (exempt : ConnectionId → Prop) (state : AppState) : Prop where
  exclusive : ∀ {first second firstBuild secondBuild},
    state.queue.active.get first = some firstBuild →
    state.queue.active.get second = some secondBuild →
    firstBuild.connectionId = secondBuild.connectionId → first = second
  alive : ∀ {buildId build}, state.queue.active.get buildId = some build →
    exempt build.connectionId ∨ ∃ worker registeredWorkerId,
      state.queue.workers.lookup build.connectionId = some worker ∧
        worker.registeredWorkerId = some registeredWorkerId
  unique : ∀ {first second worker other registeredWorkerId},
    state.queue.workers.lookup first = some worker →
    worker.registeredWorkerId = some registeredWorkerId →
    state.queue.workers.lookup second = some other →
    other.registeredWorkerId = some registeredWorkerId → first = second
  /-- The worker of an open connection is neither disconnected nor dead. -/
  live : ∀ {connectionId connection worker},
    state.connections.lookup connectionId = some connection →
    state.queue.workers.lookup connectionId = some worker →
    worker.isDisconnected = false ∧ worker ≠ .dead

/-- Nobody is exempt. -/
abbrev SoundState : AppState → Prop :=
  SoundSessions fun _ => False

section Sound

variable {exempt : ConnectionId → Prop} {before after state : AppState} {deed : Deed}
  {connectionId : ConnectionId} (sound : SoundSessions exempt before)

include sound

theorem SoundSessions.keep (workers : after.queue.workers = before.queue.workers)
    (connections : after.connections = before.connections)
    (kept : ∀ {buildId build}, after.queue.active.get buildId = some build →
      ∃ old, before.queue.active.get buildId = some old ∧
        build.connectionId = old.connectionId) : SoundSessions exempt after := by
  constructor
  · intro first second firstBuild secondBuild isFirst isSecond same
    obtain ⟨old, isOld, sameOld⟩ := kept isFirst
    obtain ⟨other, isOther, sameOther⟩ := kept isSecond
    exact sound.exclusive isOld isOther (sameOld.symm.trans (same.trans sameOther))
  · intro buildId build isActive
    obtain ⟨old, isOld, same⟩ := kept isActive
    rw [workers, same]
    exact sound.alive isOld
  · rw [workers]
    exact sound.unique
  · rw [workers, connections]
    exact sound.live

/-- A dispatch gives a build to a registered worker that holds none. -/
theorem SoundSessions.of_outcome {env : Env}
    {result : Except DispatchError Unit} (outcome : DispatchOutcome env before after result) :
    SoundSessions exempt after := by
  obtain ⟨workers, connections, -⟩ := outcome.sessions_eq
  constructor
  · intro first second firstBuild secondBuild isFirst isSecond same
    rcases outcome.active_cases isFirst with
      oldFirst | ⟨-, -, _, _, _, popped, chosen, rfl⟩ <;>
      rcases outcome.active_cases isSecond with
        oldSecond | ⟨-, -, _, _, _, poppedToo, chosenToo, rfl⟩
    · exact sound.exclusive oldFirst oldSecond same
    · rw [← BuildQueue.active_of_nextPending poppedToo] at oldFirst
      exact absurd same ((connected_of_findIdleWorker chosenToo).2.2 _ _ oldFirst)
    · rw [← BuildQueue.active_of_nextPending popped] at oldSecond
      exact absurd same.symm ((connected_of_findIdleWorker chosen).2.2 _ _ oldSecond)
    · cases popped.symm.trans poppedToo
      rfl
  · intro buildId build isActive
    rw [workers]
    rcases outcome.active_cases isActive with isOld | ⟨-, -, _, _, worker, popped, chosen, -⟩
    · exact sound.alive isOld
    · obtain ⟨isWorker, eligible, -⟩ := connected_of_findIdleWorker chosen
      obtain ⟨identity, isIdentity⟩ := registeredWorkerId_of_eligible eligible
      rw [BuildQueue.workers_of_nextPending popped] at isWorker
      exact Or.inr ⟨worker, identity, isWorker, isIdentity⟩
  · rw [workers]
    exact sound.unique
  · rw [workers, connections]
    exact sound.live

/-- Changes that neither are about connections nor move builds keep sessions sound. -/
theorem Change.soundSessions (change : Change deed before after) (unsessional : ¬ deed.IsSessional)
    (unmoved : ¬ deed.Moves) : SoundSessions exempt after := by
  by_cases dispatches : deed = .dispatch
  · subst dispatches
    cases change with
    | dispatch outcome => exact sound.of_outcome outcome
  · obtain ⟨workers, connections, -⟩ := change.sessions_eq unsessional
    refine sound.keep workers connections fun isActive => ?_
    obtain ⟨old, isOld, -, same⟩ := change.old_of_active dispatches isActive
    exact ⟨old, isOld, same unmoved⟩

theorem SoundSessions.of_chain
    {performs : Deed → AppState → Prop} (chain : Chain performs before after)
    (plain : ∀ {deed state}, performs deed state → ¬ deed.IsSessional ∧ ¬ deed.Moves) :
    SoundSessions exempt after := by
  refine chain.invariant sound fun holds permitted change => ?_
  rcases permitted with rfl | permitted
  · exact change.soundSessions holds id id
  · exact change.soundSessions holds (plain permitted).1 (plain permitted).2

omit sound

theorem Attributed.of_chain (attributed : Attributed before)
    {performs : Deed → AppState → Prop} (chain : Chain performs before after) :
    Attributed after :=
  chain.invariant attributed fun holds _ change => change.attributed holds

/-- A worker gets another state under the same identity, or it is given up and exempt. -/
theorem SoundSessions.setWorkerState {narrow : ConnectionId → Prop}
    (sound : SoundSessions narrow state) (worker : WorkerState)
    (narrower : ∀ other, narrow other → exempt other)
    (same : ∀ old, state.queue.workers.lookup connectionId = some old →
      worker.registeredWorkerId = old.registeredWorkerId ∨ worker = .dead ∧ exempt connectionId)
    (live : connectionId ∈ state.connections → worker.isDisconnected = false ∧ worker ≠ .dead) :
    SoundSessions exempt
      { state with queue := state.queue.setWorkerState connectionId worker } := by
  have found : ∀ {other now}, (state.queue.setWorkerState connectionId worker).workers.lookup
      other = some now → other = connectionId ∧ now = worker ∧
        (∃ old, state.queue.workers.lookup connectionId = some old) ∨
      other ≠ connectionId ∧ state.queue.workers.lookup other = some now := by
    intro other now isNow
    simp only [BuildQueue.setWorkerState, Dictionary.lookup_modify] at isNow
    split_ifs at isNow with isSame
    · subst isSame
      obtain ⟨old, isOld, rfl⟩ := Option.map_eq_some_iff.mp isNow
      exact Or.inl ⟨rfl, rfl, old, isOld⟩
    · exact Or.inr ⟨isSame, isNow⟩
  have spoke : ∀ {other now registeredWorkerId},
      (state.queue.setWorkerState connectionId worker).workers.lookup other = some now →
      now.registeredWorkerId = some registeredWorkerId →
      ∃ old, state.queue.workers.lookup other = some old ∧
        old.registeredWorkerId = some registeredWorkerId := by
    intro other now registeredWorkerId isNow isWorker
    rcases found isNow with ⟨rfl, rfl, old, isOld⟩ | ⟨-, isOld⟩
    · rcases same old isOld with sameIdentity | ⟨rfl, -⟩
      · exact ⟨old, isOld, sameIdentity.symm.trans isWorker⟩
      · cases isWorker
    · exact ⟨now, isOld, isWorker⟩
  constructor
  · exact sound.exclusive
  · intro buildId build isActive
    rcases sound.alive isActive with isExempt | ⟨old, registeredWorkerId, isOld, isWorker⟩
    · exact Or.inl (narrower _ isExempt)
    · simp only [BuildQueue.setWorkerState, Dictionary.lookup_modify]
      split_ifs with isSame
      · rw [isSame] at isOld ⊢
        rcases same old isOld with sameIdentity | ⟨-, isExempt⟩
        · exact Or.inr ⟨worker, registeredWorkerId, by simp [isOld], sameIdentity.trans isWorker⟩
        · exact Or.inl isExempt
      · exact Or.inr ⟨old, registeredWorkerId, isOld, isWorker⟩
  · intro first second firstWorker secondWorker registeredWorkerId isFirst firstIs isSecond secondIs
    obtain ⟨_, oldFirst, oldIs⟩ := spoke isFirst firstIs
    obtain ⟨_, oldSecond, otherIs⟩ := spoke isSecond secondIs
    exact sound.unique oldFirst oldIs oldSecond otherIs
  · intro other connection now isOpen isNow
    rcases found isNow with ⟨rfl, rfl, -⟩ | ⟨-, isOld⟩
    · exact live
        (AList.lookup_isSome.mp (by simp [show state.connections.lookup other = _ from isOpen]))
    · exact sound.live isOpen isOld

theorem get_resolveDeadBuild (env : Env) (buildId : BuildId) (receipt : ActiveAssignmentReceipt)
    (attributed : Attributed state) :
    ((resolveDeadBuild env buildId receipt).run state).1.queue.active.get buildId = none := by
  simp only [resolveDeadBuild, Routine.bind_eq, Routine.run_bind, Handler.getBuild,
    Routine.run_step]
  cases found : state.builds.getBuild buildId with
  | none =>
    obtain ⟨owner, attributed⟩ := attributed
    refine Option.eq_none_iff_forall_ne_some.mpr fun build isActive => ?_
    obtain ⟨row, _, isRow, -⟩ := attributed.held isActive
    cases found.symm.trans isRow
  | some row =>
    dsimp only
    cases deadWorkerResolution row.state receipt with
    | rollbackToQueued =>
      rw [Routine.run_bind]
      cases active : state.queue.active.get buildId with
      | none =>
        rw [run_rollbackActiveToQueued_of_vacant active]
        simp
      | some build =>
        rw [run_rollbackActiveToQueued_of_active active]
        simp [requeuedState]
    | fail reason | markRevoked reason => simp [endedState]
    | removeOnly => simp [Handler.lockFor]

structure Resolving (connectionId : ConnectionId)
    (remaining : List (BuildId × ActiveAssignmentReceipt)) (state : AppState) : Prop where
  attributed : Attributed state
  sound : SoundSessions (· = connectionId) state
  listed : ∀ buildId, state.Holds connectionId buildId → buildId ∈ remaining.map Prod.fst

theorem resolving_resolveDeadBuild (env : Env) (connectionId : ConnectionId)
    (assignment : BuildId × ActiveAssignmentReceipt)
    (remaining : List (BuildId × ActiveAssignmentReceipt)) :
    (resolveDeadBuild env assignment.1 assignment.2).Triple
      (Resolving connectionId (assignment :: remaining)) fun _ =>
        Resolving connectionId remaining := by
  rintro state ⟨attributed, sound, listed⟩
  let performs : Deed → AppState → Prop := fun deed _ => deed = .finish assignment.1 ∨
    deed = .requeue assignment.1 ∨ deed = .release assignment.1
  have chain : Chain performs state
      ((resolveDeadBuild env assignment.1 assignment.2).run state).1 :=
    chain_resolveDeadBuild env assignment.2 (fun _ => Or.inl rfl) (fun _ => Or.inr (Or.inl rfl))
      (Or.inr (Or.inr rfl))
  have held : ∀ buildId, ((resolveDeadBuild env assignment.1 assignment.2).run state).1.Holds
      connectionId buildId → state.Holds connectionId buildId := by
    let heldBefore : AppState → Prop := fun later =>
      ∀ buildId, later.Holds connectionId buildId → state.Holds connectionId buildId
    have initially : heldBefore state := fun _ => id
    refine chain.invariant initially fun {deed before after} holds permitted change => ?_
    rintro buildId ⟨build, isActive, rfl⟩
    have undispatched : deed ≠ .dispatch ∧ ¬ deed.Moves := by
      rcases permitted with rfl | rfl | rfl | rfl <;> exact ⟨by simp, id⟩
    obtain ⟨old, isOld, -, same⟩ := change.old_of_active undispatched.1 isActive
    exact holds buildId ⟨old, isOld, (same undispatched.2).symm⟩
  refine ⟨attributed.of_chain chain, sound.of_chain chain ?_, fun buildId holds => ?_⟩
  · rintro deed _ (rfl | rfl | rfl) <;> exact ⟨id, id⟩
  · have isListed := listed buildId (held buildId holds)
    rw [List.map_cons, List.mem_cons] at isListed
    rcases isListed with rfl | inside
    · obtain ⟨build, isActive, -⟩ := holds
      rw [get_resolveDeadBuild env _ _ attributed] at isActive
      cases isActive
    · exact inside

/-- Once the assignments of a given-up connection are resolved, nothing is exempt. -/
theorem sound_handleWorkerDead (env : Env) (connectionId : ConnectionId) :
    (handleWorkerDead env connectionId).Triple
      (fun state => Attributed state ∧ SoundSessions (· = connectionId) state)
      fun _ => SoundState := by
  have listed : (Handler.lock fun queue => (queue,
        queue.activeBuildsWithReceiptForConnection env.buildRank connectionId)).Triple
      (fun state => Attributed state ∧ SoundSessions (· = connectionId) state)
      (Resolving connectionId) := by
    rintro state ⟨attributed, sound⟩
    refine ⟨attributed, sound, ?_⟩
    rintro buildId ⟨build, isActive, isHolder⟩
    have filed := ActiveMap.buildId_of_get isActive
    refine List.mem_map.mpr ⟨(build.buildId, build.receipt), List.mem_map.mpr ⟨build, ?_, rfl⟩,
      filed⟩
    exact List.mem_filter.mpr ⟨ActiveMap.mem_values.mpr (filed ▸ isActive), by simpa using isHolder⟩
  refine listed.bind fun owned => ?_
  refine (Routine.triple_forM (Resolving connectionId)
    (resolving_resolveDeadBuild env connectionId) owned).bind fun _ => ?_
  rintro state ⟨attributed, sound, vacant⟩
  have settled : SoundState state := by
    refine ⟨sound.exclusive, fun {buildId build} isActive => ?_, sound.unique, sound.live⟩
    rcases sound.alive isActive with isExempt | isAlive
    · exact absurd (vacant buildId ⟨build, isActive, isExempt⟩) (by simp)
    · exact Or.inr isAlive
  simp only [Routine.bind_eq, Routine.run_bind]
  exact settled.of_outcome (tryDispatch_outcome env state)

/-- Giving up a worker whose connection is not open, and resolving what it holds. -/
theorem sound_giveUp (env : Env) (connectionId : ConnectionId) :
    Routine.Triple
      (fun state => Attributed state ∧ SoundState state ∧
        connectionId ∉ state.connections)
      (do
        Handler.lock fun queue => (queue.setWorkerState connectionId .dead, ())
        handleWorkerDead env connectionId)
      fun _ => SoundState := by
  rintro state ⟨⟨owner, attributed⟩, sound, isClosed⟩
  have dead : AttributedTo owner
      { state with queue := state.queue.setWorkerState connectionId .dead } :=
    attributed.setWorkerState (by simp [WorkerState.registeredWorkerId])
  exact sound_handleWorkerDead env connectionId _ ⟨⟨owner, dead⟩,
    sound.setWorkerState .dead (fun _ => False.elim) (fun _ _ => Or.inr ⟨rfl, rfl⟩)
      fun isOpen => absurd isOpen isClosed⟩

/-- What the clean-up of a connection starts from: it is not open, and its worker, if there still is
one, is the one that it was opened for. -/
structure Closing (connectionId : ConnectionId) (registeredWorkerId : WorkerId)
    (state : AppState) : Prop where
  attributed : Attributed state
  sound : SoundState state
  isClosed : connectionId ∉ state.connections
  known : ∀ worker, state.queue.workers.lookup connectionId = some worker →
    worker.registeredWorkerId = some registeredWorkerId

theorem sound_cleanupWorker (env : Env) (connectionId : ConnectionId) (connection : Connection)
    (isStopping : Bool) :
    (cleanupWorker env connectionId connection isStopping).Triple
      (Closing connectionId connection.registeredWorkerId)
      fun _ => SoundState := by
  rintro state ⟨attributed, sound, isClosed, known⟩
  have unplugged : Change .aside state
      { state with workerSenders := state.workerSenders.erase connectionId } :=
    .unplug state (Or.inl isClosed)
  have given := sound_giveUp env connectionId _
    ⟨unplugged.attributed attributed, unplugged.soundSessions sound id id, isClosed⟩
  simp only [cleanupWorker, Routine.bind_eq, Routine.run_bind, Routine.run_stepFree]
  cases isStopping with
  | true => exact given
  | false =>
    simp only [Bool.false_eq_true, if_false, Handler.lock, Routine.run_bind,
      Routine.run_stepFree]
    cases (state.queue.getWorker connectionId).bind (·.arch) with
    | none => exact given
    | some arch =>
      have down : SoundState { state with
          queue := state.queue.setWorkerState connectionId (.disconnected env.now
            connection.registeredWorkerId connection.workerName arch) } :=
        sound.setWorkerState _ (fun _ => id) (fun old isOld => Or.inl (known old isOld).symm)
          fun isOpen => absurd isOpen isClosed
      exact down.keep rfl rfl fun isActive => ⟨_, isActive, rfl⟩

/-- A hello takes the assignments of an older connection over to the new one. -/
theorem SoundSessions.registeredState (sound : SoundState state)
    (attributed : Attributed state) (env : Env) (hello : Hello)
    (fresh : connectionId ∉ state.issued) :
    SoundState (registeredState env connectionId hello state) := by
  have isClosed : connectionId ∉ state.connections := fun isOpen =>
    fresh (attributed.issued connectionId isOpen)
  obtain ⟨owner, attributed⟩ := attributed
  have unheld : ∀ {buildId build}, state.queue.active.get buildId = some build →
      build.connectionId ≠ connectionId := by
    rintro buildId build isActive rfl
    obtain ⟨-, _, -, -, isOwner⟩ := attributed.held isActive
    exact fresh (attributed.issued isOwner)
  -- What is registered afterwards under another connection was registered before, and only the
  -- older connection of the same worker is not registered any more.
  obtain ⟨older, workers, active, isOlder⟩ : ∃ older : Option ConnectionId,
      (∀ other, (Cbs.registeredState env connectionId hello state).queue.workers.lookup other =
        if other = connectionId then some hello.connected
        else if older = some other then none else state.queue.workers.lookup other) ∧
      (∀ buildId, (Cbs.registeredState env connectionId hello state).queue.active.get buildId =
        (state.queue.active.get buildId).map fun build =>
          if older = some build.connectionId then { build with connectionId } else build) ∧
      ∀ {other worker}, other ≠ connectionId →
        state.queue.workers.lookup other = some worker →
        worker.registeredWorkerId = some hello.connection.registeredWorkerId →
        older = some other := by
    simp only [Cbs.registeredState, migrateAndRegister]
    split
    · rename_i notFound
      refine ⟨none, fun other => ?_, fun buildId => by simp [BuildQueue.registerWorker], ?_⟩
      · simp [BuildQueue.registerWorker, Dictionary.lookup_insert_eq, Hello.connected]
      · intro other worker different isWorker isIdentity
        refine absurd ?_ (List.find?_eq_none.mp notFound ⟨other, worker⟩
          (Dictionary.mem_traverse.mpr isWorker))
        simp [isIdentity, different]
    · rename_i older worker found
      obtain ⟨isRegistered, isWorker⟩ := registered_of_findOlderConnection found
      refine ⟨some older, fun other => ?_, fun buildId => ?_, ?_⟩
      · simp [BuildQueue.registerWorker, BuildQueue.migrate, Dictionary.lookup_insert_eq,
          Dictionary.lookup_erase_eq, Hello.connected, eq_comm]
      · simp [BuildQueue.registerWorker, BuildQueue.migrate, eq_comm]
      · intro other otherWorker different isOther isIdentity
        rw [sound.unique isRegistered isWorker isOther isIdentity]
  constructor
  · intro first second firstBuild secondBuild isFirst isSecond same
    rw [active] at isFirst isSecond
    obtain ⟨old, isOld, rfl⟩ := Option.map_eq_some_iff.mp isFirst
    obtain ⟨other, isOther, rfl⟩ := Option.map_eq_some_iff.mp isSecond
    refine sound.exclusive isOld isOther ?_
    split_ifs at same with moved movedToo movedToo
    · exact Option.some.inj (moved.symm.trans movedToo)
    · exact absurd same.symm (unheld isOther)
    · exact absurd same (unheld isOld)
    · exact same
  · intro buildId build isActive
    rw [active] at isActive
    obtain ⟨old, isOld, rfl⟩ := Option.map_eq_some_iff.mp isActive
    by_cases moved : older = some old.connectionId
    · rw [if_pos moved, workers]
      exact Or.inr ⟨_, _, if_pos rfl, rfl⟩
    · rw [if_neg moved, workers, if_neg (unheld isOld), if_neg moved]
      exact sound.alive isOld
  · intro first second worker other registeredWorkerId isFirst firstIs isSecond secondIs
    rw [workers] at isFirst isSecond
    split_ifs at isFirst isSecond with here there left there left left
    · exact here.trans there.symm
    · cases isFirst
      cases firstIs
      exact absurd (isOlder there isSecond secondIs) left
    · cases isSecond
      cases secondIs
      exact absurd (isOlder here isFirst firstIs) there
    · exact sound.unique isFirst firstIs isSecond secondIs
  · intro other connection worker isOpen isWorker
    rw [workers] at isWorker
    have different : other ≠ connectionId := by
      rintro rfl
      exact isClosed
        (AList.lookup_isSome.mp (by simp [show state.connections.lookup other = _ from isOpen]))
    rw [if_neg different] at isWorker
    split_ifs at isWorker
    exact sound.live isOpen isWorker

theorem SoundSessions.known_of_open (sound : SoundSessions exempt state)
    (attributed : Attributed state) {connection : Connection} {worker : WorkerState}
    (isOpen : state.connections.lookup connectionId = some connection)
    (isWorker : state.queue.workers.lookup connectionId = some worker) :
    worker.registeredWorkerId = some connection.registeredWorkerId := by
  obtain ⟨owner, attributed⟩ := attributed
  obtain ⟨identity, isIdentity⟩ : ∃ identity, worker.registeredWorkerId = some identity := by
    have live := (sound.live isOpen isWorker).2
    cases worker <;> first | exact ⟨_, rfl⟩ | exact absurd rfl live
  rw [isIdentity, ← attributed.worker isWorker isIdentity, attributed.connection isOpen]

/-- A claim on a registered connection is made by whoever holds the build already. -/
theorem SoundSessions.holder_of_claim (sound : SoundState state)
    (attributed : Attributed state) {buildId : BuildId} {build : ActiveBuild} {row : BuildRow}
    {connection : Connection} (isOpen : state.connections.lookup connectionId = some connection)
    (registered : connectionId ∈ state.queue.workers)
    (found : state.builds.getBuild buildId = some row)
    (assigned : row.workerId = some connection.registeredWorkerId)
    (isActive : state.queue.active.get buildId = some build) :
    build.connectionId = connectionId := by
  obtain ⟨worker, isWorker⟩ := Option.isSome_iff_exists.mp (AList.lookup_isSome.mpr registered)
  have known := sound.known_of_open attributed isOpen isWorker
  obtain ⟨owner, attributed⟩ := attributed
  obtain ⟨_, _, isRow, isRecorded, isOwner⟩ := attributed.held isActive
  cases found.symm.trans isRow
  rcases sound.alive isActive with impossible | ⟨holder, _, isHolder, holderIs⟩
  · exact impossible.elim
  · refine sound.unique isHolder holderIs isWorker ?_
    have sameOwner := (attributed.worker isHolder holderIs).symm.trans isOwner
    rw [known, sameOwner, ← isRecorded, assigned]

theorem SoundSessions.attach (sound : SoundSessions exempt before) {buildId : BuildId}
    {change : ActiveBuild → ActiveBuild} {keeps}
    (queue : after.queue = { before.queue with
      active := before.queue.active.modify buildId change keeps })
    (connections : after.connections = before.connections)
    (held : ∀ build, before.queue.active.get buildId = some build →
      (change build).connectionId = build.connectionId) : SoundSessions exempt after := by
  refine sound.keep (by rw [queue]) connections fun {other build} isActive => ?_
  rw [queue, ActiveMap.get_modify] at isActive
  split_ifs at isActive with same
  · subst same
    obtain ⟨old, isOld, rfl⟩ := Option.map_eq_some_iff.mp isActive
    exact ⟨old, isOld, held old isOld⟩
  · exact ⟨build, isActive, rfl⟩

end Sound

/-- A worker claims on a superseded connection to be running a build that is assigned to it. -/
def StaleClaim (state : AppState) (connectionId : ConnectionId) (registeredWorkerId : WorkerId)
    (buildId : BuildId) : Prop :=
  connectionId ∉ state.queue.workers ∧
    ∃ row, state.builds.getBuild buildId = some row ∧
      (row.state = .dispatched ∨ row.state = .started) ∧
      row.workerId = some registeredWorkerId

def Operation.MakesStaleClaim (state : AppState) : Operation → Prop
  | message connectionId connection (.workerStatus .building (some buildId)) =>
    StaleClaim state connectionId connection.registeredWorkerId buildId
  | _ => False

variable {state : AppState} {env : Env} {connectionId : ConnectionId} {connection : Connection}

/-- A claim to be running a build keeps sessions sound, unless it is stale. -/
theorem sound_handleBuildingStatus {buildId : BuildId}
    (sound : SoundState state) (attributed : Attributed state)
    (isOpen : state.connections.lookup connectionId = some connection)
    (current : ¬ StaleClaim state connectionId connection.registeredWorkerId buildId) :
    SoundState
      ((handleBuildingStatus connectionId connection.registeredWorkerId buildId).run state).1 := by
  by_cases claims : state.RowSays buildId fun row =>
      (row.state = .dispatched ∨ row.state = .started) ∧
        row.workerId = some connection.registeredWorkerId
  · obtain ⟨row, found, claimable, assigned⟩ := claims
    have registered : connectionId ∈ state.queue.workers := by
      by_contra absent
      exact current ⟨absent, row, found, claimable, assigned⟩
    have held : ∀ build, state.queue.active.get buildId = some build →
        connectionId = build.connectionId := fun build isActive =>
      (sound.holder_of_claim attributed isOpen registered found assigned isActive).symm
    simp only [handleBuildingStatus, Routine.bind_eq, Routine.run_bind, Handler.getBuild,
      Routine.run_step, found, assigned, ne_eq, not_true_eq_false, and_false, if_false]
    rcases claimable with isState | isState
    · simp only [isState, attachConnectionAndMarkReceived, Routine.run_step]
      split
      · exact sound
      · exact sound.attach rfl rfl held
    · simp only [isState]
      exact sound.attach rfl rfl held
  · have chain : Chain (fun deed _ => deed = .revoke buildId) state
        ((handleBuildingStatus connectionId connection.registeredWorkerId buildId).run state).1 :=
      chain_handleBuildingStatus isOpen (fun stored => absurd stored claims) fun _ => rfl
    refine sound.of_chain chain ?_
    rintro _ _ rfl
    exact ⟨id, id⟩

theorem sound_handleWorkerMessage {received : WorkerMessage}
    (sound : SoundState state) (attributed : Attributed state)
    (isOpen : state.connections.lookup connectionId = some connection)
    (current : ¬ (Operation.message connectionId connection received).MakesStaleClaim state) :
    SoundState
      ((handleWorkerMessage env connectionId connection received).run state).1 := by
  have chain := chain_handleWorkerMessage env received isOpen
  have plain : (∀ reason, received ≠ .workerStopping reason) →
      (∀ buildId, received ≠ .workerStatus .building (some buildId)) →
      SoundState
        ((handleWorkerMessage env connectionId connection received).run state).1 := by
    refine fun notStopping notBuilding => sound.of_chain chain fun {deed later} permitted => ?_
    cases deed with
    | attach buildId => exact absurd permitted.1 (notBuilding buildId)
    | restand other =>
      obtain ⟨-, reason, isStopping⟩ := permitted
      exact absurd isStopping (notStopping reason)
    | register | welcome | close => exact permitted.elim
    | _ => exact ⟨id, id⟩
  cases received with
  | workerStopping reason =>
    exact sound.setWorkerState _ (fun _ => id)
      (fun old isOld => Or.inl (sound.known_of_open attributed isOpen isOld).symm)
      fun _ => ⟨rfl, by simp⟩
  | workerStatus reportedState reported =>
    cases reportedState with
    | idle => exact plain (by simp) (by simp)
    | building =>
      cases reported with
      | none => exact sound
      | some buildId => exact sound_handleBuildingStatus sound attributed isOpen current
  | _ => exact plain (by simp) (by simp)

theorem sound_enterOrCleanUp (env : Env) (hello : Hello) (welcomed : Bool)
    (sound : SoundState state) (attributed : Attributed state)
    (registered : state.queue.workers.lookup connectionId = some hello.connected)
    (isClosed : connectionId ∉ state.connections) :
    SoundState ((enterOrCleanUp env connectionId hello welcomed).run state).1 := by
  cases welcomed with
  | true =>
    refine ⟨sound.exclusive, sound.alive, sound.unique, fun {other connection worker} isOpen => ?_⟩
    intro isWorker
    replace isOpen : (state.connections.insert connectionId hello.connection).lookup other =
      some connection := isOpen
    rw [Dictionary.lookup_insert_eq] at isOpen
    split_ifs at isOpen with same
    · cases same
      cases registered.symm.trans isWorker
      exact ⟨rfl, by simp [Hello.connected]⟩
    · exact sound.live isOpen isWorker
  | false =>
    refine sound_cleanupWorker env connectionId hello.connection false state
      ⟨attributed, sound, isClosed, fun worker isWorker => ?_⟩
    cases registered.symm.trans isWorker
    rfl

theorem sound_acceptConnection (env : Env) (hello : Hello) (welcomed : Bool)
    (sound : SoundState state) (attributed : Attributed state)
    (fresh : connectionId ∉ state.issued) :
    SoundState
      ((acceptConnection env connectionId hello welcomed).run state).1 := by
  have registered : Change (.register connectionId) state
      (registeredState env connectionId hello state) := .register env hello fresh
  have retired : Chain (fun deed _ => ¬ deed.IsSessional ∧ ¬ deed.Moves)
      (registeredState env connectionId hello state)
      (retiredState env connectionId hello state) :=
    chain_retireSuperseded env _ (fun _ => superseded_registeredState)
      (fun _ => ⟨fun _ _ _ _ => ⟨id, id⟩, fun _ _ _ _ => ⟨id, id⟩, fun _ _ => ⟨id, id⟩⟩)
      fun _ => ⟨id, id⟩
  obtain ⟨workers, connections⟩ := sessions_retireSuperseded env connectionId hello state
  have present := lookup_registeredState env connectionId hello state
  have isClosed : connectionId ∉ (registeredState env connectionId hello state).connections :=
    fun isOpen => fresh (attributed.issued connectionId isOpen)
  rw [← workers] at present
  rw [← connections] at isClosed
  have soundNow := (sound.registeredState attributed env hello fresh).of_chain retired id
  have attributedNow := (registered.attributed attributed).of_chain retired
  simp only [acceptConnection, Routine.bind_eq, Routine.run_bind, Handler.lock,
    Routine.run_stepFree]
  refine sound_enterOrCleanUp env hello welcomed ?_ ?_ present isClosed
  · exact soundNow.keep rfl rfl fun isActive => ⟨_, isActive, rfl⟩
  · exact (Change.plug _ connectionId).attributed attributedNow

/-- Every complete operation keeps sessions sound, unless it is a stale claim. -/
theorem sound_exec {operation : Operation} (sound : SoundState state)
    (attributed : Attributed state) (enabled : operation.Enabled state)
    (current : ¬ operation.MakesStaleClaim state) :
    SoundState (operation.exec env state) := by
  have chain := chain_exec env enabled attributed.issued
  have plain : (∀ {deed later}, operation.Performs state deed later →
      ¬ deed.IsSessional ∧ ¬ deed.Moves) →
      SoundState (operation.exec env state) := sound.of_chain chain
  cases operation with
  | message connectionId connection received =>
    exact sound_handleWorkerMessage sound attributed enabled.1 current
  | connect connectionId hello welcomed =>
    exact sound_acceptConnection env hello welcomed sound attributed enabled
  | disconnect connectionId connection =>
    have isClosed : connectionId ∉ state.connections.erase connectionId := by
      simp [AList.mem_erase]
    have known : ∀ worker, state.queue.workers.lookup connectionId = some worker →
        worker.registeredWorkerId = some connection.registeredWorkerId := fun _ =>
      sound.known_of_open attributed enabled
    obtain ⟨owner, attributed⟩ := attributed
    have fewer : ∀ {other found}, (state.connections.erase connectionId).lookup other = some found →
        state.connections.lookup other = some found := by
      intro other found isOpen
      rw [Dictionary.lookup_erase_eq] at isOpen
      split_ifs at isOpen
      exact isOpen
    refine sound_cleanupWorker env connectionId connection _ _ ⟨⟨owner, attributed.worker,
      fun isOpen => attributed.connection (fewer isOpen), attributed.held, attributed.stored,
      attributed.issued⟩, ?_, isClosed, known⟩
    exact ⟨sound.exclusive, sound.alive, sound.unique, fun isOpen => sound.live (fewer isOpen)⟩
  | graceExpired connectionId =>
    have fired : Change .aside state
        { state with graceMonitors := state.graceMonitors.erase connectionId } :=
      .book state _ _ _ fun _ => rfl
    have firedSound := fired.soundSessions sound id id
    have rest : ∀ stillDisconnected : Bool,
        (stillDisconnected = true → connectionId ∉ state.connections) →
        SoundState
          ((if stillDisconnected then do
              Handler.lock fun queue => (queue.setWorkerState connectionId .dead, ())
              handleWorkerDead env connectionId
            else pure () : Handler Unit).run
              { state with graceMonitors := state.graceMonitors.erase connectionId }).1 := by
      intro stillDisconnected isClosed
      cases stillDisconnected with
      | false => exact firedSound
      | true =>
        exact sound_giveUp env connectionId _
          ⟨fired.attributed attributed, firedSound, isClosed rfl⟩
    refine rest _ fun isDisconnected isOpen => ?_
    obtain ⟨worker, isWorker, disconnected⟩ := (Option.any_eq_true ..).mp isDisconnected
    obtain ⟨connection, found⟩ := Option.isSome_iff_exists.mp (AList.lookup_isSome.mpr isOpen)
    have live := (sound.live found isWorker).1
    simp [disconnected] at live
  | _ =>
    refine plain fun {deed later} permitted => ?_
    cases deed <;> first | exact ⟨id, id⟩ | exact permitted.elim

theorem consistentAssignment_of_sound (sound : SoundState state)
    (attributed : Attributed state) : ConsistentAssignment state := by
  obtain ⟨owner, attributed⟩ := attributed
  refine ⟨fun _ _ _ _ => sound.exclusive, fun buildId build isActive => ?_⟩
  rcases sound.alive isActive with impossible | ⟨worker, identity, isWorker, isIdentity⟩
  · exact impossible.elim
  · obtain ⟨row, registeredWorkerId, found, isRecorded, isOwner⟩ := attributed.held isActive
    have same := (attributed.worker isWorker isIdentity).symm.trans isOwner
    refine ⟨worker, row, registeredWorkerId, isWorker, ?_, isIdentity.trans same, found, isRecorded⟩
    rintro rfl
    cases isIdentity

/-- The states that complete operations reach without database errors and without a stale claim. -/
abbrev CurrentlyReachable : AppState → Prop :=
  Schedule.Reaches
    ⟨fun _ _ => True,
      fun state env operation => operation.NoDatabaseError env ∧ ¬ operation.MakesStaleClaim state,
      fun _ => True⟩

theorem CurrentlyReachable.reachable (reachable : CurrentlyReachable state) : Reachable state :=
  reachable.mono fun _ _ _ admitted => admitted.1

theorem sound_of_currentlyReachable (reachable : CurrentlyReachable state) : SoundState state := by
  have started : ∀ env builds buildLogs logFiles,
      SoundState (runStartupRecovery env (.boot builds buildLogs logFiles)) := by
    intro env builds buildLogs logFiles
    obtain ⟨active, workers, -⟩ := sessions_runStartupRecovery env builds buildLogs logFiles
    constructor
    all_goals simp [active, workers]
  induction reachable with
  | start env logFiles => exact started env _ _ logFiles
  | step reachable env operation enabled admitted ih =>
    exact sound_exec ih (attributed_of_reachable (CurrentlyReachable.reachable reachable)) enabled
      admitted.2
  | restarted _ env => exact started env _ _ _

/-- A claim to a build of the reporting worker attaches it to the reporting connection. -/
theorem attached_handleBuildingStatus (connectionId : ConnectionId)
    {registeredWorkerId : WorkerId} {buildId : BuildId} {row : BuildRow} {build : ActiveBuild}
    (found : state.builds.getBuild buildId = some row)
    (claimable : row.state = .dispatched ∨ row.state = .started)
    (assigned : row.workerId = some registeredWorkerId)
    (active : state.queue.active.get buildId = some build) :
    (((handleBuildingStatus connectionId registeredWorkerId buildId).run
        state).1.queue.active.get buildId).map (·.connectionId) = some connectionId ∧
      ((handleBuildingStatus connectionId registeredWorkerId buildId).run
        state).1.queue.workers = state.queue.workers := by
  simp only [handleBuildingStatus, Routine.bind_eq, Routine.run_bind, Handler.getBuild,
    Routine.run_step, found, assigned, ne_eq, not_true_eq_false, and_false, if_false]
  rcases claimable with isState | isState
  · simp only [isState, attachConnectionAndMarkReceived, Routine.run_step, active]
    exact ⟨by simp [active], trivial⟩
  · simp only [isState, attachConnection, Handler.lockFor, Routine.run_step]
    exact ⟨by simp [active], trivial⟩

/-- A stale claim attaches its build to a connection that is not registered. -/
theorem inconsistent_of_staleClaim (reachable : Reachable state)
    {operation : Operation} (stale : operation.MakesStaleClaim state) :
    ¬ ConsistentAssignment (operation.exec env state) := by
  unfold Operation.MakesStaleClaim at stale
  split at stale
  · rename_i connectionId connection buildId
    obtain ⟨unregistered, row, found, claimable, assigned⟩ := stale
    have isAssigned : row.state.Assigned := by
      rcases claimable with isState | isState <;> rw [isState] <;> decide
    have agreement := agreement_of_consistent (consistent_of_reachable reachable buildId)
    obtain ⟨build, active⟩ := agreement.assigned_iff.mp ⟨row, found, isAssigned⟩
    obtain ⟨isAttached, sameWorkers⟩ :=
      attached_handleBuildingStatus connectionId found claimable assigned active
    obtain ⟨attached, isActive, isConnection⟩ := Option.map_eq_some_iff.mp isAttached
    intro consistent
    obtain ⟨worker, -, -, isWorker, -⟩ := consistent.owned buildId attached isActive
    have registered : state.queue.workers.lookup connectionId = some worker := by
      rw [← sameWorkers]
      rw [isConnection] at isWorker
      exact isWorker
    exact unregistered (AList.lookup_isSome.mp (by simp [registered]))
  · exact stale.elim

/-- Along every run without a stale claim the assignments are consistent, and the next operation
keeps them so exactly when it is no stale claim. -/
theorem consistent_assignment_iff_current {state : AppState}
    (reachable : CurrentlyReachable state) :
    ConsistentAssignment state ∧
      ∀ env (operation : Operation), operation.Enabled state → operation.NoDatabaseError env →
        (ConsistentAssignment (operation.exec env state) ↔ ¬ operation.MakesStaleClaim state) := by
  have consistent : ∀ {state}, CurrentlyReachable state → ConsistentAssignment state :=
    fun reachable => consistentAssignment_of_sound (sound_of_currentlyReachable reachable)
      (attributed_of_reachable (CurrentlyReachable.reachable reachable))
  refine ⟨consistent reachable, fun env operation enabled healthy => ⟨?_, fun current => ?_⟩⟩
  · intro isConsistent stale
    exact inconsistent_of_staleClaim (CurrentlyReachable.reachable reachable) stale isConsistent
  · exact consistent (reachable.step env operation enabled ⟨healthy, current⟩)

/-- The builder reports on its first connection that it is running the build. -/
def buildingReport : Operation :=
  .message "first" builder (.workerStatus .building (some 1))

/-- The assignment of an accepted build is consistent, and stays so when the builder reports on its
current connection that it is running it. -/
theorem consistent_assignment_of_report :
    CurrentlyReachable acceptedServer ∧
      buildingReport.Enabled acceptedServer ∧
      ConsistentAssignment (buildingReport.exec .smooth acceptedServer) := by
  have fresh : CurrentlyReachable freshServer := .start .smooth ∅ trivial
  have reachable : CurrentlyReachable acceptedServer :=
    fresh.execAll (by simp [Operation.NoDatabaseError, Operation.MakesStaleClaim, Env.smooth])
      (by decide)
  refine ⟨reachable, by decide, ?_⟩
  refine ((consistent_assignment_iff_current reachable).2 .smooth buildingReport (by decide)
    rfl).mpr ?_
  rintro ⟨unregistered, -⟩
  exact unregistered (by decide)

/-- The builder on a socket that takes no more frames. -/
def stalledBuilder : Connection :=
  { builder with stalled := true }

/-- The server after the builder connected a second time, while the tarball of its build is still
being written to the first socket. -/
def supersededServer : AppState :=
  (execAll .smooth
    [.connect "first" { builderHello with connection := stalledBuilder } true,
      .submit cephSubmission, .dispatch, .connect "second" builderHello true]
    freshServer).getD freshServer

def staleReport : Operation :=
  .message "first" stalledBuilder (.workerStatus .building (some 1))

/-- The report attaches the build to a connection that is not registered any more. -/
theorem stale_report_attaches_superseded :
    Reachable supersededServer ∧ staleReport.Enabled supersededServer ∧
      ((staleReport.exec .smooth supersededServer).queue.active.get 1).map (·.connectionId) =
        some "first" ∧
      (staleReport.exec .smooth supersededServer).queue.workers.lookup "first" = none ∧
      ¬ ConsistentAssignment (staleReport.exec .smooth supersededServer) := by
  have reachable : Reachable supersededServer :=
    reachable_freshServer.execAll (by simp [Operation.NoDatabaseError, Env.smooth]) (by decide)
  have attached : ((staleReport.exec .smooth supersededServer).queue.active.get 1).map
      (·.connectionId) = some "first" := by
    decide
  have unregistered : (staleReport.exec .smooth supersededServer).queue.workers.lookup "first" =
      none := by
    decide
  refine ⟨reachable, by decide, attached, unregistered, fun consistent => ?_⟩
  obtain ⟨build, active, isFirst⟩ := Option.map_eq_some_iff.mp attached
  obtain ⟨worker, -, -, isWorker, -⟩ := consistent.owned 1 build active
  rw [isFirst, unregistered] at isWorker
  exact absurd isWorker (by simp)

end Cbs

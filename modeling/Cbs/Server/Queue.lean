import Cbs.Library.Dictionary
import Cbs.Proto

/-!
# The build queue

Three priority lanes of waiting builds, the map of active assignments, and the connected workers.  A
lane only holds builds of its own priority and an assignment is filed under its build, by
construction.
-/

namespace Cbs

inductive WorkerState where
  | connected (registeredWorkerId : WorkerId) (workerName : String) (arch : Arch)
      (coresTotal : Nat) (ramTotalMb : Nat) (version : Option String)
  /-- Disconnected, within the grace period for a reconnect. -/
  | disconnected (since : Int) (registeredWorkerId : WorkerId) (workerName : String) (arch : Arch)
  | stopping (registeredWorkerId : WorkerId) (workerName : String)
  /-- The grace period expired or the worker cannot come back. -/
  | dead
  deriving DecidableEq

namespace WorkerState

def isDispatchEligible : WorkerState → Bool
  | connected .. => true
  | _ => false

def registeredWorkerId : WorkerState → Option WorkerId
  | connected worker .. | disconnected _ worker .. | stopping worker _ => some worker
  | dead => none

def arch : WorkerState → Option Arch
  | connected _ _ arch .. | disconnected _ _ _ arch => some arch
  | stopping .. | dead => none

/-- The worker is in the grace period. -/
def isDisconnected : WorkerState → Bool
  | disconnected .. => true
  | _ => false

def isStopping : WorkerState → Bool
  | stopping .. => true
  | _ => false

end WorkerState

/-- Whether a message of the worker has proved that it received an assignment. -/
inductive ActiveAssignmentReceipt where
  | awaitingReceipt
  | receivedByWorker
  deriving DecidableEq

structure ActiveBuild where
  buildId : BuildId
  connectionId : ConnectionId
  traceId : String
  descriptor : BuildDescriptor
  priority : Priority
  /-- The cancellation token of the dispatch-ack timer. -/
  ackCancel : Nat
  receipt : ActiveAssignmentReceipt
  deriving DecidableEq

structure QueuedBuild where
  buildId : BuildId
  priority : Priority
  descriptor : BuildDescriptor
  userEmail : String
  queuedAt : Int
  deriving DecidableEq

/-- The waiting builds of one priority. -/
@[ext]
structure Lane (priority : Priority) where
  builds : List QueuedBuild
  uniform : ∀ build ∈ builds, build.priority = priority
  deriving DecidableEq

namespace Lane

variable {priority : Priority}

def empty : Lane priority where
  builds := []
  uniform := by simp

def pushBack (lane : Lane priority) (build : QueuedBuild) (same : build.priority = priority) :
    Lane priority where
  builds := lane.builds ++ [build]
  uniform := List.forall_mem_append.mpr ⟨lane.uniform, List.forall_mem_singleton.mpr same⟩

def pushFront (lane : Lane priority) (build : QueuedBuild) (same : build.priority = priority) :
    Lane priority where
  builds := build :: lane.builds
  uniform := List.forall_mem_cons.mpr ⟨same, lane.uniform⟩

def popFront (lane : Lane priority) : Option (QueuedBuild × Lane priority) :=
  match same : lane.builds with
  | [] => none
  | build :: rest =>
    some (build, ⟨rest, fun other inside => lane.uniform other (by simp [same, inside])⟩)

def removeFromLane (lane : Lane priority) (buildId : BuildId) :
    Option (QueuedBuild × Lane priority) :=
  match lane.builds.find? (·.buildId = buildId) with
  | none => none
  | some build =>
    some (build, ⟨lane.builds.eraseP (·.buildId = buildId), fun other inside =>
      lane.uniform other (List.mem_of_mem_eraseP inside)⟩)

variable {build : QueuedBuild}

theorem popFront_eq_some {lane rest : Lane priority} (popped : lane.popFront = some (build, rest)) :
    ∃ same, rest.pushFront build same = lane := by
  unfold popFront at popped
  split at popped
  · exact absurd popped (by simp)
  · rename_i first others isLane
    obtain ⟨rfl, rfl⟩ : first = build ∧ _ = rest := by simpa using popped
    exact ⟨lane.uniform first (by simp [isLane]), Lane.ext isLane.symm⟩

theorem popFront_eq_none {lane : Lane priority} (popped : lane.popFront = none) :
    lane.builds = [] := by
  unfold popFront at popped
  split at popped
  · assumption
  · exact absurd popped (by simp)

variable {buildId : BuildId}

theorem removeFromLane_eq_some {lane rest : Lane priority}
    (removed : lane.removeFromLane buildId = some (build, rest)) :
    0 < lane.builds.countP (·.buildId = buildId) ∧
      rest.builds = lane.builds.eraseP (·.buildId = buildId) := by
  unfold removeFromLane at removed
  split at removed
  · exact absurd removed (by simp)
  · rename_i found isFound
    obtain ⟨-, rfl⟩ : found = build ∧ _ = rest := by simpa using removed
    refine ⟨List.countP_pos_iff.mpr ⟨found, List.mem_of_find?_eq_some isFound, ?_⟩, rfl⟩
    have isBuild := List.find?_some isFound
    exact isBuild

theorem removeFromLane_eq_none {lane : Lane priority}
    (removed : lane.removeFromLane buildId = none) :
    lane.builds.countP (·.buildId = buildId) = 0 := by
  unfold removeFromLane at removed
  split at removed
  · rename_i missing
    exact List.countP_eq_zero.mpr (List.find?_eq_none.mp missing)
  · exact absurd removed (by simp)

end Lane

@[ext]
structure ActiveMap where
  entries : Dictionary BuildId ActiveBuild
  filed : ∀ buildId active, entries.lookup buildId = some active → active.buildId = buildId
  deriving DecidableEq

namespace ActiveMap

def empty : ActiveMap where
  entries := ∅
  filed := by simp

variable (active : ActiveMap)

def get (buildId : BuildId) : Option ActiveBuild :=
  active.entries.lookup buildId

def insert (active : ActiveMap) (build : ActiveBuild) : ActiveMap where
  entries := active.entries.insert build.buildId build
  filed := by
    intro buildId found
    rw [Dictionary.lookup_insert_eq]
    split
    · rintro ⟨⟩
      exact Eq.symm ‹_›
    · exact active.filed buildId found

def remove (buildId : BuildId) : ActiveMap where
  entries := active.entries.erase buildId
  filed := by
    intro other found
    rw [Dictionary.lookup_erase_eq]
    split
    · simp
    · exact active.filed other found

/-- Change the assignment of a build, if there is one. -/
def modify (active : ActiveMap) (buildId : BuildId) (change : ActiveBuild → ActiveBuild)
    (keeps : ∀ build, (change build).buildId = build.buildId) : ActiveMap where
  entries := active.entries.modify buildId change
  filed := by
    intro other found
    rw [Dictionary.lookup_modify]
    split
    · intro changed
      obtain ⟨old, isOld, rfl⟩ := Option.map_eq_some_iff.mp changed
      rw [keeps]
      exact active.filed other old isOld
    · exact active.filed other found

def modifyAll (change : ActiveBuild → ActiveBuild)
    (keeps : ∀ build, (change build).buildId = build.buildId) : ActiveMap where
  entries := active.entries.mapValues change
  filed := by
    intro other found
    rw [Dictionary.lookup_mapValues]
    intro changed
    obtain ⟨old, isOld, rfl⟩ := Option.map_eq_some_iff.mp changed
    rw [keeps]
    exact active.filed other old isOld

/-- The assignments in the order of a traversal of the hash map. -/
def values (rank : BuildId → Nat) : List ActiveBuild :=
  (active.entries.traverse rank).map Sigma.snd

/-- A connection owns some assignment. -/
def anyOf (connectionId : ConnectionId) : Bool :=
  active.entries.entries.any fun entry => entry.2.connectionId = connectionId

@[simp] theorem get_empty (buildId : BuildId) : empty.get buildId = none :=
  rfl

@[simp]
theorem get_insert (build : ActiveBuild) (buildId : BuildId) :
    (active.insert build).get buildId =
      if buildId = build.buildId then some build else active.get buildId :=
  Dictionary.lookup_insert_eq ..

@[simp]
theorem get_remove (buildId other : BuildId) :
    (active.remove buildId).get other = if other = buildId then none else active.get other :=
  Dictionary.lookup_erase_eq ..

@[simp]
theorem get_modify (buildId other : BuildId) (change : ActiveBuild → ActiveBuild) (keeps) :
    (active.modify buildId change keeps).get other =
      if other = buildId then (active.get other).map change else active.get other :=
  Dictionary.lookup_modify ..

@[simp]
theorem get_modifyAll (change : ActiveBuild → ActiveBuild) (keeps) (buildId : BuildId) :
    (active.modifyAll change keeps).get buildId = (active.get buildId).map change :=
  Dictionary.lookup_mapValues ..

variable {build : ActiveBuild}

theorem buildId_of_get {active : ActiveMap} {buildId : BuildId}
    (found : active.get buildId = some build) : build.buildId = buildId :=
  active.filed buildId build found

theorem nodup_values (active : ActiveMap) (rank : BuildId → Nat) :
    ((active.values rank).map (·.buildId)).Nodup := by
  have keys : (active.values rank).map (·.buildId) =
      (active.entries.traverse rank).map Sigma.fst := by
    rw [values, List.map_map]
    refine List.map_congr_left fun entry inside => ?_
    exact active.filed entry.1 entry.2 (Dictionary.mem_traverse.mp inside)
  rw [keys]
  exact Dictionary.nodup_keys_traverse ..

theorem mem_values {active : ActiveMap} {rank : BuildId → Nat} :
    build ∈ active.values rank ↔ active.get build.buildId = some build := by
  constructor
  · intro inside
    obtain ⟨⟨buildId, found⟩, isEntry, rfl⟩ := List.mem_map.mp inside
    have stored := Dictionary.mem_traverse.mp isEntry
    rw [active.filed buildId found stored]
    exact stored
  · intro found
    exact List.mem_map.mpr ⟨⟨build.buildId, build⟩, Dictionary.mem_traverse.mpr found, rfl⟩

theorem anyOf_iff {active : ActiveMap} {connectionId : ConnectionId} :
    active.anyOf connectionId = true ↔
      ∃ buildId build, active.get buildId = some build ∧ build.connectionId = connectionId := by
  simp only [anyOf, List.any_eq_true, decide_eq_true_eq, get]
  constructor
  · rintro ⟨⟨buildId, build⟩, inside, owned⟩
    exact ⟨buildId, build, AList.mem_lookup_iff.mpr inside, owned⟩
  · rintro ⟨buildId, build, found, owned⟩
    exact ⟨⟨buildId, build⟩, AList.mem_lookup_iff.mp found, owned⟩

end ActiveMap

@[ext]
structure BuildQueue where
  high : Lane .high
  normal : Lane .normal
  low : Lane .low
  active : ActiveMap
  workers : Dictionary ConnectionId WorkerState
  deriving DecidableEq

namespace BuildQueue

def new : BuildQueue :=
  ⟨.empty, .empty, .empty, .empty, ∅⟩

def lane (queue : BuildQueue) : Priority → List QueuedBuild
  | .high => queue.high.builds
  | .normal => queue.normal.builds
  | .low => queue.low.builds

def enqueue (queue : BuildQueue) (build : QueuedBuild) : BuildQueue :=
  match same : build.priority with
  | .high => { queue with high := queue.high.pushBack build same }
  | .normal => { queue with normal := queue.normal.pushBack build same }
  | .low => { queue with low := queue.low.pushBack build same }

def enqueueFront (queue : BuildQueue) (build : QueuedBuild) : BuildQueue :=
  match same : build.priority with
  | .high => { queue with high := queue.high.pushFront build same }
  | .normal => { queue with normal := queue.normal.pushFront build same }
  | .low => { queue with low := queue.low.pushFront build same }

/-- Pop the next build from the highest lane that is not empty. -/
def nextPending (queue : BuildQueue) : Option (QueuedBuild × BuildQueue) :=
  match queue.high.popFront with
  | some (build, rest) => some (build, { queue with high := rest })
  | none =>
    match queue.normal.popFront with
    | some (build, rest) => some (build, { queue with normal := rest })
    | none =>
      match queue.low.popFront with
      | some (build, rest) => some (build, { queue with low := rest })
      | none => none

/-- Remove the first build with an identifier, searching the lanes from high to low. -/
def removeById (queue : BuildQueue) (buildId : BuildId) : BuildQueue :=
  match queue.high.removeFromLane buildId with
  | some (_, rest) => { queue with high := rest }
  | none =>
    match queue.normal.removeFromLane buildId with
    | some (_, rest) => { queue with normal := rest }
    | none =>
      match queue.low.removeFromLane buildId with
      | some (_, rest) => { queue with low := rest }
      | none => queue

def pendingCount (queue : BuildQueue) : Nat :=
  queue.high.builds.length + queue.normal.builds.length + queue.low.builds.length

/-- The assignment of a build, if the connection owns it. -/
def activeBuildForConnection (queue : BuildQueue) (buildId : BuildId)
    (connectionId : ConnectionId) : Option ActiveBuild :=
  (queue.active.get buildId).filter (·.connectionId = connectionId)

def registerWorker (queue : BuildQueue) (connectionId : ConnectionId) (state : WorkerState) :
    BuildQueue :=
  { queue with workers := queue.workers.insert connectionId state }

def getWorker (queue : BuildQueue) (connectionId : ConnectionId) : Option WorkerState :=
  queue.workers.lookup connectionId

def setWorkerState (queue : BuildQueue) (connectionId : ConnectionId) (state : WorkerState) :
    BuildQueue :=
  { queue with workers := queue.workers.modify connectionId fun _ => state }

def hasPending (queue : BuildQueue) : Bool :=
  !queue.high.builds.isEmpty || !queue.normal.builds.isEmpty || !queue.low.builds.isEmpty

/-- A connection is idle: its worker is eligible and owns no assignment. -/
def isIdle (queue : BuildQueue) (connectionId : ConnectionId) (state : WorkerState) : Bool :=
  state.isDispatchEligible && !queue.active.anyOf connectionId

def hasIdleWorkers (queue : BuildQueue) : Bool :=
  queue.workers.entries.any fun entry => queue.isIdle entry.1 entry.2

def activeBuildsWithReceiptForConnection (queue : BuildQueue) (rank : BuildId → Nat)
    (connectionId : ConnectionId) : List (BuildId × ActiveAssignmentReceipt) :=
  ((queue.active.values rank).filter (·.connectionId = connectionId)).map fun build =>
    (build.buildId, build.receipt)

def occurs (queue : BuildQueue) (buildId : BuildId) (priority : Priority) : Nat :=
  (queue.lane priority).countP (·.buildId = buildId)

section

variable (queue : BuildQueue) (build : QueuedBuild)

theorem lane_enqueue (priority : Priority) :
    (queue.enqueue build).lane priority =
      if priority = build.priority then queue.lane priority ++ [build]
      else queue.lane priority := by
  unfold enqueue
  split <;> cases priority <;> simp [lane, Lane.pushBack, *]

theorem lane_enqueueFront (priority : Priority) :
    (queue.enqueueFront build).lane priority =
      if priority = build.priority then build :: queue.lane priority
      else queue.lane priority := by
  unfold enqueueFront
  split <;> cases priority <;> simp [lane, Lane.pushFront, *]

@[simp]
theorem active_enqueue : (queue.enqueue build).active = queue.active := by
  unfold enqueue
  split <;> rfl

@[simp]
theorem workers_enqueue : (queue.enqueue build).workers = queue.workers := by
  unfold enqueue
  split <;> rfl

@[simp]
theorem active_enqueueFront : (queue.enqueueFront build).active = queue.active := by
  unfold enqueueFront
  split <;> rfl

@[simp]
theorem workers_enqueueFront : (queue.enqueueFront build).workers = queue.workers := by
  unfold enqueueFront
  split <;> rfl

theorem occurs_enqueue (buildId : BuildId) (priority : Priority) :
    (queue.enqueue build).occurs buildId priority = queue.occurs buildId priority +
      if build.buildId = buildId ∧ priority = build.priority then 1 else 0 := by
  rw [occurs, lane_enqueue]
  by_cases same : priority = build.priority
  · by_cases isBuild : build.buildId = buildId <;> simp [occurs, same, isBuild]
  · simp [occurs, same]

theorem occurs_enqueueFront (buildId : BuildId) (priority : Priority) :
    (queue.enqueueFront build).occurs buildId priority = queue.occurs buildId priority +
      if build.buildId = buildId ∧ priority = build.priority then 1 else 0 := by
  rw [occurs, lane_enqueueFront]
  by_cases same : priority = build.priority
  · by_cases isBuild : build.buildId = buildId <;> simp [occurs, same, isBuild]
  · simp [occurs, same]

end

variable {queue : BuildQueue}

/-- A queue is determined by its lanes, its assignments and its workers. -/
theorem ext_lanes {other : BuildQueue}
    (lanes : ∀ priority, queue.lane priority = other.lane priority)
    (active : queue.active = other.active) (workers : queue.workers = other.workers) :
    queue = other :=
  BuildQueue.ext (Lane.ext (lanes .high)) (Lane.ext (lanes .normal)) (Lane.ext (lanes .low))
    active workers

variable {rest : BuildQueue} {build : QueuedBuild} (popped : queue.nextPending = some (build, rest))

include popped

/-- What `nextPending` pops goes back to where it was by `enqueueFront`. -/
theorem enqueueFront_nextPending : rest.enqueueFront build = queue := by
  unfold nextPending at popped
  repeat' split at popped
  all_goals cases popped
  -- one case for each lane
  all_goals
    rename_i front
    obtain ⟨same, isLane⟩ := Lane.popFront_eq_some front
    refine ext_lanes (fun priority => ?_) (by simp) (by simp)
    rw [lane_enqueueFront, same]
    cases priority <;> simp [lane, ← isLane, Lane.pushFront]

theorem active_of_nextPending : rest.active = queue.active := by
  rw [← enqueueFront_nextPending popped, active_enqueueFront]

theorem workers_of_nextPending : rest.workers = queue.workers := by
  rw [← enqueueFront_nextPending popped, workers_enqueueFront]

theorem occurs_of_nextPending (buildId : BuildId) (priority : Priority) :
    queue.occurs buildId priority = rest.occurs buildId priority +
      if build.buildId = buildId ∧ priority = build.priority then 1 else 0 := by
  rw [← enqueueFront_nextPending popped, occurs_enqueueFront]

omit popped

theorem nextPending_eq_none (popped : queue.nextPending = none)
    (priority : Priority) : queue.lane priority = [] := by
  unfold nextPending at popped
  repeat' split at popped
  all_goals cases popped
  cases priority <;> exact Lane.popFront_eq_none ‹_›

/-- Removal drops the first occurrence in the first lane that has one. -/
theorem removeById_cases (queue : BuildQueue) (buildId : BuildId) :
    (∃ found, 0 < queue.occurs buildId found ∧ ∀ priority,
      (queue.removeById buildId).lane priority =
        if priority = found then (queue.lane priority).eraseP (·.buildId = buildId)
        else queue.lane priority) ∨
      (∀ priority, queue.occurs buildId priority = 0) ∧ queue.removeById buildId = queue := by
  unfold removeById
  split
  · rename_i fromHigh
    obtain ⟨inside, erased⟩ := Lane.removeFromLane_eq_some fromHigh
    refine Or.inl ⟨.high, inside, fun priority => ?_⟩
    cases priority <;> simp [lane, erased]
  · rename_i notHigh
    split
    · rename_i fromNormal
      obtain ⟨inside, erased⟩ := Lane.removeFromLane_eq_some fromNormal
      refine Or.inl ⟨.normal, inside, fun priority => ?_⟩
      cases priority <;> simp [lane, erased]
    · rename_i notNormal
      split
      · rename_i fromLow
        obtain ⟨inside, erased⟩ := Lane.removeFromLane_eq_some fromLow
        refine Or.inl ⟨.low, inside, fun priority => ?_⟩
        cases priority <;> simp [lane, erased]
      · rename_i notLow
        refine Or.inr ⟨fun priority => ?_, rfl⟩
        cases priority <;> exact Lane.removeFromLane_eq_none ‹_›

/-- Removal changes at most one lane, and there it drops the first occurrence. -/
theorem lane_removeById (queue : BuildQueue) (buildId : BuildId) (priority : Priority) :
    (queue.removeById buildId).lane priority = queue.lane priority ∨
      (queue.removeById buildId).lane priority =
        (queue.lane priority).eraseP (·.buildId = buildId) := by
  rcases removeById_cases queue buildId with ⟨found, -, erased⟩ | ⟨-, same⟩
  · rw [erased]
    split_ifs
    · exact Or.inr rfl
    · exact Or.inl rfl
  · exact Or.inl (by rw [same])

variable {α : Type}

private theorem filter_eraseP_of_disjoint {removed kept : α → Bool}
    (disjoint : ∀ value, removed value = true → ¬ kept value = true) (values : List α) :
    (values.eraseP removed).filter kept = values.filter kept := by
  induction values with
  | nil => rfl
  | cons value values ih =>
    by_cases isRemoved : removed value = true
    · simp [isRemoved, disjoint value isRemoved]
    · simp [isRemoved, List.filter_cons, ih]

private theorem countP_eraseP_self (removed : α → Bool) (values : List α) :
    (values.eraseP removed).countP removed = values.countP removed - 1 := by
  induction values with
  | nil => rfl
  | cons value values ih =>
    by_cases isRemoved : removed value = true
    · simp [isRemoved]
    · simp [isRemoved, ih]

variable (queue) {buildId : BuildId}

theorem filter_lane_removeById {other : BuildId} (different : other ≠ buildId)
    (priority : Priority) :
    ((queue.removeById buildId).lane priority).filter (·.buildId = other) =
      (queue.lane priority).filter (·.buildId = other) := by
  rcases lane_removeById queue buildId priority with same | erased
  · rw [same]
  · rw [erased]
    refine filter_eraseP_of_disjoint (fun build isRemoved isKept => different ?_) _
    exact (of_decide_eq_true isKept).symm.trans (of_decide_eq_true isRemoved)

theorem occurs_removeById_of_ne {other : BuildId}
    (different : other ≠ buildId) (priority : Priority) :
    (queue.removeById buildId).occurs other priority = queue.occurs other priority := by
  simp only [occurs, List.countP_eq_length_filter, filter_lane_removeById queue different]

/-- Removing a build that waits in no lane but one removes one occurrence there. -/
theorem occurs_removeById_self {priority : Priority}
    (only : ∀ other, other ≠ priority → queue.occurs buildId other = 0) (other : Priority) :
    (queue.removeById buildId).occurs buildId other = queue.occurs buildId other - 1 := by
  rcases removeById_cases queue buildId with ⟨found, inside, erased⟩ | ⟨absent, same⟩
  · obtain rfl : found = priority := by
      by_contra away
      rw [only found away] at inside
      exact absurd inside (Nat.lt_irrefl 0)
    rw [occurs, erased]
    split_ifs with isHere
    · exact countP_eraseP_self _ _
    · exact (only other isHere).trans (by rw [only other isHere])
  · rw [same, absent]

theorem occurs_removeById_le (buildId other : BuildId) (priority : Priority) :
    (queue.removeById buildId).occurs other priority ≤ queue.occurs other priority := by
  rcases lane_removeById queue buildId priority with same | erased
  · rw [occurs, same, occurs]
  · rw [occurs, erased, occurs]
    exact List.eraseP_sublist.countP_le

@[simp]
theorem active_removeById (buildId : BuildId) :
    (queue.removeById buildId).active = queue.active := by
  unfold removeById
  repeat' split
  all_goals rfl

@[simp]
theorem workers_removeById (buildId : BuildId) :
    (queue.removeById buildId).workers = queue.workers := by
  unfold removeById
  repeat' split
  all_goals rfl

end BuildQueue

end Cbs

import Cbs.Server.State

/-!
# Startup recovery

A restarted server finds the tables of its predecessor and an empty queue.  Recovery ends the builds
that were in flight and puts the queued ones back into their lanes.
-/

namespace Cbs

/-- The row of a build that was in flight when the server stopped. -/
def failRestarted (env : Env) (row : BuildRow) : BuildRow :=
  { row with
    state := .failure
    error := some "server restarted"
    finishedAt := some env.now }

/-- The row of a build that was being revoked when the server stopped. -/
def completeRevoke (env : Env) (row : BuildRow) : BuildRow :=
  { row with state := .revoked, finishedAt := some env.now }

/-- The row of a queued build whose descriptor cannot be read. -/
def failCorrupt (env : Env) (row : BuildRow) : BuildRow :=
  { row with
    state := .failure
    error := some "corrupt descriptor (recovery)"
    finishedAt := some env.now }

def selectBuilds (env : Env) (states : List BuildState) (table : BuildsTable) :
    List (Sigma fun _ : BuildId => BuildRow) :=
  (table.rows.traverse env.buildRank).filter fun entry => entry.2.state ∈ states

/-- End one build and mark its log as complete. -/
def finalizeRow (env : Env) (change : BuildRow → BuildRow) (state : AppState)
    (entry : Sigma fun _ : BuildId => BuildRow) : AppState :=
  { state with
    builds := state.builds.update entry.1 change
    buildLogs := state.buildLogs.setBuildLogFinished env.now entry.1 }

def finalizeBuilds (env : Env) (states : List BuildState) (change : BuildRow → BuildRow)
    (state : AppState) : AppState :=
  (selectBuilds env states state.builds).foldl (finalizeRow env change) state

def queuedRows (env : Env) (table : BuildsTable) : List (Sigma fun _ : BuildId => BuildRow) :=
  (selectBuilds env [.queued] table).insertionSort fun first second =>
    first.2.queuedAt ≤ second.2.queuedAt

/-- Put one queued row back into its lane, or end it if its descriptor cannot be read. -/
def requeueRow (env : Env) (state : AppState) (entry : Sigma fun _ : BuildId => BuildRow) :
    AppState :=
  match entry.2.descriptor with
  | none => { state with builds := state.builds.update entry.1 (failCorrupt env) }
  | some descriptor =>
    { state with
      queue := state.queue.enqueue
        { buildId := entry.1
          priority := entry.2.priority
          descriptor := descriptor
          userEmail := entry.2.userEmail
          queuedAt := entry.2.queuedAt } }

/-- Put the queued rows back into their lanes. -/
def requeueBuilds (env : Env) (state : AppState) : AppState :=
  (queuedRows env state.builds).foldl (requeueRow env) state

/-- End the builds that a worker had when the server stopped. -/
def finalizeInFlight (env : Env) (state : AppState) : AppState :=
  finalizeBuilds env [.revoking] (completeRevoke env)
    (finalizeBuilds env [.dispatched, .started] (failRestarted env) state)

/-- Recover the builds after a restart. -/
def runStartupRecovery (env : Env) (state : AppState) : AppState :=
  { requeueBuilds env (finalizeInFlight env state) with logWatchers := ∅ }

/-- A new process takes over the database and the log files. -/
def restart (env : Env) (state : AppState) : AppState :=
  runStartupRecovery env (.boot state.builds state.buildLogs state.logFiles)

variable {env : Env} {table : BuildsTable} {buildId : BuildId} {row : BuildRow}

theorem mem_selectBuilds {states : List BuildState} :
    ⟨buildId, row⟩ ∈ selectBuilds env states table ↔
      table.getBuild buildId = some row ∧ row.state ∈ states := by
  simp [selectBuilds, Dictionary.mem_traverse, BuildsTable.getBuild]

theorem nodup_selectBuilds (env : Env) (states : List BuildState) (table : BuildsTable) :
    ((selectBuilds env states table).map Sigma.fst).Nodup :=
  ((List.filter_sublist).map Sigma.fst).nodup (Dictionary.nodup_keys_traverse ..)

@[simp]
theorem queue_finalizeBuilds (env : Env) (states : List BuildState)
    (change : BuildRow → BuildRow) (state : AppState) :
    (finalizeBuilds env states change state).queue = state.queue := by
  unfold finalizeBuilds
  generalize selectBuilds env states state.builds = entries
  induction entries generalizing state with
  | nil => rfl
  | cons entry entries ih => exact ih (finalizeRow env change state entry)

/-- Finalization changes exactly the rows in the given states. -/
theorem getBuild_finalizeBuilds (env : Env) (states : List BuildState)
    (change : BuildRow → BuildRow) (state : AppState) (buildId : BuildId) :
    (finalizeBuilds env states change state).builds.getBuild buildId =
      (state.builds.getBuild buildId).map fun row =>
        if row.state ∈ states then change row else row := by
  rw [finalizeBuilds, getBuild_foldl (fun _ _ => rfl) (nodup_selectBuilds ..)]
  cases found : state.builds.getBuild buildId with
  | none => simp
  | some row =>
    have selected : buildId ∈ (selectBuilds env states state.builds).map Sigma.fst ↔
        row.state ∈ states := by
      constructor
      · intro inside
        obtain ⟨⟨_, other⟩, isEntry, rfl⟩ := List.mem_map.mp inside
        obtain ⟨isRow, isSelected⟩ := mem_selectBuilds.mp isEntry
        rwa [Option.some.inj (found.symm.trans isRow)]
      · intro isSelected
        exact List.mem_map.mpr ⟨⟨buildId, row⟩, mem_selectBuilds.mpr ⟨found, isSelected⟩, rfl⟩
    by_cases isSelected : row.state ∈ states
    · simp [selected.mpr isSelected, isSelected]
    · simp [selected, isSelected]

@[simp]
theorem queue_finalizeInFlight (env : Env) (state : AppState) :
    (finalizeInFlight env state).queue = state.queue := by
  simp [finalizeInFlight]

theorem state_of_finalizeInFlight {state : AppState}
    (found : (finalizeInFlight env state).builds.getBuild buildId = some row) :
    row.state = .queued ∨ row.state.Terminal := by
  rw [finalizeInFlight, getBuild_finalizeBuilds, getBuild_finalizeBuilds, Option.map_map] at found
  obtain ⟨stored, -, rfl⟩ := Option.map_eq_some_iff.mp found
  cases isState : stored.state <;>
    simp [isState, failRestarted, completeRevoke, BuildState.Terminal]

theorem mem_queuedRows :
    ⟨buildId, row⟩ ∈ queuedRows env table ↔
      table.getBuild buildId = some row ∧ row.state = .queued := by
  rw [queuedRows, List.mem_insertionSort, mem_selectBuilds]
  simp

theorem nodup_queuedRows (env : Env) (table : BuildsTable) :
    ((queuedRows env table).map Sigma.fst).Nodup :=
  ((List.perm_insertionSort _ _).map Sigma.fst).nodup_iff.mpr (nodup_selectBuilds ..)

/-- The build that recovery puts into a lane for a row. -/
def waitingBuild (priority : Priority) (entry : Sigma fun _ : BuildId => BuildRow) :
    Option QueuedBuild :=
  if entry.2.priority = priority then
    entry.2.descriptor.map fun descriptor =>
      { buildId := entry.1
        priority := entry.2.priority
        descriptor := descriptor
        userEmail := entry.2.userEmail
        queuedAt := entry.2.queuedAt }
  else none

/-- A row says the same as a build in a lane. -/
def BuildRow.Describes (row : BuildRow) (build : QueuedBuild) : Prop :=
  row.descriptor = some build.descriptor ∧ row.priority = build.priority ∧
    row.userEmail = build.userEmail ∧ row.queuedAt = build.queuedAt

theorem waitingBuild_eq_some {priority : Priority} {build : QueuedBuild} :
    waitingBuild priority ⟨buildId, row⟩ = some build ↔
      build.buildId = buildId ∧ build.priority = priority ∧ row.Describes build := by
  obtain ⟨_, _, descriptor, _, _⟩ := build
  cases isRow : row.descriptor <;> simp [waitingBuild, BuildRow.Describes, isRow]
  grind

theorem lane_foldl_requeueRow (env : Env) (entries : List (Sigma fun _ : BuildId => BuildRow))
    (state : AppState) (priority : Priority) :
    (entries.foldl (requeueRow env) state).queue.lane priority =
      state.queue.lane priority ++ entries.filterMap (waitingBuild priority) := by
  induction entries generalizing state with
  | nil => simp
  | cons entry entries ih =>
    rw [List.foldl_cons, ih, List.filterMap_cons, requeueRow, waitingBuild]
    cases entry.2.descriptor with
    | none => simp
    | some descriptor =>
      by_cases same : entry.2.priority = priority
      · simp [BuildQueue.lane_enqueue, same]
      · simp [BuildQueue.lane_enqueue, same, Ne.symm same]

theorem getBuild_foldl_requeueRow (env : Env)
    {entries : List (Sigma fun _ : BuildId => BuildRow)} (nodup : (entries.map Sigma.fst).Nodup)
    (state : AppState) (buildId : BuildId) :
    (entries.foldl (requeueRow env) state).builds.getBuild buildId =
      if ∃ entry ∈ entries, entry.1 = buildId ∧ entry.2.descriptor = none then
        (state.builds.getBuild buildId).map (failCorrupt env)
      else state.builds.getBuild buildId := by
  induction entries generalizing state with
  | nil => simp
  | cons entry entries ih =>
    obtain ⟨fresh, rest⟩ := List.nodup_cons.mp nodup
    rw [List.foldl_cons, ih rest, requeueRow]
    cases isEntry : entry.2.descriptor with
    | some => exact if_congr (by simp [isEntry]) rfl rfl
    | none =>
      by_cases same : entry.1 = buildId
      · subst same
        have absent : ¬ ∃ other ∈ entries, other.1 = entry.1 ∧ other.2.descriptor = none :=
          fun ⟨other, inside, same, _⟩ => fresh (List.mem_map.mpr ⟨other, inside, same⟩)
        simp [absent, isEntry]
      · simp only [BuildsTable.getBuild_update, if_neg (Ne.symm same)]
        exact if_congr (by simp [same]) rfl rfl

/-- What recovery makes of a row. -/
def recoveredRow (env : Env) (row : BuildRow) : BuildRow :=
  match row.state with
  | .queued => if row.descriptor = none then failCorrupt env row else row
  | .dispatched | .started => failRestarted env row
  | .revoking => completeRevoke env row
  | _ => row

theorem getBuild_finalizeInFlight (env : Env) (state : AppState) (buildId : BuildId) :
    (finalizeInFlight env state).builds.getBuild buildId =
      (state.builds.getBuild buildId).map fun row =>
        if row.state = .queued then row else recoveredRow env row := by
  rw [finalizeInFlight, getBuild_finalizeBuilds, getBuild_finalizeBuilds, Option.map_map]
  congr 1
  funext row
  cases isState : row.state <;>
    simp [isState, recoveredRow, failRestarted, completeRevoke]

/-- The queued rows are the same before and after the builds in flight are ended. -/
theorem mem_queuedRows_finalizeInFlight {state : AppState} :
    ⟨buildId, row⟩ ∈ queuedRows env (finalizeInFlight env state).builds ↔
      state.builds.getBuild buildId = some row ∧ row.state = .queued := by
  rw [mem_queuedRows, getBuild_finalizeInFlight]
  constructor
  · rintro ⟨found, queued⟩
    obtain ⟨stored, isStored, same⟩ := Option.map_eq_some_iff.mp found
    split_ifs at same with waits
    · subst same
      exact ⟨isStored, queued⟩
    · subst same
      cases isState : stored.state <;>
        simp_all [recoveredRow, failRestarted, completeRevoke]
  · rintro ⟨found, queued⟩
    simp [found, queued]

theorem getBuild_runStartupRecovery (env : Env) (state : AppState) (buildId : BuildId) :
    (runStartupRecovery env state).builds.getBuild buildId =
      (state.builds.getBuild buildId).map (recoveredRow env) := by
  simp only [runStartupRecovery, requeueBuilds]
  rw [getBuild_foldl_requeueRow env (nodup_queuedRows ..), getBuild_finalizeInFlight]
  cases found : state.builds.getBuild buildId with
  | none => simp
  | some row =>
    have corrupt : (∃ entry ∈ queuedRows env (finalizeInFlight env state).builds,
        entry.1 = buildId ∧ entry.2.descriptor = none) ↔
        row.state = .queued ∧ row.descriptor = none := by
      constructor
      · rintro ⟨⟨_, other⟩, inside, rfl, unreadable⟩
        obtain ⟨isRow, queued⟩ := mem_queuedRows_finalizeInFlight.mp inside
        cases found.symm.trans isRow
        exact ⟨queued, unreadable⟩
      · rintro ⟨queued, unreadable⟩
        exact ⟨⟨buildId, row⟩, mem_queuedRows_finalizeInFlight.mpr ⟨found, queued⟩, rfl, unreadable⟩
    by_cases queued : row.state = .queued
    · by_cases unreadable : row.descriptor = none <;>
        simp [corrupt, queued, unreadable, recoveredRow]
    · simp [corrupt, queued]

variable (env) (state : AppState) (priority : Priority)

theorem lane_restart :
    (restart env state).queue.lane priority =
      (queuedRows env (finalizeInFlight env (.boot state.builds state.buildLogs
        state.logFiles)).builds).filterMap (waitingBuild priority) := by
  simp only [restart, runStartupRecovery, requeueBuilds]
  rw [lane_foldl_requeueRow, queue_finalizeInFlight]
  have empty : BuildQueue.new.lane priority = [] := by cases priority <;> rfl
  rw [AppState.boot, empty, List.nil_append]

theorem mem_lane_restart {build : QueuedBuild} :
    build ∈ (restart env state).queue.lane priority ↔
      build.priority = priority ∧ ∃ row, state.builds.getBuild build.buildId = some row ∧
        row.state = .queued ∧ row.Describes build := by
  rw [lane_restart, List.mem_filterMap]
  constructor
  · rintro ⟨⟨buildId, row⟩, inside, isBuild⟩
    obtain ⟨found, queued⟩ := mem_queuedRows_finalizeInFlight.mp inside
    obtain ⟨rfl, isPriority, same⟩ := waitingBuild_eq_some.mp isBuild
    exact ⟨isPriority, row, found, queued, same⟩
  · rintro ⟨isPriority, row, found, queued, same⟩
    exact ⟨⟨build.buildId, row⟩, mem_queuedRows_finalizeInFlight.mpr ⟨found, queued⟩,
      waitingBuild_eq_some.mpr ⟨rfl, isPriority, same⟩⟩

/-- Recovery ends every build in flight and every build whose descriptor cannot be read, and leaves
the other rows.  Each lane then holds the readable queued builds of its priority once, oldest first,
with what is stored about them. -/
theorem recovery_exact :
    (∀ buildId, (restart env state).builds.getBuild buildId =
      (state.builds.getBuild buildId).map (recoveredRow env)) ∧
    ((restart env state).queue.lane priority).Pairwise
      (fun first second => first.queuedAt ≤ second.queuedAt ∧ first.buildId ≠ second.buildId) ∧
    ∀ build, build ∈ (restart env state).queue.lane priority ↔
      build.priority = priority ∧ ∃ row, state.builds.getBuild build.buildId = some row ∧
        row.state = .queued ∧ row.Describes build := by
  refine ⟨getBuild_runStartupRecovery env _, ?_, fun _ => mem_lane_restart ..⟩
  rw [lane_restart, List.pairwise_filterMap]
  generalize (finalizeInFlight env _).builds = table
  have ordered : (queuedRows env table).Pairwise fun first second =>
      first.2.queuedAt ≤ second.2.queuedAt :=
    List.pairwise_insertionSort _ _
  have distinct := List.pairwise_map.mp (nodup_queuedRows env table)
  refine (ordered.and distinct).imp fun {first second} apart early isEarly late isLate => ?_
  obtain ⟨isFirst, -, -, -, -, early⟩ := waitingBuild_eq_some.mp isEarly
  obtain ⟨isSecond, -, -, -, -, late⟩ := waitingBuild_eq_some.mp isLate
  rw [isFirst, isSecond, ← early, ← late]
  exact apart

end Cbs

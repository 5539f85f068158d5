import Cbs.Library.Dictionary
import Cbs.Proto

/-!
# The builds table

The rows of `builds` and `build_logs` and the statements that change them.  None of the updates is
guarded by the state that a row is in.
-/

namespace Cbs

/-- A row of the `builds` table. -/
structure BuildRow where
  /-- The stored descriptor; `none` stands for a text that does not deserialize. -/
  descriptor : Option BuildDescriptor
  userEmail : String
  priority : Priority
  state : BuildState
  workerId : Option WorkerId
  traceId : Option String
  error : Option String
  submittedAt : Int
  queuedAt : Int
  startedAt : Option Int
  finishedAt : Option Int
  buildReport : Option String
  periodicTaskId : Option String
  channelId : Option Int
  channelTypeId : Option Int
  deriving DecidableEq

/-- The `builds` table with its `AUTOINCREMENT` sequence. -/
structure BuildsTable where
  rows : Dictionary BuildId BuildRow
  sequence : BuildId
  bounded : ∀ buildId ∈ rows, buildId ≤ sequence
  deriving DecidableEq

namespace BuildsTable

def empty : BuildsTable where
  rows := ∅
  sequence := 0
  bounded := by simp

variable (table : BuildsTable)

def getBuild (buildId : BuildId) : Option BuildRow :=
  table.rows.lookup buildId

/-- An `UPDATE ... WHERE id = ?`. -/
def update (buildId : BuildId) (change : BuildRow → BuildRow) : BuildsTable where
  rows := table.rows.modify buildId change
  sequence := table.sequence
  bounded := fun other inside => table.bounded other (Dictionary.mem_modify.mp inside)

def nextId : BuildId :=
  table.sequence + 1

def insertBuild (now : Int) (descriptor : BuildDescriptor)
    (userEmail : String) (priority : Priority) (periodicTaskId : Option String)
    (channelId channelTypeId : Option Int) : BuildsTable where
  rows := table.rows.insert table.nextId
    { descriptor := some descriptor
      userEmail := userEmail
      priority := priority
      state := .queued
      workerId := none
      traceId := none
      error := none
      submittedAt := now
      queuedAt := now
      startedAt := none
      finishedAt := none
      buildReport := none
      periodicTaskId := periodicTaskId
      channelId := channelId
      channelTypeId := channelTypeId }
  sequence := table.nextId
  bounded := by
    intro other inside
    rcases (AList.mem_insert _).mp inside with rfl | old
    · exact le_rfl
    · exact Int.le_of_lt (Int.lt_add_one_of_le (table.bounded other old))

def updateBuildState (buildId : BuildId) (state : BuildState)
    (error : Option String) : BuildsTable :=
  table.update buildId fun row => { row with state := state, error := error.or row.error }

/-- Return a build to the queue and clear what its dispatch left in the row. -/
def rollbackDispatchToQueued (buildId : BuildId) : BuildsTable :=
  table.update buildId fun row =>
    { row with
      state := .queued
      workerId := none
      traceId := none
      error := none
      startedAt := none
      finishedAt := none
      buildReport := none }

def setBuildDispatched (buildId : BuildId) (traceId : String) (workerId : WorkerId) : BuildsTable :=
  table.update buildId fun row =>
    { row with state := .dispatched, traceId := some traceId, workerId := some workerId }

def setBuildStarted (now : Int) (buildId : BuildId) : BuildsTable :=
  table.update buildId fun row => { row with state := .started, startedAt := some now }

/-- Record the end of a build. -/
def setBuildFinished (now : Int) (buildId : BuildId) (state : BuildState)
    (error buildReport : Option String) : BuildsTable :=
  table.update buildId fun row =>
    { row with
      state := state
      finishedAt := some now
      error := error.or row.error
      buildReport := buildReport }

def setBuildRevoking (buildId : BuildId) : BuildsTable :=
  table.update buildId fun row => { row with state := .revoking }

@[simp]
theorem getBuild_update (buildId other : BuildId) (change : BuildRow → BuildRow) :
    (table.update buildId change).getBuild other =
      if other = buildId then (table.getBuild other).map change else table.getBuild other :=
  Dictionary.lookup_modify ..

theorem getBuild_insertBuild (now : Int) (descriptor : BuildDescriptor)
    (userEmail : String) (priority : Priority) (periodicTaskId : Option String)
    (channelId channelTypeId : Option Int) (other : BuildId) (different : other ≠ table.nextId) :
    (table.insertBuild now descriptor userEmail priority periodicTaskId channelId
      channelTypeId).getBuild other = table.getBuild other :=
  AList.lookup_insert_ne different

@[simp]
theorem getBuild_nextId : table.getBuild table.nextId = none := by
  refine AList.lookup_eq_none.mpr fun inside => ?_
  exact absurd (table.bounded _ inside) (Int.not_le.mpr (Int.lt_succ _))

end BuildsTable

/-- A row of the `build_logs` table. -/
structure BuildLogRow where
  logPath : String
  logSize : Nat
  finished : Bool
  updatedAt : Int
  deriving DecidableEq

/-- The `build_logs` table. -/
abbrev BuildLogsTable : Type :=
  Dictionary BuildId BuildLogRow

namespace BuildLogsTable

variable (table : BuildLogsTable)

def insertBuildLogRow (now : Int) (buildId : BuildId) : BuildLogsTable :=
  table.insert buildId
    { logPath := "builds/" ++ toString buildId ++ ".log"
      logSize := 0
      finished := false
      updatedAt := now }

def setBuildLogFinished (now : Int) (buildId : BuildId) : BuildLogsTable :=
  Dictionary.modify buildId (fun row => { row with finished := true, updatedAt := now }) table

def updateBuildLogSize (now : Int) (buildId : BuildId) (size : Nat) : BuildLogsTable :=
  Dictionary.modify buildId (fun row => { row with logSize := size, updatedAt := now }) table

end BuildLogsTable

end Cbs

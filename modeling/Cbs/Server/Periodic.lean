import Cbs.Library.Dictionary
import Cbs.Proto

/-!
# Periodic tasks

The `periodic_tasks` table and the statements with which the scheduler records what became of a
trigger.
-/

namespace Cbs

/-- A row of the `periodic_tasks` table. -/
structure PeriodicTaskRow where
  cronExpr : String
  tagFormat : String
  /-- The stored descriptor, or why its text does not deserialize. -/
  descriptor : Except String BuildDescriptor
  priority : String
  enabled : Bool
  createdBy : String
  createdAt : Int
  retryCount : Nat
  retryAt : Option Int
  lastError : Option String
  lastTriggeredAt : Option Int
  lastBuildId : Option BuildId
  deriving DecidableEq

/-- The `periodic_tasks` table by key. -/
abbrev TaskTable : Type :=
  Dictionary String PeriodicTaskRow

namespace TaskTable

def getTask (tasks : TaskTable) (taskId : String) : Option PeriodicTaskRow :=
  tasks.lookup taskId

/-- The enabled tasks with their keys, ordered by creation time. -/
def listEnabledTasks (tasks : TaskTable) : List (Sigma fun _ : String => PeriodicTaskRow) :=
  (tasks.entries.filter (·.2.enabled)).insertionSort fun first second =>
    first.2.createdAt ≤ second.2.createdAt

/-- Record a successful trigger. -/
def updateTriggerSuccess (tasks : TaskTable) (now : Int) (taskId : String) (buildId : BuildId) :
    TaskTable :=
  tasks.modify taskId fun task =>
    { task with
      retryCount := 0
      retryAt := none
      lastError := none
      lastTriggeredAt := some now
      lastBuildId := some buildId }

def updateRetry (tasks : TaskTable) (taskId : String) (retryCount : Nat) (retryAt : Int)
    (lastError : String) : TaskTable :=
  tasks.modify taskId fun task =>
    { task with retryCount := retryCount, retryAt := some retryAt, lastError := some lastError }

/-- Disable a task and record why. -/
def disableWithError (tasks : TaskTable) (taskId lastError : String) : TaskTable :=
  tasks.modify taskId fun task =>
    { task with enabled := false, retryAt := none, lastError := some lastError }

variable {tasks : TaskTable} {taskId : String} {task : PeriodicTaskRow}

theorem mem_of_getTask (stored : tasks.getTask taskId = some task) : taskId ∈ tasks := by
  have found : tasks.lookup taskId = some task := stored
  apply AList.lookup_isSome.mp
  rw [found]
  rfl

theorem exists_getTask (stored : taskId ∈ tasks) : ∃ task, tasks.getTask taskId = some task :=
  Option.isSome_iff_exists.mp (AList.lookup_isSome.mpr stored)

theorem mem_listEnabledTasks :
    ⟨taskId, task⟩ ∈ tasks.listEnabledTasks ↔
      tasks.getTask taskId = some task ∧ task.enabled = true := by
  rw [listEnabledTasks, List.mem_insertionSort, List.mem_filter]
  exact and_congr_left fun _ => AList.mem_lookup_iff.symm

end TaskTable

end Cbs

import Mathlib.Data.List.Sort
import Mathlib.Data.Prod.Lex
import Mathlib.Data.String.Basic
import Cbs.Library.Recurrence
import Cbs.Server.Trigger

/-!
# The scheduler of periodic tasks

The loop computes the next time of every enabled task, waits for the earliest one, triggers that
task and starts over with the time it has become.  Times are nanoseconds of the epoch.
-/

namespace Cbs

open Recurrence

/-- What the scheduler uses from the libraries for cron expressions and for time. -/
structure CronLibrary (Expr : Type) where
  fromStr : String → Option Expr
  /-- The next occurrence, not counting the given instant. -/
  findNextOccurrence : Expr → Int → Option Int
  /-- The instant of a number of seconds, if it is in range. -/
  timestampOpt : Int → Option Int

/-- The failed attempts after which a task is disabled. -/
def maxRetryCount : Nat := 10

/-- The delay before another attempt in whole seconds: thirty seconds, half as much again for every
failed attempt, and ten minutes at most. -/
def backoffSecs (retryCount : Nat) : Nat :=
  min (30 * 3 ^ retryCount / 2 ^ retryCount) 600

/-- The scheduler when it has read the time: the table of tasks, the time, and the triggers so far
with the times that they were due. -/
structure SchedulerState where
  tasks : TaskTable
  now : Int
  fired : List (Int × String)

structure Tick where
  notified : Bool
  wake : Int
  outcome : Except TriggerError BuildId
  finished : Int
  next : Int

/-- The number of whole seconds of an instant. -/
def timestamp (instant : Int) : Int :=
  instant / 1000000000

/-- Record what came of a trigger. -/
def recordOutcome (tick : Tick) (taskId : String) (task : PeriodicTaskRow) (tasks : TaskTable) :
    TaskTable :=
  match tick.outcome with
  | .ok buildId => tasks.updateTriggerSuccess (timestamp tick.finished) taskId buildId
  | .error .ownerAccountMissing => tasks.disableWithError taskId "owner_account_missing"
  | .error (.fatal message) => tasks.disableWithError taskId message
  | .error (.transient message) =>
    if task.retryCount + 1 ≥ maxRetryCount then
      tasks.disableWithError taskId
        ("max retries (" ++ toString maxRetryCount ++ ") exceeded: " ++ message)
    else
      tasks.updateRetry taskId (task.retryCount + 1)
        (timestamp tick.finished + backoffSecs task.retryCount) message

section Loop

variable {Expr : Type} (library : CronLibrary Expr)

def cronFireTime (now : Int) (cronExpr : String) : Option Int := do
  let cron ← library.fromStr cronExpr
  let next ← library.findNextOccurrence cron now
  if next ≤ now then library.findNextOccurrence cron next else some next

/-- The time of a task: that of its retry, which may be overdue, or else that of its cron
expression. -/
def fireTime (now : Int) (task : PeriodicTaskRow) : Option Int :=
  match task.retryAt.bind library.timestampOpt with
  | some retryTime => some (if retryTime > now then retryTime else now)
  | none => cronFireTime library now task.cronExpr

/-- Earlier entries come first, and of several entries for one time the one with the smaller key. -/
def ScheduledBefore (first second : Int × String) : Prop :=
  toLex first ≤ toLex second

instance : DecidableRel ScheduledBefore :=
  fun first second => inferInstanceAs (Decidable (toLex first ≤ toLex second))

instance : Std.Total ScheduledBefore :=
  ⟨fun first second => le_total (toLex first) (toLex second)⟩

instance : IsTrans (Int × String) ScheduledBefore :=
  ⟨fun _ _ _ => le_trans⟩

def SchedulerState.schedule (state : SchedulerState) : List (Int × String) :=
  (state.tasks.listEnabledTasks.filterMap fun entry =>
    (fireTime library state.now entry.2).map fun time => (time, entry.1)).insertionSort
      ScheduledBefore

/-- One round of the loop: sleep until the first entry, fetch its task again, trigger it and record
the outcome.  A round without entries, or with a notification, only starts over. -/
def SchedulerState.iterate (state : SchedulerState) (tick : Tick) : SchedulerState :=
  match (state.schedule library).head? with
  | none => { state with now := tick.next }
  | some (time, taskId) =>
    if tick.notified then { state with now := tick.next }
    else
      match state.tasks.getTask taskId with
      | none => { state with now := tick.next }
      | some task =>
        if task.enabled then
          { tasks := recordOutcome tick taskId task state.tasks
            now := tick.next
            fired := state.fired ++ [(time, taskId)] }
        else { state with now := tick.next }

/-- The clock does not run backwards, a sleep does not end before its target, and without entries
the wait ends with a notification. -/
structure SchedulerState.Timely (state : SchedulerState) (tick : Tick) : Prop where
  waits : state.now ≤ tick.wake
  returns : tick.wake ≤ tick.finished
  continues : tick.finished ≤ tick.next
  sleeps : ∀ entry, (state.schedule library).head? = some entry → tick.notified = false →
    entry.1 ≤ tick.wake
  woken : (state.schedule library).head? = none → tick.notified = true

def SchedulerState.iterateAll (state : SchedulerState) : List Tick → SchedulerState
  | [] => state
  | tick :: ticks => (state.iterate library tick).iterateAll ticks

/-- The clock and the sleeps of a whole run are as they should be. -/
def SchedulerState.TimelyRun (state : SchedulerState) : List Tick → Prop
  | [] => True
  | tick :: ticks => state.Timely library tick ∧ (state.iterate library tick).TimelyRun ticks

end Loop

/-- The cron expression has the occurrences, and the library finds the first one after any
instant. -/
def CronLibrary.Finds {Expr : Type} (library : CronLibrary Expr) (cronExpr : String)
    (occurs : Int → Prop) : Prop :=
  ∃ cron, library.fromStr cronExpr = some cron ∧
    ∀ instant, ∃ next, library.findNextOccurrence cron instant = some next ∧
      IsNext occurs instant next

/-- All tasks are enabled, none of them waits for another attempt, and their occurrences are those
of a timetable. -/
def Regular {Expr : Type} (library : CronLibrary Expr) (timetable : String → Int → Prop)
    (tasks : TaskTable) : Prop :=
  ∀ taskId task, tasks.getTask taskId = some task →
    task.enabled = true ∧ task.retryAt = none ∧ library.Finds task.cronExpr (timetable taskId)

def OccursIn (tasks : TaskTable) (timetable : String → Int → Prop) (taskId : String)
    (time : Int) : Prop :=
  taskId ∈ tasks ∧ timetable taskId time

section Schedule

variable {Expr : Type} {library : CronLibrary Expr} {timetable : String → Int → Prop}
  {state : SchedulerState}

theorem cronFireTime_of_finds {cronExpr : String} {occurs : Int → Prop}
    (finds : library.Finds cronExpr occurs) (now : Int) :
    ∃ next, cronFireTime library now cronExpr = some next ∧ IsNext occurs now next := by
  obtain ⟨cron, parsed, search⟩ := finds
  obtain ⟨next, found, isNext⟩ := search now
  refine ⟨next, ?_, isNext⟩
  simp [cronFireTime, parsed, found, isNext.later]

variable {taskId : String} (regular : Regular library timetable state.tasks)

include regular

theorem fireTime_of_regular
    {task : PeriodicTaskRow} (stored : state.tasks.getTask taskId = some task) :
    ∃ next, fireTime library state.now task = some next ∧
      IsNext (timetable taskId) state.now next := by
  obtain ⟨-, noRetry, finds⟩ := regular taskId task stored
  obtain ⟨next, found, isNext⟩ := cronFireTime_of_finds finds state.now
  exact ⟨next, by simp [fireTime, noRetry, found], isNext⟩

theorem mem_schedule_iff {time : Int} :
    (time, taskId) ∈ state.schedule library ↔
      taskId ∈ state.tasks ∧ IsNext (timetable taskId) state.now time := by
  rw [SchedulerState.schedule, List.mem_insertionSort, List.mem_filterMap]
  constructor
  · rintro ⟨⟨key, task⟩, inside, isEntry⟩
    obtain ⟨found, isFound, same⟩ := Option.map_eq_some_iff.mp isEntry
    obtain ⟨rfl, rfl⟩ := Prod.mk.inj same
    obtain ⟨stored, -⟩ := TaskTable.mem_listEnabledTasks.mp inside
    obtain ⟨next, isNext, first⟩ := fireTime_of_regular regular stored
    obtain rfl := Option.some.inj (isFound.symm.trans isNext)
    exact ⟨TaskTable.mem_of_getTask stored, first⟩
  · rintro ⟨stored, isNext⟩
    obtain ⟨task, isTask⟩ := TaskTable.exists_getTask stored
    obtain ⟨next, found, first⟩ := fireTime_of_regular regular isTask
    obtain rfl := isNext.unique first
    refine ⟨⟨taskId, task⟩, TaskTable.mem_listEnabledTasks.mpr ⟨isTask, ?_⟩, ?_⟩
    · exact (regular taskId task isTask).1
    · rw [found]
      rfl

theorem earliest_of_head {target : Int}
    (head : (state.schedule library).head? = some (target, taskId)) :
    OccursIn state.tasks timetable taskId target ∧ state.now < target ∧
      ∀ other time, state.now < time → OccursIn state.tasks timetable other time →
        target ≤ time := by
  obtain ⟨rest, isSchedule⟩ := List.head?_eq_some_iff.mp head
  have inside : (target, taskId) ∈ state.schedule library := by
    rw [isSchedule]
    exact List.mem_cons_self
  obtain ⟨stored, isNext⟩ := (mem_schedule_iff regular).mp inside
  refine ⟨⟨stored, isNext.occurrence⟩, isNext.later, ?_⟩
  rintro other time after ⟨otherStored, isOccurrence⟩
  obtain ⟨task, isTask⟩ := TaskTable.exists_getTask otherStored
  obtain ⟨next, -, first⟩ := fireTime_of_regular regular isTask
  have entry : (next, other) ∈ state.schedule library :=
    (mem_schedule_iff regular).mpr ⟨otherStored, first⟩
  have sorted : (state.schedule library).Pairwise ScheduledBefore :=
    List.pairwise_insertionSort ScheduledBefore _
  rw [isSchedule] at entry sorted
  have first_le : target ≤ next := by
    rcases List.mem_cons.mp entry with same | later
    · exact (Prod.mk.inj same).1.ge
    · exact Prod.Lex.monotone_fst _ _ (List.rel_of_pairwise_cons sorted later)
  exact first_le.trans (first.least time after isOccurrence)

theorem exists_head (stored : taskId ∈ state.tasks) :
    ∃ entry, (state.schedule library).head? = some entry := by
  obtain ⟨task, isTask⟩ := TaskTable.exists_getTask stored
  obtain ⟨next, -, first⟩ := fireTime_of_regular regular isTask
  have entry : (next, taskId) ∈ state.schedule library :=
    (mem_schedule_iff regular).mpr ⟨stored, first⟩
  exact Option.isSome_iff_exists.mp (List.isSome_head?.mpr (List.ne_nil_of_mem entry))

omit regular

theorem regular_updateTriggerSuccess {tasks : TaskTable}
    (regular : Regular library timetable tasks) (now : Int) (taskId : String) (buildId : BuildId) :
    Regular library timetable (tasks.updateTriggerSuccess now taskId buildId) := by
  intro other task stored
  rw [TaskTable.getTask, TaskTable.updateTriggerSuccess, Dictionary.lookup_modify] at stored
  split_ifs at stored
  · obtain ⟨old, isOld, rfl⟩ := Option.map_eq_some_iff.mp stored
    obtain ⟨enabled, -, finds⟩ := regular other old isOld
    exact ⟨enabled, rfl, finds⟩
  · exact regular other task stored

theorem occursIn_updateTriggerSuccess (tasks : TaskTable) (timetable : String → Int → Prop)
    (now : Int) (taskId : String) (buildId : BuildId) :
    OccursIn (tasks.updateTriggerSuccess now taskId buildId) timetable =
      OccursIn tasks timetable := by
  funext other time
  exact propext (and_congr_left fun _ => Dictionary.mem_modify)

/-- No change of the tasks interrupts the round, and its trigger succeeds. -/
def Tick.Undisturbed (tick : Tick) : Prop :=
  tick.notified = false ∧ ∃ buildId, tick.outcome = .ok buildId

/-- An undisturbed round triggers the first entry of the schedule and nothing else. -/
theorem iterate_of_undisturbed (regular : Regular library timetable state.tasks) {tick : Tick}
    (timely : state.Timely library tick) (undisturbed : tick.Undisturbed) :
    ∃ target taskId buildId, (state.schedule library).head? = some (target, taskId) ∧
      target ≤ tick.next ∧
      state.iterate library tick =
        { tasks := state.tasks.updateTriggerSuccess (timestamp tick.finished) taskId buildId
          now := tick.next
          fired := state.fired ++ [(target, taskId)] } := by
  obtain ⟨quiet, buildId, succeeds⟩ := undisturbed
  cases head : (state.schedule library).head? with
  | none => exact nomatch quiet.symm.trans (timely.woken head)
  | some entry =>
    obtain ⟨target, taskId⟩ := entry
    obtain ⟨⟨stored, -⟩, -⟩ := earliest_of_head regular head
    obtain ⟨task, isTask⟩ := TaskTable.exists_getTask stored
    have enabled := (regular taskId task isTask).1
    have reached : target ≤ tick.next :=
      (timely.sleeps _ head quiet).trans (timely.returns.trans timely.continues)
    refine ⟨target, taskId, buildId, rfl, reached, ?_⟩
    simp [SchedulerState.iterate, head, quiet, isTask, enabled, recordOutcome, succeeds]

variable (library timetable) in
/-- When the loop goes to sleep, every occurrence after the start and before the target was
triggered. -/
def NoneSkipped (start : Int) (state : SchedulerState) : Prop :=
  ∀ target taskId, (state.schedule library).head? = some (target, taskId) →
    ∀ other time, start < time → time < target → OccursIn state.tasks timetable other time →
      (time, other) ∈ state.fired

variable {start : Int}

theorem noneSkipped_iff (regular : Regular library timetable state.tasks) :
    NoneSkipped library timetable start state ↔
      ServedUpTo (OccursIn state.tasks timetable) start state.now state.fired := by
  constructor
  · intro none item time afterStart upTo isOccurrence
    obtain ⟨⟨target, taskId⟩, head⟩ := exists_head regular isOccurrence.1
    obtain ⟨-, later, -⟩ := earliest_of_head regular head
    exact none target taskId head item time afterStart (upTo.trans_lt later) isOccurrence
  · intro complete target taskId head
    obtain ⟨-, later, earliest⟩ := earliest_of_head regular head
    exact (servedBefore_iff later earliest).mpr complete

/-- The tasks have at most one occurrence in each round, that is from the time that it reads up to
the time that the next one reads. -/
def SingleOccurrences (occurs : String → Int → Prop) : Int → List Tick → Prop
  | _, [] => True
  | now, tick :: ticks => AtMostOne occurs now tick.next ∧ SingleOccurrences occurs tick.next ticks

/-- A run that has served everything so far goes on to do so exactly when there is at most one
occurrence in each round. -/
theorem noneSkipped_run_iff {ticks : List Tick} (started : start ≤ state.now)
    (regular : Regular library timetable state.tasks) (past : Past state.now state.fired)
    (complete : ServedUpTo (OccursIn state.tasks timetable) start state.now state.fired)
    (timely : state.TimelyRun library ticks) (undisturbed : ∀ tick ∈ ticks, tick.Undisturbed) :
    (∀ done rest, ticks = done ++ rest →
        NoneSkipped library timetable start (state.iterateAll library done)) ↔
      SingleOccurrences (OccursIn state.tasks timetable) state.now ticks := by
  induction ticks generalizing state with
  | nil =>
    refine iff_of_true ?_ trivial
    intro done rest split
    obtain ⟨rfl, -⟩ := List.append_eq_nil_iff.mp split.symm
    exact (noneSkipped_iff regular).mpr complete
  | cons tick ticks ih =>
    obtain ⟨timelyNow, timelyLater⟩ := timely
    have undisturbedNow := undisturbed tick List.mem_cons_self
    obtain ⟨target, taskId, buildId, head, reached, isNext⟩ :=
      iterate_of_undisturbed regular timelyNow undisturbedNow
    obtain ⟨occurrence, later, -⟩ := earliest_of_head regular head
    have progress : state.now ≤ tick.next := later.le.trans reached
    -- The next state: regular again, with the same occurrences, and everything in the past.
    have regularNext : Regular library timetable (state.iterate library tick).tasks := by
      rw [isNext]
      exact regular_updateTriggerSuccess regular _ _ _
    have sameOccurrences : OccursIn (state.iterate library tick).tasks timetable =
        OccursIn state.tasks timetable := by
      rw [isNext]
      exact occursIn_updateTriggerSuccess _ _ _ _ _
    have nowNext : (state.iterate library tick).now = tick.next := by rw [isNext]
    have firedNext : (state.iterate library tick).fired = state.fired ++ [(target, taskId)] := by
      rw [isNext]
    have pastNext : Past (state.iterate library tick).now (state.iterate library tick).fired := by
      rw [nowNext, firedNext]
      exact past.append progress reached
    have step := servedUpTo_append_iff started past complete occurrence later reached
    rw [← nowNext, ← firedNext, ← sameOccurrences] at step
    have rest := fun completeNext => ih (started.trans (progress.trans_eq nowNext.symm))
      regularNext pastNext completeNext timelyLater
      fun other inside => undisturbed other (List.mem_cons_of_mem _ inside)
    rw [SingleOccurrences, ← sameOccurrences, ← nowNext]
    constructor
    · intro none
      have completeNext := (noneSkipped_iff regularNext).mp (none [tick] ticks rfl)
      refine ⟨step.mp completeNext, (rest completeNext).mp ?_⟩
      intro done others split
      exact none (tick :: done) others (by rw [split]; rfl)
    · rintro ⟨single, singleLater⟩ done others split
      have completeNext := step.mpr single
      cases done with
      | nil => exact (noneSkipped_iff regular).mpr complete
      | cons first done =>
        obtain ⟨rfl, others_eq⟩ := List.cons.inj split
        exact (rest completeNext).mpr singleLater done others others_eq

/-- An undisturbed run of the scheduler skips no occurrence of any task exactly when the tasks have
at most one occurrence in each round of the loop. -/
theorem no_occurrence_skipped_iff {ticks : List Tick} (fresh : state.fired = [])
    (regular : Regular library timetable state.tasks) (timely : state.TimelyRun library ticks)
    (undisturbed : ∀ tick ∈ ticks, tick.Undisturbed) :
    (∀ done rest, ticks = done ++ rest →
        NoneSkipped library timetable state.now (state.iterateAll library done)) ↔
      SingleOccurrences (OccursIn state.tasks timetable) state.now ticks := by
  refine noneSkipped_run_iff le_rfl regular ?_ ?_ timely undisturbed
  · rw [fresh]
    exact fun _ inside => nomatch inside
  · intro _ _ after upTo
    exact absurd upTo (not_le.mpr after)

end Schedule

/-- A library with an expression for every half minute, where all others mean every full minute;
time is counted in seconds here. -/
def minuteLibrary : CronLibrary Int where
  fromStr := fun cronExpr => some (if cronExpr = "30 * * * * *" then 30 else 0)
  findNextOccurrence := fun second instant => some ((instant - second) / 60 * 60 + 60 + second)
  timestampOpt := some

def minutely (taskId : String) (time : Int) : Prop :=
  time % 60 = if taskId = "half" then 30 else 0

def minuteTask (taskId : String) : PeriodicTaskRow :=
  { nightlyTask ownBody.descriptor with
    cronExpr := if taskId = "half" then "30 * * * * *" else "0 * * * * *" }

theorem minuteLibrary_finds (taskId : String) :
    minuteLibrary.Finds (minuteTask taskId).cronExpr (minutely taskId) := by
  have parsed : minuteLibrary.fromStr (minuteTask taskId).cronExpr =
      some (if taskId = "half" then 30 else 0) := by
    by_cases half : taskId = "half" <;> simp [minuteLibrary, minuteTask, half]
  refine ⟨_, parsed, fun instant => ⟨_, rfl, ?_, ?_, ?_⟩⟩
  · omega
  · unfold minutely
    omega
  · unfold minutely
    intro time after isOccurrence
    omega

def minuteTasks : List String → TaskTable
  | [] => ∅
  | taskId :: taskIds => (minuteTasks taskIds).insert taskId (minuteTask taskId)

variable {taskIds : List String} {taskId : String}

theorem getTask_minuteTasks {task : PeriodicTaskRow}
    (stored : (minuteTasks taskIds).getTask taskId = some task) :
    taskId ∈ taskIds ∧ task = minuteTask taskId := by
  induction taskIds with
  | nil => exact nomatch stored
  | cons first taskIds ih =>
    rw [TaskTable.getTask, minuteTasks, Dictionary.lookup_insert_eq] at stored
    split_ifs at stored with same
    · subst same
      exact ⟨List.mem_cons_self, (Option.some.inj stored).symm⟩
    · obtain ⟨inside, isTask⟩ := ih stored
      exact ⟨List.mem_cons_of_mem _ inside, isTask⟩

/-- The scheduler at its start, with tasks that are due every minute. -/
def minuteScheduler (taskIds : List String) : SchedulerState where
  tasks := minuteTasks taskIds
  now := 0
  fired := []

theorem regular_minuteScheduler (taskIds : List String) :
    Regular minuteLibrary minutely (minuteScheduler taskIds).tasks := by
  intro taskId task stored
  obtain ⟨-, rfl⟩ := getTask_minuteTasks stored
  exact ⟨rfl, rfl, minuteLibrary_finds taskId⟩

/-- A round that triggers in time and takes a second. -/
def minuteTick (wake : Int) : Tick where
  notified := false
  wake := wake
  outcome := .ok 1
  finished := wake + 1
  next := wake + 1

theorem timely_minuteTick {state : SchedulerState} (wake : Int) (taskId : String)
    (head : (state.schedule minuteLibrary).head? = some (wake, taskId)) (waits : state.now ≤ wake) :
    state.Timely minuteLibrary (minuteTick wake) := by
  refine ⟨waits, Int.le_add_one le_rfl, le_rfl, ?_, ?_⟩
  · intro entry isEntry _
    obtain rfl := Option.some.inj (head.symm.trans isEntry)
    exact le_rfl
  · intro none
    exact nomatch head.symm.trans none

theorem undisturbed_minuteTick (wakes : List Int) :
    ∀ tick ∈ wakes.map minuteTick, tick.Undisturbed := by
  intro tick inside
  obtain ⟨wake, -, rfl⟩ := List.mem_map.mp inside
  exact ⟨rfl, 1, rfl⟩

theorem atMostOne_staggered {start finish : Int} (short : finish < start / 30 * 30 + 60) :
    AtMostOne (OccursIn (minuteScheduler ["first", "half"]).tasks minutely) start finish := by
  rintro item time ⟨itemStored, isMinute⟩ after upTo other later ⟨otherStored, isLater⟩ afterLater
    upToLater
  obtain ⟨itemTask, isItem⟩ := TaskTable.exists_getTask itemStored
  obtain ⟨otherTask, isOther⟩ := TaskTable.exists_getTask otherStored
  have itemIds := (getTask_minuteTasks isItem).1
  have otherIds := (getTask_minuteTasks isOther).1
  simp only [List.mem_cons, List.not_mem_nil, or_false] at itemIds otherIds
  unfold minutely at isMinute isLater
  have same : time = later := by omega
  subst same
  rcases itemIds with rfl | rfl <;> rcases otherIds with rfl | rfl
  all_goals first | rfl | (simp at isMinute isLater; omega)

/-- Two tasks that are half a minute apart are both triggered before the loop sleeps for the second
minute. -/
theorem staggered_tasks_not_skipped :
    NoneSkipped minuteLibrary minutely 0
      ((minuteScheduler ["first", "half"]).iterateAll minuteLibrary
        [minuteTick 30, minuteTick 60]) := by
  have timely : (minuteScheduler ["first", "half"]).TimelyRun minuteLibrary
      [minuteTick 30, minuteTick 60] :=
    ⟨timely_minuteTick 30 "half" (by decide) (by decide),
      timely_minuteTick 60 "first" (by decide) (by decide), trivial⟩
  have single : SingleOccurrences
      (OccursIn (minuteScheduler ["first", "half"]).tasks minutely) 0
      [minuteTick 30, minuteTick 60] :=
    ⟨atMostOne_staggered (by decide), atMostOne_staggered (by decide), trivial⟩
  exact (no_occurrence_skipped_iff rfl (regular_minuteScheduler ["first", "half"]) timely
    (undisturbed_minuteTick [30, 60])).mpr single _ [] (List.append_nil _).symm

/-- Two tasks share the first minute.  The first one is triggered, and the loop then sleeps for the
second minute: the other task was skipped. -/
theorem shared_occurrence_skipped :
    Regular minuteLibrary minutely (minuteScheduler ["first", "second"]).tasks ∧
      (minuteScheduler ["first", "second"]).TimelyRun minuteLibrary [minuteTick 60] ∧
      (∀ tick ∈ [minuteTick 60], tick.Undisturbed) ∧
      ¬ NoneSkipped minuteLibrary minutely 0
        ((minuteScheduler ["first", "second"]).iterateAll minuteLibrary [minuteTick 60]) := by
  refine ⟨regular_minuteScheduler _,
    ⟨timely_minuteTick 60 "first" (by decide) (by decide), trivial⟩,
    undisturbed_minuteTick [60], ?_⟩
  intro none
  have head : (((minuteScheduler ["first", "second"]).iterateAll minuteLibrary
      [minuteTick 60]).schedule minuteLibrary).head? = some (120, "first") := by
    decide
  have fired := none 120 "first" head "second" 60 (by decide) (by decide) ⟨by decide, rfl⟩
  revert fired
  decide

end Cbs

import Cbs.Library.Dictionary
import Cbs.Library.Transition
import Mathlib.Data.Finset.Erase
import Mathlib.Data.Finset.Insert
import Mathlib.Tactic.SplitIfs

/-!
# The tracker of periodic tasks

Periodic tasks are kept in memory and in a file.  The two differ after a save that failed and after
a run that disables its task.
-/

namespace Cbs

open Transition

/-- A periodic task; the descriptor of its build does not matter. -/
structure PeriodicBuildTask (δ : Type) where
  cronFormat : String
  enabled : Bool
  createdByUser : String
  summary : Option String
  descriptor : δ
  tagFormat : String
  deriving DecidableEq

/-- What `croniter` does with a format: it refuses it in one of two ways, it finds no further date
for it, or it finds one. -/
inductive CronKind where
  | badFormat
  | otherError
  | neverDue
  | due
  deriving DecidableEq

/-- The answers of `croniter` to the formats of the tasks at some time. -/
abbrev Croniter : Type :=
  Nat → String → CronKind

inductive TrackerError where
  | badCronFormat
  | periodicTracker
  | noSuchTask
  /-- An exception of `croniter`. -/
  | croniter
  deriving DecidableEq

structure PeriodicTracker (δ : Type) where
  tasks : Finset Nat
  crons : Finset Nat
  tasksDescs : Dictionary Nat (PeriodicBuildTask δ)
  file : Dictionary Nat (PeriodicBuildTask δ)

namespace PeriodicTracker

variable {δ : Type}

section Code

variable (cron : Croniter)

def setupTask (uuid : Nat) (tracker : PeriodicTracker δ) :
    PeriodicTracker δ × Option TrackerError :=
  if uuid ∈ tracker.tasks ∨ uuid ∉ tracker.crons then (tracker, none)
  else
    match tracker.tasksDescs.lookup uuid with
    | none => (tracker, none)
    | some desc =>
      if desc.enabled = false then (tracker, none)
      else if cron uuid desc.cronFormat = .neverDue then (tracker, some .croniter)
      else ({ tracker with tasks := insert uuid tracker.tasks }, none)

def addPeriodicTask (uuid : Nat) (task : PeriodicBuildTask δ) (tracker : PeriodicTracker δ) :
    PeriodicTracker δ × Option TrackerError :=
  match cron uuid task.cronFormat with
  | .badFormat => (tracker, some .badCronFormat)
  | .otherError => (tracker, some .periodicTracker)
  | _ =>
    setupTask cron uuid
      { tracker with
        crons := insert uuid tracker.crons
        tasksDescs := tracker.tasksDescs.insert uuid task }

def saveTask (saves : Bool) (uuid : Nat) (task : PeriodicBuildTask δ)
    (tracker : PeriodicTracker δ) : PeriodicTracker δ × Option TrackerError :=
  if saves then ({ tracker with file := tracker.file.insert uuid task }, none)
  else (tracker, some .periodicTracker)

def addBuildTask (saves : Bool) (uuid : Nat) (task : PeriodicBuildTask δ)
    (tracker : PeriodicTracker δ) : PeriodicTracker δ × Option TrackerError :=
  if task.cronFormat = "" ∨ task.tagFormat = "" ∨ task.createdByUser = "" then
    (tracker, some .periodicTracker)
  else
    let task := { task with enabled := true }
    match addPeriodicTask cron uuid task tracker with
    | (added, some error) => (added, some error)
    | (added, none) => saveTask saves uuid task added

def disable (saves : Bool) (uuid : Nat) (tracker : PeriodicTracker δ) :
    PeriodicTracker δ × Option TrackerError :=
  match tracker.tasksDescs.lookup uuid with
  | none => (tracker, some .noSuchTask)
  | some desc =>
    if desc.enabled = false ∨ uuid ∉ tracker.crons then (tracker, none)
    else
      saveTask saves uuid { desc with enabled := false }
        { tracker with
          crons := tracker.crons.erase uuid
          tasks := tracker.tasks.erase uuid
          tasksDescs := tracker.tasksDescs.insert uuid { desc with enabled := false } }

/-- A run has ended; it asks to disable the task unless it has succeeded. -/
def onTaskFinished (uuid : Nat) (disable : Bool) (tracker : PeriodicTracker δ) :
    PeriodicTracker δ × Option TrackerError :=
  setupTask cron uuid
    { tracker with
      tasks := tracker.tasks.erase uuid
      tasksDescs :=
        if disable then tracker.tasksDescs.modify uuid ({ · with enabled := false })
        else tracker.tasksDescs }

/-- Add the tasks of the file one after another; those with a bad format are ignored. -/
def loadTasks : List (Sigma fun _ : Nat => PeriodicBuildTask δ) → PeriodicTracker δ →
    PeriodicTracker δ × Option TrackerError
  | [], tracker => (tracker, none)
  | entry :: entries, tracker =>
    match addPeriodicTask cron entry.1 entry.2 tracker with
    | (added, none) | (added, some .badCronFormat) => loadTasks entries added
    | (added, some _) => (added, some .periodicTracker)

def init (file : Dictionary Nat (PeriodicBuildTask δ)) : PeriodicTracker δ × Option TrackerError :=
  loadTasks cron file.entries ⟨∅, ∅, ∅, file⟩

end Code

/-- An operation, with the answers of `croniter` while it goes on. -/
inductive Operation (δ : Type) where
  | add (cron : Croniter) (saves : Bool) (uuid : Nat) (task : PeriodicBuildTask δ)
  | disable (saves : Bool) (uuid : Nat)
  | finish (cron : Croniter) (uuid : Nat) (disable : Bool)
  | restart (cron : Croniter)

def exec (tracker : PeriodicTracker δ) : Operation δ → PeriodicTracker δ × Option TrackerError
  | .add cron saves uuid task => addBuildTask cron saves uuid task tracker
  | .disable saves uuid => disable saves uuid tracker
  | .finish cron uuid disable => onTaskFinished cron uuid disable tracker
  | .restart cron => init cron tracker.file

/-- A new task has a new identifier, and a run ends of a task that is scheduled. -/
def Enabled (tracker : PeriodicTracker δ) : Operation δ → Bool
  | .add _ _ uuid _ =>
    uuid ∉ tracker.tasks ∧ uuid ∉ tracker.tasksDescs ∧ uuid ∉ tracker.file
  | .finish _ uuid _ => uuid ∈ tracker.tasks
  | _ => true

def step (tracker : PeriodicTracker δ) (operation : Operation δ) : Option (PeriodicTracker δ) :=
  if tracker.Enabled operation then some (tracker.exec operation).1 else none

/-- The format of a task is accepted, and has a further date if the task is enabled. -/
def Dated (cron : Croniter) (uuid : Nat) (task : PeriodicBuildTask δ) : Prop :=
  cron uuid task.cronFormat = .due ∨
    cron uuid task.cronFormat = .neverDue ∧ task.enabled = false

instance (cron : Croniter) (uuid : Nat) (task : PeriodicBuildTask δ) :
    Decidable (Dated cron uuid task) :=
  inferInstanceAs (Decidable (_ ∨ _))

def AllDated (cron : Croniter) (file : Dictionary Nat (PeriodicBuildTask δ)) : Bool :=
  file.entries.all fun entry => Dated cron entry.1 entry.2

/-- Saves succeed, a new format has a date, no run disables its task, and the tracker is restarted
only while the stored formats still have a date and no stored task is disabled. -/
def Safe (tracker : PeriodicTracker δ) : Operation δ → Bool
  | .add cron saves uuid task => saves ∧ cron uuid task.cronFormat ≠ .neverDue
  | .disable saves _ => saves
  | .finish _ _ disable => !disable
  | .restart cron => AllDated cron tracker.file && tracker.file.entries.all (·.2.enabled)

/-- Memory and file agree, and the tasks with a cron entry are those that are enabled. -/
structure Sound (tracker : PeriodicTracker δ) : Prop where
  stored : ∀ uuid, tracker.tasksDescs.lookup uuid = tracker.file.lookup uuid
  crons : ∀ uuid, uuid ∈ tracker.crons ↔
    ∃ task, tracker.tasksDescs.lookup uuid = some task ∧ task.enabled = true

variable {cron : Croniter} {tracker : PeriodicTracker δ} {uuid : Nat}

theorem setupTask_frame (uuid : Nat) (tracker : PeriodicTracker δ) :
    (setupTask cron uuid tracker).1.crons = tracker.crons ∧
      (setupTask cron uuid tracker).1.tasksDescs = tracker.tasksDescs ∧
      (setupTask cron uuid tracker).1.file = tracker.file := by
  unfold setupTask
  repeat' split
  all_goals exact ⟨rfl, rfl, rfl⟩

theorem Sound.of_frame {after : PeriodicTracker δ} (sound : tracker.Sound)
    (same : after.crons = tracker.crons ∧ after.tasksDescs = tracker.tasksDescs ∧
      after.file = tracker.file) : after.Sound := by
  obtain ⟨crons, descs, file⟩ := same
  refine ⟨?_, ?_⟩
  · rw [descs, file]
    exact sound.stored
  · rw [crons, descs]
    exact sound.crons

theorem exists_addPeriodicTask {task : PeriodicBuildTask δ} (dated : Dated cron uuid task)
    (tracker : PeriodicTracker δ) :
    ∃ added, addPeriodicTask cron uuid task tracker = (added, none) ∧
      added.crons = insert uuid tracker.crons ∧
      added.tasksDescs = tracker.tasksDescs.insert uuid task ∧ added.file = tracker.file := by
  have accepted : addPeriodicTask cron uuid task tracker = setupTask cron uuid
      { tracker with
        crons := insert uuid tracker.crons
        tasksDescs := tracker.tasksDescs.insert uuid task } := by
    rcases dated with due | ⟨neverDue, -⟩
    · rw [addPeriodicTask, due]
    · rw [addPeriodicTask, neverDue]
  rw [accepted]
  refine ⟨_, Prod.ext rfl ?_, setupTask_frame uuid _⟩
  simp only [setupTask, AList.lookup_insert]
  split_ifs with _ isDisabled isLast
  · rfl
  · rfl
  · -- an enabled task has a date
    rcases dated with due | ⟨-, disabled⟩
    · cases due.symm.trans isLast
    · exact absurd disabled isDisabled
  · rfl

/-- A task is stored in memory and in the file, and has a cron entry exactly if it is enabled. -/
theorem Sound.insert {after : PeriodicTracker δ} {task : PeriodicBuildTask δ}
    (sound : tracker.Sound)
    (crons : ∀ other, other ∈ after.crons ↔
      if other = uuid then task.enabled = true else other ∈ tracker.crons)
    (descs : after.tasksDescs = tracker.tasksDescs.insert uuid task)
    (file : after.file = tracker.file.insert uuid task) : after.Sound := by
  refine ⟨fun other => ?_, fun other => ?_⟩
  · rw [descs, file, Dictionary.lookup_insert_eq, Dictionary.lookup_insert_eq, sound.stored]
  · rw [crons, descs, Dictionary.lookup_insert_eq]
    split_ifs
    · simp
    · exact sound.crons other

theorem Sound.addBuildTask {saves : Bool} {task : PeriodicBuildTask δ} (sound : tracker.Sound)
    (safe : tracker.Safe (.add cron saves uuid task) = true) :
    (addBuildTask cron saves uuid task tracker).1.Sound ∧
      ∀ error, (PeriodicTracker.addBuildTask cron saves uuid task tracker).2 = some error →
        (PeriodicTracker.addBuildTask cron saves uuid task tracker).1 = tracker := by
  simp only [Safe, Bool.decide_and, Bool.decide_eq_true, Bool.and_eq_true,
    decide_eq_true_eq] at safe
  obtain ⟨rfl, dated⟩ := safe
  unfold PeriodicTracker.addBuildTask
  split_ifs
  · exact ⟨sound, fun _ _ => rfl⟩
  · dsimp only
    cases isKind : cron uuid task.cronFormat with
    | badFormat | otherError => simp only [addPeriodicTask, isKind, implies_true, and_true, sound]
    | neverDue => exact absurd isKind dated
    | due =>
      obtain ⟨added, isAdded, crons, descs, file⟩ :=
        @exists_addPeriodicTask δ cron uuid { task with enabled := true } (.inl isKind) tracker
      rw [isAdded]
      refine ⟨@Sound.insert δ tracker uuid _ { task with enabled := true } sound
        (fun other => ?_) descs (congrArg (AList.insert _ _) file), nofun⟩
      change other ∈ added.crons ↔ _
      rw [crons, Finset.mem_insert]
      split_ifs with same <;> simp [same]

theorem Sound.disable (sound : tracker.Sound) (uuid : Nat) :
    (disable true uuid tracker).1.Sound := by
  unfold PeriodicTracker.disable
  split
  · exact sound
  · rename_i desc found
    split_ifs
    · exact sound
    · refine @Sound.insert δ tracker uuid _ { desc with enabled := false } sound
        (fun other => ?_) rfl rfl
      change other ∈ tracker.crons.erase uuid ↔ _
      rw [Finset.mem_erase]
      split_ifs with same <;> simp [same]

theorem loadTasks_spec {entries : List (Sigma fun _ : Nat => PeriodicBuildTask δ)}
    (distinct : entries.NodupKeys) (dated : ∀ entry ∈ entries, Dated cron entry.1 entry.2)
    (tracker : PeriodicTracker δ) :
    (loadTasks cron entries tracker).2 = none ∧
      (loadTasks cron entries tracker).1.file = tracker.file ∧
      ∀ uuid, (loadTasks cron entries tracker).1.tasksDescs.lookup uuid =
          (entries.dlookup uuid).or (tracker.tasksDescs.lookup uuid) ∧
        (uuid ∈ (loadTasks cron entries tracker).1.crons ↔
          (entries.dlookup uuid).isSome = true ∨ uuid ∈ tracker.crons) := by
  induction entries generalizing tracker with
  | nil => simp [loadTasks]
  | cons entry entries ih =>
    obtain ⟨key, task⟩ := entry
    obtain ⟨absent, distinct⟩ := List.nodupKeys_cons.mp distinct
    obtain ⟨added, isAdded, crons, descs, file⟩ :=
      exists_addPeriodicTask (dated ⟨key, task⟩ (by simp)) tracker
    rw [loadTasks, isAdded]
    obtain ⟨loaded, sameFile, rest⟩ :=
      ih distinct (fun other inside => dated other (by simp [inside])) added
    refine ⟨loaded, sameFile.trans file, fun uuid => ?_⟩
    obtain ⟨lookup, member⟩ := rest uuid
    dsimp only
    rw [lookup, member, descs, crons, Dictionary.lookup_insert_eq, Finset.mem_insert]
    by_cases same : uuid = key
    · subst same
      simp [List.dlookup_eq_none.mpr absent]
    · rw [List.dlookup_cons_ne _ _ same, if_neg same]
      simp [same]

/-- The tasks of a file are loaded as they are if their formats have a date. -/
theorem exists_init {file : Dictionary Nat (PeriodicBuildTask δ)}
    (dated : AllDated cron file = true) :
    ∃ loaded, init cron file = (loaded, none) ∧ loaded.file = file ∧
      ∀ uuid, loaded.tasksDescs.lookup uuid = file.lookup uuid ∧
        (uuid ∈ loaded.crons ↔ (file.lookup uuid).isSome = true) := by
  have each : ∀ entry ∈ file.entries, Dated cron entry.1 entry.2 :=
    fun entry inside => of_decide_eq_true (List.all_eq_true.mp dated entry inside)
  obtain ⟨ok, same, rest⟩ := loadTasks_spec file.nodupKeys each ⟨∅, ∅, ∅, file⟩
  refine ⟨(loadTasks cron file.entries ⟨∅, ∅, ∅, file⟩).1, Prod.ext rfl ok, same, fun uuid => ?_⟩
  obtain ⟨lookup, member⟩ := rest uuid
  exact ⟨lookup.trans (by simp [AList.lookup]), member.trans (by simp [AList.lookup])⟩

theorem Sound.step {operation : Operation δ} {after : PeriodicTracker δ}
    (sound : tracker.Sound) (safe : tracker.Safe operation = true)
    (stepped : tracker.step operation = some after) : after.Sound := by
  unfold PeriodicTracker.step at stepped
  split_ifs at stepped
  cases stepped
  cases operation with
  | add cron saves uuid task => exact (sound.addBuildTask safe).1
  | disable saves uuid =>
    obtain rfl : saves = true := safe
    exact sound.disable uuid
  | finish cron uuid disable =>
    obtain rfl : disable = false := by simpa [Safe] using safe
    exact sound.of_frame (setupTask_frame uuid _)
  | restart cron =>
    obtain ⟨dated, enabled⟩ := Bool.and_eq_true_iff.mp safe
    obtain ⟨loaded, isLoaded, file, rest⟩ := exists_init dated
    rw [exec, isLoaded]
    refine ⟨fun uuid => by rw [(rest uuid).1, file], fun uuid => ?_⟩
    rw [(rest uuid).2, (rest uuid).1, Option.isSome_iff_exists]
    refine exists_congr fun task => (and_iff_left_of_imp fun found => ?_).symm
    exact List.all_eq_true.mp enabled ⟨uuid, task⟩ (AList.mem_lookup_iff.mp found)

def fresh (δ : Type) : PeriodicTracker δ :=
  ⟨∅, ∅, ∅, ∅⟩

end PeriodicTracker

open PeriodicTracker

/-- After every run of safe operations, a restart would load exactly the tasks of the tracker as
long as their formats have a date, a new task that is refused is not scheduled, and the tasks with a
cron entry are those that are enabled. -/
theorem restart_preserves_tasks {δ : Type} {operations : List (Operation δ)}
    {tracker : PeriodicTracker δ}
    (safe : AllowedRun step (fun tracker operation => tracker.Safe operation = true) (fresh δ)
      operations)
    (ran : run step (fresh δ) operations = some tracker) :
    (∀ now, AllDated now tracker.file = true → ∃ loaded, init now tracker.file = (loaded, none) ∧
      ∀ uuid, loaded.tasksDescs.lookup uuid = tracker.tasksDescs.lookup uuid) ∧
    (∀ cron saves uuid task error, tracker.Enabled (.add cron saves uuid task) = true →
      tracker.Safe (.add cron saves uuid task) = true →
      (addBuildTask cron saves uuid task tracker).2 = some error →
      uuid ∉ (addBuildTask cron saves uuid task tracker).1.tasks) ∧
    ∀ uuid, uuid ∈ tracker.crons ↔
      ∃ task, tracker.tasksDescs.lookup uuid = some task ∧ task.enabled = true := by
  have initially : (fresh δ).Sound := ⟨fun _ => rfl, by simp [fresh]⟩
  have sound := invariant_of_run Sound initially
    (fun _ _ _ sound isSafe stepped => sound.step isSafe stepped) safe ran
  refine ⟨fun now dated => ?_, fun cron saves uuid task error enabled isSafe raised => ?_,
    sound.crons⟩
  · obtain ⟨loaded, isLoaded, -, rest⟩ := exists_init dated
    exact ⟨loaded, isLoaded, fun uuid => (rest uuid).1.trans (sound.stored uuid).symm⟩
  · rw [(sound.addBuildTask isSafe).2 error raised]
    exact (of_decide_eq_true enabled).1

def dailyTask : PeriodicBuildTask Unit :=
  ⟨"0 2 * * *", true, "alice", none, (), "nightly"⟩

/-- Every format has a date. -/
def alwaysDue : Croniter :=
  fun _ _ => .due

def nightlyOperations : List (Operation Unit) :=
  [.add alwaysDue true 1 dailyTask, .restart alwaysDue, .finish alwaysDue 1 false,
    .add alwaysDue true 2 dailyTask, .disable true 1]

/-- A restart would load a task that was disabled and one that was not as they are, also when the
format of the disabled one has no further date. -/
theorem disabled_task_restored :
    ∃ tracker, run step (fresh Unit) nightlyOperations = some tracker ∧
      ∃ loaded, init (fun uuid _ => if uuid = 1 then .neverDue else .due) tracker.file =
          (loaded, none) ∧
        ∀ uuid, loaded.tasksDescs.lookup uuid = tracker.tasksDescs.lookup uuid := by
  refine ⟨_, rfl, (@restart_preserves_tasks Unit nightlyOperations _ (by decide) rfl).1 _ ?_⟩
  decide

/-- A task whose save failed is scheduled, a run that disables its task leaves it enabled in the
file and its cron entry in memory, a disabled task has a cron entry after a restart, and there is no
restart after the last date of a stored format. -/
theorem periodic_tasks_disagree :
    (((addBuildTask alwaysDue false 1 dailyTask (fresh Unit)).2 = some .periodicTracker ∧
        1 ∈ (addBuildTask alwaysDue false 1 dailyTask (fresh Unit)).1.tasks) ∧
      (run step (fresh Unit) [.add alwaysDue true 1 dailyTask, .finish alwaysDue 1 true]).map
        (fun tracker => ((tracker.tasksDescs.lookup 1).map (·.enabled),
          (tracker.file.lookup 1).map (·.enabled), decide (1 ∈ tracker.crons))) =
        some (some false, some true, true)) ∧
      (run step (fresh Unit)
          [.add alwaysDue true 1 dailyTask, .disable true 1, .restart alwaysDue]).map
        (fun tracker => ((tracker.tasksDescs.lookup 1).map (·.enabled),
          decide (1 ∈ tracker.crons))) = some (some false, true) ∧
      (run step (fresh Unit) [.add alwaysDue true 1 dailyTask]).map
        (fun tracker => (init (fun _ _ => .neverDue) tracker.file).2) =
        some (some .periodicTracker) := by
  decide

end Cbs

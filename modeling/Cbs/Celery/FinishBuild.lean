import Cbs.Library.Transition
import Mathlib.Tactic.SplitIfs

/-!
# Finishing a build on a Celery worker

The building process finishes its build in Redis when its run ends, and the parent process does when
the build is revoked.  Each call reads the record of the task and later writes it back.
-/

namespace Cbs

open Transition

inductive WorkerBuildState where
  | started
  | finished
  | error
  | revoked
  deriving DecidableEq

structure WorkerBuildTask where
  workerInstanceName : String
  taskId : String
  /-- The flags that are set. -/
  state : List WorkerBuildState
  buildId : Nat
  runName : String
  deriving DecidableEq

/-- What Redis holds about one task. -/
structure TaskKeys where
  /-- The task is in the task set of the worker. -/
  member : Bool
  task : Option WorkerBuildTask
  /-- The record of the build. -/
  build : Option WorkerBuildTask
  deriving DecidableEq

/-- The transaction of `start_build`. -/
def TaskKeys.started (task : WorkerBuildTask) : TaskKeys :=
  ⟨true, some task, some task⟩

/-- The clean-up transaction of `finish_build`. -/
def TaskKeys.cleaned (task : WorkerBuildTask) : TaskKeys :=
  ⟨false, none, some task⟩

/-- A call of `finish_build` for a task. -/
structure FinishRequest where
  revoke : Bool
  error : Bool
  /-- Stopping the container raises. -/
  stopFails : Bool
  deriving DecidableEq

/-- The next command of a call. -/
inductive FinishCall where
  | checking
  | reading
  | stopping (task : WorkerBuildTask)
  | cleaning (task : WorkerBuildTask)
  | returned (cleaned : Bool)
  deriving DecidableEq

def FinishCall.isCleaning : FinishCall → Bool
  | cleaning _ => true
  | _ => false

namespace FinishRequest

/-- The record that a call writes. -/
def record (request : FinishRequest) (task : WorkerBuildTask) : WorkerBuildTask :=
  { task with
    state := .finished :: if request.revoke then [.revoked] else if request.error then [.error]
      else [] }

def step (request : FinishRequest) (instanceName : String) (keys : TaskKeys) :
    FinishCall → TaskKeys × FinishCall
  | .checking => (keys, if keys.member then .reading else .returned false)
  | .reading =>
    match keys.task with
    | none => (keys, .returned false)
    | some task =>
      if task.workerInstanceName ≠ instanceName then (keys, .returned false)
      else if request.revoke then (keys, .stopping (request.record task))
      else (keys, .cleaning (request.record task))
  | .stopping task => (keys, if request.stopFails then .returned false else .cleaning task)
  | .cleaning task => (.cleaned task, .returned true)
  | .returned cleaned => (keys, .returned cleaned)

end FinishRequest

inductive FinishParty where
  | building
  | terminating
  deriving DecidableEq

structure FinishRace where
  keys : TaskKeys
  building : FinishCall
  terminating : FinishCall
  deriving DecidableEq

/-- The build ended, with or without an error, and stopping its container works or not. -/
structure FinishOutcome where
  error : Bool
  stopFails : Bool

def FinishOutcome.build (outcome : FinishOutcome) : FinishRequest :=
  ⟨false, outcome.error, false⟩

def FinishOutcome.revoke (outcome : FinishOutcome) : FinishRequest :=
  ⟨true, false, outcome.stopFails⟩

def FinishRace.step (outcome : FinishOutcome) (instanceName : String) (race : FinishRace) :
    FinishParty → Option FinishRace
  | .building =>
    let (keys, building) := outcome.build.step instanceName race.keys race.building
    some { race with keys, building }
  | .terminating =>
    let (keys, terminating) := outcome.revoke.step instanceName race.keys race.terminating
    some { race with keys, terminating }

def FinishRace.start (task : WorkerBuildTask) : FinishRace :=
  ⟨.started task, .checking, .checking⟩

/-- A revoking clean-up is not made between the reading of the building process and its clean-up. -/
def FinishRace.Apart (race : FinishRace) (party : FinishParty) : Prop :=
  ¬ (party = .terminating ∧ race.terminating.isCleaning = true ∧ race.building.isCleaning = true)

instance (race : FinishRace) (party : FinishParty) : Decidable (race.Apart party) :=
  inferInstanceAs (Decidable (¬ _))

def FinishRace.Over (race : FinishRace) : Prop :=
  ∃ first second, race.building = .returned first ∧ race.terminating = .returned second

/-- The task is gone, the build is finished, and it is revoked if the revoking call cleaned up. -/
structure FinishRace.Settled (race : FinishRace) : Prop where
  revoked : race.terminating = .returned true →
    ∃ task, race.keys.build = some task ∧ .revoked ∈ task.state
  unregistered : race.keys.member = false ∧ race.keys.task = none
  finished : ∃ task, race.keys.build = some task ∧ .finished ∈ task.state

/-- A call that has not cleaned up yet and may still do so. -/
inductive FinishRequest.Pending (request : FinishRequest) (task : WorkerBuildTask) :
    FinishCall → Prop
  | checking : request.Pending task .checking
  | reading : request.Pending task .reading
  | stopping : request.revoke = true → request.Pending task (.stopping (request.record task))
  | cleaning : request.Pending task (.cleaning (request.record task))

/-- Nothing of the revoking call is overwritten or about to be. -/
inductive FinishRace.Sound (outcome : FinishOutcome) (task : WorkerBuildTask) : FinishRace → Prop
  | started {building terminating} : outcome.build.Pending task building →
    outcome.revoke.Pending task terminating ∨ terminating = .returned false →
    Sound outcome task ⟨.started task, building, terminating⟩
  | built {terminating} :
    outcome.revoke.Pending task terminating ∨ terminating = .returned false →
    Sound outcome task ⟨.cleaned (outcome.build.record task), .returned true, terminating⟩
  | revoked {building} :
    building = .checking ∨ building = .reading ∨ (∃ cleaned, building = .returned cleaned) →
    Sound outcome task ⟨.cleaned (outcome.revoke.record task), building, .returned true⟩

/-- The revoking call has cleaned up, and the building process overwrites its record. -/
inductive FinishRace.Doomed (outcome : FinishOutcome) (task : WorkerBuildTask) : FinishRace → Prop
  | before : Doomed outcome task ⟨.cleaned (outcome.revoke.record task),
      .cleaning (outcome.build.record task), .returned true⟩
  | after : Doomed outcome task ⟨.cleaned (outcome.build.record task), .returned true,
      .returned true⟩

variable {outcome : FinishOutcome} {task : WorkerBuildTask} {race after : FinishRace}
  {party : FinishParty}

theorem FinishRace.Doomed.step (doomed : Doomed outcome task race)
    (stepped : race.step outcome task.workerInstanceName party = some after) :
    Doomed outcome task after := by
  cases doomed <;> cases party <;> cases stepped
  · exact .after
  · exact .before
  · exact .after
  · exact .after

theorem FinishRequest.step_reading (request : FinishRequest) (task : WorkerBuildTask) :
    request.step task.workerInstanceName (.started task) .reading =
      (.started task, if request.revoke then .stopping (request.record task)
        else .cleaning (request.record task)) := by
  simp only [FinishRequest.step, TaskKeys.started, ne_eq, not_true_eq_false, if_false]
  cases request.revoke <;> rfl

/-- A pending call leaves the keys alone until it cleans up. -/
theorem FinishRequest.Pending.step_cases {request : FinishRequest} {call : FinishCall}
    {keys : TaskKeys} (pending : request.Pending task call)
    (known : keys = .started task ∨ ∃ record, keys = .cleaned record) :
    call = .cleaning (request.record task) ∨
      call.isCleaning = false ∧
        ∃ next, request.step task.workerInstanceName keys call = (keys, next) ∧
          (request.Pending task next ∨
            next = .returned false ∧ (keys = .started task → request.revoke = true)) := by
  have gone : ∀ {record}, TaskKeys.cleaned record ≠ .started task := by
    simp [TaskKeys.cleaned, TaskKeys.started]
  cases pending with
  | checking =>
    obtain rfl | ⟨record, rfl⟩ := known
    · exact Or.inr ⟨rfl, _, rfl, Or.inl .reading⟩
    · exact Or.inr ⟨rfl, _, rfl, Or.inr ⟨rfl, fun same => absurd same gone⟩⟩
  | reading =>
    obtain rfl | ⟨record, rfl⟩ := known
    · refine Or.inr ⟨rfl, _, step_reading request task, Or.inl ?_⟩
      split_ifs with revokes
      · exact .stopping revokes
      · exact .cleaning
    · exact Or.inr ⟨rfl, _, rfl, Or.inr ⟨rfl, fun same => absurd same gone⟩⟩
  | stopping revokes =>
    refine Or.inr ⟨rfl, _, rfl, ?_⟩
    split_ifs
    · exact Or.inr ⟨rfl, fun _ => revokes⟩
    · exact Or.inl .cleaning
  | cleaning => exact Or.inl rfl

/-- A step keeps the revoking call from being overwritten, unless it cleans up too early. -/
theorem FinishRace.Sound.step (sound : Sound outcome task race)
    (stepped : race.step outcome task.workerInstanceName party = some after) :
    race.Apart party ∧ Sound outcome task after ∨
      ¬ race.Apart party ∧ Doomed outcome task after := by
  cases party with
  | building =>
    refine Or.inl ⟨by simp [FinishRace.Apart], ?_⟩
    cases sound with
    | started building terminating =>
      obtain rfl | ⟨-, next, isNext, pending⟩ := building.step_cases (Or.inl rfl)
      · cases stepped
        exact .built terminating
      · simp only [FinishRace.step, isNext] at stepped
        cases stepped
        refine .started (pending.resolve_right fun ended => ?_) terminating
        cases ended.2 rfl
    | built terminating =>
      cases stepped
      exact .built terminating
    | revoked building =>
      obtain rfl | rfl | ⟨cleaned, rfl⟩ := building <;> cases stepped
      · exact .revoked (Or.inr (Or.inr ⟨false, rfl⟩))
      · exact .revoked (Or.inr (Or.inr ⟨false, rfl⟩))
      · exact .revoked (Or.inr (Or.inr ⟨cleaned, rfl⟩))
  | terminating =>
    have apart : race.terminating.isCleaning = false → race.Apart .terminating := by
      intro other isEarly
      rw [other] at isEarly
      cases isEarly.2.1
    cases sound with
    | started building terminating =>
      obtain terminating | rfl := terminating
      · obtain rfl | ⟨other, next, isNext, pending⟩ := terminating.step_cases (Or.inl rfl)
        · cases stepped
          cases building with
          | checking =>
            exact Or.inl ⟨by simp [FinishRace.Apart, FinishCall.isCleaning], .revoked (Or.inl rfl)⟩
          | reading =>
            exact Or.inl ⟨by simp [FinishRace.Apart, FinishCall.isCleaning],
              .revoked (Or.inr (Or.inl rfl))⟩
          | stopping revokes => cases revokes
          | cleaning => exact Or.inr ⟨by simp [FinishRace.Apart, FinishCall.isCleaning], .before⟩
        · simp only [FinishRace.step, isNext] at stepped
          cases stepped
          exact Or.inl ⟨apart other, .started building (pending.imp_right And.left)⟩
      · cases stepped
        exact Or.inl ⟨apart rfl, .started building (Or.inr rfl)⟩
    | built terminating =>
      obtain terminating | rfl := terminating
      · obtain rfl | ⟨other, next, isNext, pending⟩ :=
          terminating.step_cases (Or.inr ⟨outcome.build.record task, rfl⟩)
        · cases stepped
          exact Or.inl ⟨by simp [FinishRace.Apart, FinishCall.isCleaning],
            .revoked (Or.inr (Or.inr ⟨true, rfl⟩))⟩
        · simp only [FinishRace.step, isNext] at stepped
          cases stepped
          exact Or.inl ⟨apart other, .built (pending.imp_right And.left)⟩
      · cases stepped
        exact Or.inl ⟨apart rfl, .built (Or.inr rfl)⟩
    | revoked building =>
      cases stepped
      exact Or.inl ⟨apart rfl, .revoked building⟩

theorem FinishRace.Doomed.not_settled (doomed : Doomed outcome task race) (ended : race.Over) :
    ¬ race.Settled := by
  obtain ⟨first, second, isBuilding, isTerminating⟩ := ended
  cases doomed with
  | before => cases isBuilding
  | after =>
    intro settled
    obtain ⟨record, isRecord, revoked⟩ := settled.revoked rfl
    cases isRecord
    cases failed : outcome.error <;>
      simp [FinishRequest.record, FinishOutcome.build, failed] at revoked

theorem FinishRace.Sound.settled (sound : Sound outcome task race) (ended : race.Over) :
    race.Settled := by
  obtain ⟨first, second, isBuilding, isTerminating⟩ := ended
  cases sound with
  | started building => cases isBuilding; cases building
  | built terminating =>
    refine ⟨fun cleaned => ?_, ⟨rfl, rfl⟩, _, rfl, List.mem_cons_self⟩
    obtain pending | ended := terminating
    · cases isTerminating
      cases pending
    · rw [ended] at cleaned
      cases cleaned
  | revoked =>
    exact ⟨fun _ => ⟨_, rfl, by simp [FinishRequest.record, FinishOutcome.revoke]⟩,
      ⟨rfl, rfl⟩, _, rfl, List.mem_cons_self⟩

/-- When both calls have returned, the task is gone and the build stays revoked, exactly if the
revoking call did not clean up while the building process was about to. -/
theorem revoked_stays_revoked_iff (outcome : FinishOutcome) (task : WorkerBuildTask)
    (parties : List FinishParty) (final : FinishRace)
    (ran : run (FinishRace.step outcome task.workerInstanceName) (.start task) parties = some final)
    (ended : final.Over) :
    final.Settled ↔
      AllowedRun (FinishRace.step outcome task.workerInstanceName) FinishRace.Apart (.start task)
        parties := by
  have sound : FinishRace.Sound outcome task (.start task) := .started .checking (Or.inl .checking)
  generalize FinishRace.start task = race at ran sound
  induction parties generalizing race with
  | nil =>
    cases ran
    exact iff_of_true (sound.settled ended) trivial
  | cons party parties ih =>
    obtain ⟨next, stepped, rest⟩ := Option.bind_eq_some_iff.mp ran
    obtain ⟨apart, sound⟩ | ⟨early, doomed⟩ := sound.step stepped
    · refine (ih next rest sound).trans ⟨fun allowed => ⟨apart, fun other isOther => ?_⟩,
        fun allowed => allowed.2 next stepped⟩
      cases stepped.symm.trans isOther
      exact allowed
    · refine iff_of_false ?_ fun allowed => early allowed.1
      have doomed : FinishRace.Doomed outcome task final :=
        invariant_of_run _ doomed (fun _ _ _ doomed _ stepped => doomed.step stepped)
          (allowedRun_of_allows (fun _ _ => trivial) next parties) rest
      exact doomed.not_settled ended

def startedTask : WorkerBuildTask :=
  ⟨"worker-1", "7d2", [.started], 1, "ces-build-1"⟩

/-- The building process checks the task, the parent process revokes it, and the building process
finds it gone. -/
theorem revoked_between_check_and_read : ∃ final : FinishRace,
    final.keys.build = some { startedTask with state := [.finished, .revoked] } ∧ final.Settled :=
  ⟨⟨.cleaned { startedTask with state := [.finished, .revoked] }, .returned false, .returned true⟩,
    rfl, (revoked_stays_revoked_iff ⟨true, false⟩ startedTask
      [.building, .terminating, .terminating, .terminating, .terminating, .building] _ rfl
      ⟨false, true, rfl, rfl⟩).mpr (by decide)⟩

/-- The stopped container makes the building process read its record before the revoking call cleans
up, and its own clean-up replaces the revoked state by an error. -/
theorem revoked_record_overwritten :
    ∃ final, run (FinishRace.step ⟨true, false⟩ "worker-1") (.start startedTask)
        [.terminating, .terminating, .terminating, .building, .building, .terminating, .building] =
          some final ∧
      final.terminating = .returned true ∧ final.building = .returned true ∧
      final.keys.build = some { startedTask with state := [.finished, .error] } := by
  exact ⟨_, rfl, rfl, rfl, rfl⟩

end Cbs

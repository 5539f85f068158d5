import Cbs.Core.Runner

/-!
# Builds on a Celery worker

A build on a Celery worker: the version descriptor is created, the build is registered, and the
runner is called.  The builder logs every exception of a build and does not raise it again.
-/

namespace Cbs

open Script

/-- A build that is handed to a worker, and what its steps do there. -/
structure BuildAttempt where
  getBuilder : Except Raised Unit
  ongoing : Bool
  osVersion : String
  /-- Number of an enterprise distribution version. -/
  matchOsVersion : String → Option Nat
  hasRegistry : Bool
  versionCreateHelper : Except Raised Unit
  version : String
  mkstempDesc : Except Raised Unit
  writeDesc : Except Raised Unit
  startBuild : Except Raised Unit
  call : RunnerCall
  unlinkDesc : Except Raised Unit
  finishBuild : Except Raised Unit

def workerBuilderError (msg : String) : Raised :=
  ⟨.workerBuilder, msg⟩

@[simp]
theorem workerBuilderError_isException (msg : String) :
    (workerBuilderError msg).kind.isException = true :=
  rfl

def BuildAttempt.createVersionDesc (attempt : BuildAttempt) : Except Raised Unit :=
  if (attempt.matchOsVersion attempt.osVersion).isNone then
    .error ⟨.osVersionNotPermitted, "unknown OS version '" ++ attempt.osVersion ++ "'"⟩
  else if !attempt.hasRegistry then
    .error (workerBuilderError "registry not specified in config, don't build")
  else
    attempt.versionCreateHelper.mapError fun raised =>
      if raised.kind = .version then
        workerBuilderError ("error creating version descriptor for build: " ++ raised.text)
      else raised

/-- What comes before the runner: the version descriptor, its file and the registration. -/
def BuildAttempt.prepare (attempt : BuildAttempt) : Except Raised Unit := do
  attempt.createVersionDesc.mapError fun raised =>
    if raised.kind = .workerBuilder ∨ raised.kind = .osVersionNotPermitted then
      workerBuilderError ("error creating version descriptor for build: " ++ raised.text)
    else if raised.kind = .malformedVersion then raised
    else if raised.kind.isException then
      workerBuilderError ("unknown error creating version descriptor for build: " ++ raised.text)
    else raised
  attempt.mkstempDesc
  attempt.writeDesc
  attempt.startBuild

def BuildAttempt.finish (attempt : BuildAttempt) : Except Raised Unit := do
  attempt.unlinkDesc
  attempt.finishBuild

def callRunner (attempt : BuildAttempt) : HostScript Unit :=
  (do let _ ← runner attempt.call
      pure ()).rescue fun raised =>
    if raised.kind.isException then
      fail (workerBuilderError ("error building '" ++ attempt.version ++ "': " ++ raised.text))
    else
      fail raised

def doBuild (attempt : BuildAttempt) : HostScript Unit := do
  ofExcept attempt.prepare
  (callRunner attempt).ensuring (ofExcept attempt.finish)

/-- Run a build in the event loop of the worker; an exception is logged and goes no further. -/
def workerBuild (attempt : BuildAttempt) : HostScript Unit :=
  if attempt.ongoing then
    fail (workerBuilderError "on-going build task found, ignore build request")
  else
    (doBuild attempt).rescue fun raised =>
      if raised.kind.isException then pure () else fail raised

/-- The task function: exceptions are logged and raised again. -/
def taskBuild (attempt : BuildAttempt) : HostScript Unit := do
  ofExcept attempt.getBuilder
  (workerBuild attempt).rescue fail

variable {attempt : BuildAttempt} {host : Host}

def BuildAttempt.RunnerReturned (attempt : BuildAttempt) (host : Host) : Prop :=
  attempt.prepare = .ok () ∧ ∃ report, ((runner attempt.call).run host).1 = .ok report

/-- The build ended with an exception without a runner that returned: a step before the runner
raised one, or the last step to raise, the runner or what follows it, did. -/
def BuildAttempt.LosesException (attempt : BuildAttempt) (host : Host) : Prop :=
  attempt.getBuilder = .ok () ∧ attempt.ongoing = false ∧
    ((∃ raised, attempt.prepare = .error raised ∧ raised.kind.isException = true) ∨
      attempt.prepare = .ok () ∧
        ∃ raised, ((runner attempt.call).run host).1 = .error raised ∧
          (attempt.finish = .ok () ∧ raised.kind.isException = true ∨
            ∃ later, attempt.finish = .error later ∧ later.kind.isException = true))

theorem callRunner_finish_run (attempt : BuildAttempt) (host : Host) :
    ((callRunner attempt).ensuring (ofExcept attempt.finish)).run host =
      (match attempt.finish with
        | .ok () =>
          match ((runner attempt.call).run host).1 with
          | .ok _ => .ok ()
          | .error raised => .error (if raised.kind.isException then workerBuilderError
              ("error building '" ++ attempt.version ++ "': " ++ raised.text) else raised)
        | .error later => .error later, ((runner attempt.call).run host).2) := by
  have called : (callRunner attempt).run host =
      (match ((runner attempt.call).run host).1 with
        | .ok _ => .ok ()
        | .error raised => .error (if raised.kind.isException then workerBuilderError
            ("error building '" ++ attempt.version ++ "': " ++ raised.text) else raised),
        ((runner attempt.call).run host).2) := by
    rw [callRunner, run_rescue, run_bind]
    cases (runner attempt.call).run host with
    | mk result after =>
      cases result with
      | ok report => rfl
      | error raised =>
        dsimp only
        split_ifs
        · rfl
        · rfl
  rw [run_ensuring, called]
  cases attempt.finish <;> rfl

/-- A build that returns called the runner and the runner returned, exactly when no exception is
lost. -/
theorem taskBuild_returns_iff (attempt : BuildAttempt) (host : Host) :
    (((taskBuild attempt).run host).1 = .ok () → attempt.RunnerReturned host) ↔
      ¬ attempt.LosesException host := by
  unfold taskBuild workerBuild BuildAttempt.RunnerReturned BuildAttempt.LosesException
  rw [run_bind, run_ofExcept]
  cases attempt.getBuilder with
  | error raised => simp
  | ok _ =>
  cases attempt.ongoing with
  | true => simp [run_rescue]
  | false =>
  simp only [Bool.false_eq_true, if_false, run_rescue, doBuild, run_bind, run_ofExcept]
  cases attempt.prepare with
  | error raised => cases exception : raised.kind.isException <;> simp [exception]
  | ok _ =>
  simp only [callRunner_finish_run]
  cases (runner attempt.call).run host with
  | mk result after =>
  cases result with
  | ok report => simp
  | error raised =>
    cases attempt.finish with
    | error later => cases exception : later.kind.isException <;> simp [exception]
    | ok _ => cases exception : raised.kind.isException <;> simp [exception]

end Cbs

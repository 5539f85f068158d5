import Cbs.Celery.WorkerBuilder
import Cbs.Core.Reports
import Cbs.Library.Dictionary
import Cbs.Library.Transition

/-!
# The builds tracker

The tracker stores the state of each build as the events of the Celery workers report it: as
succeeded when the task function returns, as failed when it raises.
-/

namespace Cbs

open Script

inductive EntryState where
  | new
  | pending
  | started
  | retry
  | failure
  | success
  | revoked
  | rejected
  deriving DecidableEq

def EntryState.isFinal : EntryState → Bool
  | success | failure | revoked | rejected => true
  | _ => false

structure BuildEntry where
  taskId : Option String
  user : String
  state : EntryState

structure BuildsTracker where
  lastBuildId : Nat
  db : Dictionary Nat BuildEntry
  buildsByTaskId : Dictionary String Nat
  buildsByBuildId : Dictionary Nat String

abbrev TrackerScript (α : Type) : Type :=
  Script BuildsTracker Raised α

def trackerError (msg : String) : Raised :=
  ⟨.tracker, msg⟩

structure SubmitOutcome where
  dbNew : Except Raised Unit
  logsNew : Except Raised Unit
  applyAsync : Except Raised Unit
  taskId : String
  taskState : EntryState
  dbUpdate : Except Raised Unit
  failUpdate : Except Raised Unit
  failLogs : Except Raised Unit

def updateEntry (buildId : Nat) (entry : BuildEntry) (stored : Except Raised Unit) :
    TrackerScript Unit := do
  ofExcept stored
  modify fun tracker => { tracker with db := tracker.db.insert buildId entry }

def asTrackerError {α : Type} (catches : ErrorKind → Bool) (msg : String)
    (script : TrackerScript α) : TrackerScript α :=
  script.rescue fun raised =>
    if catches raised.kind then fail (trackerError (msg ++ raised.text)) else fail raised

def failEntry (outcome : SubmitOutcome) (buildId : Nat) (entry : BuildEntry) (doLogs : Bool) :
    TrackerScript Unit := do
  asTrackerError ErrorKind.isException "error cleaning up task, db update: "
    (updateEntry buildId { entry with state := .failure } outcome.failUpdate)
  if doLogs then
    asTrackerError ErrorKind.isException "error cleaning up task, finish logs: "
      (ofExcept outcome.failLogs)
  else
    pure ()

/-- A step of a submission: an exception stores a failure and becomes a tracker error. -/
def orFail {α : Type} (outcome : SubmitOutcome) (buildId : Nat) (entry : BuildEntry)
    (doLogs : Bool) (msg : String) (script : TrackerScript α) : TrackerScript α :=
  script.rescue fun raised =>
    if raised.kind.isException then do
      failEntry outcome buildId entry doLogs
      fail (trackerError (msg ++ raised.text))
    else
      fail raised

/-- Store a new build under the next number. -/
def dbNew (entry : BuildEntry) (stored : Except Raised Unit) : TrackerScript Nat := do
  let last ← Script.read (·.lastBuildId)
  modify fun tracker => { tracker with lastBuildId := last + 1 }
  ofExcept stored
  modify fun tracker => { tracker with db := tracker.db.insert (last + 1) entry }
  pure (last + 1)

def trackTask (buildId : Nat) (taskId : String) : TrackerScript Unit :=
  modify fun tracker =>
    { tracker with
      buildsByTaskId := tracker.buildsByTaskId.insert taskId buildId
      buildsByBuildId := tracker.buildsByBuildId.insert buildId taskId }

def trackerNew (user : String) (outcome : SubmitOutcome) : TrackerScript (Nat × EntryState) := do
  let fresh : BuildEntry := ⟨none, user, .new⟩
  let buildId ← asTrackerError ErrorKind.isException "error storing build entry state to db: "
    (dbNew fresh outcome.dbNew)
  orFail outcome buildId fresh false "error starting log tracking: " (ofExcept outcome.logsNew)
  orFail outcome buildId fresh true "error scheduling new build: " (ofExcept outcome.applyAsync)
  let scheduled : BuildEntry := ⟨some outcome.taskId, user, outcome.taskState⟩
  orFail outcome buildId scheduled true "error updating entry state in db: "
    (updateEntry buildId scheduled outcome.dbUpdate)
  trackTask buildId outcome.taskId
  pure (buildId, outcome.taskState)

structure MarkOutcome where
  dbGet : Except Raised Unit
  dbUpdate : Except Raised Unit
  logsFinish : Except Raised Unit

def untrackTask (buildId : Nat) (taskId : String) : TrackerScript Unit :=
  modify fun tracker =>
    { tracker with
      buildsByTaskId := tracker.buildsByTaskId.erase taskId
      buildsByBuildId := tracker.buildsByBuildId.erase buildId }

/-- Store a state of a build, and stop tracking it if the state is final. -/
def storeState (taskId : String) (state : EntryState) (outcome : MarkOutcome) (buildId : Nat)
    (entry : BuildEntry) : TrackerScript Unit := do
  updateEntry buildId { entry with state } outcome.dbUpdate
  if state.isFinal then do
    untrackTask buildId taskId
    ofExcept outcome.logsFinish
  else
    pure ()

def dbGet (buildId : Nat) (read : Except Raised Unit) : TrackerScript BuildEntry := do
  ofExcept read
  match ← Script.read (·.db.lookup buildId) with
  | none => fail ⟨.buildsDb, "no such build ID " ++ toString buildId ++ " in database"⟩
  | some entry => pure entry

def markBuild (taskId : String) (state : EntryState) (outcome : MarkOutcome) (buildId : Nat) :
    TrackerScript Unit := do
  let entry ← asTrackerError (· = .buildsDb)
    ("fialed to get build '" ++ toString buildId ++ "' from db: ") (dbGet buildId outcome.dbGet)
  storeState taskId state outcome buildId entry

/-- Store a state of the build that a task belongs to; other tasks are ignored. -/
def markTaskState (taskId : String) (state : EntryState) (outcome : MarkOutcome) :
    TrackerScript Unit := do
  match ← Script.read (·.buildsByTaskId.lookup taskId) with
  | none | some 0 => pure ()
  | some buildId => markBuild taskId state outcome buildId

/-- Events of the Celery workers. -/
inductive TaskEvent where
  | started
  | succeeded
  | failed
  | rejected
  | revoked
  deriving DecidableEq

def TaskEvent.state : TaskEvent → EntryState
  | started => .started
  | succeeded => .success
  | failed => .failure
  | rejected => .rejected
  | revoked => .revoked

/-- Builds that are not finished when the service starts are stored as failed. -/
def collectGarbage (tracker : BuildsTracker) : BuildsTracker :=
  { tracker with
    db := tracker.db.mapValues fun entry =>
      if entry.state.isFinal then entry else { entry with state := .failure } }

structure TaskRun where
  taskId : String
  attempt : BuildAttempt
  host : Host

def TaskRun.returns (run : TaskRun) : Bool :=
  match ((taskBuild run.attempt).run run.host).1 with
  | .ok () => true
  | .error _ => false

/-- The container of the build ended with exit code zero. -/
def TaskRun.ExitsZero (run : TaskRun) : Prop :=
  ∃ stdout stderr, run.attempt.call.container.ended = .ok (0, stdout, stderr)

/-- The tracker of the service and what the workers did. -/
structure CelerySystem where
  tracker : BuildsTracker
  runs : List TaskRun

inductive CeleryAction where
  | submit (user : String) (outcome : SubmitOutcome)
  | execute (run : TaskRun)
  | receive (taskId : String) (event : TaskEvent) (outcome : MarkOutcome)
  | restart

variable (system : CelerySystem)

/-- A worker may report the state of a task: success only after the task function returned. -/
def CelerySystem.Reports (taskId : String) (state : EntryState) : Prop :=
  state = .success → ∃ run ∈ system.runs, run.taskId = taskId ∧ run.returns = true

instance (taskId : String) (state : EntryState) : Decidable (system.Reports taskId state) :=
  inferInstanceAs (Decidable (_ → _))

def celeryStep : CeleryAction → Option CelerySystem
  | .submit user outcome =>
    if system.Reports outcome.taskId outcome.taskState then
      some { system with tracker := ((trackerNew user outcome).run system.tracker).2 }
    else none
  | .execute run => some { system with runs := system.runs ++ [run] }
  | .receive taskId event outcome =>
    if system.Reports taskId event.state then
      some { system with
        tracker := ((markTaskState taskId event.state outcome).run system.tracker).2 }
    else none
  | .restart =>
    some { system with
      tracker := collectGarbage
        { system.tracker with buildsByTaskId := ∅, buildsByBuildId := ∅ } }

/-- The service before the first build. -/
def CelerySystem.initial : CelerySystem :=
  ⟨⟨0, ∅, ∅, ∅⟩, []⟩

/-- Tracked tasks are those of their builds, and only builds of reported tasks are successful. -/
structure TrackerOk (reported : String → Prop) (tracker : BuildsTracker) : Prop where
  tracked : ∀ taskId buildId, tracker.buildsByTaskId.lookup taskId = some buildId →
    ∃ entry, tracker.db.lookup buildId = some entry ∧ entry.taskId = some taskId
  bounded : ∀ buildId ∈ tracker.db, buildId ≤ tracker.lastBuildId
  success : ∀ buildId entry, tracker.db.lookup buildId = some entry → entry.state = .success →
    ∃ taskId, entry.taskId = some taskId ∧ reported taskId

structure Submitted (reported : String → Prop) (buildId : Nat) (tracker : BuildsTracker) :
    Prop where
  ok : TrackerOk reported tracker
  untracked : ∀ taskId, tracker.buildsByTaskId.lookup taskId ≠ some buildId
  numbered : buildId ≤ tracker.lastBuildId

variable {reported : String → Prop} {tracker : BuildsTracker} {buildId : Nat} {entry : BuildEntry}

/-- An entry may be stored that keeps the task of a tracked build and is successful only if its task
was reported. -/
theorem TrackerOk.insert (ok : TrackerOk reported tracker)
    (numbered : buildId ≤ tracker.lastBuildId)
    (same : ∀ taskId, tracker.buildsByTaskId.lookup taskId = some buildId →
      entry.taskId = some taskId)
    (success : entry.state = .success → ∃ taskId, entry.taskId = some taskId ∧ reported taskId) :
    TrackerOk reported { tracker with db := tracker.db.insert buildId entry } := by
  refine ⟨fun taskId other tracks => ?_, fun other member => ?_, fun other found stored => ?_⟩
  · by_cases at_ : other = buildId
    · subst at_
      exact ⟨entry, AList.lookup_insert _, same taskId tracks⟩
    · dsimp only
      rw [AList.lookup_insert_ne at_]
      exact ok.tracked taskId other tracks
  · rcases (AList.mem_insert _).mp member with rfl | member
    · exact numbered
    · exact ok.bounded other member
  · dsimp only at stored
    rw [Dictionary.lookup_insert_eq] at stored
    split_ifs at stored
    · cases stored
      exact success
    · exact ok.success other found stored

theorem Submitted.insert (submitted : Submitted reported buildId tracker)
    (success : entry.state = .success → ∃ taskId, entry.taskId = some taskId ∧ reported taskId) :
    Submitted reported buildId { tracker with db := tracker.db.insert buildId entry } :=
  ⟨submitted.ok.insert submitted.numbered
      (fun taskId tracks => absurd tracks (submitted.untracked taskId)) success,
    submitted.untracked, submitted.numbered⟩

variable {stored : Except Raised Unit}

theorem triple_updateEntry
    (success : entry.state = .success → ∃ taskId, entry.taskId = some taskId ∧ reported taskId) :
    Triple (Submitted reported buildId) (updateEntry buildId entry stored)
      (fun _ tracker => Submitted reported buildId tracker ∧
        tracker.db.lookup buildId = some entry) (Submitted reported buildId) :=
  Triple.bind (fun _ => Submitted reported buildId)
    (triple_ofExcept (fun _ _ _ submitted => submitted) fun _ submitted => submitted) fun _ =>
      triple_modify fun _ submitted => ⟨submitted.insert success, AList.lookup_insert _⟩

variable {α : Type} {catches : ErrorKind → Bool} {msg : String}

theorem triple_asTrackerError {script : TrackerScript α}
    {before : BuildsTracker → Prop} {after : α → BuildsTracker → Prop}
    {stopped : BuildsTracker → Prop} (triple : Triple before script after stopped) :
    Triple before (asTrackerError catches msg script) after stopped := by
  refine Triple.rescue stopped triple fun raised => ?_
  split_ifs
  · exact triple_fail fun _ stops => stops
  · exact triple_fail fun _ stops => stops

variable {outcome : SubmitOutcome} {doLogs : Bool}

theorem triple_failEntry :
    Triple (Submitted reported buildId) (failEntry outcome buildId entry doLogs)
      (fun _ => Submitted reported buildId) (Submitted reported buildId) := by
  refine Triple.bind (fun _ => Submitted reported buildId)
    (triple_asTrackerError ((triple_updateEntry (by simp)).mono (fun _ submitted => submitted)
      fun _ _ stored => stored.1)) fun _ => ?_
  split_ifs
  · exact triple_asTrackerError
      (triple_ofExcept (fun _ _ _ submitted => submitted) fun _ submitted => submitted)
  · exact triple_pure fun _ submitted => submitted

/-- A step of a submission keeps the tracker in order, also when it fails. -/
theorem triple_orFail {script : TrackerScript α} {after : α → BuildsTracker → Prop}
    (triple : Triple (Submitted reported buildId) script after (Submitted reported buildId)) :
    Triple (Submitted reported buildId) (orFail outcome buildId entry doLogs msg script) after
      (Submitted reported buildId) := by
  refine Triple.rescue (Submitted reported buildId) triple fun raised => ?_
  split_ifs
  · exact Triple.bind _ triple_failEntry fun _ => triple_fail fun _ submitted => submitted
  · exact triple_fail fun _ submitted => submitted

theorem triple_dbNew (unfinished : entry.state ≠ .success) :
    Triple (TrackerOk reported) (dbNew entry stored)
      (fun buildId => Submitted reported buildId) (TrackerOk reported) := by
  intro tracker ok
  have numbered : TrackerOk reported { tracker with lastBuildId := tracker.lastBuildId + 1 } :=
    ⟨ok.tracked, fun buildId member => Nat.le_succ_of_le (ok.bounded buildId member), ok.success⟩
  have untracked : ∀ taskId, tracker.buildsByTaskId.lookup taskId ≠
      some (tracker.lastBuildId + 1) := by
    intro taskId tracks
    obtain ⟨found, present, -⟩ := ok.tracked _ _ tracks
    have bound := ok.bounded _ (AList.lookup_isSome.mp (by rw [present]; rfl))
    omega
  cases stored with
  | error raised => exact numbered
  | ok _ =>
    exact Submitted.insert ⟨numbered, untracked, le_refl _⟩ fun done => absurd done unfinished

theorem trackerNew_ok {user : String}
    (reports : outcome.taskState = .success → reported outcome.taskId)
    (ok : TrackerOk reported tracker) :
    TrackerOk reported ((trackerNew user outcome).run tracker).2 := by
  have keeps : ∀ {check : Except Raised Unit} {buildId : Nat},
      Triple (Submitted reported buildId) (ofExcept check : TrackerScript Unit)
        (fun _ => Submitted reported buildId) (Submitted reported buildId) :=
    triple_ofExcept (fun _ _ _ submitted => submitted) fun _ submitted => submitted
  have triple : Triple (TrackerOk reported) (trackerNew user outcome)
      (fun _ => TrackerOk reported) (TrackerOk reported) := by
    refine Triple.bind _ (triple_asTrackerError (triple_dbNew (by simp))) fun buildId => ?_
    refine Triple.mono_stopped ?_ fun _ (submitted : Submitted reported buildId _) => submitted.ok
    refine Triple.bind _ (triple_orFail keeps) fun _ => ?_
    refine Triple.bind _ (triple_orFail keeps) fun _ => ?_
    refine Triple.bind _ (triple_orFail (triple_updateEntry fun done =>
      ⟨outcome.taskId, rfl, reports done⟩)) fun _ => ?_
    refine Triple.bind (fun _ => TrackerOk reported) ?_ fun _ => triple_pure fun _ ok => ok
    refine triple_modify fun tracker stored => ⟨fun taskId other tracks => ?_, stored.1.ok.bounded,
      stored.1.ok.success⟩
    dsimp only at tracks
    rw [Dictionary.lookup_insert_eq] at tracks
    split_ifs at tracks with same
    · cases tracks
      exact ⟨_, stored.2, by rw [same]⟩
    · exact stored.1.ok.tracked taskId other tracks
  exact triple.final ok

variable {taskId : String}

theorem TrackerOk.untrack (ok : TrackerOk reported tracker) :
    TrackerOk reported { tracker with
      buildsByTaskId := tracker.buildsByTaskId.erase taskId
      buildsByBuildId := tracker.buildsByBuildId.erase buildId } := by
  refine ⟨fun other found tracks => ?_, ok.bounded, ok.success⟩
  dsimp only at tracks
  rw [Dictionary.lookup_erase_eq] at tracks
  split_ifs at tracks
  exact ok.tracked other found tracks

variable {state : EntryState}

theorem storeState_ok {outcome : MarkOutcome} (reports : state = .success → reported taskId)
    (ok : TrackerOk reported tracker) (tracks : tracker.buildsByTaskId.lookup taskId = some buildId)
    (found : tracker.db.lookup buildId = some entry) :
    TrackerOk reported ((storeState taskId state outcome buildId entry).run tracker).2 := by
  have task : ∀ other, tracker.buildsByTaskId.lookup other = some buildId →
      entry.taskId = some other := by
    intro other tracksToo
    obtain ⟨known, present, same⟩ := ok.tracked _ _ tracksToo
    obtain rfl : entry = known := Option.some.inj (found.symm.trans present)
    exact same
  have stored : TrackerOk reported
      { tracker with db := tracker.db.insert buildId { entry with state } } :=
    ok.insert (ok.bounded buildId (AList.lookup_isSome.mp (by rw [found]; rfl))) task
      fun done => ⟨taskId, task taskId tracks, reports done⟩
  unfold storeState updateEntry
  cases outcome.dbUpdate with
  | error raised => exact ok
  | ok _ =>
    cases final : state.isFinal with
    | false => exact stored
    | true =>
      cases outcome.logsFinish with
      | error raised | ok _ => exact stored.untrack

theorem run_dbGet (tracker : BuildsTracker) (buildId : Nat) (read : Except Raised Unit) :
    (∃ raised, (dbGet buildId read).run tracker = (.error raised, tracker)) ∨
      ∃ entry, tracker.db.lookup buildId = some entry ∧
        (dbGet buildId read).run tracker = (.ok entry, tracker) := by
  unfold dbGet
  cases read with
  | error raised => exact .inl ⟨raised, rfl⟩
  | ok _ =>
    rw [run_bind_of_ok run_ofExcept, run_bind_of_ok run_read]
    cases tracker.db.lookup buildId with
    | none => exact .inl ⟨_, rfl⟩
    | some entry => exact .inr ⟨entry, rfl, rfl⟩

theorem markBuild_ok {outcome : MarkOutcome}
    (reports : state = .success → reported taskId) (ok : TrackerOk reported tracker)
    (tracks : tracker.buildsByTaskId.lookup taskId = some buildId) :
    TrackerOk reported ((markBuild taskId state outcome buildId).run tracker).2 := by
  rcases run_dbGet tracker buildId outcome.dbGet with ⟨raised, failed⟩ | ⟨entry, found, read⟩
  · rw [markBuild, run_bind, asTrackerError, run_rescue, failed]
    dsimp only
    split_ifs
    · exact ok
    · exact ok
  · rw [markBuild, run_bind, asTrackerError, run_rescue, read]
    exact storeState_ok reports ok tracks found

theorem markTaskState_ok {outcome : MarkOutcome}
    (reports : state = .success → reported taskId) (ok : TrackerOk reported tracker) :
    TrackerOk reported ((markTaskState taskId state outcome).run tracker).2 := by
  unfold markTaskState
  rw [run_bind_of_ok run_read]
  cases tracks : tracker.buildsByTaskId.lookup taskId with
  | none => exact ok
  | some buildId =>
    cases buildId with
    | zero => exact ok
    | succ buildId => exact markBuild_ok reports ok tracks

theorem restart_ok (ok : TrackerOk reported tracker) :
    TrackerOk reported (collectGarbage
      { tracker with buildsByTaskId := ∅, buildsByBuildId := ∅ }) := by
  refine ⟨fun taskId other tracks => by simp [collectGarbage] at tracks, fun other member => ?_,
    fun other entry found done => ?_⟩
  · refine ok.bounded other ?_
    rw [← AList.lookup_isSome] at member ⊢
    simpa [collectGarbage, Dictionary.lookup_mapValues] using member
  · simp only [collectGarbage, Dictionary.lookup_mapValues] at found
    obtain ⟨known, present, rfl⟩ := Option.map_eq_some_iff.mp found
    split_ifs at done ⊢ with final
    · exact ok.success other known present done

theorem TrackerOk.mono {more : String → Prop} (ok : TrackerOk reported tracker)
    (extends_ : ∀ taskId, reported taskId → more taskId) : TrackerOk more tracker :=
  ⟨ok.tracked, ok.bounded, fun buildId entry found done => by
    obtain ⟨taskId, same, known⟩ := ok.success buildId entry found done
    exact ⟨taskId, same, extends_ taskId known⟩⟩

theorem runContainer_ended (call : RunnerCall) :
    Triple (fun _ => True) (runContainer call) (fun ended _ => call.container.ended = .ok ended)
      fun _ => True := by
  have passes : ∀ {check : Except Raised Unit}, Triple (fun _ : Host => True)
      (ofExcept check : HostScript Unit) (fun _ _ => True) fun _ => True :=
    triple_ofExcept (fun _ _ _ _ => trivial) fun _ _ => trivial
  have ran : Triple (fun _ => True) (podmanRun call.container)
      (fun ended _ => call.container.ended = .ok ended) fun _ => True := by
    refine Triple.bind _ passes fun _ => Triple.bind (fun _ _ => True)
      (triple_modify fun _ _ => trivial) fun _ => ?_
    exact Triple.rescue (fun _ => True)
      (triple_ofExcept (fun _ ended _ _ => ended) fun _ _ => trivial)
      fun raised => (giveUp_reraises call.container raised).triple
  have logged : Triple (fun _ => True) (runLogged call)
      (fun ended _ => call.container.ended = .ok ended) fun _ => True := by
    refine Triple.bind _ passes fun _ => Triple.bind
      (fun ended _ => call.container.ended = .ok ended) ?_ fun ended => ?_
    · exact Triple.rescue (fun _ => True) ran fun raised =>
        (Reraises.after_check fun _ => reraises_fail).triple
    · refine triple_of_state fun host same => ?_
      exact Triple.bind (fun _ _ => call.container.ended = .ok ended)
        (triple_ofExcept (fun _ _ _ _ => same) fun _ _ => trivial) fun _ =>
          triple_pure fun _ same => same
  refine Triple.ensuring (fun ended _ => call.container.ended = .ok ended) (fun _ => True) ?_
    (fun ended => triple_ofExcept (fun _ _ _ same => same) fun _ _ => trivial) passes
  refine Triple.rescue (fun _ => True) logged fun raised => Reraises.triple ?_
  split
  · exact reraises_fail
  · split_ifs
    · exact reraises_fail
    · exact reraises_fail

theorem runner_exit_zero {call : RunnerCall} {host : Host} {report : Option BuildArtifactReport}
    (returned : ((runner call).run host).1 = .ok report) :
    ∃ stdout stderr, call.container.ended = .ok (0, stdout, stderr) := by
  have ends : (runner call).run host = (.ok report, ((runner call).run host).2) :=
    Prod.ext returned rfl
  obtain ⟨_, prepared, -, ends⟩ := of_run_bind_ok ends
  obtain ⟨_, created, -, ends⟩ := of_run_bind_ok ends
  obtain ⟨_, filled, -, ends⟩ := of_run_bind_ok ends
  obtain ⟨_, adjusted, -, ends⟩ := of_run_bind_ok ends
  obtain ⟨_, configured, -, ends⟩ := of_run_bind_ok ends
  obtain ⟨_, resolved, -, ends⟩ := of_run_bind_ok ends
  obtain ⟨⟨rc, stdout, stderr⟩, _, ran, ends⟩ := of_run_bind_ok ends
  obtain ⟨collected, _, -, ends⟩ := of_run_bind_ok ends
  have ended := runContainer_ended call resolved trivial
  rw [ran] at ended
  by_cases zero : rc = 0
  · subst zero
    exact ⟨stdout, stderr, ended⟩
  · simp [zero] at ends

/-- Every execution of the task function that returned had a runner that did. -/
def RunsSound : Prop :=
  ∀ run ∈ system.runs, run.returns = true → run.ExitsZero

/-- Only builds whose task function returned on a worker are stored as successful. -/
def SystemOk : Prop :=
  TrackerOk (fun taskId => ∃ run ∈ system.runs, run.taskId = taskId ∧ run.returns = true)
    system.tracker

/-- No execution of the task function loses an exception. -/
def CeleryAction.Heeds : CeleryAction → Prop
  | .execute run => ¬ run.attempt.LosesException run.host
  | _ => True

theorem exitsZero_of_returns {run : TaskRun} (heeds : ¬ run.attempt.LosesException run.host)
    (returns : run.returns = true) : run.ExitsZero := by
  have ended : ((taskBuild run.attempt).run run.host).1 = .ok () := by
    unfold TaskRun.returns at returns
    split at returns
    · assumption
    · cases returns
  obtain ⟨-, report, returned⟩ := (taskBuild_returns_iff run.attempt run.host).mpr heeds ended
  exact runner_exit_zero returned

theorem celeryStep_ok {system after : CelerySystem} {action : CeleryAction}
    (ok : SystemOk system ∧ RunsSound system) (heeds : action.Heeds)
    (stepped : celeryStep system action = some after) : SystemOk after ∧ RunsSound after := by
  cases action with
  | submit user outcome =>
    obtain ⟨reports, same⟩ := Option.ite_none_right_eq_some.mp stepped
    cases same
    exact ⟨trackerNew_ok reports ok.1, ok.2⟩
  | receive taskId event outcome =>
    obtain ⟨reports, same⟩ := Option.ite_none_right_eq_some.mp stepped
    cases same
    exact ⟨markTaskState_ok reports ok.1, ok.2⟩
  | restart =>
    cases stepped
    exact ⟨restart_ok ok.1, ok.2⟩
  | execute run =>
    cases stepped
    refine ⟨ok.1.mono fun taskId ⟨earlier, member, same⟩ =>
      ⟨earlier, List.mem_append_left _ member, same⟩, fun other member returns => ?_⟩
    rcases List.mem_append.mp member with earlier | last
    · exact ok.2 other earlier returns
    · rw [List.mem_singleton.mp last] at returns ⊢
      exact exitsZero_of_returns heeds returns

/-- A task function returns only after a runner that did, exactly when no exception of the build is
lost; if none ever is, every build that is stored as successful had a container that ended with exit
code zero. -/
theorem success_only_after_exit_zero (attempt : BuildAttempt) (host : Host)
    (actions : List CeleryAction) (system : CelerySystem) :
    ((((taskBuild attempt).run host).1 = .ok () → attempt.RunnerReturned host) ↔
      ¬ attempt.LosesException host) ∧
    (Transition.AllowedRun celeryStep (fun _ action => action.Heeds) .initial actions →
      Transition.run celeryStep .initial actions = some system →
      ∀ buildId entry, system.tracker.db.lookup buildId = some entry → entry.state = .success →
        ∃ run ∈ system.runs, entry.taskId = some run.taskId ∧ run.ExitsZero) := by
  refine ⟨taskBuild_returns_iff attempt host, fun allowed ran buildId entry found done => ?_⟩
  have ok : SystemOk system ∧ RunsSound system := by
    refine Transition.invariant_of_run (fun system => SystemOk system ∧ RunsSound system) ?_
      (fun before action after ok heeds stepped => celeryStep_ok ok heeds stepped) allowed ran
    refine ⟨⟨fun taskId other tracks => ?_, fun other member => ?_, fun other entry found _ => ?_⟩,
      fun run member => ?_⟩
    · simp [CelerySystem.initial] at tracks
    · simp [CelerySystem.initial] at member
    · simp [CelerySystem.initial] at found
    · simp [CelerySystem.initial] at member
  obtain ⟨taskId, same, run, member, rfl, returns⟩ := ok.1.success buildId entry found done
  exact ⟨run, member, same, ok.2 run member returns⟩

/-- A build whose steps succeed, with a given container. -/
def BuildAttempt.smooth (container : ContainerRun) : BuildAttempt where
  getBuilder := .ok ()
  ongoing := false
  osVersion := "el9"
  matchOsVersion _ := some 9
  hasRegistry := true
  versionCreateHelper := .ok ()
  version := "19.2.3"
  mkstempDesc := .ok ()
  writeDesc := .ok ()
  startBuild := .ok ()
  call := .smooth container
  unlinkDesc := .ok ()
  finishBuild := .ok ()

/-- A container that ends with an exit code and writes no report. -/
def ContainerRun.exiting (rc : Int) : ContainerRun :=
  ⟨.ok (), none, .ok (rc, "", ""), true, .ok ()⟩

/-- A build is submitted, executed by a worker whose container ends with an exit code, and reported
as succeeded. -/
def submitAndSucceed (rc : Int) : List CeleryAction :=
  [.submit "user@example.org" ⟨.ok (), .ok (), .ok (), "task", .pending, .ok (), .ok (), .ok ()⟩,
    .execute ⟨"task", .smooth (.exiting rc), ⟨[], none⟩⟩,
    .receive "task" .succeeded ⟨.ok (), .ok (), .ok ()⟩]

def firstBuild (actions : List CeleryAction) : Option (EntryState × Option String) :=
  (Transition.run celeryStep .initial actions).bind fun system =>
    (system.tracker.db.lookup 1).map fun entry => (entry.state, entry.taskId)

/-- A build whose container ended with exit code zero is stored as successful. -/
theorem success_after_exit_zero :
    firstBuild (submitAndSucceed 0) = some (.success, some "task") ∧
      ∀ system, Transition.run celeryStep .initial (submitAndSucceed 0) = some system →
        ∀ entry, system.tracker.db.lookup 1 = some entry → entry.state = .success →
          ∃ run ∈ system.runs, entry.taskId = some run.taskId ∧ run.ExitsZero := by
  refine ⟨by decide +kernel, fun system ran => ?_⟩
  refine (success_only_after_exit_zero (.smooth (.exiting 0)) ⟨[], none⟩ _ system).2 ?_ ran 1
  refine ⟨trivial, fun _ _ => ⟨?_, fun _ _ => ⟨trivial, fun _ _ => trivial⟩⟩⟩
  rintro ⟨-, -, ⟨raised, prepared, -⟩ | ⟨-, raised, ran, -⟩⟩
  · cases prepared
  · cases ran

/-- A build whose container ended with exit code one is stored as successful too. -/
theorem success_after_exit_one :
    firstBuild (submitAndSucceed 1) = some (.success, some "task") ∧
      ((taskBuild (.smooth (.exiting 1))).run ⟨[], none⟩).1 = .ok () ∧
      ((runner (.smooth (.exiting 1))).run ⟨[], none⟩).1 =
        .error ⟨.runner, "error running build (rc=1): "⟩ :=
  ⟨by decide +kernel, rfl, rfl⟩

end Cbs

import Cbs.Worker.Process

/-!
# What the steps of a worker process do

Every possible step is one of the cases below, each with what it found and what it has left.
-/

namespace Cbs

/-- What happens to a message of the active build that is kept for the next connection. -/
inductive Supervisor.Spools (config : WorkerConfig) (supervisor : Supervisor) (active : ActiveBuild)
    (message : WorkerMessage) : Supervisor → Prop where
  | drop (exhausted : active.spoolExhausted = true) :
      Spools config supervisor active message supervisor
  | keepTerminal (fits : active.spoolExhausted = false)
      (isTerminal : message.finishedBuild ≠ none) :
      Spools config supervisor active message
        { supervisor with
          active := some
            { active with phase := .terminalPendingReport, pendingTerminal := some message } }
  | exceed (fits : active.spoolExhausted = false) (isOutput : message.finishedBuild = none)
      (large : config.spoolCapBytes < active.spoolBytes + (config.size message + 1)) :
      Spools config supervisor active message
        { supervisor with
          active := some
            { active with
              spoolExhausted := true
              executor := active.executor.map .kill
              phase := .terminalPendingReport
              pendingTerminal := some (spoolExceeded active.buildId) } }
  | append (fits : active.spoolExhausted = false) (isOutput : message.finishedBuild = none)
      (small : active.spoolBytes + (config.size message + 1) ≤ config.spoolCapBytes) :
      Spools config supervisor active message
        { supervisor with
          active := some
            { active with
              spoolPath := some (active.spoolPath.getD active.buildId)
              spoolBytes := active.spoolBytes + (config.size message + 1) }
          spools := Function.update supervisor.spools (active.spoolPath.getD active.buildId)
            (supervisor.spools (active.spoolPath.getD active.buildId) ++ [message]) }

namespace Worker

inductive Turn (worker : Worker) : WorkerStep → Stage → Prop where
  | idle (stands : worker.stage = .snapshotting) (free : worker.holder = none)
      (nobody : worker.supervisor.active = none) :
      Turn worker .proceed (.sending [.workerStatus .idle none])
  | nothingSpooled {snapshot : Supervisor.Snapshot} (stands : worker.stage = .reading snapshot)
      (nothing : snapshot.spoolPath = none) :
      Turn worker .proceed (.sending (reconnectMessages snapshot []))
  | enter (stands : worker.stage = .sending []) : Turn worker .proceed .select
  | receive {frame : Incoming} (stands : worker.stage = .select) :
      Turn worker (.receive frame) (stageAfter frame)
  | busy {buildId : BuildId} {active : Supervisor.ActiveBuild}
      (stands : worker.stage = .checking buildId) (free : worker.holder = none)
      (isActive : worker.supervisor.active = some active) :
      Turn worker .proceed (.replying (.buildRejected buildId "worker is busy"))
  | take {buildId : BuildId} (stands : worker.stage = .checking buildId)
      (free : worker.holder = none) (nobody : worker.supervisor.active = none) :
      Turn worker .proceed (.preparing buildId)
  | refuse {buildId : BuildId} {reason : String} (stands : worker.stage = .preparing buildId) :
      Turn worker (.prepared (some reason)) (.replying (.buildRejected buildId reason))
  | unpack {buildId : BuildId} (stands : worker.stage = .preparing buildId) :
      Turn worker (.prepared none) (.accepting buildId)
  | spawnFails {buildId : BuildId} {reason : String} (stands : worker.stage = .spawning buildId) :
      Turn worker (.spawned (some reason))
        (.replying (.buildFinished buildId .failure (some ("spawn failed: " ++ reason)) none))
  | spawn {buildId : BuildId} (stands : worker.stage = .spawning buildId) :
      Turn worker (.spawned none) (.registering buildId)
  | registerBusy {buildId : BuildId} {active : Supervisor.ActiveBuild}
      (stands : worker.stage = .registering buildId) (free : worker.holder = none)
      (isActive : worker.supervisor.active = some active) :
      Turn worker .proceed (.replying (.buildFinished buildId .failure
        (some ("supervisor: worker is busy with build " ++ toString active.buildId)) none))
  | revokeOther {buildId : BuildId} {active : Supervisor.ActiveBuild}
      (stands : worker.stage = .revoking buildId) (free : worker.holder = none)
      (isActive : worker.supervisor.active = some active) (other : active.buildId ≠ buildId) :
      Turn worker .proceed .select
  | revokeIdle {buildId : BuildId} (stands : worker.stage = .revoking buildId)
      (free : worker.holder = none) (nobody : worker.supervisor.active = none) :
      Turn worker .proceed (.replying (.buildFinished buildId .revoked none none))

/-- What the loop writes without retiring a build, and its stage afterwards. -/
inductive Writes (worker : Worker) : WorkerMessage → Stage → Prop where
  | accept {buildId : BuildId} (stands : worker.stage = .accepting buildId) :
      Writes worker (.buildAccepted buildId) (.spawning buildId)
  | start {buildId : BuildId} (stands : worker.stage = .starting buildId) :
      Writes worker (.buildStarted buildId) (.marking buildId)
  | reply {message : WorkerMessage} (stands : worker.stage = .replying message) :
      Writes worker message .select

/-- What the loop writes and then retires the build of, and its stage afterwards. -/
inductive Transmits (worker : Worker) : WorkerMessage → Stage → Prop where
  | reconnect {message : WorkerMessage} {messages : List WorkerMessage}
      (stands : worker.stage = .sending (message :: messages)) :
      Transmits worker message (.sending messages)
  | forward {message : WorkerMessage} (stands : worker.stage = .forwarding message) :
      Transmits worker message .select

/-- The tasks that are started to retire the build whose end a message reports. -/
def retirementsFor (message : WorkerMessage) : List Retirement :=
  message.finishedBuild.toList.map (⟨·, .taking⟩)

inductive Produces (config : WorkerConfig) (worker : Worker) (task : Nat) (streamer : Streamer) :
    WorkerStep → Streamer → Prop where
  | stdout {event : StdoutEvent} (reading : streamer.source = .reading) :
      Produces config worker task streamer (.stdout task event) (streamer.onStdout event)
  | close {terminal : WorkerMessage} (closing : streamer.source = .closing terminal)
      (room : streamer.queue.length < config.capacity) :
      Produces config worker task streamer (.close task)
        { streamer with queue := streamer.queue ++ [terminal], source := .closed }
  | finish (closed : streamer.source = .closed) (empty : streamer.queue = [])
      (released : ∀ held ∈ worker.holder, held.1 ≠ task) :
      Produces config worker task streamer (.finish task) { streamer with ended := true }

/-- What happens to a message that a drainer hands to the supervisor. -/
inductive Handed (config : WorkerConfig) (worker : Worker) (task : Nat) (message : WorkerMessage) :
    Worker → Prop where
  | drop (orphan : ∀ buildId ∈ message.streamedBuild, ∀ active ∈ worker.supervisor.active,
      active.buildId ≠ buildId) : Handed config worker task message worker
  | spool {active : Supervisor.ActiveBuild} {next : Supervisor}
      (isStreamed : message.streamedBuild = some active.buildId)
      (isActive : worker.supervisor.active = some active)
      (detached : worker.supervisor.transport = none)
      (spools : worker.supervisor.Spools config active message next) :
      Handed config worker task message { worker with supervisor := next }
  | hold (attached : worker.supervisor.transport ≠ none)
      (mine : ∀ buildId ∈ message.streamedBuild, ∃ active ∈ worker.supervisor.active,
        active.buildId = buildId) :
      Handed config worker task message { worker with holder := some (task, message) }

/-- What happens to a message that could not be sent. -/
inductive Recovered (config : WorkerConfig) (worker : Worker) (message : WorkerMessage) :
    Worker → Prop where
  | forget (other : message.streamedBuild = none) :
      Recovered config worker message { worker with holder := none }
  | drop (orphan : worker.supervisor.active = none) :
      Recovered config worker message
        { worker with holder := none, supervisor := worker.supervisor.detachTransport }
  | spool {active : Supervisor.ActiveBuild} {next : Supervisor}
      (isActive : worker.supervisor.active = some active)
      (spools : worker.supervisor.detachTransport.Spools config active message next) :
      Recovered config worker message { worker with holder := none, supervisor := next }

/-- A possible step and the state after it. -/
inductive Effect (config : WorkerConfig) (worker : Worker) : WorkerStep → Worker → Prop where
  | connect (stands : worker.stage = .offline) :
      Effect config worker .connect
        { worker with
          written := worker.written ++ [.hello]
          stage := .attaching
          connection := worker.connection + 1
          channel := some [] }
  | turn {label : WorkerStep} {stage : Stage} (turns : worker.Turn label stage) :
      Effect config worker label { worker with stage }
  | write {message : WorkerMessage} {stage : Stage} (writes : worker.Writes message stage) :
      Effect config worker .proceed { worker with written := worker.written ++ [message], stage }
  | transmit {message : WorkerMessage} {stage : Stage}
      (transmits : worker.Transmits message stage) : Effect config worker .proceed
        { worker with
          written := worker.written ++ [message]
          retirements := worker.retirements ++ retirementsFor message
          stage }
  | attach (stands : worker.stage = .attaching) (free : worker.holder = none) :
      Effect config worker .proceed
        { worker with
          supervisor := worker.supervisor.attachTransport worker.connection
          stage := .snapshotting }
  | takePending {active : Supervisor.ActiveBuild} (stands : worker.stage = .snapshotting)
      (free : worker.holder = none) (isActive : worker.supervisor.active = some active)
      (pending : active.phase = .terminalPendingReport) :
      Effect config worker .proceed
        { worker with
          supervisor :=
            { worker.supervisor with active := some { active with pendingTerminal := none } }
          stage := .reading ⟨active.buildId,
            if 0 < active.spoolBytes then active.spoolPath else none, active.pendingTerminal⟩ }
  | takeNothing {active : Supervisor.ActiveBuild} (stands : worker.stage = .snapshotting)
      (free : worker.holder = none) (isActive : worker.supervisor.active = some active)
      (running : active.phase ≠ .terminalPendingReport) :
      Effect config worker .proceed
        { worker with
          stage := .reading ⟨active.buildId,
            if 0 < active.spoolBytes then active.spoolPath else none, none⟩ }
  | readSpool {snapshot : Supervisor.Snapshot} {path : BuildId}
      (stands : worker.stage = .reading snapshot) (isPath : snapshot.spoolPath = some path) :
      Effect config worker .proceed
        { worker with
          supervisor := worker.supervisor.removeSpool path
          stage := .recording snapshot (worker.supervisor.spools path) }
  | record {snapshot : Supervisor.Snapshot} {spooled : List WorkerMessage}
      (stands : worker.stage = .recording snapshot spooled) (free : worker.holder = none) :
      Effect config worker .proceed
        { worker with
          supervisor := worker.supervisor.forgetSpool snapshot.buildId
          stage := .sending (reconnectMessages snapshot spooled) }
  | register {buildId : BuildId} (stands : worker.stage = .registering buildId)
      (free : worker.holder = none) (nobody : worker.supervisor.active = none) :
      Effect config worker .proceed
        { worker with
          supervisor :=
            { worker.supervisor with
              active := some ⟨buildId, .accepted, some ⟨false⟩, none, none, none, 0, false⟩ }
          registered := worker.registered ++ [buildId]
          stage := .starting buildId }
  | mark {buildId : BuildId} (stands : worker.stage = .marking buildId)
      (free : worker.holder = none) :
      Effect config worker .proceed
        { worker with
          supervisor := worker.supervisor.markStarted buildId
          stage := .launching buildId }
  | launch {buildId : BuildId} (stands : worker.stage = .launching buildId) :
      Effect config worker .proceed
        { worker with
          streamers := worker.streamers ++ [.launch buildId]
          stage := .attachingTask buildId worker.streamers.length }
  | attachTask {buildId : BuildId} {task : Nat}
      (stands : worker.stage = .attachingTask buildId task) (free : worker.holder = none) :
      Effect config worker .proceed
        { worker with
          supervisor := worker.supervisor.attachOutputTask buildId task
          stage := .select }
  | revoke {buildId : BuildId} {active : Supervisor.ActiveBuild}
      (stands : worker.stage = .revoking buildId) (free : worker.holder = none)
      (isActive : worker.supervisor.active = some active) (same : active.buildId = buildId) :
      Effect config worker .proceed
        { worker with
          supervisor :=
            { worker.supervisor with
              active := some
                { active with
                  phase := .revoking
                  pendingTerminal := none
                  executor := active.executor.map .kill } }
          stage := .select }
  | detach (stands : worker.stage = .detaching) (free : worker.holder = none) :
      Effect config worker .proceed
        { worker with
          supervisor := worker.supervisor.detachTransport
          stage := .offline
          channel := none }
  | disconnect (talks : Talks worker.stage) :
      Effect config worker .disconnect { worker with stage := .offline, channel := none }
  | takeOutput {message : WorkerMessage} {messages : List WorkerMessage}
      (stands : worker.stage = .select) (isChannel : worker.channel = some (message :: messages)) :
      Effect config worker .takeOutput
        { worker with stage := .forwarding message, channel := some messages }
  | produce {label : WorkerStep} {task : Nat} {streamer next : Streamer}
      (isStreamer : worker.streamers[task]? = some streamer)
      (produces : Produces config worker task streamer label next) :
      Effect config worker label { worker with streamers := worker.streamers.set task next }
  | drain {task : Nat} {streamer : Streamer} {message : WorkerMessage}
      {messages : List WorkerMessage} {after : Worker} (free : worker.holder = none)
      (isStreamer : worker.streamers[task]? = some streamer)
      (isQueue : streamer.queue = message :: messages)
      (handed : Handed config
        { worker with streamers := worker.streamers.set task { streamer with queue := messages } }
        task message after) :
      Effect config worker (.drain task) after
  | send {task : Nat} {message : WorkerMessage} {messages : List WorkerMessage}
      (isHolder : worker.holder = some (task, message))
      (isTransport : worker.transport = some messages)
      (room : messages.length < config.capacity) :
      Effect config worker .push
        { worker with holder := none, channel := some (messages ++ [message]) }
  | recover {task : Nat} {message : WorkerMessage} {after : Worker}
      (isHolder : worker.holder = some (task, message)) (closed : worker.transport = none)
      (recovered : Recovered config worker message after) :
      Effect config worker .push after
  | sample {messages : List WorkerMessage} (isChannel : worker.channel = some messages)
      (samples : Samples worker.stage) (room : messages.length < config.capacity) :
      Effect config worker .sample { worker with channel := some (messages ++ [.metrics]) }
  | retireTake {task : Nat} {buildId : BuildId} {active : Supervisor.ActiveBuild}
      (isTask : worker.retirements[task]? = some ⟨buildId, .taking⟩) (free : worker.holder = none)
      (isActive : worker.supervisor.active = some active) (same : active.buildId = buildId) :
      Effect config worker (.retire task)
        ({ worker with
          supervisor :=
            { worker.supervisor with
              active := some
                { active with outputTask := none, executor := none, spoolPath := none } }
          }.setRetirement task (.waiting active.outputTask active.spoolPath))
  | retireSkip {task : Nat} {buildId : BuildId}
      (isTask : worker.retirements[task]? = some ⟨buildId, .taking⟩) (free : worker.holder = none)
      (other : ∀ active ∈ worker.supervisor.active, active.buildId ≠ buildId) :
      Effect config worker (.retire task) (worker.setRetirement task .done)
  | retireWait {task : Nat} {buildId : BuildId} {outputTask : Option Nat}
      {spoolPath : Option BuildId}
      (isTask : worker.retirements[task]? = some ⟨buildId, .waiting outputTask spoolPath⟩)
      (ended : ∀ awaited ∈ outputTask, worker.Ended awaited) :
      Effect config worker (.retire task)
        ((worker.removeSpool spoolPath).setRetirement task .clearing)
  | retireClear {task : Nat} {buildId : BuildId}
      (isTask : worker.retirements[task]? = some ⟨buildId, .clearing⟩)
      (free : worker.holder = none) :
      Effect config worker (.retire task)
        ({ worker with
          supervisor := worker.supervisor.retireClear buildId }.setRetirement task .done)

theorem locked_eq_some {worker next after : Worker} :
    worker.locked next = some after ↔ worker.holder = none ∧ next = after := by
  unfold locked
  split_ifs with free <;> simp [free]

theorem transmit_eq (worker : Worker) (message : WorkerMessage) :
    worker.transmit message =
      { worker with
        written := worker.written ++ [message]
        retirements := worker.retirements ++ retirementsFor message } := by
  unfold transmit retirementsFor write
  cases message.finishedBuild <;> simp

variable {config : WorkerConfig} {worker after : Worker}

theorem effect_of_snapshot (stands : worker.stage = .snapshotting) (free : worker.holder = none) :
    Effect config worker .proceed worker.snapshot := by
  unfold snapshot Supervisor.takeSnapshot
  cases isActive : worker.supervisor.active with
  | none => exact .turn (.idle stands free isActive)
  | some active =>
    by_cases pending : active.phase = .terminalPendingReport
    · simp only [if_pos pending]
      exact .takePending stands free isActive pending
    · simp only [if_neg pending]
      exact .takeNothing stands free isActive pending

theorem effect_of_readSpool {snapshot : Supervisor.Snapshot}
    (stands : worker.stage = .reading snapshot) :
    Effect config worker .proceed (worker.readSpool snapshot) := by
  unfold Worker.readSpool
  cases isPath : snapshot.spoolPath with
  | none => exact .turn (.nothingSpooled stands isPath)
  | some path => exact .readSpool stands isPath

variable {buildId : BuildId}

theorem effect_of_check (stands : worker.stage = .checking buildId)
    (free : worker.holder = none) : Effect config worker .proceed (worker.check buildId) := by
  unfold check
  cases isActive : worker.supervisor.active with
  | none => exact .turn (.take stands free isActive)
  | some active => exact .turn (.busy stands free isActive)

theorem effect_of_register (stands : worker.stage = .registering buildId)
    (free : worker.holder = none) : Effect config worker .proceed (worker.register buildId) := by
  unfold Worker.register Supervisor.registerAccepted
  cases isActive : worker.supervisor.active with
  | none => exact .register stands free isActive
  | some active => exact .turn (.registerBusy stands free isActive)

theorem effect_of_revoke (stands : worker.stage = .revoking buildId)
    (free : worker.holder = none) : Effect config worker .proceed (worker.revoke buildId) := by
  unfold Worker.revoke Supervisor.onBuildRevoke
  cases isActive : worker.supervisor.active with
  | none => exact .turn (.revokeIdle stands free isActive)
  | some active =>
    by_cases same : active.buildId = buildId
    · subst same
      simp only [if_true, Supervisor.modifyActive, isActive, Option.map_some]
      exact .revoke stands free isActive rfl
    · simp only [same, if_false]
      exact .turn (.revokeOther stands free isActive same)

theorem effect_of_proceed (stepped : worker.proceed = some after) :
    Effect config worker .proceed after := by
  unfold Worker.proceed at stepped
  split at stepped
  case h_1 | h_2 | h_3 | h_4 => cases stepped
  case h_5 stands =>
    obtain ⟨free, rfl⟩ := locked_eq_some.mp stepped
    exact .attach stands free
  case h_6 stands =>
    obtain ⟨free, rfl⟩ := locked_eq_some.mp stepped
    exact effect_of_snapshot stands free
  case h_7 snapshot stands =>
    cases stepped
    exact effect_of_readSpool stands
  case h_8 snapshot spooled stands =>
    obtain ⟨free, rfl⟩ := locked_eq_some.mp stepped
    exact .record stands free
  case h_9 stands =>
    cases stepped
    exact .turn (.enter stands)
  case h_10 message messages stands =>
    cases stepped
    rw [transmit_eq]
    exact .transmit (.reconnect stands)
  case h_11 message stands =>
    cases stepped
    rw [transmit_eq]
    exact .transmit (.forward stands)
  case h_12 buildId stands =>
    obtain ⟨free, rfl⟩ := locked_eq_some.mp stepped
    exact effect_of_check stands free
  case h_13 buildId stands =>
    cases stepped
    exact .write (.accept stands)
  case h_14 buildId stands =>
    obtain ⟨free, rfl⟩ := locked_eq_some.mp stepped
    exact effect_of_register stands free
  case h_15 buildId stands =>
    cases stepped
    exact .write (.start stands)
  case h_16 buildId stands =>
    obtain ⟨free, rfl⟩ := locked_eq_some.mp stepped
    exact .mark stands free
  case h_17 buildId stands =>
    cases stepped
    exact .launch stands
  case h_18 buildId task stands =>
    obtain ⟨free, rfl⟩ := locked_eq_some.mp stepped
    exact .attachTask stands free
  case h_19 buildId stands =>
    obtain ⟨free, rfl⟩ := locked_eq_some.mp stepped
    exact effect_of_revoke stands free
  case h_20 stands =>
    obtain ⟨free, rfl⟩ := locked_eq_some.mp stepped
    exact .detach stands free
  case h_21 message stands =>
    cases stepped
    exact .write (.reply stands)

theorem spools_of_spoolActive (supervisor : Supervisor) (active : Supervisor.ActiveBuild)
    (message : WorkerMessage) :
    supervisor.Spools config active message
      (supervisor.spoolActive config active message message.finishedBuild.isSome) := by
  unfold Supervisor.spoolActive
  by_cases exhausted : active.spoolExhausted = true
  · rw [if_pos exhausted]
    exact .drop exhausted
  · rw [if_neg exhausted]
    have fits := Bool.eq_false_of_not_eq_true exhausted
    cases isFinished : message.finishedBuild with
    | some buildId => exact .keepTerminal fits (by simp [isFinished])
    | none =>
      by_cases large : config.spoolCapBytes < active.spoolBytes + (config.size message + 1)
      · simp only [Option.isSome_none, Bool.false_eq_true, if_false, if_pos large]
        exact .exceed fits isFinished large
      · simp only [Option.isSome_none, Bool.false_eq_true, if_false, if_neg large]
        exact .append fits isFinished (Nat.le_of_not_lt large)

variable {message : WorkerMessage}

theorem spoolAndFinalize_of_none {supervisor : Supervisor} (nobody : supervisor.active = none) :
    supervisor.spoolAndFinalize config message = supervisor := by
  unfold Supervisor.spoolAndFinalize
  rw [nobody]

theorem spools_of_spoolAndFinalize {supervisor : Supervisor} {active : Supervisor.ActiveBuild}
    (isActive : supervisor.active = some active) :
    supervisor.Spools config active message (supervisor.spoolAndFinalize config message) := by
  unfold Supervisor.spoolAndFinalize
  rw [isActive]
  exact spools_of_spoolActive supervisor active message

theorem recovered_of_recoverMessage (message : WorkerMessage) :
    Recovered config worker message (worker.recoverMessage config message) := by
  unfold recoverMessage
  cases isStreamed : message.streamedBuild with
  | none => exact .forget isStreamed
  | some buildId =>
    have kept : worker.supervisor.detachTransport.active = worker.supervisor.active := rfl
    cases isActive : worker.supervisor.active with
    | none =>
      simp only [spoolAndFinalize_of_none (kept.trans isActive)]
      exact .drop isActive
    | some active => exact .spool isActive (spools_of_spoolAndFinalize (kept.trans isActive))

theorem handed_of_onOutputMessage (task : Nat) (message : WorkerMessage) :
    Handed config worker task message (worker.onOutputMessage config task message) := by
  unfold onOutputMessage
  cases isStreamed : message.streamedBuild with
  | none =>
    by_cases detached : worker.supervisor.transport = none
    · simp only [detached, if_true]
      exact .drop (by simp [isStreamed])
    · simp only [detached, if_false]
      exact .hold detached (by simp [isStreamed])
  | some buildId =>
    cases isActive : worker.supervisor.active with
    | none => exact .drop (by simp [isActive])
    | some active =>
      by_cases same : active.buildId = buildId
      · subst same
        by_cases detached : worker.supervisor.transport = none
        · simp only [detached, ne_eq, not_true_eq_false, if_false, if_true]
          exact .spool isStreamed isActive detached (spools_of_spoolAndFinalize isActive)
        · simp only [detached, ne_eq, not_true_eq_false, if_false]
          exact .hold detached (by simp [isStreamed, isActive])
      · simp only [same, ne_eq, not_false_eq_true, if_true]
        exact .drop (by simp [isStreamed, isActive, same])

variable {task : Nat}

theorem effect_of_drain (stepped : worker.drain config task = some after) :
    Effect config worker (.drain task) after := by
  unfold Worker.drain at stepped
  cases isStreamer : worker.streamers[task]? with
  | none => simp [isStreamer] at stepped
  | some streamer =>
    rw [isStreamer] at stepped
    cases isQueue : streamer.queue with
    | nil => simp [isQueue] at stepped
    | cons message messages =>
      simp only [isQueue] at stepped
      obtain ⟨free, rfl⟩ := locked_eq_some.mp stepped
      exact .drain free isStreamer isQueue (handed_of_onOutputMessage task message)

theorem effect_of_push (stepped : worker.push config = some after) :
    Effect config worker .push after := by
  unfold Worker.push at stepped
  split at stepped
  case h_1 task message isHolder =>
    split at stepped
    case h_1 messages isTransport =>
      split_ifs at stepped with room
      cases stepped
      exact .send isHolder isTransport room
    case h_2 closed =>
      cases stepped
      exact .recover isHolder closed (recovered_of_recoverMessage message)
  case h_2 => cases stepped

theorem updateStreamer_eq_some {change : Streamer → Option Streamer} :
    worker.updateStreamer task change = some after ↔
      ∃ streamer next, worker.streamers[task]? = some streamer ∧ change streamer = some next ∧
        { worker with streamers := worker.streamers.set task next } = after := by
  unfold updateStreamer
  cases worker.streamers[task]? with
  | none => simp
  | some streamer => cases isNext : change streamer <;> simp [isNext]

theorem effect_of_retire (stepped : worker.retire task = some after) :
    Effect config worker (.retire task) after := by
  unfold Worker.retire at stepped
  split at stepped
  case h_1 buildId isTask =>
    obtain ⟨free, rfl⟩ := locked_eq_some.mp stepped
    unfold Worker.retireTake Supervisor.retireTake
    cases isActive : worker.supervisor.active with
    | none => exact .retireSkip isTask free (by simp [isActive])
    | some active =>
      by_cases same : active.buildId = buildId
      · subst same
        simp only [if_true, Supervisor.modifyActive, isActive, Option.map_some]
        exact .retireTake isTask free isActive rfl
      · simp only [same, if_false]
        exact .retireSkip isTask free (by simp [isActive, same])
  case h_2 buildId outputTask spoolPath isTask =>
    split_ifs at stepped with ended
    cases stepped
    exact .retireWait isTask ended
  case h_3 buildId isTask =>
    obtain ⟨free, rfl⟩ := locked_eq_some.mp stepped
    exact .retireClear isTask free
  case h_4 | h_5 => cases stepped

theorem effect_of_step {label : WorkerStep} (stepped : worker.step config label = some after) :
    Effect config worker label after := by
  cases label with
  | connect =>
    simp only [step, Worker.connect] at stepped
    split at stepped
    case h_1 stands =>
      cases stepped
      exact .connect stands
    case h_2 => cases stepped
  | proceed => exact effect_of_proceed stepped
  | disconnect =>
    simp only [step, Worker.disconnect] at stepped
    split_ifs at stepped with talks
    cases stepped
    exact .disconnect talks
  | receive frame =>
    simp only [step, Worker.receive] at stepped
    split at stepped
    case h_1 stands =>
      cases stepped
      exact .turn (.receive stands)
    case h_2 => cases stepped
  | takeOutput =>
    simp only [step, Worker.takeOutput] at stepped
    split at stepped
    case h_1 message messages stands isChannel =>
      cases stepped
      exact .takeOutput stands isChannel
    case h_2 => cases stepped
  | prepared refusal =>
    simp only [step, Worker.prepared] at stepped
    split at stepped
    case h_1 stands =>
      cases stepped
      exact .turn (.refuse stands)
    case h_2 stands =>
      cases stepped
      exact .turn (.unpack stands)
    case h_3 => cases stepped
  | spawned error =>
    simp only [step, Worker.spawned] at stepped
    split at stepped
    case h_1 stands =>
      cases stepped
      exact .turn (.spawnFails stands)
    case h_2 stands =>
      cases stepped
      exact .turn (.spawn stands)
    case h_3 => cases stepped
  | stdout task event =>
    obtain ⟨streamer, next, isStreamer, produced, rfl⟩ := updateStreamer_eq_some.mp stepped
    unfold Streamer.produce at produced
    split_ifs at produced with ready
    cases produced
    exact .produce isStreamer (.stdout ready.1)
  | close task =>
    obtain ⟨streamer, next, isStreamer, closed, rfl⟩ := updateStreamer_eq_some.mp stepped
    unfold Streamer.close at closed
    split at closed
    case h_1 terminal closing =>
      split_ifs at closed with room
      cases closed
      exact .produce isStreamer (.close closing room)
    case h_2 => cases closed
  | drain task => exact effect_of_drain stepped
  | push => exact effect_of_push stepped
  | finish task =>
    obtain ⟨streamer, next, isStreamer, finished, rfl⟩ := updateStreamer_eq_some.mp stepped
    split_ifs at finished with ready
    cases finished
    exact .produce isStreamer (.finish ready.1 ready.2.1 ready.2.2)
  | sample =>
    simp only [step, Worker.sample] at stepped
    split at stepped
    case h_1 messages isChannel =>
      split_ifs at stepped with ready
      cases stepped
      exact .sample isChannel ready.1 ready.2
    case h_2 => cases stepped
  | retire task => exact effect_of_retire stepped

end Worker

end Cbs

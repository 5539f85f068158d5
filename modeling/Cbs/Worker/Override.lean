import Cbs.Worker.Delivery

/-!
# Revokes and the end that is reported

A revoke of the active build drops an end that is pending, but leaves the streaming task to find out
how the subprocess ended, by the result line of the wrapper alone.
-/

namespace Cbs

open Transition

def WorkerMessage.Concedes (buildId : BuildId) : WorkerMessage → Prop
  | buildFinished reported status _ _ => reported = buildId → status = .revoked
  | _ => True

theorem WorkerMessage.concedes_of_finishedBuild {message : WorkerMessage} {buildId : BuildId}
    (other : message.finishedBuild ≠ some buildId) : message.Concedes buildId := by
  cases message with
  | buildFinished reported status error report =>
    intro same
    exact absurd (congrArg some same) other
  | _ => trivial

theorem WorkerMessage.status_of_concedes {buildId : BuildId} {status : BuildFinishedStatus}
    {error report : Option String}
    (concedes : (WorkerMessage.buildFinished buildId status error report).Concedes buildId) :
    status = .revoked :=
  concedes rfl

namespace Streamer

/-- No end is on its way from the task. -/
def Unended (streamer : Streamer) : Prop :=
  (∀ terminal, streamer.source ≠ .closing terminal) ∧
    ∀ message ∈ streamer.queue, message.finishedBuild = none

/-- The terminal message that the task is about to send. -/
def terminal? (streamer : Streamer) : Option WorkerMessage :=
  match streamer.source with
  | .closing terminal => some terminal
  | .reading | .closed => none

theorem terminal?_eq_none (streamer : Streamer) :
    streamer.terminal? = none ↔ ∀ terminal, streamer.source ≠ .closing terminal := by
  unfold terminal?
  cases streamer.source <;> simp

instance (streamer : Streamer) : Decidable streamer.Unended :=
  decidable_of_iff (streamer.terminal? = none ∧
    ∀ message ∈ streamer.queue, message.finishedBuild = none)
    (and_congr_left' streamer.terminal?_eq_none)

/-- If this is the end of the output, the wrapper has reported that it was stopped by a signal. -/
def EndsRevoked (streamer : Streamer) : StdoutEvent → Prop
  | .missing | .readError _ => False
  | .eof => ∃ result ∈ streamer.wrapperResult, result.exitCode = 137 ∨ result.exitCode = 143
  | _ => True

instance (streamer : Streamer) : DecidablePred streamer.EndsRevoked
  | .missing | .readError _ => isFalse id
  | .eof => inferInstanceAs (Decidable (∃ result ∈ streamer.wrapperResult, _))
  | .line _ | .result _ | .timer => isTrue trivial

/-- What the task has to send reports no other end of the build. -/
structure Concedes (buildId : BuildId) (streamer : Streamer) : Prop where
  queue : ∀ message ∈ streamer.queue, message.Concedes buildId
  terminal : ∀ terminal, streamer.source = .closing terminal → terminal.Concedes buildId

variable {streamer : Streamer} {buildId : BuildId}

theorem concedes_launch (buildId launched : BuildId) : (launch launched).Concedes buildId where
  queue := by simp [launch]
  terminal := by simp [launch]

theorem Own.concedes (own : streamer.Own)
    (unended : streamer.buildId = buildId → streamer.Unended) : streamer.Concedes buildId := by
  by_cases mine : streamer.buildId = buildId
  · obtain ⟨reads, outputs⟩ := unended mine
    refine ⟨fun message inside => ?_, fun terminal closing => absurd closing (reads terminal)⟩
    exact WorkerMessage.concedes_of_finishedBuild (by simp [outputs message inside])
  · refine ⟨fun message inside => ?_, fun terminal closing => ?_⟩
    · refine WorkerMessage.concedes_of_finishedBuild fun finishes => mine ?_
      have streamed := streamedBuild_of_finishedBuild finishes
      exact Option.some.inj ((own.queue message inside).symm.trans streamed)
    · refine WorkerMessage.concedes_of_finishedBuild fun finishes => mine ?_
      exact Option.some.inj ((own.terminal terminal closing).symm.trans finishes)

/-- A wrapper that was stopped by a signal and says so stands for a revoked build. -/
theorem concedes_terminalMessage {result : WrapperResult}
    (isResult : streamer.wrapperResult = some result)
    (code : result.exitCode = 137 ∨ result.exitCode = 143) :
    streamer.terminalMessage.Concedes buildId := by
  rw [terminalMessage, isResult]
  intro _
  rcases code with code | code
  · rw [code]
    rfl
  · rw [code]
    rfl

variable {event : StdoutEvent}

theorem source_onStdout_of_reading (reading : streamer.source = .reading)
    (goesOn : event ≠ .missing ∧ event ≠ .eof ∧ ∀ text, event ≠ .readError text) :
    (streamer.onStdout event).source = .reading := by
  cases event with
  | missing => exact absurd rfl goesOn.1
  | eof => exact absurd rfl goesOn.2.1
  | readError text => exact absurd rfl (goesOn.2.2 text)
  | line text =>
    simp only [onStdout]
    split_ifs <;> exact reading
  | result parsed =>
    cases parsed with
    | none => exact reading
    | some result =>
      simp only [onStdout, onResult]
      cases errorLine result <;> exact reading
  | timer =>
    simp only [onStdout, flushRest]
    split_ifs <;> exact reading

variable {terminal : WorkerMessage}

/-- The end that the task turns to, if the wrapper says that it was stopped. -/
theorem concedes_source_onStdout (reading : streamer.source = .reading)
    (ends : streamer.buildId = buildId → streamer.EndsRevoked event)
    (closing : (streamer.onStdout event).source = .closing terminal) :
    terminal.Concedes buildId := by
  have goesOn : (event ≠ .missing ∧ event ≠ .eof ∧ ∀ text, event ≠ .readError text) →
      terminal.Concedes buildId := by
    intro goesOn
    rw [source_onStdout_of_reading reading goesOn] at closing
    cases closing
  cases event with
  | missing | readError text =>
    cases closing
    exact fun mine => (ends mine).elim
  | eof =>
    obtain rfl : streamer.terminalMessage = terminal := by
      injection closing
    by_cases mine : streamer.buildId = buildId
    · obtain ⟨result, isResult, code⟩ := ends mine
      exact concedes_terminalMessage isResult code
    · obtain ⟨status, error, report, isTerminal⟩ := streamer.terminalMessage_eq
      rw [isTerminal]
      exact fun same => absurd same mine
  | line text | result parsed | timer => exact goesOn ⟨nofun, nofun, nofun⟩

theorem Concedes.onStdout (concedes : streamer.Concedes buildId) (counts : streamer.Counts)
    (reading : streamer.source = .reading)
    (ends : streamer.buildId = buildId → streamer.EndsRevoked event) :
    (streamer.onStdout event).Concedes buildId := by
  obtain ⟨sent, sends⟩ := sends_onStdout counts event
  refine ⟨fun message inside => ?_, fun terminal closing =>
    concedes_source_onStdout reading ends closing⟩
  rw [sends.queue] at inside
  rcases List.mem_append.mp inside with old | new
  · exact concedes.queue message old
  · rcases sends.batch with ⟨rfl, -⟩ | ⟨startSeq, lines, rfl, -⟩
    · cases new
    · rw [List.mem_singleton.mp new]
      trivial

theorem Concedes.close (concedes : streamer.Concedes buildId)
    (closing : streamer.source = .closing terminal) :
    ({ streamer with queue := streamer.queue ++ [terminal], source := .closed } :
      Streamer).Concedes buildId := by
  refine ⟨List.forall_mem_append.mpr ⟨concedes.queue, ?_⟩, nofun⟩
  exact List.forall_mem_singleton.mpr (concedes.terminal terminal closing)

end Streamer

namespace Supervisor

variable {supervisor next : Supervisor} {path other : BuildId} {message : WorkerMessage}

theorem mem_of_mem_removeSpool (inside : message ∈ (supervisor.removeSpool path).spools other) :
    message ∈ supervisor.spools other := by
  simp only [removeSpool, Function.update_apply] at inside
  split_ifs at inside
  · cases inside
  · exact inside

theorem Spools.mem_spools {config : WorkerConfig} {active : ActiveBuild} {kept : WorkerMessage}
    (spools : supervisor.Spools config active kept next) (inside : message ∈ next.spools path) :
    message ∈ supervisor.spools path ∨ message = kept ∧ kept.finishedBuild = none := by
  cases spools with
  | append fits isOutput =>
    simp only [Function.update_apply] at inside
    split_ifs at inside with same
    · rcases List.mem_append.mp inside with old | new
      · exact .inl (same ▸ old)
      · exact .inr ⟨List.mem_singleton.mp new, isOutput⟩
    · exact .inl inside
  | _ => exact .inl inside

end Supervisor

namespace Worker

variable {config : WorkerConfig} {worker after : Worker} {label : WorkerStep} {buildId : BuildId}

/-- The messages that the loop has to write. -/
def stageMessages : Stage → List WorkerMessage
  | .replying message => [message]
  | stage => carriedBy stage

/-- Nowhere in the worker is another end of the build than that it was revoked. -/
structure Overridden (buildId : BuildId) (worker : Worker) : Prop where
  streamers : ∀ streamer ∈ worker.streamers, streamer.Concedes buildId
  holder : ∀ held ∈ worker.holder, held.2.Concedes buildId
  stage : ∀ message ∈ stageMessages worker.stage, message.Concedes buildId
  channel : ∀ messages ∈ worker.channel, ∀ message ∈ messages, message.Concedes buildId
  pending : ∀ active ∈ worker.supervisor.active, ∀ message ∈ active.pendingTerminal,
    message.Concedes buildId
  spools : ∀ path, ∀ message ∈ worker.supervisor.spools path, message.Concedes buildId
  written : ∀ message ∈ worker.written, message.Concedes buildId

def Fits (config : WorkerConfig) (worker : Worker) (buildId : BuildId) (message : WorkerMessage) :
    Prop :=
  ∀ active ∈ worker.supervisor.active, active.buildId = buildId → active.spoolExhausted = false →
    message.finishedBuild = none →
    active.spoolBytes + (config.size message + 1) ≤ config.spoolCapBytes

instance (config : WorkerConfig) (worker : Worker) (buildId : BuildId) (message : WorkerMessage) :
    Decidable (worker.Fits config buildId message) :=
  inferInstanceAs (Decidable (∀ active ∈ worker.supervisor.active, _ → _ → _ → _))

/-- The output of the build ends with the result of a wrapper that was stopped by a signal, what is
kept of it without a connection fits into the spool file, and it is not started again in vain. -/
def Stopped (config : WorkerConfig) (buildId : BuildId) (worker : Worker) : WorkerStep → Prop
  | .stdout task event => ∀ streamer ∈ worker.streamers[task]?, streamer.buildId = buildId →
      streamer.source = .reading → streamer.EndsRevoked event
  | .drain task => worker.supervisor.transport = none → ∀ streamer ∈ worker.streamers[task]?,
      ∀ message ∈ streamer.queue.head?, worker.Fits config buildId message
  | .push => worker.transport = none → ∀ held ∈ worker.holder, worker.Fits config buildId held.2
  | .spawned (some _) => worker.stage ≠ .spawning buildId
  | _ => True

instance (config : WorkerConfig) (buildId : BuildId) (worker : Worker) :
    (label : WorkerStep) → Decidable (worker.Stopped config buildId label)
  | .stdout task _ => inferInstanceAs (Decidable (∀ streamer ∈ worker.streamers[task]?, _ → _ → _))
  | .drain task => inferInstanceAs (Decidable (_ → ∀ streamer ∈ worker.streamers[task]?,
      ∀ message ∈ streamer.queue.head?, _))
  | .push => inferInstanceAs (Decidable (_ → ∀ held ∈ worker.holder, _))
  | .spawned (some _) => inferInstanceAs (Decidable (_ ≠ _))
  | .spawned none | .connect | .proceed | .disconnect | .receive _ | .takeOutput | .prepared _
  | .close _ | .finish _ | .sample | .retire _ => isTrue trivial

theorem concedes_stageAfter (frame : Incoming) :
    ∀ message ∈ stageMessages (stageAfter frame), message.Concedes buildId := by
  cases frame with
  | message message => cases message <;> exact nofun
  | error reason | ignored => exact nofun

theorem Turn.concedes {stage : Stage} (turns : worker.Turn label stage)
    (overridden : worker.Overridden buildId) (clear : worker.Clear)
    (stopped : worker.Stopped config buildId label) :
    ∀ message ∈ stageMessages stage, message.Concedes buildId := by
  intro message inside
  cases turns with
  | receive => exact concedes_stageAfter _ message inside
  | nothingSpooled stands =>
    rcases List.mem_cons.mp inside with rfl | later
    · trivial
    · refine overridden.stage message ?_
      rw [stands]
      exact later
  | spawnFails stands =>
    rw [List.mem_singleton.mp inside]
    rintro rfl
    exact absurd stands stopped
  | registerBusy stands free isActive =>
    have nobody := clear (by rw [stands]; trivial)
    rw [activeId, isActive] at nobody
    cases nobody
  | revokeIdle =>
    rw [List.mem_singleton.mp inside]
    exact fun _ => rfl
  | idle | busy | refuse =>
    rw [List.mem_singleton.mp inside]
    trivial
  | _ => cases inside

variable {next : Supervisor} {message : WorkerMessage} (overridden : worker.Overridden buildId)

include overridden

theorem Overridden.spool
    {active : Supervisor.ActiveBuild} (isActive : worker.supervisor.active = some active)
    {supervisor : Supervisor} (sameActive : supervisor.active = worker.supervisor.active)
    (sameSpools : supervisor.spools = worker.supervisor.spools)
    (concedes : message.Concedes buildId) (fits : worker.Fits config buildId message)
    (spools : supervisor.Spools config active message next) :
    (∀ active ∈ next.active, ∀ message ∈ active.pendingTerminal, message.Concedes buildId) ∧
      ∀ path, ∀ message ∈ next.spools path, message.Concedes buildId := by
  have files : ∀ path, ∀ message ∈ next.spools path, message.Concedes buildId := by
    intro path known inside
    rcases spools.mem_spools inside with old | ⟨rfl, -⟩
    · exact overridden.spools path known (sameSpools ▸ old)
    · exact concedes
  refine ⟨?_, files⟩
  cases spools with
  | drop =>
    rw [sameActive]
    exact overridden.pending
  | keepTerminal =>
    rintro _ ⟨⟩ _ ⟨⟩
    exact concedes
  | exceed notExhausted isOutput large =>
    rintro _ ⟨⟩ _ ⟨⟩ mine
    exact absurd (fits active isActive mine notExhausted isOutput) (Nat.not_le.mpr large)
  | append =>
    rintro _ ⟨⟩
    exact overridden.pending active isActive

theorem Overridden.set_streamer (task : Nat) {next : Streamer} (concedes : next.Concedes buildId) :
    ∀ streamer ∈ worker.streamers.set task next, streamer.Concedes buildId := by
  intro streamer inside
  rcases List.mem_or_eq_of_mem_set inside with old | rfl
  · exact overridden.streamers streamer old
  · exact concedes

theorem Overridden.modifyActive {modified : BuildId}
    {change : Supervisor.ActiveBuild → Supervisor.ActiveBuild}
    (same : ∀ active, (change active).pendingTerminal = active.pendingTerminal) :
    ∀ active ∈ (worker.supervisor.modifyActive modified change).active,
      ∀ message ∈ active.pendingTerminal, message.Concedes buildId := by
  intro active isActive
  obtain ⟨old, isOld, rfl⟩ := Option.map_eq_some_iff.mp isActive
  split_ifs
  · rw [same]
    exact overridden.pending old isOld
  · exact overridden.pending old isOld

/-- No step of a stopped build brings another end of it into the worker. -/
theorem Overridden.step (sound : worker.Sound)
    (stopped : worker.Stopped config buildId label) (effect : Effect config worker label after) :
    after.Overridden buildId := by
  have written : ∀ {message : WorkerMessage}, message.Concedes buildId →
      ∀ known ∈ worker.written ++ [message], known.Concedes buildId := fun concedes =>
    List.forall_mem_append.mpr ⟨overridden.written, List.forall_mem_singleton.mpr concedes⟩
  cases effect with
  | connect stands =>
    refine { overridden with stage := nofun, channel := ?_, written := written trivial }
    rintro _ ⟨⟩ _ ⟨⟩
  | turn turns =>
    exact { overridden with stage := turns.concedes overridden sound.clear stopped }
  | write writes =>
    cases writes with
    | accept | start => exact { overridden with stage := nofun, written := written trivial }
    | reply stands =>
      have concedes := stands ▸ overridden.stage
      exact { overridden with
        stage := nofun
        written := written (concedes _ (List.mem_singleton_self _)) }
  | transmit transmits =>
    cases transmits with
    | reconnect stands =>
      have concedes := stands ▸ overridden.stage
      exact { overridden with
        stage := fun message inside => concedes message (List.mem_cons_of_mem _ inside)
        written := written (concedes _ List.mem_cons_self) }
    | forward stands =>
      have concedes := stands ▸ overridden.stage
      exact { overridden with
        stage := nofun
        written := written (concedes _ (List.mem_singleton_self _)) }
  | attach => exact { overridden with stage := nofun }
  | takePending stands free isActive =>
    refine { overridden with stage := fun message inside => ?_, pending := ?_ }
    · exact overridden.pending _ isActive message (Option.mem_toList.mp inside)
    · rintro _ ⟨⟩ _ ⟨⟩
  | takeNothing => exact { overridden with stage := nofun }
  | readSpool stands =>
    have concedes := stands ▸ overridden.stage
    exact { overridden with
      stage := List.forall_mem_append.mpr ⟨overridden.spools _, concedes⟩
      spools := fun path message inside =>
        overridden.spools path message (Supervisor.mem_of_mem_removeSpool inside) }
  | record stands =>
    have concedes := stands ▸ overridden.stage
    exact { overridden with
      stage := List.forall_mem_cons.mpr ⟨trivial, concedes⟩
      pending := overridden.modifyActive fun _ => rfl }
  | register =>
    refine { overridden with stage := nofun, pending := ?_ }
    rintro _ ⟨⟩ _ ⟨⟩
  | mark =>
    refine { overridden with stage := nofun, pending := overridden.modifyActive fun active => ?_ }
    split_ifs <;> rfl
  | launch =>
    refine { overridden with stage := nofun, streamers := ?_ }
    exact List.forall_mem_append.mpr ⟨overridden.streamers,
      List.forall_mem_singleton.mpr (Streamer.concedes_launch ..)⟩
  | attachTask =>
    exact { overridden with stage := nofun, pending := overridden.modifyActive fun _ => rfl }
  | revoke =>
    refine { overridden with stage := nofun, pending := ?_ }
    rintro _ ⟨⟩ _ ⟨⟩
  | detach | disconnect => exact { overridden with stage := nofun, channel := nofun }
  | takeOutput stands isChannel =>
    have concedes := overridden.channel _ isChannel
    refine { overridden with stage := fun message inside => ?_, channel := ?_ }
    · rw [List.mem_singleton.mp inside]
      exact concedes _ List.mem_cons_self
    · rintro _ ⟨⟩ message inside
      exact concedes message (List.mem_cons_of_mem _ inside)
  | @produce label task streamer next isStreamer produces =>
    have concedes := overridden.streamers streamer (List.mem_of_getElem? isStreamer)
    have own := sound.streams.own streamer (List.mem_of_getElem? isStreamer)
    refine { overridden with streamers := overridden.set_streamer task ?_ }
    cases produces with
    | stdout reading =>
      exact concedes.onStdout own.counts reading fun mine =>
        stopped streamer isStreamer mine reading
    | close closing => exact concedes.close closing
    | finish => exact ⟨concedes.queue, concedes.terminal⟩
  | @drain task streamer message messages after free isStreamer isQueue handed =>
    have concedes := overridden.streamers streamer (List.mem_of_getElem? isStreamer)
    have first : message.Concedes buildId := concedes.queue message (by simp [isQueue])
    have rest : ({ streamer with queue := messages } : Streamer).Concedes buildId :=
      ⟨fun other inside => concedes.queue other (by simp [isQueue, inside]), concedes.terminal⟩
    have drained := overridden.set_streamer task rest
    cases handed with
    | drop => exact { overridden with streamers := drained }
    | hold =>
      refine { overridden with streamers := drained, holder := ?_ }
      rintro _ ⟨⟩
      exact first
    | spool isStreamed isActive detached spools =>
      have fits := stopped detached streamer isStreamer message (by simp [isQueue])
      obtain ⟨pending, files⟩ := overridden.spool isActive rfl rfl first fits spools
      exact { overridden with streamers := drained, pending := pending, spools := files }
  | @send task message messages isHolder isTransport =>
    have isChannel := (sound.links.of_transport isTransport).2
    have concedes := overridden.holder _ isHolder
    refine { overridden with holder := nofun, channel := ?_ }
    rintro _ ⟨⟩
    exact List.forall_mem_append.mpr ⟨overridden.channel _ isChannel,
      List.forall_mem_singleton.mpr concedes⟩
  | recover isHolder closed recovered =>
    have concedes := overridden.holder _ isHolder
    have fits := stopped closed _ isHolder
    cases recovered with
    | forget | drop => exact { overridden with holder := nofun }
    | spool isActive spools =>
      have kept : worker.supervisor.detachTransport.active = worker.supervisor.active := rfl
      obtain ⟨pending, files⟩ := overridden.spool isActive kept rfl concedes fits spools
      exact { overridden with holder := nofun, pending := pending, spools := files }
  | sample isChannel =>
    refine { overridden with channel := ?_ }
    rintro _ ⟨⟩
    exact List.forall_mem_append.mpr ⟨overridden.channel _ isChannel,
      List.forall_mem_singleton.mpr trivial⟩
  | retireTake isTask free isActive =>
    have pending := overridden.pending _ isActive
    refine { overridden with pending := ?_ }
    rintro _ ⟨⟩
    exact pending
  | retireSkip => exact { overridden with }
  | @retireWait task retired outputTask spoolPath =>
    cases spoolPath with
    | none => exact { overridden with }
    | some path =>
      exact { overridden with
        spools := fun other message inside =>
          overridden.spools other message (Supervisor.mem_of_mem_removeSpool inside) }
  | retireClear =>
    refine { overridden with pending := fun active isActive => ?_ }
    exact overridden.pending active (Option.filter_eq_some_iff.mp isActive).1

omit overridden

/-- A spool file holds output only. -/
def Spooled (worker : Worker) : Prop :=
  ∀ path, ∀ message ∈ worker.supervisor.spools path, message.finishedBuild = none

theorem Spooled.spool (spooled : worker.Spooled) {active : Supervisor.ActiveBuild}
    {supervisor : Supervisor} (same : supervisor.spools = worker.supervisor.spools)
    (spools : supervisor.Spools config active message next) :
    ∀ path, ∀ message ∈ next.spools path, message.finishedBuild = none := by
  intro path known inside
  rcases spools.mem_spools inside with old | ⟨rfl, isOutput⟩
  · exact spooled path known (same ▸ old)
  · exact isOutput

theorem Spooled.step (spooled : worker.Spooled) (effect : Effect config worker label after) :
    after.Spooled := by
  cases effect with
  | readSpool =>
    exact fun path message inside =>
      spooled path message (Supervisor.mem_of_mem_removeSpool inside)
  | drain free isStreamer isQueue handed =>
    cases handed with
    | spool isStreamed isActive detached spools => exact spooled.spool rfl spools
    | _ => exact spooled
  | recover isHolder closed recovered =>
    cases recovered with
    | spool isActive spools =>
      have kept : worker.supervisor.detachTransport.spools = worker.supervisor.spools := rfl
      exact spooled.spool kept spools
    | _ => exact spooled
  | @retireWait task retired outputTask spoolPath =>
    cases spoolPath with
    | none => exact spooled
    | some path =>
      exact fun other message inside =>
        spooled other message (Supervisor.mem_of_mem_removeSpool inside)
  | _ => exact spooled

/-- A revoke of the active build drops the end that is pending with it. -/
theorem overridden_of_revoke (sound : worker.Sound) (spooled : worker.Spooled)
    (stands : worker.stage = .revoking buildId)
    (revoked : (worker.supervisor.onBuildRevoke buildId).2 = .revokingActive)
    (unsent : ∀ message ∈ worker.channel.getD [] ++ worker.written,
      message.finishedBuild ≠ some buildId)
    (unended : ∀ streamer ∈ worker.streamers, streamer.buildId = buildId → streamer.Unended)
    (stepped : worker.step config .proceed = some after) : after.Overridden buildId := by
  have free : worker.holder = none ∧ worker.revoke buildId = after := by
    simp only [step, proceed, stands] at stepped
    exact locked_eq_some.mp stepped
  obtain ⟨free, rfl⟩ := free
  unfold Supervisor.onBuildRevoke at revoked
  unfold revoke Supervisor.onBuildRevoke
  cases isActive : worker.supervisor.active with
  | none =>
    rw [isActive] at revoked
    cases revoked
  | some active =>
    rw [isActive] at revoked
    dsimp only at revoked ⊢
    split_ifs at revoked ⊢ with same
    exact
      { streamers := fun streamer inside =>
          (sound.streams.own streamer inside).concedes (unended streamer inside)
        holder := by simp [free]
        stage := fun _ inside => (List.not_mem_nil inside).elim
        channel := fun messages isChannel message inside =>
          WorkerMessage.concedes_of_finishedBuild (unsent message (by
            rw [Option.mem_def.mp isChannel]
            exact List.mem_append_left _ inside))
        pending := by
          simp [Supervisor.modifyActive, isActive, same]
        spools := fun path message inside =>
          WorkerMessage.concedes_of_finishedBuild (by
            rw [spooled path message inside]
            simp)
        written := fun message inside =>
          WorkerMessage.concedes_of_finishedBuild
            (unsent message (List.mem_append_right _ inside)) }

/-- After a revoke of the active build every end of it that is written says that it was revoked, if
no end of it is on its way then and, from then on, its output ends with the result of a wrapper that
was stopped by a signal, what is kept of it fits into the spool file, and it is not started again in
vain. -/
theorem revoke_overrides_end (config : WorkerConfig) (buildId : BuildId)
    (before : List WorkerStep) (worker : Worker)
    (ran : run (step config) initial before = some worker)
    (stands : worker.stage = .revoking buildId)
    (revoked : (worker.supervisor.onBuildRevoke buildId).2 = .revokingActive)
    (unsent : ∀ message ∈ worker.channel.getD [] ++ worker.written,
      message.finishedBuild ≠ some buildId)
    (unended : ∀ streamer ∈ worker.streamers, streamer.buildId = buildId → streamer.Unended)
    (steps : List WorkerStep) (final : Worker)
    (stopped : AllowedRun (step config) (Stopped config buildId) worker
      (.proceed :: steps))
    (goesOn : run (step config) worker (.proceed :: steps) = some final)
    (status : BuildFinishedStatus) (error report : Option String)
    (written : .buildFinished buildId status error report ∈ final.written) :
    status = .revoked := by
  have reached : worker.Sound ∧ worker.Spooled := by
    refine invariant_of_run (fun worker => worker.Sound ∧ worker.Spooled)
      ⟨sound_initial, nofun⟩ ?_
      (allowedRun_of_allows (fun _ _ => trivial) initial before) ran
    rintro worker label after ⟨sound, spooled⟩ - stepped
    have effect := effect_of_step stepped
    exact ⟨sound.step effect, spooled.step effect⟩
  obtain ⟨sound, spooled⟩ := reached
  obtain ⟨next, stepped, rest⟩ := Option.bind_eq_some_iff.mp goesOn
  have overridden := overridden_of_revoke sound spooled stands revoked unsent unended stepped
  have kept : final.Sound ∧ final.Overridden buildId := by
    refine invariant_of_run (fun worker => worker.Sound ∧ worker.Overridden buildId)
      ⟨sound.step (effect_of_step stepped), overridden⟩ ?_ (stopped.2 next stepped) rest
    rintro worker label after ⟨sound, overridden⟩ allowed stepped
    have effect := effect_of_step stepped
    exact ⟨sound.step effect, overridden.step sound allowed effect⟩
  exact WorkerMessage.status_of_concedes (kept.2.written _ written)

def receivesRevoke : List WorkerStep :=
  connects ++ startsBuild 7 ++ [.receive (.message (.buildRevoke 7 none))]

/-- The revoke is handled, the subprocess prints something and ends, and its end is written. -/
def endsAfterRevoke (result : Option WrapperResult) : List WorkerStep :=
  [.proceed, .stdout 0 (.result result), .stdout 0 .eof, .close 0, .drain 0, .push, .takeOutput,
    .proceed]

/-- A wrapper that was stopped by the revoke and says so is reported as revoked. -/
theorem stopped_wrapper_reported_revoked :
    ∃ worker ∈ run (step workerConfig) initial receivesRevoke,
      ∃ final ∈ run (step workerConfig) worker
          (endsAfterRevoke (some ⟨143, none, none⟩)),
        final.Written 7 ∧ ∀ status error report,
          .buildFinished 7 status error report ∈ final.written → status = .revoked := by
  have reached : ∃ worker ∈ run (step workerConfig) initial receivesRevoke,
      worker.stage = .revoking 7 ∧
        (worker.supervisor.onBuildRevoke 7).2 = .revokingActive ∧
        (∀ message ∈ worker.channel.getD [] ++ worker.written, message.finishedBuild ≠ some 7) ∧
        (∀ streamer ∈ worker.streamers, streamer.buildId = 7 → streamer.Unended) ∧
        AllowedRun (step workerConfig) (Stopped workerConfig 7) worker
          (endsAfterRevoke (some ⟨143, none, none⟩)) ∧
        ∃ final ∈ run (step workerConfig) worker
          (endsAfterRevoke (some ⟨143, none, none⟩)), final.Written 7 := by
    decide +kernel
  obtain ⟨worker, ran, stands, revoked, unsent, unended, stopped, final, goesOn, written⟩ := reached
  exact ⟨worker, ran, final, goesOn, written,
    revoke_overrides_end workerConfig 7 receivesRevoke worker ran stands revoked unsent unended _
      final stopped goesOn⟩

/-- A subprocess that is killed by the revoke before it prints a result is reported as a failure,
and one that finishes its work all the same as a success. -/
theorem revoked_build_reported_otherwise :
    ∃ worker ∈ run (step workerConfig) initial receivesRevoke,
      worker.stage = .revoking 7 ∧
        (worker.supervisor.onBuildRevoke 7).2 = .revokingActive ∧
        (∀ message ∈ worker.channel.getD [] ++ worker.written, message.finishedBuild ≠ some 7) ∧
        (∃ final ∈ run (step workerConfig) worker (endsAfterRevoke none),
          .buildFinished 7 .failure none none ∈ final.written) ∧
        ∃ final ∈ run (step workerConfig) worker
          (endsAfterRevoke (some ⟨0, none, none⟩)),
          .buildFinished 7 .success none none ∈ final.written := by
  decide +kernel

end Worker

end Cbs

import Cbs.Worker.Effect

/-!
# Invariants of a worker process

What holds in every reachable state of a worker process: only the end of the active build may not be
written yet, the messages of a streaming task are about its build, and the sender of the present
connection is attached.
-/

namespace Cbs

namespace Worker

variable {config : WorkerConfig} {worker after : Worker} {label : WorkerStep}

/-- The end of a build was written to a connection. -/
def Written (worker : Worker) (buildId : BuildId) : Prop :=
  ∃ message ∈ worker.written, message.finishedBuild = some buildId

instance (worker : Worker) (buildId : BuildId) : Decidable (worker.Written buildId) :=
  inferInstanceAs (Decidable (∃ message ∈ worker.written, message.finishedBuild = some buildId))

def activeId (worker : Worker) : Option BuildId :=
  worker.supervisor.active.map (·.buildId)

theorem activeId_eq_some {buildId : BuildId} :
    worker.activeId = some buildId ↔
      ∃ active, worker.supervisor.active = some active ∧ active.buildId = buildId := by
  simp [activeId]

/-- The loop has registered the build and not yet started its streaming task. -/
def Starts (buildId : BuildId) : Stage → Prop
  | .starting id | .marking id | .launching id => id = buildId
  | _ => False

instance (buildId : BuildId) : (stage : Stage) → Decidable (Starts buildId stage)
  | .starting id | .marking id | .launching id => inferInstanceAs (Decidable (id = buildId))
  | .offline | .attaching | .snapshotting | .reading _ | .recording _ _ | .sending _ | .select
  | .forwarding _ | .checking _ | .preparing _ | .accepting _ | .spawning _ | .registering _
  | .attachingTask _ _ | .revoking _ | .detaching | .replying _ => isFalse id

theorem Effect.written_subset (effect : Effect config worker label after) :
    worker.written ⊆ after.written := by
  cases effect with
  | connect | write | transmit => exact List.subset_append_left _ _
  | drain free isStreamer isQueue handed => cases handed <;> exact List.Subset.refl _
  | recover isHolder closed recovered => cases recovered <;> exact List.Subset.refl _
  | _ => exact List.Subset.refl _

theorem Effect.written (effect : Effect config worker label after) {buildId : BuildId}
    (written : worker.Written buildId) : after.Written buildId := by
  obtain ⟨message, inside, finishes⟩ := written
  exact ⟨message, effect.written_subset inside, finishes⟩

/-- The sender of the present connection is attached. -/
def Linked : Stage → Prop
  | .offline | .attaching => False
  | _ => True

/-- The pending end of the active build was taken for the present connection. -/
def Taken : Stage → Prop
  | .offline | .attaching | .snapshotting => False
  | _ => True

/-- The messages that the loop has taken and not yet written. -/
def carriedBy : Stage → List WorkerMessage
  | .reading snapshot => snapshot.pendingTerminal.toList
  | .recording snapshot spooled => spooled ++ snapshot.pendingTerminal.toList
  | .sending messages => messages
  | .forwarding message => [message]
  | _ => []

theorem Turn.taken {stage : Stage} (turns : worker.Turn label stage) :
    Taken worker.stage ∨ worker.supervisor.active = none := by
  cases turns with
  | idle stands free nobody => exact .inr nobody
  | _ stands =>
    left
    rw [stands]
    trivial

variable {message : WorkerMessage}

theorem Writes.taken {stage : Stage} (writes : worker.Writes message stage) :
    Taken worker.stage := by
  cases writes with
  | _ stands =>
    rw [stands]
    trivial

theorem Transmits.taken {stage : Stage} (transmits : worker.Transmits message stage) :
    Taken worker.stage := by
  cases transmits with
  | _ stands =>
    rw [stands]
    trivial

/-- What a step makes of an active build: it leaves the pending end, takes it, or stores one. -/
inductive Alters (worker after : Worker) (active next : Supervisor.ActiveBuild) : Prop where
  | adjust (exhausted : next.spoolExhausted = active.spoolExhausted)
      (terminal : next.pendingTerminal = active.pendingTerminal)
      (phase : active.phase = .terminalPendingReport → next.phase = .terminalPendingReport)
      (taken : Taken after.stage → Taken worker.stage ∨ active.phase ≠ .terminalPendingReport)
  | take (exhausted : next.spoolExhausted = active.spoolExhausted)
      (terminal : next.pendingTerminal = none)
      (taken : Taken worker.stage ∨ active.pendingTerminal.toList ⊆ carriedBy after.stage)
  | store {terminal : WorkerMessage} (phase : next.phase = .terminalPendingReport)
      (isTerminal : next.pendingTerminal = some terminal)
      (finishes : terminal.finishedBuild ≠ none)
      (streamed : terminal.streamedBuild = some active.buildId ∨
        ∃ task, worker.holder = some (task, terminal))
      (stage : after.stage = worker.stage)
      (detached : worker.supervisor.transport = none ∨ worker.transport = none)

/-- A build becomes active when it is registered and is dropped when it is retired. -/
inductive Acts (worker after : Worker) : Prop where
  | alter (registered : after.registered = worker.registered)
      (active : Option.Rel (fun active next =>
        next.buildId = active.buildId ∧ Alters worker after active next)
        worker.supervisor.active after.supervisor.active)
  | register {buildId : BuildId} (stands : worker.stage = .registering buildId)
      (free : worker.holder = none) (nobody : worker.supervisor.active = none)
      (registered : after.registered = worker.registered ++ [buildId])
      (isActive : after.supervisor.active =
        some ⟨buildId, .accepted, some ⟨false⟩, none, none, none, 0, false⟩)
      (starting : after.stage = .starting buildId)
  | retire {task : Nat} {buildId : BuildId}
      (isTask : worker.retirements[task]? = some ⟨buildId, .clearing⟩)
      (free : worker.holder = none) (registered : after.registered = worker.registered)
      (active : after.supervisor.active = worker.supervisor.active.filter (·.buildId ≠ buildId))
      (stage : after.stage = worker.stage)

theorem exists_of_rel_some {α β : Type} {relates : α → β → Prop} {first : Option α}
    {second : Option β} {next : β} (related : Option.Rel relates first second)
    (isNext : second = some next) : ∃ value, first = some value ∧ relates value next := by
  subst isNext
  cases related with
  | some relates => exact ⟨_, rfl, relates⟩

theorem acts_of_same (registered : after.registered = worker.registered)
    (same : after.supervisor.active = worker.supervisor.active)
    (taken : Taken after.stage → ∀ active, worker.supervisor.active = some active →
      Taken worker.stage ∨ active.phase ≠ .terminalPendingReport) : Acts worker after := by
  refine .alter registered ?_
  rw [same]
  cases isActive : worker.supervisor.active with
  | none => exact .none
  | some active =>
    exact .some ⟨rfl, .adjust rfl rfl id fun isTaken => taken isTaken active isActive⟩

theorem acts_of_modify {buildId : BuildId}
    {change : Supervisor.ActiveBuild → Supervisor.ActiveBuild}
    (registered : after.registered = worker.registered)
    (isModified : after.supervisor.active = (worker.supervisor.modifyActive buildId change).active)
    (fixed : ∀ active, (change active).buildId = active.buildId ∧
      (change active).spoolExhausted = active.spoolExhausted ∧
      (change active).pendingTerminal = active.pendingTerminal ∧
      (active.phase = .terminalPendingReport → (change active).phase = .terminalPendingReport))
    (taken : Taken worker.stage) : Acts worker after := by
  refine .alter registered ?_
  rw [isModified, Supervisor.modifyActive]
  cases worker.supervisor.active with
  | none => exact .none
  | some active =>
    obtain ⟨sameBuild, exhausted, terminal, phase⟩ := fixed active
    refine .some ?_
    dsimp only
    split_ifs
    · exact ⟨sameBuild, .adjust exhausted terminal phase fun _ => .inl taken⟩
    · exact ⟨rfl, .adjust rfl rfl id fun _ => .inl taken⟩

theorem acts_of_spools {supervisor : Supervisor} {active : Supervisor.ActiveBuild}
    (isActive : worker.supervisor.active = some active)
    (sameActive : supervisor.active = worker.supervisor.active)
    (spools : supervisor.Spools config active message after.supervisor)
    (registered : after.registered = worker.registered)
    (streamed : message.streamedBuild = some active.buildId ∨
      ∃ task, worker.holder = some (task, message))
    (stage : after.stage = worker.stage)
    (detached : worker.supervisor.transport = none ∨ worker.transport = none) :
    Acts worker after := by
  refine .alter registered ?_
  rw [isActive]
  generalize isNext : after.supervisor = next at spools
  cases spools with
  | drop =>
    rw [sameActive, isActive]
    exact .some ⟨rfl, .adjust rfl rfl id fun taken => .inl (stage ▸ taken)⟩
  | keepTerminal fits isTerminal =>
    exact .some ⟨rfl, .store rfl rfl isTerminal streamed stage detached⟩
  | exceed => exact .some ⟨rfl, .store rfl rfl (by simp [Supervisor.spoolExceeded,
      WorkerMessage.finishedBuild]) (.inl rfl) stage detached⟩
  | append => exact .some ⟨rfl, .adjust rfl rfl id fun taken => .inl (stage ▸ taken)⟩

theorem Effect.acts (effect : Effect config worker label after) : Acts worker after := by
  have still : after.stage = worker.stage → Taken after.stage →
      ∀ active, worker.supervisor.active = some active →
        Taken worker.stage ∨ active.phase ≠ .terminalPendingReport :=
    fun stage taken _ _ => .inl (stage ▸ taken)
  cases effect with
  | connect => exact acts_of_same rfl rfl fun taken => taken.elim
  | turn turns =>
    refine acts_of_same rfl rfl fun _ active isActive => turns.taken.imp_right fun nobody => ?_
    rw [isActive] at nobody
    cases nobody
  | write writes => exact acts_of_same rfl rfl fun _ _ _ => .inl writes.taken
  | transmit transmits => exact acts_of_same rfl rfl fun _ _ _ => .inl transmits.taken
  | attach => exact acts_of_same rfl rfl fun taken => taken.elim
  | takePending stands free isActive =>
    refine .alter rfl ?_
    rw [isActive]
    exact .some ⟨rfl, .take rfl rfl (.inr fun _ inside => inside)⟩
  | takeNothing stands free isActive running =>
    refine acts_of_same rfl rfl fun _ active isKnown => .inr ?_
    rwa [← Option.some.inj (isActive.symm.trans isKnown)]
  | record stands =>
    exact acts_of_modify rfl rfl (fun _ => ⟨rfl, rfl, rfl, id⟩) (by rw [stands]; trivial)
  | register stands free nobody => exact .register stands free nobody rfl rfl rfl
  | mark stands =>
    refine acts_of_modify rfl rfl (fun active => ?_) (by rw [stands]; trivial)
    split_ifs with accepted
    · exact ⟨rfl, rfl, rfl, fun pending => by rw [accepted] at pending; cases pending⟩
    · exact ⟨rfl, rfl, rfl, id⟩
  | attachTask stands =>
    exact acts_of_modify rfl rfl (fun _ => ⟨rfl, rfl, rfl, id⟩) (by rw [stands]; trivial)
  | revoke stands free isActive =>
    refine .alter rfl ?_
    rw [isActive]
    exact .some ⟨rfl, .take rfl rfl (.inl (by rw [stands]; trivial))⟩
  | detach | disconnect => exact acts_of_same rfl rfl fun taken => taken.elim
  | drain free isStreamer isQueue handed =>
    cases handed with
    | drop | hold => exact acts_of_same rfl rfl (still rfl)
    | spool isStreamed isActive detached spools =>
      exact acts_of_spools isActive rfl spools rfl (.inl isStreamed) rfl (.inl detached)
  | recover isHolder closed recovered =>
    cases recovered with
    | forget | drop => exact acts_of_same rfl rfl (still rfl)
    | spool isActive spools =>
      have kept : worker.supervisor.detachTransport.active = worker.supervisor.active := rfl
      exact acts_of_spools isActive kept spools rfl (.inr ⟨_, isHolder⟩) rfl (.inr closed)
  | produce | send | sample => exact acts_of_same rfl rfl (still rfl)
  | retireTake isTask free isActive =>
    refine .alter rfl ?_
    rw [isActive]
    exact .some ⟨rfl, .adjust rfl rfl id fun taken => .inl taken⟩
  | retireSkip => exact acts_of_same rfl rfl (still rfl)
  | @retireWait task buildId outputTask spoolPath =>
    cases spoolPath <;> exact acts_of_same rfl rfl (still rfl)
  | retireClear isTask free => exact .retire isTask free rfl rfl rfl
  | _ stands => exact acts_of_same rfl rfl fun _ _ _ => .inl (by rw [stands]; trivial)

theorem Acts.activeId (acts : Acts worker after) :
    after.registered = worker.registered ∧ after.activeId = worker.activeId ∨
      (∃ buildId, worker.stage = .registering buildId ∧ worker.holder = none ∧
        worker.activeId = none ∧ after.registered = worker.registered ++ [buildId] ∧
        after.activeId = some buildId ∧ after.stage = .starting buildId) ∨
      ∃ (task : Nat) (buildId : BuildId), worker.retirements[task]? = some ⟨buildId, .clearing⟩ ∧
        worker.holder = none ∧ after.registered = worker.registered ∧
        after.activeId = worker.activeId.filter (· ≠ buildId) := by
  unfold Worker.activeId
  cases acts with
  | alter registered active =>
    refine .inl ⟨registered, ?_⟩
    generalize worker.supervisor.active = first, after.supervisor.active = second at active
    cases active with
    | none => rfl
    | some same => exact congrArg some same.1
  | register stands free nobody registered isActive starting =>
    refine .inr (.inl ⟨_, stands, free, ?_, registered, ?_, starting⟩)
    · rw [nobody]
      rfl
    · rw [isActive]
      rfl
  | retire isTask free registered active =>
    refine .inr (.inr ⟨_, _, isTask, free, registered, ?_⟩)
    rw [active, Option.filter_map]
    rfl

/-- A task retires a build whose end was written. -/
theorem Effect.retirement_cases (effect : Effect config worker label after)
    {retirement : Retirement} (inside : retirement ∈ after.retirements) :
    (∃ known ∈ worker.retirements, known.buildId = retirement.buildId) ∨
      after.Written retirement.buildId := by
  have modified : ∀ {task : Nat} {stage : RetireStage}
      (_ : retirement ∈ worker.retirements.modify task fun known => { known with stage }),
      ∃ known ∈ worker.retirements, known.buildId = retirement.buildId := by
    intro task stage inModified
    obtain ⟨index, found⟩ := List.mem_iff_getElem?.mp inModified
    rw [List.getElem?_modify] at found
    obtain ⟨known, isKnown, rfl⟩ := Option.map_eq_some_iff.mp found
    refine ⟨known, List.mem_of_getElem? isKnown, ?_⟩
    split_ifs <;> rfl
  cases effect with
  | @transmit message stage transmits =>
    rcases List.mem_append.mp inside with old | new
    · exact .inl ⟨retirement, old, rfl⟩
    · obtain ⟨buildId, isFinished, rfl⟩ := List.mem_map.mp new
      exact .inr ⟨message, List.mem_append_right _ (List.mem_singleton_self message),
        Option.mem_toList.mp isFinished⟩
  | retireTake | retireSkip | retireWait | retireClear => exact .inl (modified inside)
  | drain free isStreamer isQueue handed => cases handed <;> exact .inl ⟨retirement, inside, rfl⟩
  | recover isHolder closed recovered => cases recovered <;> exact .inl ⟨retirement, inside, rfl⟩
  | _ => exact .inl ⟨retirement, inside, rfl⟩

variable {task : Nat} {streamer next : Streamer}

theorem Produces.buildId (produces : Produces config worker task streamer label next) :
    next.buildId = streamer.buildId := by
  cases produces with
  | stdout => exact (Streamer.fixed_onStdout streamer _).1
  | close | finish => rfl

structure Books (worker : Worker) : Prop where
  retired : ∀ retirement ∈ worker.retirements, worker.Written retirement.buildId
  owned : ∀ buildId ∈ worker.registered,
    worker.Written buildId ∨ worker.activeId = some buildId

theorem books_initial : Books initial where
  retired := by simp [initial]
  owned := by simp [initial]

theorem Books.owned_step (books : worker.Books) (effect : Effect config worker label after)
    {buildId : BuildId} (registered : buildId ∈ after.registered) :
    after.Written buildId ∨ after.activeId = some buildId := by
  rcases effect.acts.activeId with ⟨sameBuilds, sameActive⟩ |
    ⟨new, -, -, nobody, isNew, isActive, -⟩ | ⟨task, retired, isTask, -, sameBuilds, isFiltered⟩
  · rw [sameBuilds] at registered
    rw [sameActive]
    exact (books.owned buildId registered).imp_left effect.written
  · rw [isNew, List.mem_append, List.mem_singleton] at registered
    rcases registered with old | rfl
    · rcases books.owned buildId old with written | active
      · exact .inl (effect.written written)
      · rw [nobody] at active
        cases active
    · exact .inr isActive
  · rw [sameBuilds] at registered
    rcases books.owned buildId registered with written | active
    · exact .inl (effect.written written)
    · by_cases same : buildId = retired
      · subst same
        exact .inl (effect.written (books.retired _ (List.mem_of_getElem? isTask)))
      · right
        rw [isFiltered, active, Option.filter_some, if_pos (by simpa using same)]

theorem Books.step (books : worker.Books) (effect : Effect config worker label after) :
    after.Books where
  retired := by
    intro retirement inside
    rcases effect.retirement_cases inside with ⟨known, isKnown, same⟩ | written
    · rw [← same]
      exact effect.written (books.retired known isKnown)
    · exact written
  owned := fun _ registered => books.owned_step effect registered

/-- The loop handles a dispatched build and has found no active one. -/
def Vacant : Stage → Prop
  | .preparing _ | .accepting _ | .spawning _ | .registering _ => True
  | _ => False

/-- What the loop, the channel and the attached sender have to do with each other. -/
structure Links (worker : Worker) : Prop where
  numbered : ∀ connection ∈ worker.supervisor.transport, connection ≤ worker.connection
  offline : worker.stage = .offline → worker.channel = none
  attaching : worker.stage = .attaching →
    worker.channel = some [] ∧ worker.supervisor.transport ≠ some worker.connection
  linked : Linked worker.stage →
    worker.channel ≠ none ∧ worker.supervisor.transport = some worker.connection

theorem Turn.linked {stage : Stage} (turns : worker.Turn label stage) :
    Linked worker.stage ∧ Linked stage := by
  cases turns with
  | @receive frame stands =>
    rw [stands]
    refine ⟨trivial, ?_⟩
    cases frame with
    | message message => cases message <;> trivial
    | error reason | ignored => trivial
  | _ stands =>
    rw [stands]
    exact ⟨trivial, trivial⟩

variable {message : WorkerMessage}

theorem Writes.linked {stage : Stage}
    (writes : worker.Writes message stage) : Linked worker.stage ∧ Linked stage := by
  cases writes with
  | _ stands =>
    rw [stands]
    exact ⟨trivial, trivial⟩

theorem Transmits.linked {stage : Stage}
    (transmits : worker.Transmits message stage) : Linked worker.stage ∧ Linked stage := by
  cases transmits with
  | _ stands =>
    rw [stands]
    exact ⟨trivial, trivial⟩

theorem links_initial : Links initial where
  numbered := by simp [initial, Supervisor.initial]
  offline := fun _ => rfl
  attaching := fun stands => by cases stands
  linked := fun linked => linked.elim

theorem Links.within (links : worker.Links) (before : Linked worker.stage)
    (stage : Linked after.stage) (connection : after.connection = worker.connection)
    (channel : worker.channel ≠ none → after.channel ≠ none)
    (transport : after.supervisor.transport = worker.supervisor.transport) : after.Links where
  numbered := by
    rw [transport, connection]
    exact links.numbered
  offline := by
    intro stands
    rw [stands] at stage
    exact stage.elim
  attaching := by
    intro stands
    rw [stands] at stage
    exact stage.elim
  linked := by
    intro _
    rw [transport, connection]
    exact ⟨channel (links.linked before).1, (links.linked before).2⟩

theorem Links.leave (links : worker.Links) (stage : after.stage = .offline)
    (connection : after.connection = worker.connection) (channel : after.channel = none)
    (transport : ∀ number ∈ after.supervisor.transport, number ∈ worker.supervisor.transport) :
    after.Links where
  numbered := by
    rw [connection]
    exact fun number inside => links.numbered number (transport number inside)
  offline := fun _ => channel
  attaching := by
    rw [stage]
    intro stands
    cases stands
  linked := by
    rw [stage]
    exact fun linked => linked.elim

/-- The sender is found missing or closed only before a connection is attached. -/
theorem Links.not_linked (links : worker.Links)
    (detached : worker.supervisor.transport = none ∨ worker.transport = none) :
    ¬ Linked worker.stage := by
  intro linked
  obtain ⟨channel, transport⟩ := links.linked linked
  rcases detached with missing | closed
  · rw [transport] at missing
    cases missing
  · rw [Worker.transport, if_pos transport] at closed
    exact channel closed

theorem Links.drop (links : worker.Links) (notLinked : ¬ Linked worker.stage)
    (stage : after.stage = worker.stage) (channel : after.channel = worker.channel)
    (transport : after.supervisor.transport = none) : after.Links where
  numbered := by
    rw [transport]
    simp
  offline := by
    rw [stage, channel]
    exact links.offline
  attaching := by
    rw [stage, channel, transport]
    exact fun stands => ⟨(links.attaching stands).1, by simp⟩
  linked := by
    rw [stage]
    exact fun linked => (notLinked linked).elim

theorem linked_of_samples {stage : Stage} (samples : Samples stage) : Linked stage := by
  cases stage with
  | offline | attaching => exact samples.elim
  | _ => trivial

theorem Links.of_transport (links : worker.Links) {messages : List WorkerMessage}
    (isTransport : worker.transport = some messages) :
    Linked worker.stage ∧ worker.channel = some messages := by
  unfold Worker.transport at isTransport
  split_ifs at isTransport with attached
  refine ⟨?_, isTransport⟩
  cases stands : worker.stage with
  | offline =>
    rw [links.offline stands] at isTransport
    cases isTransport
  | attaching => exact ((links.attaching stands).2 attached).elim
  | _ => trivial

theorem Links.step (links : worker.Links) (effect : Effect config worker label after) :
    after.Links := by
  cases effect with
  | connect stands =>
    have behind : worker.supervisor.transport ≠ some (worker.connection + 1) := by
      intro ahead
      have := links.numbered _ ahead
      omega
    constructor
    · exact fun number inside => Nat.le_succ_of_le (links.numbered number inside)
    · intro offline
      cases offline
    · exact fun _ => ⟨rfl, behind⟩
    · exact fun linked => linked.elim
  | turn turns => exact links.within turns.linked.1 turns.linked.2 rfl id rfl
  | write writes => exact links.within writes.linked.1 writes.linked.2 rfl id rfl
  | transmit transmits => exact links.within transmits.linked.1 transmits.linked.2 rfl id rfl
  | attach stands free =>
    constructor
    · rintro number ⟨⟩
      exact Nat.le_refl _
    · intro offline
      cases offline
    · intro attaching
      cases attaching
    · intro _
      refine ⟨?_, rfl⟩
      rw [(links.attaching stands).1]
      simp
  | detach => exact links.leave rfl rfl rfl (by simp [Supervisor.detachTransport])
  | disconnect => exact links.leave rfl rfl rfl fun _ inside => inside
  | takeOutput stands => exact links.within (by rw [stands]; trivial) trivial rfl (by simp) rfl
  | drain free isStreamer isQueue handed =>
    cases handed with
    | drop | hold => exact { links with }
    | spool isStreamed isActive detached spools => cases spools <;> exact { links with }
  | send isHolder isTransport =>
    have linked := (links.of_transport isTransport).1
    exact links.within linked linked rfl (by simp) rfl
  | recover isHolder closed recovered =>
    have notLinked := links.not_linked (.inr closed)
    cases recovered with
    | forget => exact { links with }
    | drop => exact links.drop notLinked rfl rfl rfl
    | spool isActive spools => cases spools <;> exact links.drop notLinked rfl rfl rfl
  | sample isChannel samples =>
    exact links.within (linked_of_samples samples) (linked_of_samples samples) rfl (by simp) rfl
  | produce | retireTake | retireSkip => exact { links with }
  | @retireWait task buildId outputTask spoolPath =>
    cases spoolPath <;> exact { links with }
  | retireClear => exact { links with }
  | _ stands => exact links.within (by rw [stands]; trivial) trivial rfl id rfl

end Worker

/-- What a streaming task has to send is about its build, and it has sent everything when it
ends. -/
structure Streamer.Own (streamer : Streamer) : Prop where
  queue : ∀ message ∈ streamer.queue, message.streamedBuild = some streamer.buildId
  terminal : ∀ terminal, streamer.source = .closing terminal →
    terminal.finishedBuild = some streamer.buildId
  counts : streamer.Counts
  ended : streamer.ended = true → streamer.source = .closed ∧ streamer.queue = []

namespace Streamer

variable {streamer next : Streamer} {sent : List WorkerMessage}

theorem streamedBuild_of_finishedBuild {message : WorkerMessage} {buildId : BuildId}
    (finishes : message.finishedBuild = some buildId) : message.streamedBuild = some buildId := by
  cases message with
  | buildFinished => exact finishes
  | _ => cases finishes

theorem own_launch (buildId : BuildId) : (launch buildId).Own where
  queue := by simp [launch]
  terminal := by simp [launch]
  counts := counts_launch buildId
  ended := by simp [launch]

theorem Sends.own_queue (sends : streamer.Sends next sent) (own : streamer.Own) :
    ∀ message ∈ next.queue, message.streamedBuild = some next.buildId := by
  rw [sends.queue, sends.buildId]
  intro message inside
  rcases List.mem_append.mp inside with old | new
  · exact own.queue message old
  · rcases sends.batch with ⟨rfl, -⟩ | ⟨startSeq, lines, rfl, -⟩
    · cases new
    · rw [List.mem_singleton.mp new]
      rfl

theorem Own.onStdout (own : streamer.Own) (reading : streamer.source = .reading)
    (event : StdoutEvent) : (streamer.onStdout event).Own := by
  obtain ⟨sent, sends⟩ := sends_onStdout own.counts event
  refine ⟨sends.own_queue own, ?_, sends.counts, ?_⟩
  · intro terminal closing
    rw [sends.buildId]
    rcases source_onStdout reading event with still | ⟨status, error, report, turned⟩
    · rw [still] at closing
      cases closing
    · rw [turned] at closing
      cases closing
      rfl
  · intro ended
    rw [sends.ended] at ended
    rw [(own.ended ended).1] at reading
    cases reading

theorem Own.close (own : streamer.Own) {terminal : WorkerMessage}
    (closing : streamer.source = .closing terminal) :
    ({ streamer with queue := streamer.queue ++ [terminal], source := .closed } :
      Streamer).Own := by
  refine ⟨?_, ?_, own.counts, ?_⟩
  · exact List.forall_mem_append.mpr ⟨own.queue, List.forall_mem_singleton.mpr
      (streamedBuild_of_finishedBuild (own.terminal terminal closing))⟩
  · intro other impossible
    cases impossible
  · intro ended
    rw [(own.ended ended).1] at closing
    cases closing

end Streamer

namespace Worker

variable {config : WorkerConfig} {worker after : Worker} {label : WorkerStep}
  {task : Nat} {streamer : Streamer}

theorem Produces.own {next : Streamer}
    (produces : Produces config worker task streamer label next) (own : streamer.Own) :
    next.Own := by
  cases produces with
  | stdout reading => exact own.onStdout reading _
  | close closing => exact own.close closing
  | finish closed empty => exact ⟨own.queue, own.terminal, own.counts, fun _ => ⟨closed, empty⟩⟩

/-- A drainer takes the mutex for a message of the active build and gives it back when it has sent
it. -/
theorem Effect.holder_cases (effect : Effect config worker label after) :
    after.holder = worker.holder ∨ after.holder = none ∨
      ∃ task streamer message messages, worker.holder = none ∧
        worker.streamers[task]? = some streamer ∧ streamer.queue = message :: messages ∧
        after.holder = some (task, message) ∧
        after.streamers = worker.streamers.set task { streamer with queue := messages } ∧
        (∀ buildId ∈ message.streamedBuild, worker.activeId = some buildId) ∧
        after.activeId = worker.activeId := by
  cases effect with
  | drain free isStreamer isQueue handed =>
    cases handed with
    | drop | spool => exact .inl rfl
    | hold attached mine =>
      refine .inr (.inr ⟨_, _, _, _, free, isStreamer, isQueue, rfl, rfl, ?_, rfl⟩)
      intro buildId isBuild
      exact activeId_eq_some.mpr (mine buildId isBuild)
  | recover isHolder closed recovered => cases recovered <;> exact .inr (.inl rfl)
  | send => exact .inr (.inl rfl)
  | _ => exact .inl rfl

theorem Effect.streamers_cases (effect : Effect config worker label after) :
    after.streamers = worker.streamers ∨
      (∃ buildId, worker.stage = .launching buildId ∧
        after.streamers = worker.streamers ++ [.launch buildId]) ∨
      (∃ task streamer next, worker.streamers[task]? = some streamer ∧
        Produces config worker task streamer label next ∧
        after.streamers = worker.streamers.set task next) ∨
      ∃ task streamer message messages, worker.holder = none ∧
        worker.streamers[task]? = some streamer ∧ streamer.queue = message :: messages ∧
        after.streamers = worker.streamers.set task { streamer with queue := messages } := by
  cases effect with
  | launch stands => exact .inr (.inl ⟨_, stands, rfl⟩)
  | produce isStreamer produces => exact .inr (.inr (.inl ⟨_, _, _, isStreamer, produces, rfl⟩))
  | drain free isStreamer isQueue handed =>
    refine .inr (.inr (.inr ⟨_, _, _, _, free, isStreamer, isQueue, ?_⟩))
    cases handed <;> rfl
  | recover isHolder closed recovered => cases recovered <;> exact .inl rfl
  | _ => exact .inl rfl

/-- The streaming tasks and the drainer that has the mutex. -/
structure Streams (worker : Worker) : Prop where
  own : ∀ streamer ∈ worker.streamers, streamer.Own
  held : ∀ task message, worker.holder = some (task, message) →
    ∃ streamer, worker.streamers[task]? = some streamer ∧ streamer.ended = false ∧
      message.streamedBuild = some streamer.buildId ∧ worker.activeId = some streamer.buildId

theorem streams_initial : Streams initial where
  own := by simp [initial]
  held := by simp [initial]

theorem Streams.own_step (streams : worker.Streams) (effect : Effect config worker label after) :
    ∀ streamer ∈ after.streamers, streamer.Own := by
  intro streamer inside
  rcases effect.streamers_cases with same | ⟨buildId, -, launched⟩ |
    ⟨task, before, next, isStreamer, produces, isSet⟩ |
    ⟨task, before, message, messages, -, isStreamer, isQueue, isSet⟩
  · rw [same] at inside
    exact streams.own streamer inside
  · rw [launched, List.mem_append, List.mem_singleton] at inside
    rcases inside with old | rfl
    · exact streams.own streamer old
    · exact Streamer.own_launch buildId
  · rw [isSet] at inside
    rcases List.mem_or_eq_of_mem_set inside with old | rfl
    · exact streams.own streamer old
    · exact produces.own (streams.own before (List.mem_of_getElem? isStreamer))
  · rw [isSet] at inside
    have own := streams.own before (List.mem_of_getElem? isStreamer)
    rcases List.mem_or_eq_of_mem_set inside with old | rfl
    · exact streams.own streamer old
    · refine ⟨?_, own.terminal, own.counts, ?_⟩
      · intro other isOther
        exact own.queue other (by rw [isQueue]; exact List.mem_cons_of_mem _ isOther)
      · intro ended
        rw [(own.ended ended).2] at isQueue
        cases isQueue

theorem Effect.activeId_of_holder (effect : Effect config worker label after)
    {held : Nat × WorkerMessage} (isHolder : worker.holder = some held) :
    after.activeId = worker.activeId := by
  rcases effect.acts.activeId with ⟨-, same⟩ | ⟨_, -, free, -⟩ | ⟨_, _, -, free, -⟩
  · exact same
  · rw [isHolder] at free
    cases free
  · rw [isHolder] at free
    cases free

variable {message : WorkerMessage}

theorem Effect.streamer_of_holder (effect : Effect config worker label after)
    (isHolder : worker.holder = some (task, message))
    (isStreamer : worker.streamers[task]? = some streamer) :
    ∃ next, after.streamers[task]? = some next ∧ next.ended = streamer.ended ∧
      next.buildId = streamer.buildId := by
  have inside := (List.getElem?_eq_some_iff.mp isStreamer).1
  rcases effect.streamers_cases with same | ⟨buildId, -, launched⟩ |
    ⟨other, before, next, isBefore, produces, isSet⟩ | ⟨_, _, _, _, free, -⟩
  · exact ⟨streamer, by rw [same]; exact isStreamer, rfl, rfl⟩
  · refine ⟨streamer, ?_, rfl, rfl⟩
    rw [launched, List.getElem?_append_left inside]
    exact isStreamer
  · rw [isSet]
    by_cases here : other = task
    · subst here
      obtain rfl := Option.some.inj (isStreamer.symm.trans isBefore)
      refine ⟨next, List.getElem?_set_self inside, ?_, produces.buildId⟩
      cases produces with
      | stdout => exact (Streamer.fixed_onStdout streamer _).2
      | close => rfl
      | finish closed empty released => exact (released _ isHolder rfl).elim
    · exact ⟨streamer, by rw [List.getElem?_set_ne here]; exact isStreamer, rfl, rfl⟩
  · rw [isHolder] at free
    cases free

theorem Streams.held_step (streams : worker.Streams) (effect : Effect config worker label after)
    (isHolder : after.holder = some (task, message)) :
    ∃ streamer, after.streamers[task]? = some streamer ∧ streamer.ended = false ∧
      message.streamedBuild = some streamer.buildId ∧ after.activeId = some streamer.buildId := by
  rcases effect.holder_cases with same | released |
    ⟨taker, streamer, taken, messages, free, isStreamer, isQueue, isTaken, isSet, mine, sameActive⟩
  · rw [same] at isHolder
    obtain ⟨streamer, isStreamer, running, isBuild, isActive⟩ := streams.held task message isHolder
    obtain ⟨next, isNext, sameEnded, sameBuild⟩ := effect.streamer_of_holder isHolder isStreamer
    refine ⟨next, isNext, sameEnded.trans running, ?_, ?_⟩
    · rw [sameBuild]
      exact isBuild
    · rw [effect.activeId_of_holder isHolder, sameBuild]
      exact isActive
  · rw [released] at isHolder
    cases isHolder
  · rw [isTaken] at isHolder
    cases isHolder
    have own := streams.own streamer (List.mem_of_getElem? isStreamer)
    have isBuild := own.queue message (by rw [isQueue]; exact List.mem_cons_self)
    have inside := (List.getElem?_eq_some_iff.mp isStreamer).1
    refine ⟨{ streamer with queue := messages }, ?_, ?_, isBuild, ?_⟩
    · rw [isSet, List.getElem?_set_self inside]
    · apply Bool.eq_false_of_not_eq_true
      intro ended
      rw [(own.ended ended).2] at isQueue
      cases isQueue
    · rw [sameActive]
      exact mine _ isBuild

theorem Streams.step (streams : worker.Streams) (effect : Effect config worker label after) :
    after.Streams where
  own := streams.own_step effect
  held := fun _ _ isHolder => streams.held_step effect isHolder

/-- The end that is kept for the next connection. -/
structure Pending (worker : Worker) : Prop where
  phase : ∀ active, worker.supervisor.active = some active → ∀ terminal,
    active.pendingTerminal = some terminal →
      terminal.finishedBuild = some active.buildId ∧ active.phase = .terminalPendingReport
  taken : Taken worker.stage → ∀ active, worker.supervisor.active = some active →
    active.pendingTerminal = none

theorem pending_initial : Pending initial where
  phase := by simp [initial, Supervisor.initial]
  taken := by simp [initial, Supervisor.initial]

theorem linked_of_taken {stage : Stage} (taken : Taken stage) : Linked stage := by
  cases stage with
  | offline | attaching => exact taken.elim
  | _ => trivial

/-- An end that is stored is that of the active build. -/
theorem Streams.finishes_of_streamed (streams : worker.Streams) {active : Supervisor.ActiveBuild}
    (isActive : worker.supervisor.active = some active) (finishes : message.finishedBuild ≠ none)
    (streamed : message.streamedBuild = some active.buildId ∨
      ∃ task, worker.holder = some (task, message)) :
    message.finishedBuild = some active.buildId := by
  have isStreamed : message.streamedBuild = some active.buildId := by
    rcases streamed with isStreamed | ⟨task, isHolder⟩
    · exact isStreamed
    · obtain ⟨streamer, -, -, isStreamed, isOwner⟩ := streams.held _ _ isHolder
      rw [activeId, isActive, Option.map_some] at isOwner
      exact isStreamed.trans isOwner.symm
  cases message with
  | buildFinished => exact isStreamed
  | _ => exact (finishes rfl).elim

theorem Pending.step (pending : worker.Pending) (links : worker.Links) (streams : worker.Streams)
    (effect : Effect config worker label after) : after.Pending := by
  cases effect.acts with
  | alter _ active =>
    constructor
    · intro next isNext terminal isTerminal
      obtain ⟨known, isKnown, sameBuild, alters⟩ := exists_of_rel_some active isNext
      rw [sameBuild]
      cases alters with
      | adjust _ same phase =>
        have before := pending.phase known isKnown terminal (same ▸ isTerminal)
        exact ⟨before.1, phase before.2⟩
      | take _ nothing =>
        rw [nothing] at isTerminal
        cases isTerminal
      | store phase isStored finishes streamed =>
        obtain rfl := Option.some.inj (isStored.symm.trans isTerminal)
        exact ⟨streams.finishes_of_streamed isKnown finishes streamed, phase⟩
    · intro taken next isNext
      obtain ⟨known, isKnown, -, alters⟩ := exists_of_rel_some active isNext
      cases alters with
      | adjust _ same _ earlier =>
        rw [same]
        rcases earlier taken with before | running
        · exact pending.taken before known isKnown
        · refine Option.eq_none_iff_forall_ne_some.mpr fun terminal isTerminal => running ?_
          exact (pending.phase known isKnown terminal isTerminal).2
      | take _ nothing => exact nothing
      | store _ _ _ _ stage detached =>
        rw [stage] at taken
        exact (links.not_linked detached (linked_of_taken taken)).elim
  | register _ _ _ _ isActive =>
    constructor
    · intro next isNext terminal isTerminal
      cases isActive.symm.trans isNext
      cases isTerminal
    · intro _ next isNext
      cases isActive.symm.trans isNext
      rfl
  | retire _ _ _ filtered stage =>
    constructor
    · intro next isNext
      exact pending.phase next (Option.filter_eq_some_iff.mp (filtered.symm.trans isNext)).1
    · intro taken next isNext
      exact pending.taken (stage ▸ taken) next
        (Option.filter_eq_some_iff.mp (filtered.symm.trans isNext)).1

/-- While a dispatched build is prepared, no build is active. -/
def Clear (worker : Worker) : Prop :=
  Vacant worker.stage → worker.activeId = none

theorem Effect.vacant_cases (effect : Effect config worker label after)
    (vacant : Vacant after.stage) : Vacant worker.stage ∨ worker.activeId = none := by
  cases effect with
  | connect => exact vacant.elim
  | turn turns =>
    cases turns with
    | @receive frame stands =>
      cases frame with
      | message message => cases message <;> exact vacant.elim
      | error reason | ignored => exact vacant.elim
    | take stands free nobody => exact .inr (by rw [activeId, nobody]; rfl)
    | unpack stands | spawn stands => exact .inl (by rw [stands]; trivial)
    | _ => exact vacant.elim
  | write writes =>
    cases writes with
    | accept stands => exact .inl (by rw [stands]; trivial)
    | start | reply => exact vacant.elim
  | transmit transmits => cases transmits <;> exact vacant.elim
  | drain free isStreamer isQueue handed => cases handed <;> exact .inl vacant
  | recover isHolder closed recovered => cases recovered <;> exact .inl vacant
  | produce | send | sample | retireTake | retireSkip | retireWait | retireClear =>
    exact .inl vacant
  | _ => exact vacant.elim

theorem Clear.step (clear : worker.Clear) (effect : Effect config worker label after) :
    after.Clear := by
  intro vacant
  have before : worker.activeId = none := (effect.vacant_cases vacant).elim clear id
  rcases effect.acts.activeId with
    ⟨-, same⟩ | ⟨_, -, -, -, -, -, starting⟩ | ⟨_, _, -, -, -, isFiltered⟩
  · rw [same]
    exact before
  · rw [starting] at vacant
    exact vacant.elim
  · rw [isFiltered, before]
    rfl

/-- What holds in every state that a worker process can reach. -/
structure Sound (worker : Worker) : Prop where
  books : worker.Books
  links : worker.Links
  streams : worker.Streams
  pending : worker.Pending
  clear : worker.Clear

theorem sound_initial : Sound initial :=
  ⟨books_initial, links_initial, streams_initial, pending_initial, fun vacant => vacant.elim⟩

theorem Sound.step (sound : worker.Sound) (effect : Effect config worker label after) :
    after.Sound where
  books := sound.books.step effect
  links := sound.links.step effect
  streams := sound.streams.step effect
  pending := sound.pending.step sound.links sound.streams effect
  clear := sound.clear.step effect

/-- A worker has one build at a time: in every state of every run, a registered build is the active
one unless its end was written to a connection. -/
theorem unreported_build_active (config : WorkerConfig) (steps : List WorkerStep) (final : Worker)
    (ran : Transition.run (step config) initial steps = some final) :
    ∀ buildId ∈ final.registered, final.Written buildId ∨ final.activeId = some buildId := by
  have sound : final.Sound := by
    have allowed : Transition.AllowedRun (step config) (fun _ _ => True) initial steps :=
      Transition.allowedRun_of_allows (fun _ _ => trivial) ..
    exact Transition.invariant_of_run Sound sound_initial
      (fun _ _ _ sound _ stepped => sound.step (effect_of_step stepped)) allowed ran
  exact sound.books.owned

theorem unreported_build_seven :
    ∃ final ∈ Transition.run (step workerConfig) initial (connects ++ startsBuild 7),
      final.activeId = some 7 := by
  have reached : ∃ final ∈ Transition.run (step workerConfig) initial (connects ++ startsBuild 7),
      7 ∈ final.registered ∧ ¬ final.Written 7 := by decide +kernel
  obtain ⟨final, ran, registered, unwritten⟩ := reached
  exact ⟨final, ran, (unreported_build_active workerConfig _ final ran 7 registered).resolve_left
    unwritten⟩

end Worker

end Cbs

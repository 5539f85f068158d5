import Cbs.Worker.Invariant

/-!
# The end of a build is not lost

The end of a build goes from its streaming task over the drainer to the supervisor or the channel,
and over the loop to the wire.  It may be lost where the worker gives up a connection.
-/

namespace Cbs

namespace Worker

variable {config : WorkerConfig} {worker after : Worker} {label : WorkerStep} {buildId : BuildId}

/-- The messages that are lost with the present connection. -/
def carried (worker : Worker) : List WorkerMessage :=
  carriedBy worker.stage ++ worker.channel.getD []

/-- The end of a build is on its way to the present connection, or kept for the next one. -/
def Held (worker : Worker) (buildId : BuildId) : Prop :=
  (∃ message ∈ worker.carried, message.finishedBuild = some buildId) ∨
    ∃ active ∈ worker.supervisor.active, active.phase = .terminalPendingReport ∧
      ∃ message ∈ active.pendingTerminal, message.finishedBuild = some buildId

instance (worker : Worker) (buildId : BuildId) : Decidable (worker.Held buildId) :=
  inferInstanceAs (Decidable ((∃ message ∈ worker.carried, _) ∨
    ∃ active ∈ worker.supervisor.active, _ ∧ ∃ message ∈ active.pendingTerminal, _))

/-- A streaming task of a build runs, or the loop is about to start it. -/
def StreamerRuns (worker : Worker) (buildId : BuildId) : Prop :=
  Starts buildId worker.stage ∨
    ∃ streamer ∈ worker.streamers, streamer.buildId = buildId ∧ streamer.ended = false

instance (worker : Worker) (buildId : BuildId) : Decidable (worker.StreamerRuns buildId) :=
  inferInstanceAs (Decidable (_ ∨ ∃ streamer ∈ worker.streamers, _))

/-- The end of every registered build is still to come, was written, or is held. -/
def Delivered (worker : Worker) : Prop :=
  ∀ buildId ∈ worker.registered,
    worker.StreamerRuns buildId ∨ worker.Written buildId ∨ worker.Held buildId

instance (worker : Worker) : Decidable worker.Delivered :=
  inferInstanceAs (Decidable (∀ buildId ∈ worker.registered, _))

/-- No end is on its way to the present connection, except of builds whose end was written. -/
def Unburdened (worker : Worker) : Prop :=
  ∀ message ∈ worker.carried, ∀ buildId ∈ message.finishedBuild, worker.Written buildId

instance (worker : Worker) : Decidable worker.Unburdened :=
  inferInstanceAs (Decidable (∀ message ∈ worker.carried, ∀ buildId ∈ message.finishedBuild, _))

/-- The build whose start is being sent. -/
def startingBuild : Stage → Option BuildId
  | .starting buildId => some buildId
  | _ => none

/-- The connection is given up only while no end is on its way to it and no start is being sent. -/
def Lossless (worker : Worker) : WorkerStep → Prop
  | .disconnect =>
    worker.Unburdened ∧ ∀ buildId ∈ startingBuild worker.stage, worker.Written buildId
  | .proceed => worker.stage = .detaching → worker.Unburdened
  | _ => True

instance (worker : Worker) : (label : WorkerStep) → Decidable (worker.Lossless label)
  | .disconnect => inferInstanceAs (Decidable (_ ∧ ∀ buildId ∈ startingBuild worker.stage, _))
  | .proceed => inferInstanceAs (Decidable (_ → _))
  | .connect | .receive _ | .takeOutput | .prepared _ | .spawned _ | .stdout _ _ | .close _
  | .drain _ | .push | .finish _ | .sample | .retire _ => isTrue trivial

theorem Turn.carriedBy_subset {stage : Stage} (turns : worker.Turn label stage) :
    carriedBy worker.stage ⊆ carriedBy stage := by
  cases turns with
  | nothingSpooled stands =>
    rw [stands]
    exact fun message inside => List.mem_cons_of_mem _ inside
  | _ stands =>
    rw [stands]
    exact List.nil_subset _

variable {message : WorkerMessage}

theorem Writes.carriedBy_eq {stage : Stage}
    (writes : worker.Writes message stage) : carriedBy worker.stage = [] := by
  cases writes with
  | _ stands =>
    rw [stands]
    rfl

theorem Transmits.carriedBy_eq {stage : Stage} (transmits : worker.Transmits message stage) :
    carriedBy worker.stage = message :: carriedBy stage := by
  cases transmits with
  | _ stands =>
    rw [stands]
    rfl

theorem finishes_append {messages : List WorkerMessage}
    (finishes : message.finishedBuild = some buildId) :
    ∃ known ∈ messages ++ [message], known.finishedBuild = some buildId :=
  ⟨message, List.mem_append_right _ (List.mem_singleton_self message), finishes⟩

/-- A message that the loop or the channel has stays there until it is written. -/
theorem Effect.carried_step (effect : Effect config worker label after) (links : worker.Links)
    (lossless : worker.Lossless label) (inside : message ∈ worker.carried)
    (finishes : message.finishedBuild = some buildId) :
    after.Written buildId ∨ message ∈ after.carried := by
  have frame : after.stage = worker.stage → after.channel = worker.channel →
      message ∈ after.carried := by
    intro stage channel
    rw [carried, stage, channel]
    exact inside
  have empty : carriedBy worker.stage = [] → after.channel = worker.channel →
      message ∈ after.carried := by
    intro nothing channel
    rw [carried, nothing, List.nil_append] at inside
    rw [carried, channel]
    exact List.mem_append_right _ inside
  cases effect with
  | connect stands =>
    rw [carried, stands, links.offline stands] at inside
    cases inside
  | turn turns =>
    rcases List.mem_append.mp inside with taken | queued
    · exact .inr (List.mem_append_left _ (turns.carriedBy_subset taken))
    · exact .inr (List.mem_append_right _ queued)
  | write writes => exact .inr (empty writes.carriedBy_eq rfl)
  | transmit transmits =>
    rcases List.mem_append.mp inside with taken | queued
    · rw [transmits.carriedBy_eq] at taken
      rcases List.mem_cons.mp taken with rfl | later
      · exact .inl (finishes_append finishes)
      · exact .inr (List.mem_append_left _ later)
    · exact .inr (List.mem_append_right _ queued)
  | readSpool stands =>
    rw [carried, stands] at inside
    rcases List.mem_append.mp inside with taken | queued
    · exact .inr (List.mem_append_left _ (List.mem_append_right _ taken))
    · exact .inr (List.mem_append_right _ queued)
  | record stands =>
    rw [carried, stands] at inside
    rcases List.mem_append.mp inside with taken | queued
    · exact .inr (List.mem_append_left _ (List.mem_cons_of_mem _ taken))
    · exact .inr (List.mem_append_right _ queued)
  | detach stands => exact .inl (lossless stands message inside buildId finishes)
  | disconnect => exact .inl (lossless.1 message inside buildId finishes)
  | takeOutput stands isChannel =>
    rw [carried, stands, isChannel] at inside
    rcases List.mem_cons.mp inside with rfl | later
    · exact .inr (List.mem_append_left _ (List.mem_singleton_self message))
    · exact .inr (List.mem_append_right _ later)
  | send isHolder isTransport =>
    rw [carried, (links.of_transport isTransport).2] at inside
    right
    rcases List.mem_append.mp inside with taken | queued
    · exact List.mem_append_left _ taken
    · exact List.mem_append_right _ (List.mem_append_left _ queued)
  | sample isChannel =>
    rw [carried, isChannel] at inside
    right
    rcases List.mem_append.mp inside with taken | queued
    · exact List.mem_append_left _ taken
    · exact List.mem_append_right _ (List.mem_append_left _ queued)
  | drain free isStreamer isQueue handed => cases handed <;> exact .inr (frame rfl rfl)
  | recover isHolder closed recovered => cases recovered <;> exact .inr (frame rfl rfl)
  | produce | retireTake | retireSkip | retireWait | retireClear => exact .inr (frame rfl rfl)
  | _ stands => exact .inr (empty (by rw [stands]; rfl) rfl)

end Worker

/-- The end of a build is kept for the next connection. -/
def Supervisor.Keeps (supervisor : Supervisor) (buildId : BuildId) : Prop :=
  ∃ active, supervisor.active = some active ∧ active.phase = .terminalPendingReport ∧
    ∃ message, active.pendingTerminal = some message ∧ message.finishedBuild = some buildId

variable {config : WorkerConfig} {next : Supervisor} {active : ActiveBuild}
  {message : WorkerMessage} {buildId : BuildId}

/-- An end that is handed over while no sender is attached is kept, unless the spool file has
already become too large. -/
theorem Supervisor.Spools.keeps_terminal {supervisor : Supervisor}
    (spools : supervisor.Spools config active message next)
    (finishes : message.finishedBuild = some buildId) :
    next.Keeps buildId ∨ active.spoolExhausted = true ∧ next = supervisor := by
  cases spools with
  | drop exhausted => exact .inr ⟨exhausted, rfl⟩
  | keepTerminal => exact .inl ⟨_, rfl, rfl, message, rfl, finishes⟩
  | exceed fits isOutput | append fits isOutput =>
    rw [isOutput] at finishes
    cases finishes

namespace Worker

variable {config : WorkerConfig} {worker after : Worker} {label : WorkerStep} {buildId : BuildId}

theorem Held.of_keeps (keeps : worker.supervisor.Keeps buildId) : worker.Held buildId :=
  .inr keeps

/-- An end that is kept stays so until it is taken for a connection. -/
theorem Sound.keeps_step (sound : worker.Sound) (effect : Effect config worker label after)
    (keeps : worker.supervisor.Keeps buildId) :
    after.Written buildId ∨ after.Held buildId := by
  obtain ⟨active, isActive, phase, terminal, isTerminal, finishes⟩ := keeps
  have isBuild : some active.buildId = some buildId :=
    (sound.pending.phase active isActive terminal isTerminal).1.symm.trans finishes
  cases effect.acts with
  | alter _ altered =>
    rw [isActive] at altered
    generalize isNext : after.supervisor.active = found at altered
    obtain ⟨-, alters⟩ := altered
    right
    cases alters with
    | adjust _ same stays =>
      exact .of_keeps ⟨_, isNext, stays phase, terminal, same.trans isTerminal, finishes⟩
    | take _ _ taken =>
      rcases taken with earlier | carried
      · rw [sound.pending.taken earlier active isActive] at isTerminal
        cases isTerminal
      · exact .inl ⟨terminal, List.mem_append_left _ (carried (by simp [isTerminal])), finishes⟩
    | store pending isStored ends streamed =>
      have same := sound.streams.finishes_of_streamed isActive ends streamed
      exact .of_keeps ⟨_, isNext, pending, _, isStored, same.trans isBuild⟩
  | register _ _ nobody =>
    rw [isActive] at nobody
    cases nobody
  | @retire task retired isTask _ _ filtered =>
    by_cases same : active.buildId = retired
    · have written := sound.books.retired _ (List.mem_of_getElem? isTask)
      rw [← same, Option.some.inj isBuild] at written
      exact .inl (effect.written written)
    · refine .inr (.of_keeps ⟨active, ?_, phase, terminal, isTerminal, finishes⟩)
      exact filtered.trans (Option.filter_eq_some_iff.mpr ⟨isActive, by simpa using same⟩)

theorem Sound.held_step (sound : worker.Sound) (lossless : worker.Lossless label)
    (effect : Effect config worker label after) (held : worker.Held buildId) :
    after.Written buildId ∨ after.Held buildId := by
  rcases held with ⟨message, inside, finishes⟩ | keeps
  · rcases effect.carried_step sound.links lossless inside finishes with written | carried
    · exact .inl written
    · exact .inr (.inl ⟨message, carried, finishes⟩)
  · exact sound.keeps_step effect keeps

/-- The end of a build is still with its streaming task or the drainer of it. -/
def ToCome (worker : Worker) (buildId : BuildId) : Prop :=
  ∃ task streamer, worker.streamers[task]? = some streamer ∧ streamer.buildId = buildId ∧
    (streamer.source ≠ .closed ∨
      (∃ message ∈ streamer.queue, message.finishedBuild = some buildId) ∨
      ∃ message, worker.holder = some (task, message) ∧ message.finishedBuild = some buildId)

/-- When a spool file has become too large, the end of the build is written or held. -/
def Exhausts (worker : Worker) : Prop :=
  ∀ active, worker.supervisor.active = some active → active.spoolExhausted = true →
    worker.Written active.buildId ∨ worker.Held active.buildId

theorem ToCome.frame (toCome : worker.ToCome buildId)
    (streamers : after.streamers = worker.streamers) (holder : after.holder = worker.holder) :
    after.ToCome buildId := by
  unfold ToCome
  rw [streamers, holder]
  exact toCome

variable {task : Nat} {streamer : Streamer}

theorem Produces.toCome {next : Streamer}
    (produces : Produces config worker task streamer label next) (own : streamer.Own)
    (isBuild : streamer.buildId = buildId)
    (toCome : streamer.source ≠ .closed ∨
      (∃ message ∈ streamer.queue, message.finishedBuild = some buildId) ∨
      ∃ message, worker.holder = some (task, message) ∧ message.finishedBuild = some buildId) :
    next.source ≠ .closed ∨
      (∃ message ∈ next.queue, message.finishedBuild = some buildId) ∨
      ∃ message, worker.holder = some (task, message) ∧ message.finishedBuild = some buildId := by
  cases produces with
  | @stdout event reading =>
    left
    rcases Streamer.source_onStdout reading event with still | ⟨_, _, _, turned⟩
    · rw [still]
      simp
    · rw [turned]
      simp
  | @close terminal closing room =>
    right
    left
    refine ⟨terminal, List.mem_append_right _ (List.mem_singleton_self terminal), ?_⟩
    rw [← isBuild]
    exact own.terminal terminal closing
  | finish closed empty released =>
    rcases toCome with open_ | ⟨message, inside, -⟩ | ⟨message, isHolder, -⟩
    · exact (open_ closed).elim
    · rw [empty] at inside
      cases inside
    · exact (released _ isHolder rfl).elim

variable {message : WorkerMessage}

/-- An end that a drainer hands over is written, held or with the drainer. -/
theorem Sound.handed_terminal (sound : worker.Sound) (exhausts : worker.Exhausts)
    {streamers : List Streamer}
    (registered : buildId ∈ worker.registered) (finishes : message.finishedBuild = some buildId)
    (handed : Handed config { worker with streamers } task message after) :
    after.Written buildId ∨ after.Held buildId ∨ after.holder = some (task, message) := by
  have isStreamed := Streamer.streamedBuild_of_finishedBuild finishes
  cases handed with
  | drop orphan =>
    rcases sound.books.owned buildId registered with written | isActive
    · exact .inl written
    · obtain ⟨active, isKnown, same⟩ := activeId_eq_some.mp isActive
      exact (orphan buildId isStreamed active isKnown same).elim
  | @spool active next isBuild isActive detached spools =>
    rcases spools.keeps_terminal finishes with keeps | ⟨exhausted, rfl⟩
    · exact .inr (.inl (.of_keeps keeps))
    · have same : active.buildId = buildId := Option.some.inj (isBuild.symm.trans isStreamed)
      rcases exhausts active isActive exhausted with written | held
      · rw [same] at written
        exact .inl written
      · rw [same] at held
        exact .inr (.inl held)
  | hold => exact .inr (.inr rfl)

/-- An end that a drainer cannot send is written or held. -/
theorem Sound.recovered_terminal (sound : worker.Sound) (exhausts : worker.Exhausts)
    (isHolder : worker.holder = some (task, message))
    (finishes : message.finishedBuild = some buildId)
    (recovered : Recovered config worker message after) :
    after.Written buildId ∨ after.Held buildId := by
  obtain ⟨streamer, -, -, isStreamed, isOwner⟩ := sound.streams.held task message isHolder
  have same := isStreamed.symm.trans (Streamer.streamedBuild_of_finishedBuild finishes)
  cases recovered with
  | forget other =>
    rw [isStreamed] at other
    cases other
  | drop nobody =>
    rw [activeId, nobody] at isOwner
    cases isOwner
  | @spool active next isActive spools =>
    rcases spools.keeps_terminal finishes with keeps | ⟨exhausted, rfl⟩
    · exact .inr (.of_keeps keeps)
    · rw [activeId, isActive, Option.map_some] at isOwner
      have isBuild : active.buildId = buildId := Option.some.inj (isOwner.trans same)
      rcases exhausts active isActive exhausted with written | held
      · rw [isBuild] at written
        exact .inl written
      · rw [isBuild] at held
        exact .inr held

theorem Handed.streamers_eq
    (handed : Handed config worker task message after) : after.streamers = worker.streamers := by
  cases handed <;> rfl

/-- The end of a build while a message is handed over. -/
theorem Sound.toCome_drain (sound : worker.Sound) (exhausts : worker.Exhausts) {other : Nat}
    {before : Streamer} {messages : List WorkerMessage}
    (registered : buildId ∈ worker.registered) (isBefore : worker.streamers[other]? = some before)
    (isQueue : before.queue = message :: messages)
    (handed : Handed config
      { worker with streamers := worker.streamers.set other { before with queue := messages } }
      other message after)
    (isStreamer : worker.streamers[task]? = some streamer) (isBuild : streamer.buildId = buildId)
    (place : streamer.source ≠ .closed ∨
      ∃ message ∈ streamer.queue, message.finishedBuild = some buildId) :
    after.Written buildId ∨ after.ToCome buildId ∨ after.Held buildId := by
  have inside := (List.getElem?_eq_some_iff.mp isStreamer).1
  by_cases here : other = task
  · subst here
    obtain rfl := Option.some.inj (isStreamer.symm.trans isBefore)
    have isNext : after.streamers[other]? = some { streamer with queue := messages } := by
      rw [handed.streamers_eq]
      exact List.getElem?_set_self inside
    rcases place with reading | ⟨terminal, queued, finishes⟩
    · exact .inr (.inl ⟨other, _, isNext, isBuild, .inl reading⟩)
    · rw [isQueue] at queued
      rcases List.mem_cons.mp queued with rfl | later
      · rcases sound.handed_terminal exhausts registered finishes handed with
          written | held | isHolder
        · exact .inl written
        · exact .inr (.inr held)
        · exact .inr (.inl ⟨other, _, isNext, isBuild, .inr (.inr ⟨terminal, isHolder, finishes⟩)⟩)
      · exact .inr (.inl ⟨other, _, isNext, isBuild, .inr (.inl ⟨terminal, later, finishes⟩)⟩)
  · have isNext : after.streamers[task]? = some streamer := by
      rw [handed.streamers_eq]
      exact (List.getElem?_set_ne here).trans isStreamer
    exact .inr (.inl ⟨task, streamer, isNext, isBuild, place.imp_right .inl⟩)

theorem Sound.toCome_step (sound : worker.Sound) (exhausts : worker.Exhausts)
    (effect : Effect config worker label after) (registered : buildId ∈ worker.registered)
    (toCome : worker.ToCome buildId) :
    after.Written buildId ∨ after.ToCome buildId ∨ after.Held buildId := by
  obtain ⟨task, streamer, isStreamer, isBuild, place⟩ := id toCome
  have inside := (List.getElem?_eq_some_iff.mp isStreamer).1
  cases effect with
  | launch =>
    refine .inr (.inl ⟨task, streamer, ?_, isBuild, place⟩)
    exact (List.getElem?_append_left inside).trans isStreamer
  | @produce _ other before next isBefore produces =>
    refine .inr (.inl ?_)
    by_cases here : other = task
    · subst here
      obtain rfl := Option.some.inj (isStreamer.symm.trans isBefore)
      have own := sound.streams.own streamer (List.mem_of_getElem? isStreamer)
      exact ⟨other, next, List.getElem?_set_self inside, produces.buildId.trans isBuild,
        produces.toCome own isBuild place⟩
    · exact ⟨task, streamer, (List.getElem?_set_ne here).trans isStreamer, isBuild, place⟩
  | drain free isBefore isQueue handed =>
    rcases place with reading | queued | ⟨known, isKnown, -⟩
    · exact sound.toCome_drain exhausts registered isBefore isQueue handed isStreamer isBuild
        (.inl reading)
    · exact sound.toCome_drain exhausts registered isBefore isQueue handed isStreamer isBuild
        (.inr queued)
    · rw [free] at isKnown
      cases isKnown
  | @send holder message messages isHolder isTransport =>
    rcases place with reading | queued | ⟨known, isKnown, finishes⟩
    · exact .inr (.inl ⟨task, streamer, isStreamer, isBuild, .inl reading⟩)
    · exact .inr (.inl ⟨task, streamer, isStreamer, isBuild, .inr (.inl queued)⟩)
    · rw [isHolder] at isKnown
      cases isKnown
      refine .inr (.inr (.inl ⟨message, List.mem_append_right _ ?_, finishes⟩))
      exact List.mem_append_right _ (List.mem_singleton_self message)
  | recover isHolder closed recovered =>
    rcases place with reading | queued | ⟨known, isKnown, finishes⟩
    · exact .inr (.inl ⟨task, streamer, by cases recovered <;> exact isStreamer, isBuild,
        .inl reading⟩)
    · exact .inr (.inl ⟨task, streamer, by cases recovered <;> exact isStreamer, isBuild,
        .inr (.inl queued)⟩)
    · rw [isHolder] at isKnown
      cases isKnown
      exact (sound.recovered_terminal exhausts isHolder finishes recovered).imp_right .inr
  | _ => exact .inr (.inl (toCome.frame rfl rfl))

theorem Effect.starts_step (effect : Effect config worker label after)
    (lossless : worker.Lossless label) (starts : Starts buildId worker.stage) :
    after.Written buildId ∨ Starts buildId after.stage ∨ after.ToCome buildId := by
  cases effect with
  | connect stands =>
    rw [stands] at starts
    exact starts.elim
  | turn turns =>
    cases turns with
    | _ stands =>
      rw [stands] at starts
      exact starts.elim
  | write writes =>
    cases writes with
    | start stands =>
      rw [stands] at starts
      exact .inr (.inl starts)
    | _ stands =>
      rw [stands] at starts
      exact starts.elim
  | transmit transmits =>
    cases transmits with
    | _ stands =>
      rw [stands] at starts
      exact starts.elim
  | mark stands =>
    rw [stands] at starts
    exact .inr (.inl starts)
  | launch stands =>
    rw [stands] at starts
    refine .inr (.inr ⟨worker.streamers.length, .launch _, ?_, starts,
      .inl (by simp [Streamer.launch])⟩)
    exact List.getElem?_concat_length
  | disconnect talks =>
    cases stands : worker.stage with
    | starting id =>
      rw [stands] at starts
      cases starts
      exact .inl (lossless.2 _ (by rw [stands]; rfl))
    | marking | launching => exact (by rw [stands] at talks; exact talks.elim)
    | _ => exact (by rw [stands] at starts; exact starts.elim)
  | drain free isStreamer isQueue handed => cases handed <;> exact .inr (.inl starts)
  | recover isHolder closed recovered => cases recovered <;> exact .inr (.inl starts)
  | produce | send | sample | retireTake | retireSkip | retireWait | retireClear =>
    exact .inr (.inl starts)
  | _ stands =>
    rw [stands] at starts
    exact starts.elim

/-- A spool file becomes too large by a message that is kept from then on as the end. -/
theorem Sound.exhausted_cases (sound : worker.Sound) (effect : Effect config worker label after)
    {next : Supervisor.ActiveBuild} (isNext : after.supervisor.active = some next)
    (exhausted : next.spoolExhausted = true) :
    (∃ active, worker.supervisor.active = some active ∧ active.spoolExhausted = true ∧
        active.buildId = next.buildId) ∨ after.supervisor.Keeps next.buildId := by
  cases effect.acts with
  | alter _ altered =>
    obtain ⟨active, isActive, sameBuild, alters⟩ := exists_of_rel_some altered isNext
    cases alters with
    | adjust same | take same =>
      exact .inl ⟨active, isActive, same.symm.trans exhausted, sameBuild.symm⟩
    | store pending isStored ends streamed =>
      rw [sameBuild]
      exact .inr ⟨next, isNext, pending, _, isStored,
        sound.streams.finishes_of_streamed isActive ends streamed⟩
  | register _ _ _ _ isActive =>
    cases isActive.symm.trans isNext
    cases exhausted
  | retire _ _ _ filtered =>
    exact .inl ⟨next, (Option.filter_eq_some_iff.mp (filtered.symm.trans isNext)).1, exhausted, rfl⟩

/-- What keeps the ends of all builds. -/
structure Accounted (worker : Worker) : Prop where
  account : ∀ buildId ∈ worker.registered, worker.Written buildId ∨
    Starts buildId worker.stage ∨ worker.ToCome buildId ∨ worker.Held buildId
  exhausts : worker.Exhausts

theorem accounted_initial : Accounted initial where
  account := by simp [initial]
  exhausts := by simp [Exhausts, initial, Supervisor.initial]

theorem Accounted.account_step (accounted : worker.Accounted) (sound : worker.Sound)
    (lossless : worker.Lossless label) (effect : Effect config worker label after)
    (registered : buildId ∈ worker.registered) :
    after.Written buildId ∨ Starts buildId after.stage ∨ after.ToCome buildId ∨
      after.Held buildId := by
  rcases accounted.account buildId registered with written | starts | toCome | held
  · exact .inl (effect.written written)
  · rcases effect.starts_step lossless starts with written | still | toCome
    · exact .inl written
    · exact .inr (.inl still)
    · exact .inr (.inr (.inl toCome))
  · exact (sound.toCome_step accounted.exhausts effect registered toCome).imp_right .inr
  · exact (sound.held_step lossless effect held).imp_right fun held => .inr (.inr held)

theorem Accounted.step (accounted : worker.Accounted) (sound : worker.Sound)
    (lossless : worker.Lossless label) (effect : Effect config worker label after) :
    after.Accounted where
  account := by
    intro buildId registered
    rcases effect.acts.activeId with ⟨same, -⟩ | ⟨new, -, -, -, isNew, -, starting⟩ |
      ⟨_, _, -, -, same, -⟩
    · rw [same] at registered
      exact accounted.account_step sound lossless effect registered
    · rw [isNew, List.mem_append, List.mem_singleton] at registered
      rcases registered with old | rfl
      · exact accounted.account_step sound lossless effect old
      · exact .inr (.inl (by rw [starting]; rfl))
    · rw [same] at registered
      exact accounted.account_step sound lossless effect registered
  exhausts := by
    intro next isNext exhausted
    rcases sound.exhausted_cases effect isNext exhausted with
      ⟨active, isActive, before, same⟩ | keeps
    · rw [← same]
      rcases accounted.exhausts active isActive before with written | held
      · exact .inl (effect.written written)
      · exact sound.held_step lossless effect held
    · exact .inr (.of_keeps keeps)

theorem Streams.runs_of_toCome (streams : worker.Streams) (toCome : worker.ToCome buildId) :
    worker.StreamerRuns buildId := by
  obtain ⟨task, streamer, isStreamer, isBuild, place⟩ := toCome
  have inside := List.mem_of_getElem? isStreamer
  refine .inr ⟨streamer, inside, isBuild, ?_⟩
  apply Bool.eq_false_of_not_eq_true
  intro ended
  obtain ⟨closed, empty⟩ := (streams.own streamer inside).ended ended
  rcases place with reading | ⟨message, queued, -⟩ | ⟨message, isHolder, -⟩
  · exact reading closed
  · rw [empty] at queued
    cases queued
  · obtain ⟨known, isKnown, running, -⟩ := streams.held task message isHolder
    obtain rfl := Option.some.inj (isStreamer.symm.trans isKnown)
    rw [ended] at running
    cases running

/-- In a run in which no connection is given up while it has an end of a build to send, or while the
start of one is being sent, the end of every registered build is still to come, was written, or is
held where a later step sends it. -/
theorem no_terminal_lost (config : WorkerConfig) (steps : List WorkerStep) (final : Worker)
    (lossless : Transition.AllowedRun (step config) Lossless initial steps)
    (ran : Transition.run (step config) initial steps = some final) : final.Delivered := by
  have kept : final.Sound ∧ final.Accounted := by
    refine Transition.invariant_of_run (fun worker => worker.Sound ∧ worker.Accounted)
      ⟨sound_initial, accounted_initial⟩ ?_ lossless ran
    rintro worker label after ⟨sound, accounted⟩ allowed stepped
    have effect := effect_of_step stepped
    exact ⟨sound.step effect, accounted.step sound allowed effect⟩
  intro buildId registered
  rcases kept.2.account buildId registered with written | starts | toCome | held
  · exact .inr (.inl written)
  · exact .inl (.inl starts)
  · exact .inl (kept.1.streams.runs_of_toCome toCome)
  · exact .inr (.inr held)

/-- The connection is lost while the build runs; it ends while there is none, and the next
connection is told so. -/
def endsOffline : List WorkerStep :=
  connects ++ startsBuild 7 ++ sendsBatch ++ [.disconnect] ++ endsBuild ++
    [.drain 0, .push, .finish 0, .connect] ++ List.replicate 5 .proceed

/-- An end that comes while there is no connection is written to the next one. -/
theorem end_without_connection_delivered :
    ∃ final ∈ Transition.run (step workerConfig) initial endsOffline,
      final.registered = [7] ∧ final.Written 7 ∧ final.Delivered := by
  have reached : ∃ final ∈ Transition.run (step workerConfig) initial endsOffline,
      final.registered = [7] ∧ final.Written 7 := by decide +kernel
  obtain ⟨final, ran, registered, written⟩ := reached
  have lossless : Transition.AllowedRun (step workerConfig) Lossless initial endsOffline := by
    decide +kernel
  exact ⟨final, ran, registered, written,
    no_terminal_lost workerConfig endsOffline final lossless ran⟩

/-- The build ends, its end is in the channel, and the connection is lost before the loop takes
it. -/
def losesEnd : List WorkerStep :=
  connects ++ startsBuild 7 ++ endsBuild ++ [.drain 0, .push, .finish 0, .disconnect]

/-- The end is lost with the channel, and the build stays active for ever. -/
theorem end_in_channel_lost :
    ∃ final ∈ Transition.run (step workerConfig) initial losesEnd,
      final.registered = [7] ∧ ¬ final.Delivered ∧ final.activeId = some 7 := by
  decide +kernel

end Worker

end Cbs

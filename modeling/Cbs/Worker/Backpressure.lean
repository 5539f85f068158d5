import Cbs.Worker.Invariant

/-!
# The drainer and the connection loop

The drainer waits for a free slot of the channel with the mutex in its hands, and the loop that
frees slots takes the same mutex.
-/

namespace Cbs

namespace Worker

variable {config : WorkerConfig} {worker after : Worker} {label : WorkerStep}

/-- The next thing that the loop does is to take the mutex. -/
def WaitsForMutex : Stage → Prop
  | .attaching | .snapshotting | .recording _ _ | .checking _ | .registering _ | .marking _
  | .attachingTask _ _ | .revoking _ | .detaching => True
  | _ => False

instance : DecidablePred WaitsForMutex
  | .attaching | .snapshotting | .recording _ _ | .checking _ | .registering _ | .marking _
  | .attachingTask _ _ | .revoking _ | .detaching => isTrue trivial
  | .offline | .reading _ | .sending _ | .select | .forwarding _ | .preparing _ | .accepting _
  | .spawning _ | .starting _ | .launching _ | .replying _ => isFalse id

/-- A drainer has the mutex and waits for a slot of the channel. -/
def DrainerWaits (config : WorkerConfig) (worker : Worker) : Prop :=
  worker.holder ≠ none ∧ ∃ messages ∈ worker.transport, config.capacity ≤ messages.length

instance (config : WorkerConfig) (worker : Worker) : Decidable (worker.DrainerWaits config) :=
  inferInstanceAs (Decidable (_ ∧ ∃ messages ∈ worker.transport, _))

/-- The drainer waits for the loop, and the loop for the mutex. -/
def Deadlocked (config : WorkerConfig) (worker : Worker) : Prop :=
  worker.DrainerWaits config ∧ WaitsForMutex worker.stage

instance (config : WorkerConfig) (worker : Worker) : Decidable (worker.Deadlocked config) :=
  inferInstanceAs (Decidable (_ ∧ _))

/-- The loop may take the mutex before it frees the next slot. -/
def WillLock : Stage → Prop
  | .offline | .sending _ | .select | .forwarding _ | .replying _ => False
  | _ => True

instance : DecidablePred WillLock
  | .offline | .sending _ | .select | .forwarding _ | .replying _ => isFalse id
  | .attaching | .snapshotting | .reading _ | .recording _ _ | .checking _ | .preparing _
  | .accepting _ | .spawning _ | .registering _ | .starting _ | .marking _ | .launching _
  | .attachingTask _ _ | .revoking _ | .detaching => isTrue trivial

def StreamsActive (worker : Worker) (task : Nat) : Prop :=
  ∃ streamer ∈ worker.streamers[task]?, worker.activeId = some streamer.buildId

instance (worker : Worker) (task : Nat) : Decidable (worker.StreamsActive task) :=
  inferInstanceAs (Decidable (∃ streamer ∈ worker.streamers[task]?, _))

/-- The loop turns to the mutex only while no drainer waits for a slot, and as long as it is on its
way there, the drainer of the active build takes up a message only while the channel has a free
slot, which the sampler leaves to it. -/
def Relieved (config : WorkerConfig) (worker : Worker) : WorkerStep → Prop
  | .receive frame => WillLock (stageAfter frame) → ¬ worker.DrainerWaits config
  | .drain task => WillLock worker.stage → worker.StreamsActive task →
      ∀ messages ∈ worker.transport, messages.length < config.capacity
  | .sample => WillLock worker.stage → worker.holder ≠ none →
      ∀ messages ∈ worker.channel, messages.length + 1 < config.capacity
  | _ => True

instance (config : WorkerConfig) (worker : Worker) :
    (label : WorkerStep) → Decidable (worker.Relieved config label)
  | .receive _ => inferInstanceAs (Decidable (_ → _))
  | .drain _ => inferInstanceAs (Decidable (_ → _ → ∀ messages ∈ worker.transport, _))
  | .sample => inferInstanceAs (Decidable (_ → _ → ∀ messages ∈ worker.channel, _))
  | .connect | .proceed | .disconnect | .takeOutput | .prepared _ | .spawned _ | .stdout _ _
  | .close _ | .push | .finish _ | .retire _ => isTrue trivial

/-- The drainer finds a slot while the loop is on its way to the mutex. -/
def Roomy (config : WorkerConfig) (worker : Worker) : Prop :=
  WillLock worker.stage → worker.holder ≠ none → ∀ messages ∈ worker.transport,
    messages.length < config.capacity

theorem willLock_of_waitsForMutex {stage : Stage} (waits : WaitsForMutex stage) :
    WillLock stage := by
  cases stage with
  | offline | sending | select | forwarding | replying => exact waits.elim
  | _ => trivial

theorem Roomy.not_deadlocked (roomy : worker.Roomy config) : ¬ worker.Deadlocked config := by
  rintro ⟨⟨holds, messages, isTransport, full⟩, waits⟩
  have room := roomy (willLock_of_waitsForMutex waits) holds messages isTransport
  omega

theorem roomy_of_free (free : worker.holder = none) : worker.Roomy config :=
  fun _ holds => (holds free).elim

/-- A step that brings the loop no closer to the mutex and does not touch the channel. -/
theorem Roomy.frame (roomy : worker.Roomy config)
    (stage : WillLock after.stage → WillLock worker.stage)
    (holder : after.holder = worker.holder) (transport : after.transport = worker.transport) :
    after.Roomy config := by
  intro willLock holds
  rw [holder] at holds
  rw [transport]
  exact roomy (stage willLock) holds

theorem Turn.willLock {stage : Stage} (turns : worker.Turn label stage)
    (willLock : WillLock stage) :
    WillLock worker.stage ∨ worker.holder = none ∨
      ∃ frame, label = .receive frame ∧ stage = stageAfter frame := by
  cases turns with
  | idle | nothingSpooled | enter => exact willLock.elim
  | receive => exact .inr (.inr ⟨_, rfl, rfl⟩)
  | busy => exact willLock.elim
  | take stands free => exact .inr (.inl free)
  | refuse => exact willLock.elim
  | unpack stands => exact .inl (by rw [stands]; trivial)
  | spawnFails => exact willLock.elim
  | spawn stands => exact .inl (by rw [stands]; trivial)
  | registerBusy | revokeOther | revokeIdle => exact willLock.elim

theorem Roomy.turn (roomy : worker.Roomy config) {stage : Stage} (turns : worker.Turn label stage)
    (relieved : worker.Relieved config label) :
    ({ worker with stage } : Worker).Roomy config := by
  intro willLock holds messages isTransport
  rcases turns.willLock willLock with before | free | ⟨frame, rfl, isStage⟩
  · exact roomy before holds messages isTransport
  · exact (holds free).elim
  · rw [show ({ worker with stage } : Worker).stage = stageAfter frame from isStage] at willLock
    have fits := relieved willLock
    by_contra full
    exact fits ⟨holds, messages, isTransport, Nat.le_of_not_lt full⟩

/-- Only a drainer of the active build comes to hold the mutex. -/
theorem Sound.streamsActive (sound : worker.Sound) {task : Nat} {streamer : Streamer}
    {message : WorkerMessage} {messages : List WorkerMessage}
    (isStreamer : worker.streamers[task]? = some streamer)
    (isQueue : streamer.queue = message :: messages)
    (mine : ∀ buildId ∈ message.streamedBuild, worker.activeId = some buildId) :
    worker.StreamsActive task := by
  have own := sound.streams.own streamer (List.mem_of_getElem? isStreamer)
  have isBuild := own.queue message (by rw [isQueue]; exact List.mem_cons_self)
  exact ⟨streamer, isStreamer, mine _ isBuild⟩

theorem Roomy.step (roomy : worker.Roomy config) (sound : worker.Sound)
    (relieved : worker.Relieved config label) (effect : Effect config worker label after) :
    after.Roomy config := by
  have links := sound.links.step effect
  cases effect with
  | connect =>
    intro _ _ messages isTransport
    exact (links.of_transport isTransport).1.elim
  | turn turns => exact roomy.turn turns relieved
  | write writes =>
    refine roomy.frame (fun willLock => ?_) rfl rfl
    cases writes with
    | reply => exact willLock.elim
    | _ stands =>
      rw [stands]
      trivial
  | transmit transmits =>
    refine roomy.frame (fun willLock => ?_) rfl rfl
    cases transmits <;> exact willLock.elim
  | readSpool stands | launch stands => exact roomy.frame (fun _ => by rw [stands]; trivial) rfl rfl
  | disconnect | takeOutput => exact fun willLock => willLock.elim
  | produce => exact roomy.frame id rfl rfl
  | drain free isStreamer isQueue handed =>
    cases handed with
    | drop | spool => exact roomy_of_free free
    | hold attached mine =>
      intro willLock _
      refine relieved willLock (sound.streamsActive isStreamer isQueue ?_)
      exact fun buildId isBuild => activeId_eq_some.mpr (mine buildId isBuild)
  | send => exact roomy_of_free rfl
  | recover isHolder closed recovered => cases recovered <;> exact roomy_of_free rfl
  | @sample messages isChannel samples room =>
    intro willLock holds queue isTransport
    have fits := relieved willLock holds messages isChannel
    obtain rfl := Option.some.inj (links.of_transport isTransport).2
    rw [List.length_append]
    exact fits
  | @retireWait task buildId outputTask spoolPath =>
    refine roomy.frame id rfl ?_
    cases spoolPath <;> rfl
  | _ _ free => exact roomy_of_free free

/-- In a run in which the drainer of the active build takes up messages only while it finds a free
slot or the loop is not on its way to the mutex, the two never block each other. -/
theorem drainer_and_loop_never_block (config : WorkerConfig) (steps : List WorkerStep)
    (final : Worker)
    (relieved : Transition.AllowedRun (step config) (Relieved config) initial steps)
    (ran : Transition.run (step config) initial steps = some final) :
    ¬ final.Deadlocked config := by
  have kept : final.Sound ∧ final.Roomy config := by
    refine Transition.invariant_of_run (fun worker => worker.Sound ∧ worker.Roomy config)
      ⟨sound_initial, roomy_of_free rfl⟩ ?_ relieved ran
    rintro worker label after ⟨sound, roomy⟩ allowed stepped
    have effect := effect_of_step stepped
    exact ⟨sound.step effect, roomy.step sound allowed effect⟩
  exact kept.2.not_deadlocked

/-- A revoke arrives while the drainer has the mutex for the last of some batches. -/
def revokedAfter (batches : Nat) : List WorkerStep :=
  connects ++ startsBuild 7 ++ (List.replicate batches sendsBatch).flatten ++ sendsBatch.take 3 ++
    [.receive (.message (.buildRevoke 7 none))]

/-- A revoke that arrives while a few batches are in the channel does not block the worker. -/
theorem revoke_with_room_does_not_block :
    ∃ final ∈ Transition.run (step workerConfig) initial (revokedAfter 2),
      WaitsForMutex final.stage ∧ final.holder ≠ none ∧ ¬ final.Deadlocked workerConfig := by
  have reached : ∃ final ∈ Transition.run (step workerConfig) initial (revokedAfter 2),
      WaitsForMutex final.stage ∧ final.holder ≠ none := by decide +kernel
  obtain ⟨final, ran, waits, holds⟩ := reached
  have relieved : Transition.AllowedRun (step workerConfig) (Relieved workerConfig) initial
      (revokedAfter 2) := by decide +kernel
  exact ⟨final, ran, waits, holds,
    drainer_and_loop_never_block workerConfig (revokedAfter 2) final relieved ran⟩

/-- When the channel is full, the drainer waits with the next batch; a revoke that arrives now is
never handled. -/
theorem revoke_with_full_channel_blocks :
    ∃ final ∈ Transition.run (step workerConfig) initial (revokedAfter 64),
      final.Deadlocked workerConfig ∧ (step workerConfig final .proceed).isNone ∧
        (step workerConfig final .push).isNone := by
  decide +kernel

end Worker

end Cbs

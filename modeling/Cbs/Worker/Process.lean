import Cbs.Library.Transition
import Cbs.Worker.Streamer
import Cbs.Worker.Supervisor

/-!
# The tasks of a worker process

The connection loop, the streaming tasks with their drainers and the tasks that retire builds share
the mutex of the supervisor and the channel of the present connection.  Only a drainer keeps the
mutex while it waits.
-/

namespace Cbs

inductive Stage where
  | offline
  /-- A connection was welcomed; its sender is to be attached. -/
  | attaching
  | snapshotting
  /-- The spool file is to be read and removed. -/
  | reading (snapshot : Supervisor.Snapshot)
  | recording (snapshot : Supervisor.Snapshot) (spooled : List WorkerMessage)
  | sending (messages : List WorkerMessage)
  /-- The loop waits for a frame or for a message from the channel. -/
  | select
  | forwarding (message : WorkerMessage)
  /-- A dispatched build: is another one active? -/
  | checking (buildId : BuildId)
  | preparing (buildId : BuildId)
  | accepting (buildId : BuildId)
  | spawning (buildId : BuildId)
  | registering (buildId : BuildId)
  | starting (buildId : BuildId)
  | marking (buildId : BuildId)
  | launching (buildId : BuildId)
  | attachingTask (buildId : BuildId) (task : Nat)
  | revoking (buildId : BuildId)
  | detaching
  | replying (message : WorkerMessage)
  deriving DecidableEq

inductive Incoming where
  | message (message : ServerMessage)
  | error (reason : String)
  | ignored
  deriving DecidableEq

inductive RetireStage where
  | taking
  /-- It waits for the streaming task, if there is one, and removes the spool file. -/
  | waiting (task : Option Nat) (spoolPath : Option BuildId)
  | clearing
  | done
  deriving DecidableEq

structure Retirement where
  buildId : BuildId
  stage : RetireStage
  deriving DecidableEq

/-- A worker process, with what it has done so far. -/
structure Worker where
  stage : Stage
  connection : Nat
  /-- The channel of the present connection. -/
  channel : Option (List WorkerMessage)
  supervisor : Supervisor
  streamers : List Streamer
  /-- The drainer that has the mutex and a message to send. -/
  holder : Option (Nat × WorkerMessage)
  retirements : List Retirement
  written : List WorkerMessage
  registered : List BuildId

def Worker.initial : Worker where
  stage := .offline
  connection := 0
  channel := none
  supervisor := .initial
  streamers := []
  holder := none
  retirements := []
  written := []
  registered := []

inductive WorkerStep where
  | connect
  | proceed
  | disconnect
  | receive (frame : Incoming)
  | takeOutput
  /-- The components of a dispatched build are unpacked, or there is a reason to reject it. -/
  | prepared (refusal : Option String)
  /-- The subprocess of a dispatched build is started, or it cannot be. -/
  | spawned (error : Option String)
  | stdout (task : Nat) (event : StdoutEvent)
  | close (task : Nat)
  | drain (task : Nat)
  /-- The drainer that has the mutex sends its message, if there is a slot or the channel is
  closed. -/
  | push
  | finish (task : Nat)
  | sample
  | retire (task : Nat)
  deriving DecidableEq

namespace Worker

/-- Do something under the mutex, if it is free. -/
def locked (worker next : Worker) : Option Worker :=
  if worker.holder = none then some next else none

variable (worker : Worker)

def write (message : WorkerMessage) : Worker :=
  { worker with written := worker.written ++ [message] }

/-- Write a message and retire the build whose end it reports. -/
def transmit (message : WorkerMessage) : Worker :=
  match message.finishedBuild with
  | some buildId =>
    { worker.write message with retirements := worker.retirements ++ [⟨buildId, .taking⟩] }
  | none => worker.write message

/-- Take the pending end and go on with the reconnect messages. -/
def snapshot (worker : Worker) : Worker :=
  match worker.supervisor.takeSnapshot with
  | (_, none) => { worker with stage := .sending [.workerStatus .idle none] }
  | (supervisor, some snapshot) => { worker with supervisor, stage := .reading snapshot }

def reconnectMessages (snapshot : Supervisor.Snapshot) (spooled : List WorkerMessage) :
    List WorkerMessage :=
  .workerStatus .building (some snapshot.buildId) :: (spooled ++ snapshot.pendingTerminal.toList)

def readSpool (snapshot : Supervisor.Snapshot) : Worker :=
  match snapshot.spoolPath with
  | some path =>
    { worker with
      supervisor := worker.supervisor.removeSpool path
      stage := .recording snapshot (worker.supervisor.spools path) }
  | none => { worker with stage := .sending (reconnectMessages snapshot []) }

def check (buildId : BuildId) : Worker :=
  match worker.supervisor.active with
  | some _ => { worker with stage := .replying (.buildRejected buildId "worker is busy") }
  | none => { worker with stage := .preparing buildId }

def register (buildId : BuildId) : Worker :=
  match worker.supervisor.registerAccepted buildId with
  | .ok supervisor =>
    { worker with
      supervisor
      registered := worker.registered ++ [buildId]
      stage := .starting buildId }
  | .error active =>
    { worker with
      stage := .replying (.buildFinished buildId .failure
        (some ("supervisor: worker is busy with build " ++ toString active)) none) }

def revoke (buildId : BuildId) : Worker :=
  match worker.supervisor.onBuildRevoke buildId with
  | (supervisor, .revokingActive) => { worker with supervisor, stage := .select }
  | (_, .nonActive _) => { worker with stage := .select }
  | (_, .idle) =>
    { worker with stage := .replying (.buildFinished buildId .revoked none none) }

/-- Give up the connection with its channel. -/
def hangUp : Worker :=
  { worker with stage := .offline, channel := none }

/-- One step of the loop that does not depend on anything from outside. -/
def proceed : Option Worker :=
  match worker.stage with
  | .offline | .select | .preparing _ | .spawning _ => none
  | .attaching =>
    worker.locked
      { worker with
        supervisor := worker.supervisor.attachTransport worker.connection
        stage := .snapshotting }
  | .snapshotting => worker.locked worker.snapshot
  | .reading snapshot => some (worker.readSpool snapshot)
  | .recording snapshot spooled =>
    worker.locked
      { worker with
        supervisor := worker.supervisor.forgetSpool snapshot.buildId
        stage := .sending (reconnectMessages snapshot spooled) }
  | .sending [] => some { worker with stage := .select }
  | .sending (message :: messages) =>
    some { worker.transmit message with stage := .sending messages }
  | .forwarding message => some { worker.transmit message with stage := .select }
  | .checking buildId => worker.locked (worker.check buildId)
  | .accepting buildId =>
    some { worker.write (.buildAccepted buildId) with stage := .spawning buildId }
  | .registering buildId => worker.locked (worker.register buildId)
  | .starting buildId =>
    some { worker.write (.buildStarted buildId) with stage := .marking buildId }
  | .marking buildId =>
    worker.locked
      { worker with
        supervisor := worker.supervisor.markStarted buildId
        stage := .launching buildId }
  | .launching buildId =>
    some
      { worker with
        streamers := worker.streamers ++ [.launch buildId]
        stage := .attachingTask buildId worker.streamers.length }
  | .attachingTask buildId task =>
    worker.locked
      { worker with
        supervisor := worker.supervisor.attachOutputTask buildId task
        stage := .select }
  | .revoking buildId => worker.locked (worker.revoke buildId)
  | .detaching =>
    worker.locked { worker with supervisor := worker.supervisor.detachTransport }.hangUp
  | .replying message => some { worker.write message with stage := .select }

def connect : Option Worker :=
  match worker.stage with
  | .offline =>
    some
      { worker.write .hello with
        stage := .attaching
        connection := worker.connection + 1
        channel := some [] }
  | _ => none

/-- The loop is at a send or receive. -/
def Talks : Stage → Prop
  | .sending (_ :: _) | .select | .forwarding _ | .accepting _ | .starting _ | .replying _ => True
  | _ => False

instance : DecidablePred Talks
  | .sending (_ :: _) | .select | .forwarding _ | .accepting _ | .starting _ | .replying _ =>
    isTrue trivial
  | .offline | .attaching | .snapshotting | .reading _ | .recording _ _ | .sending []
  | .checking _ | .preparing _ | .spawning _ | .registering _ | .marking _ | .launching _
  | .attachingTask _ _ | .revoking _ | .detaching => isFalse id

def disconnect : Option Worker :=
  if Talks worker.stage then some worker.hangUp else none

/-- What the loop turns to after a frame. -/
def stageAfter : Incoming → Stage
  | .message (.buildNew buildId _ _ _ _) => .checking buildId
  | .message (.buildRevoke buildId _) => .revoking buildId
  | .message (.unauthorizedBuildAction _ _ _) => .select
  | .error _ => .detaching
  | .ignored => .select

def receive (frame : Incoming) : Option Worker :=
  match worker.stage with
  | .select => some { worker with stage := stageAfter frame }
  | _ => none

def takeOutput : Option Worker :=
  match worker.stage, worker.channel with
  | .select, some (message :: messages) =>
    some { worker with stage := .forwarding message, channel := some messages }
  | _, _ => none

/-- Go on once the components were unpacked, or reject the build. -/
def prepared (refusal : Option String) : Option Worker :=
  match worker.stage, refusal with
  | .preparing buildId, some reason =>
    some { worker with stage := .replying (.buildRejected buildId reason) }
  | .preparing buildId, none => some { worker with stage := .accepting buildId }
  | _, _ => none

/-- Go on once the subprocess was started, or report that it could not be. -/
def spawned (error : Option String) : Option Worker :=
  match worker.stage, error with
  | .spawning buildId, some reason =>
    some
      { worker with
        stage := .replying
          (.buildFinished buildId .failure (some ("spawn failed: " ++ reason)) none) }
  | .spawning buildId, none => some { worker with stage := .registering buildId }
  | _, _ => none

/-- The channel that the supervisor sends to, unless it is closed. -/
def transport (worker : Worker) : Option (List WorkerMessage) :=
  if worker.supervisor.transport = some worker.connection then worker.channel else none

variable (config : WorkerConfig)

/-- Hand a message to the supervisor: it is dropped, kept for the next connection or to be sent. -/
def onOutputMessage (worker : Worker) (task : Nat) (message : WorkerMessage) : Worker :=
  match message.streamedBuild, worker.supervisor.active with
  | none, _ =>
    if worker.supervisor.transport = none then worker
    else { worker with holder := some (task, message) }
  | some _, none => worker
  | some buildId, some active =>
    if active.buildId ≠ buildId then worker
    else if worker.supervisor.transport = none then
      { worker with supervisor := worker.supervisor.spoolAndFinalize config message }
    else { worker with holder := some (task, message) }

/-- Take a message from the channel of a streaming task. -/
def drain (worker : Worker) (task : Nat) : Option Worker :=
  match worker.streamers[task]? with
  | some streamer =>
    match streamer.queue with
    | message :: messages =>
      worker.locked
        ({ worker with
          streamers := worker.streamers.set task { streamer with queue := messages }
          }.onOutputMessage config task message)
    | [] => none
  | none => none

/-- Keep a message that could not be sent, since the channel was closed. -/
def recoverMessage (worker : Worker) (message : WorkerMessage) : Worker :=
  match message.streamedBuild with
  | some _ =>
    { worker with
      holder := none
      supervisor := worker.supervisor.detachTransport.spoolAndFinalize config message }
  | none => { worker with holder := none }

/-- Send the message that waits with the mutex. -/
def push (worker : Worker) : Option Worker :=
  match worker.holder with
  | some (_, message) =>
    match worker.transport with
    | some messages =>
      if messages.length < config.capacity then
        some { worker with holder := none, channel := some (messages ++ [message]) }
      else none
    | none => some (worker.recoverMessage config message)
  | none => none

def updateStreamer (task : Nat) (change : Streamer → Option Streamer) : Option Worker :=
  match worker.streamers[task]? with
  | some streamer =>
    match change streamer with
    | some next => some { worker with streamers := worker.streamers.set task next }
    | none => none
  | none => none

/-- A streaming task ends when it has sent everything and its drainer has nothing left. -/
def finish (task : Nat) : Option Worker :=
  worker.updateStreamer task fun streamer =>
    if streamer.source = .closed ∧ streamer.queue = [] ∧ ∀ held ∈ worker.holder, held.1 ≠ task then
      some { streamer with ended := true }
    else none

/-- The loop runs, and the sampler with it. -/
def Samples : Stage → Prop
  | .offline | .attaching | .snapshotting | .reading _ | .recording _ _ | .sending _ => False
  | _ => True

instance : DecidablePred Samples
  | .offline | .attaching | .snapshotting | .reading _ | .recording _ _ | .sending _ => isFalse id
  | .select | .forwarding _ | .checking _ | .preparing _ | .accepting _ | .spawning _
  | .registering _ | .starting _ | .marking _ | .launching _ | .attachingTask _ _ | .revoking _
  | .detaching | .replying _ => isTrue trivial

/-- Put a metrics sample in the channel, if it has a free slot. -/
def sample (worker : Worker) : Option Worker :=
  match worker.channel with
  | some messages =>
    if Samples worker.stage ∧ messages.length < config.capacity then
      some { worker with channel := some (messages ++ [.metrics]) }
    else none
  | none => none

/-- Change where a task that retires a build is. -/
def setRetirement (task : Nat) (stage : RetireStage) : Worker :=
  { worker with
    retirements := worker.retirements.modify task fun retirement => { retirement with stage } }

def retireTake (worker : Worker) (task : Nat) (buildId : BuildId) : Worker :=
  match worker.supervisor.retireTake buildId with
  | (supervisor, some (outputTask, spoolPath)) =>
    { worker with supervisor }.setRetirement task (.waiting outputTask spoolPath)
  | (_, none) => worker.setRetirement task .done

def Ended (task : Nat) : Prop :=
  ∀ streamer ∈ worker.streamers[task]?, streamer.ended = true

instance (task : Nat) : Decidable (worker.Ended task) :=
  inferInstanceAs (Decidable (∀ streamer ∈ worker.streamers[task]?, streamer.ended = true))

def removeSpool (worker : Worker) (spoolPath : Option BuildId) : Worker :=
  { worker with
    supervisor :=
      match spoolPath with
      | some path => worker.supervisor.removeSpool path
      | none => worker.supervisor }

def retire (task : Nat) : Option Worker :=
  match worker.retirements[task]? with
  | some ⟨buildId, .taking⟩ => worker.locked (worker.retireTake task buildId)
  | some ⟨_, .waiting outputTask spoolPath⟩ =>
    if ∀ awaited ∈ outputTask, worker.Ended awaited then
      some ((worker.removeSpool spoolPath).setRetirement task .clearing)
    else none
  | some ⟨buildId, .clearing⟩ =>
    worker.locked
      ({ worker with
        supervisor := worker.supervisor.retireClear buildId }.setRetirement task .done)
  | some ⟨_, .done⟩ | none => none

/-- One step of the process, if it is possible. -/
def step (worker : Worker) : WorkerStep → Option Worker
  | .connect => worker.connect
  | .proceed => worker.proceed
  | .disconnect => worker.disconnect
  | .receive frame => worker.receive frame
  | .takeOutput => worker.takeOutput
  | .prepared refusal => worker.prepared refusal
  | .spawned error => worker.spawned error
  | .stdout task event => worker.updateStreamer task (·.produce config.capacity event)
  | .close task => worker.updateStreamer task (·.close config.capacity)
  | .drain task => worker.drain config task
  | .push => worker.push config
  | .finish task => worker.finish task
  | .sample => worker.sample config
  | .retire task => worker.retire task

/-- The configuration of a worker, with messages of one byte. -/
def workerConfig : WorkerConfig :=
  ⟨64, 64 * 1024 * 1024, fun _ => 1⟩

def dispatchedDescriptor : BuildDescriptor :=
  ⟨"19.2.3", none, none, ⟨"alice", "alice@example.com"⟩, ⟨"ceph/ceph", "v19.2.3"⟩,
    [⟨"ceph", "v19.2.3", none⟩], ⟨"rockylinux", "el9", "rpm", .x86_64⟩⟩

def connects : List WorkerStep :=
  [.connect, .proceed, .proceed, .proceed, .proceed]

def startsBuild (buildId : BuildId) : List WorkerStep :=
  [.receive (.message (.buildNew buildId "trace" .normal dispatchedDescriptor "")), .proceed,
    .prepared none, .proceed, .spawned none, .proceed, .proceed, .proceed, .proceed, .proceed]

/-- The first task sends a batch, and its drainer puts it in the channel. -/
def sendsBatch : List WorkerStep :=
  [.stdout 0 (.line "compiling"), .stdout 0 .timer, .drain 0, .push]

def endsBuild : List WorkerStep :=
  [.stdout 0 (.result (some ⟨0, none, none⟩)), .stdout 0 .eof, .close 0]

end Worker

end Cbs

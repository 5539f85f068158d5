import Cbs.Proto

/-!
# The streaming task of a build

The output of the subprocess is read line by line and sent in batches; its end is sent last.  The
messages go through a bounded channel to the drainer, which hands them to the supervisor.
-/

namespace Cbs

/-- The status that the exit code of a subprocess stands for. -/
def classifyExitCode : Option Int → BuildFinishedStatus
  | some 0 => .success
  | some 137 | some 143 => .revoked
  | _ => .failure

structure WrapperResult where
  exitCode : Int
  error : Option String
  /-- The report, if there is one and it is not too large. -/
  buildReport : Option String
  deriving DecidableEq

/-- What can happen on the standard output of the subprocess. -/
inductive StdoutEvent where
  | missing
  | line (text : String)
  /-- A line that is marked as the result; it may not be JSON. -/
  | result (parsed : Option WrapperResult)
  | timer
  | eof
  | readError (text : String)
  deriving DecidableEq

/-- Whether the streaming task still reads. -/
inductive StreamerSource where
  | reading
  | closing (terminal : WorkerMessage)
  | closed
  deriving DecidableEq

/-- A streaming task and its drainer. -/
structure Streamer where
  buildId : BuildId
  source : StreamerSource
  lineCount : Nat
  batch : List String
  batchStartSeq : Nat
  wrapperResult : Option WrapperResult
  queue : List WorkerMessage
  ended : Bool
  deriving DecidableEq

namespace Streamer

def launch (buildId : BuildId) : Streamer :=
  ⟨buildId, .reading, 0, [], 0, none, [], false⟩

/-- The most lines in a batch before it is sent. -/
def batchMaxLines : Nat := 50

def collect (streamer : Streamer) (text : String) : Streamer :=
  { streamer with
    batch := streamer.batch ++ [text]
    batchStartSeq := if streamer.batch = [] then streamer.lineCount else streamer.batchStartSeq
    lineCount := streamer.lineCount + 1 }

def flushBatch (streamer : Streamer) : Streamer :=
  { streamer with
    queue := streamer.queue ++
      [.buildOutput streamer.buildId streamer.batchStartSeq streamer.batch]
    batch := [] }

/-- Send the batch, if there is one. -/
def flushRest (streamer : Streamer) : Streamer :=
  if streamer.batch = [] then streamer else streamer.flushBatch

/-- The end that the result of the wrapper stands for. -/
def terminalMessage (streamer : Streamer) : WorkerMessage :=
  match streamer.wrapperResult with
  | some result =>
    .buildFinished streamer.buildId (classifyExitCode (some result.exitCode)) result.error
      result.buildReport
  | none => .buildFinished streamer.buildId .failure none none

/-- The line that is added to the output for the error of a result. -/
def errorLine (result : WrapperResult) : Option String :=
  match result.error with
  | some error => if error = "" then none else some ("[cbsd] build failed: " ++ error)
  | none => none

def onResult (streamer : Streamer) (result : WrapperResult) : Streamer :=
  { (match errorLine result with
      | some text => streamer.collect text
      | none => streamer) with
    wrapperResult := some result }

/-- What the task does with an event while it reads. -/
def onStdout (streamer : Streamer) : StdoutEvent → Streamer
  | .missing =>
    { streamer with
      source := .closing
        (.buildFinished streamer.buildId .failure (some "no stdout on subprocess") none) }
  | .line text =>
    if batchMaxLines ≤ (streamer.collect text).batch.length then
      (streamer.collect text).flushBatch
    else streamer.collect text
  | .result none => streamer
  | .result (some result) => streamer.onResult result
  | .timer => streamer.flushRest
  | .eof => { streamer.flushRest with source := .closing streamer.terminalMessage }
  | .readError text =>
    { streamer.flushRest with
      source := .closing
        (.buildFinished streamer.buildId .failure
          (some ("output streaming error: failed to read subprocess output: " ++ text)) none) }

/-- One step of the task, if it is at an event and there is room in the channel. -/
def produce (capacity : Nat) (streamer : Streamer) (event : StdoutEvent) : Option Streamer :=
  if streamer.source = .reading ∧ (streamer.onStdout event).queue.length ≤ capacity ∧
      (event = .missing → streamer = launch streamer.buildId) then
    some (streamer.onStdout event)
  else none

def close (capacity : Nat) (streamer : Streamer) : Option Streamer :=
  match streamer.source with
  | .closing terminal =>
    if streamer.queue.length < capacity then
      some { streamer with queue := streamer.queue ++ [terminal], source := .closed }
    else none
  | _ => none

variable {streamer next last : Streamer} {sent : List WorkerMessage}

/-- The number of the next line that is sent. -/
def floor (streamer : Streamer) : Nat :=
  if streamer.batch = [] then streamer.lineCount else streamer.batchStartSeq

def Counts (streamer : Streamer) : Prop :=
  streamer.batch ≠ [] → streamer.batchStartSeq < streamer.lineCount

theorem counts_launch (buildId : BuildId) : (launch buildId).Counts :=
  fun nonempty => (nonempty rfl).elim

/-- A step that sends at most one batch, with lines that were not sent before. -/
structure Sends (streamer next : Streamer) (sent : List WorkerMessage) : Prop where
  buildId : next.buildId = streamer.buildId
  queue : next.queue = streamer.queue ++ sent
  ended : next.ended = streamer.ended
  counts : next.Counts
  batch : sent = [] ∧ streamer.floor ≤ next.floor ∨
    ∃ startSeq lines, sent = [.buildOutput streamer.buildId startSeq lines] ∧
      streamer.floor ≤ startSeq ∧ startSeq < next.floor

theorem Sends.after_nothing (nothing : streamer.Sends next []) (sends : next.Sends last sent) :
    streamer.Sends last sent := by
  have risen : streamer.floor ≤ next.floor := by
    rcases nothing.batch with ⟨-, risen⟩ | ⟨startSeq, lines, impossible, -⟩
    · exact risen
    · cases impossible
  refine ⟨sends.buildId.trans nothing.buildId, ?_, sends.ended.trans nothing.ended,
    sends.counts, ?_⟩
  · rw [sends.queue, nothing.queue, List.append_nil]
  · rw [← nothing.buildId]
    rcases sends.batch with ⟨isNil, further⟩ | ⟨startSeq, lines, isSent, further, below⟩
    · exact .inl ⟨isNil, risen.trans further⟩
    · exact .inr ⟨startSeq, lines, isSent, risen.trans further, below⟩

variable (counts : streamer.Counts)
include counts

theorem sends_nothing : streamer.Sends streamer [] :=
  ⟨rfl, by simp, rfl, counts, .inl ⟨rfl, Nat.le_refl _⟩⟩

theorem sends_collect (text : String) :
    streamer.Sends (streamer.collect text) [] := by
  have bounded : (streamer.collect text).Counts := by
    intro _
    simp only [collect]
    split_ifs with empty
    · exact Nat.lt_succ_self _
    · exact Nat.lt_succ_of_lt (counts empty)
  have same : (streamer.collect text).floor = streamer.floor := by
    simp only [floor, collect, List.append_eq_nil_iff, List.cons_ne_self, and_false, if_false]
  exact ⟨rfl, by simp [collect], rfl, bounded, .inl ⟨rfl, same.ge⟩⟩

theorem sends_flushBatch (nonempty : streamer.batch ≠ []) :
    streamer.Sends streamer.flushBatch
      [.buildOutput streamer.buildId streamer.batchStartSeq streamer.batch] := by
  refine ⟨rfl, rfl, rfl, fun nonempty => (nonempty rfl).elim, .inr ⟨_, _, rfl, ?_, ?_⟩⟩
  · rw [floor, if_neg nonempty]
  · exact counts nonempty

theorem sends_flushRest :
    ∃ sent, streamer.Sends streamer.flushRest sent := by
  unfold flushRest
  split_ifs with empty
  · exact ⟨[], sends_nothing counts⟩
  · exact ⟨_, sends_flushBatch counts empty⟩

omit counts

theorem Sends.relabel (sends : streamer.Sends next sent) (source : StreamerSource)
    (wrapperResult : Option WrapperResult) :
    streamer.Sends { next with source, wrapperResult } sent :=
  ⟨sends.buildId, sends.queue, sends.ended, sends.counts, sends.batch⟩

theorem sends_onStdout (counts : streamer.Counts) (event : StdoutEvent) :
    ∃ sent, streamer.Sends (streamer.onStdout event) sent := by
  cases event with
  | missing => exact ⟨[], (sends_nothing counts).relabel _ _⟩
  | line text =>
    have collected := sends_collect counts text
    simp only [onStdout]
    split_ifs
    · have nonempty : (streamer.collect text).batch ≠ [] := by simp [collect]
      exact ⟨_, collected.after_nothing (sends_flushBatch collected.counts nonempty)⟩
    · exact ⟨[], collected⟩
  | result parsed =>
    cases parsed with
    | none => exact ⟨[], sends_nothing counts⟩
    | some result =>
      simp only [onStdout, onResult]
      cases errorLine result with
      | none => exact ⟨[], (sends_nothing counts).relabel _ _⟩
      | some text => exact ⟨[], (sends_collect counts text).relabel _ _⟩
  | timer => exact sends_flushRest counts
  | eof | readError text =>
    obtain ⟨sent, sends⟩ := sends_flushRest counts
    exact ⟨sent, sends.relabel _ _⟩

theorem fixed_onStdout (streamer : Streamer) (event : StdoutEvent) :
    (streamer.onStdout event).buildId = streamer.buildId ∧
      (streamer.onStdout event).ended = streamer.ended := by
  have rest : streamer.flushRest.buildId = streamer.buildId ∧
      streamer.flushRest.ended = streamer.ended := by
    unfold flushRest
    split_ifs <;> exact ⟨rfl, rfl⟩
  cases event with
  | line text =>
    simp only [onStdout]
    split_ifs <;> exact ⟨rfl, rfl⟩
  | result parsed =>
    cases parsed with
    | none => exact ⟨rfl, rfl⟩
    | some result =>
      simp only [onStdout, onResult]
      cases errorLine result <;> exact ⟨rfl, rfl⟩
  | timer | eof | readError text => exact rest
  | missing => exact ⟨rfl, rfl⟩

theorem terminalMessage_eq (streamer : Streamer) :
    ∃ status error report,
      streamer.terminalMessage = .buildFinished streamer.buildId status error report := by
  unfold terminalMessage
  cases streamer.wrapperResult with
  | none | some result => exact ⟨_, _, _, rfl⟩

theorem source_onStdout (reading : streamer.source = .reading) (event : StdoutEvent) :
    (streamer.onStdout event).source = .reading ∨
      ∃ status error report, (streamer.onStdout event).source =
        .closing (.buildFinished streamer.buildId status error report) := by
  cases event with
  | missing => exact .inr ⟨_, _, _, rfl⟩
  | line text =>
    left
    simp only [onStdout]
    split_ifs <;> exact reading
  | result parsed =>
    left
    cases parsed with
    | none => exact reading
    | some result =>
      simp only [onStdout, onResult]
      cases errorLine result <;> exact reading
  | timer =>
    left
    simp only [onStdout, flushRest]
    split_ifs <;> exact reading
  | eof =>
    right
    obtain ⟨status, error, report, same⟩ := streamer.terminalMessage_eq
    exact ⟨status, error, report, by rw [← same]; rfl⟩
  | readError text => exact .inr ⟨_, _, _, rfl⟩

end Streamer

end Cbs

import Mathlib.Algebra.Group.Nat.Defs
import Cbs.Worker.Streamer

/-!
# Batches of output

The batches that the streaming task sends for the lines of a subprocess and the firings of the flush
timer.
-/

namespace Cbs

structure SerdeJson where
  Value : Type
  fromStr : String → Option Value
  get : Value → String → Option Value
  asStr : Value → Option String
  /-- The value of a number that fits into 64 bits with a sign. -/
  asI64 : Value → Option Int
  isNull : Value → Bool
  toText : Value → String

def maxReportSize : Nat := 65536

/-- The line is marked as the result of the wrapper. -/
def isResultLine (line : String) : Bool :=
  ('{' :: "\"type\":\"result\"".toList).isPrefixOf line.toList ||
    ('{' :: "\"type\": \"result\"".toList).isPrefixOf line.toList

variable (json : SerdeJson)

/-- The report of a result, unless it is too large or null. -/
def reportOf (parsed : json.Value) : Option String :=
  match json.get parsed "build_report" with
  | none => none
  | some report =>
    if maxReportSize < (json.toText report).utf8ByteSize then none
    else if json.isNull report then none
    else some (json.toText report)

/-- What a result line says, if it is JSON.  The exit code is cut to 32 bits. -/
def parseResult (line : String) : Option WrapperResult :=
  (json.fromStr line).map fun parsed =>
    { exitCode := Int.bmod (((json.get parsed "exit_code").bind json.asI64).getD (-1)) (2 ^ 32)
      error := (json.get parsed "error").bind json.asStr
      buildReport := reportOf json parsed }

/-- What wakes the task up. -/
inductive StdoutInput where
  | line (text : String)
  | timer

/-- How the task takes what wakes it up. -/
def StdoutInput.event : StdoutInput → StdoutEvent
  | line text => if isResultLine text then .result (parseResult json text) else .line text
  | timer => .timer

/-- The task after some lines and firings of the timer, and the end of the output. -/
def streamOutput (buildId : BuildId) (inputs : List StdoutInput) : Streamer :=
  ((inputs.map (·.event json)).foldl Streamer.onStdout (.launch buildId)).onStdout .eof

/-- What a line of the subprocess becomes in the output. -/
def outputOfLine (text : String) : List String :=
  if isResultLine text then
    match (json.fromStr text).bind fun parsed => (json.get parsed "error").bind json.asStr with
    | some error => if error = "" then [] else ["[cbsd] build failed: " ++ error]
    | none => []
  else [text]

def StdoutInput.output : StdoutInput → List String
  | line text => outputOfLine json text
  | timer => []

/-- Batches that are numbered from a number on without gaps. -/
def Contiguous : Nat → List (Nat × List String) → Prop
  | _, [] => True
  | next, (startSeq, lines) :: batches =>
    startSeq = next ∧ Contiguous (next + lines.length) batches

theorem contiguous_append {next : Nat} {batches : List (Nat × List String)} {startSeq : Nat}
    {lines : List String} (contiguous : Contiguous next batches)
    (follows : startSeq = next + (batches.flatMap Prod.snd).length) :
    Contiguous next (batches ++ [(startSeq, lines)]) := by
  induction batches generalizing next with
  | nil => exact ⟨by simpa using follows, trivial⟩
  | cons batch batches ih =>
    obtain ⟨first, others⟩ := contiguous
    refine ⟨first, ih others ?_⟩
    rw [follows, List.flatMap_cons, List.length_append, Nat.add_assoc]

/-- The task has sent some batches, and together with the lines that it still holds they are the
output so far. -/
structure Streamer.Streamed (streamer : Streamer) (buildId : BuildId) (output : List String)
    (batches : List (Nat × List String)) : Prop where
  isBuild : streamer.buildId = buildId
  sent : streamer.queue = batches.map fun batch => .buildOutput buildId batch.1 batch.2
  nonempty : ∀ batch ∈ batches, batch.2 ≠ []
  contiguous : Contiguous 0 batches
  lines : batches.flatMap Prod.snd ++ streamer.batch = output
  counted : streamer.lineCount = output.length
  follows : streamer.batch ≠ [] →
    streamer.batchStartSeq = (batches.flatMap Prod.snd).length

namespace Streamer

variable {streamer : Streamer} {buildId : BuildId} {output : List String}
  {batches : List (Nat × List String)}

theorem streamed_launch (buildId : BuildId) : (launch buildId).Streamed buildId [] [] :=
  ⟨rfl, rfl, by simp, trivial, rfl, rfl, fun held => absurd rfl held⟩

variable (streamed : streamer.Streamed buildId output batches)

include streamed

theorem Streamed.collect (text : String) :
    (streamer.collect text).Streamed buildId (output ++ [text]) batches := by
  refine ⟨streamed.isBuild, streamed.sent, streamed.nonempty, streamed.contiguous, ?_, ?_, ?_⟩
  · rw [Streamer.collect, ← List.append_assoc, streamed.lines]
  · simp [Streamer.collect, streamed.counted]
  · intro _
    simp only [Streamer.collect]
    split_ifs with empty
    · rw [streamed.counted, ← streamed.lines, empty, List.append_nil]
    · exact streamed.follows empty

theorem Streamed.flushBatch (held : streamer.batch ≠ []) :
    streamer.flushBatch.Streamed buildId output
      (batches ++ [(streamer.batchStartSeq, streamer.batch)]) := by
  refine ⟨streamed.isBuild, ?_, ?_, ?_, ?_, streamed.counted, fun held => absurd rfl held⟩
  · simp [Streamer.flushBatch, streamed.sent, streamed.isBuild]
  · exact List.forall_mem_append.mpr ⟨streamed.nonempty, List.forall_mem_singleton.mpr held⟩
  · exact contiguous_append streamed.contiguous (by rw [streamed.follows held, Nat.zero_add])
  · simpa [Streamer.flushBatch] using streamed.lines

theorem Streamed.flushRest :
    ∃ batches, streamer.flushRest.Streamed buildId output batches ∧
      streamer.flushRest.batch = [] := by
  unfold Streamer.flushRest
  split_ifs with empty
  · exact ⟨batches, streamed, empty⟩
  · exact ⟨_, streamed.flushBatch empty, rfl⟩

theorem Streamed.relabel (source : StreamerSource) (wrapperResult : Option WrapperResult) :
    { streamer with source, wrapperResult }.Streamed buildId output batches :=
  ⟨streamed.isBuild, streamed.sent, streamed.nonempty, streamed.contiguous, streamed.lines,
    streamed.counted, streamed.follows⟩

omit streamed

theorem outputOfLine_of_result {json : SerdeJson} {text : String}
    (marked : isResultLine text = true) :
    outputOfLine json text = ((parseResult json text).bind errorLine).toList := by
  rw [outputOfLine, if_pos marked, parseResult]
  cases json.fromStr text with
  | none => rfl
  | some parsed =>
    simp only [Option.bind_some, Option.map_some, errorLine]
    cases (json.get parsed "error").bind json.asStr with
    | none => rfl
    | some error =>
      dsimp only
      split_ifs <;> rfl

variable (streamed : streamer.Streamed buildId output batches)

include streamed

theorem Streamed.onResult (parsed : Option WrapperResult) :
    (streamer.onStdout (.result parsed)).Streamed buildId
      (output ++ (parsed.bind errorLine).toList) batches := by
  cases parsed with
  | none => simpa [Streamer.onStdout] using streamed
  | some result =>
    simp only [Streamer.onStdout, Streamer.onResult, Option.bind_some]
    cases errorLine result with
    | none => simpa using streamed.relabel _ _
    | some text => exact (streamed.collect text).relabel _ _

theorem Streamed.onInput (json : SerdeJson) (input : StdoutInput) :
    ∃ batches, (streamer.onStdout (input.event json)).Streamed buildId
      (output ++ input.output json) batches := by
  cases input with
  | timer =>
    obtain ⟨batches, flushed, -⟩ := streamed.flushRest
    exact ⟨batches, by simpa [StdoutInput.event, StdoutInput.output, onStdout] using flushed⟩
  | line text =>
    simp only [StdoutInput.event, StdoutInput.output]
    by_cases marked : isResultLine text = true
    · rw [if_pos marked, outputOfLine_of_result marked]
      exact ⟨batches, streamed.onResult _⟩
    · have collected := streamed.collect text
      rw [if_neg marked, outputOfLine, if_neg marked]
      simp only [onStdout]
      split_ifs
      · exact ⟨_, collected.flushBatch (by simp [Streamer.collect])⟩
      · exact ⟨batches, collected⟩

theorem Streamed.run (json : SerdeJson) (inputs : List StdoutInput) :
    ∃ batches, ((inputs.map (·.event json)).foldl onStdout streamer).Streamed buildId
      (output ++ inputs.flatMap (·.output json)) batches := by
  induction inputs generalizing streamer output batches with
  | nil => exact ⟨batches, by simpa using streamed⟩
  | cons input inputs ih =>
    obtain ⟨_, stepped⟩ := streamed.onInput json input
    obtain ⟨batches, ran⟩ := ih stepped
    exact ⟨batches, by simpa using ran⟩

end Streamer

/-- What is sent for the output of a subprocess is a sequence of nonempty batches, numbered from
zero on without gaps, and their lines are those of the subprocess without its result lines, each of
which is replaced by a line for its error, if it has one. -/
theorem streamOutput_lossless (json : SerdeJson) (buildId : BuildId) (inputs : List StdoutInput) :
    ∃ batches, (streamOutput json buildId inputs).queue =
        (batches.map fun batch => .buildOutput buildId batch.1 batch.2) ∧
      (∀ batch ∈ batches, batch.2 ≠ []) ∧ Contiguous 0 batches ∧
      batches.flatMap Prod.snd = inputs.flatMap (·.output json) := by
  obtain ⟨_, streamed⟩ := (Streamer.streamed_launch buildId).run json inputs
  obtain ⟨batches, flushed, empty⟩ := streamed.flushRest
  refine ⟨batches, flushed.sent, flushed.nonempty, flushed.contiguous, ?_⟩
  have lines := flushed.lines
  rwa [empty, List.append_nil, List.nil_append] at lines

end Cbs

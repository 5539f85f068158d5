import Mathlib.Data.List.DropRight
import Mathlib.Data.String.Basic
import Cbs.Library.Transition

/-!
# Log streams

The messages of a build go through a Redis stream.  The logger of the service, which asks for
entries that are added after the question, loses what is added while it writes.  A client that
follows the log forgets the last entry it knows when an answer is empty.
-/

namespace Cbs

open Transition

/-- A message that is added to a stream is not empty. -/
abbrev LogMessage := { text : String // text ≠ "" }

/-- Where the logger of a build is in its loop. -/
inductive LoggerPhase where
  /-- Redis has not got the next question. -/
  | idle
  /-- Redis has got the question and not answered it; these entries have arrived since. -/
  | reading (arrived : List LogMessage)
  | writing (entries : List LogMessage)
  | cancelled

structure LoggerState where
  stream : List LogMessage
  phase : LoggerPhase
  file : String

inductive LoggerStep where
  | append (message : LogMessage)
  | listen
  | answer
  | write
  | flush
  /-- The logger is cancelled; a write that was begun may still take place. -/
  | finish (lands : Bool)

namespace LoggerState

def initial : LoggerState := ⟨[], .idle, ""⟩

def endMarker : String := "--- build log end ---\n"

/-- What is written for an entry. -/
def logLine (strip : String → String) (message : LogMessage) : String :=
  if message.val = "" then "" else strip message.val ++ "\n"

/-- Every message in a line of its own. -/
def render (strip : String → String) (messages : List LogMessage) : String :=
  String.join (messages.map fun message => strip message.val ++ "\n")

/-- `BuildLogsHandler._logger`, the worker's `log_for_build` and `BuildLogsHandler.finish`. -/
def step (strip : String → String) (state : LoggerState) : LoggerStep → Option LoggerState
  | .append message =>
    match state.phase with
    | .cancelled => none
    | .reading arrived =>
      some { state with
        stream := state.stream ++ [message], phase := .reading (arrived ++ [message]) }
    | _ => some { state with stream := state.stream ++ [message] }
  | .listen =>
    match state.phase with
    | .idle => some { state with phase := .reading [] }
    | _ => none
  | .answer =>
    match state.phase with
    | .reading (first :: arrived) => some { state with phase := .writing (first :: arrived) }
    | _ => none
  | .write =>
    match state.phase with
    | .writing (message :: entries) =>
      some { state with phase := .writing entries, file := state.file ++ logLine strip message }
    | _ => none
  | .flush =>
    match state.phase with
    | .writing [] => some { state with phase := .idle }
    | _ => none
  | .finish lands =>
    match state.phase with
    | .cancelled => none
    | .writing (message :: _) =>
      let written := if lands then state.file ++ logLine strip message else state.file
      some { state with phase := .cancelled, file := written ++ endMarker }
    | _ => some { state with phase := .cancelled, file := state.file ++ endMarker }

def pending (state : LoggerState) : List LogMessage :=
  match state.phase with
  | .reading arrived => arrived
  | .writing entries => entries
  | _ => []

/-- A message is added while Redis holds a question of the logger, and the logger is cancelled when
nothing but a write that takes place is left to do. -/
def Heeds (state : LoggerState) : LoggerStep → Prop
  | .append _ => ∃ arrived, state.phase = .reading arrived
  | .finish lands =>
    state.pending = [] ∨ lands = true ∧ ∃ message, state.phase = .writing [message]
  | _ => True

variable {strip : String → String} {state after final : LoggerState} {label : LoggerStep}

/-- The text of the log file when everything that is pending has been written. -/
def collected (strip : String → String) (state : LoggerState) : String :=
  state.file ++ render strip state.pending

theorem logLine_eq (message : LogMessage) : logLine strip message = strip message.val ++ "\n" :=
  if_neg message.property

theorem render_cons (message : LogMessage) (messages : List LogMessage) :
    render strip (message :: messages) = logLine strip message ++ render strip messages := by
  rw [logLine_eq, render, List.map_cons, String.join_cons, render]

theorem render_append (first second : List LogMessage) :
    render strip (first ++ second) = render strip first ++ render strip second := by
  induction first with
  | nil => exact (String.empty_append).symm
  | cons message first ih =>
    rw [List.cons_append, render_cons, ih, render_cons, String.append_assoc]

theorem length_render_pos (strip : String → String) {messages : List LogMessage}
    (some : messages ≠ []) :
    0 < (render strip messages).length := by
  cases messages with
  | nil => exact absurd rfl some
  | cons message messages =>
    rw [render_cons, logLine_eq, String.length_append, String.length_append]
    have newline : "\n".length = 1 := rfl
    omega

/-- A step before the end adds to the stream what it adds to the file, or less if it does not heed
the condition. -/
theorem step_gains (stepped : state.step strip label = some after)
    (goesOn : ∀ lands, label ≠ .finish lands) :
    ∃ due, render strip after.stream = render strip state.stream ++ due ∧
      (state.Heeds label ∧ collected strip after = collected strip state ++ due ∨
        ¬ state.Heeds label ∧ collected strip after = collected strip state ∧
          0 < due.length) := by
  obtain ⟨stream, phase, file⟩ := state
  cases label with
  | append message =>
    have added : render strip (stream ++ [message]) =
        render strip stream ++ render strip [message] := render_append stream [message]
    refine ⟨render strip [message], ?_⟩
    cases phase with
    | cancelled => cases stepped
    | reading arrived =>
      cases stepped
      refine ⟨added, Or.inl ⟨⟨arrived, rfl⟩, ?_⟩⟩
      simp only [collected, pending, render_append, String.append_assoc]
    | idle | writing entries =>
      cases stepped
      exact ⟨added, Or.inr ⟨nofun, rfl, length_render_pos strip (by simp)⟩⟩
  | finish lands => exact absurd rfl (goesOn lands)
  | write =>
    refine ⟨"", ?_⟩
    simp only [step] at stepped
    split at stepped
    · cases stepped
      refine ⟨String.append_empty.symm, Or.inl ⟨trivial, ?_⟩⟩
      simp only [collected, pending, render_cons, String.append_assoc, String.append_empty]
    · cases stepped
  | _ =>
    refine ⟨"", ?_⟩
    simp only [step] at stepped
    split at stepped
    · cases stepped
      exact ⟨String.append_empty.symm, Or.inl ⟨trivial, String.append_empty.symm⟩⟩
    · cases stepped

/-- The file is complete at the end exactly when nothing was lost before and nothing is lost
then. -/
theorem finish_complete_iff {lands : Bool} (stepped : state.step strip (.finish lands) = some final)
    (bounded : (collected strip state).length ≤ (render strip state.stream).length) :
    final.file = render strip final.stream ++ endMarker ↔
      collected strip state = render strip state.stream ∧ state.Heeds (.finish lands) := by
  have split : ∃ written left, final.file = written ++ endMarker ∧ final.stream = state.stream ∧
      collected strip state = written ++ render strip left ∧
      (left = [] ↔ state.Heeds (.finish lands)) := by
    obtain ⟨stream, phase, file⟩ := state
    cases phase with
    | cancelled => cases stepped
    | idle =>
      cases stepped
      exact ⟨file, [], rfl, rfl, rfl, by simp [Heeds, pending]⟩
    | reading arrived =>
      cases stepped
      exact ⟨file, arrived, rfl, rfl, rfl, by simp [Heeds, pending]⟩
    | writing entries =>
      cases entries with
      | nil =>
        cases stepped
        exact ⟨file, [], rfl, rfl, rfl, by simp [Heeds, pending]⟩
      | cons message entries =>
        cases stepped
        cases lands with
        | false => exact ⟨file, message :: entries, rfl, rfl, rfl, by simp [Heeds, pending]⟩
        | true =>
          refine ⟨file ++ logLine strip message, entries, rfl, rfl, ?_, ?_⟩
          · simp only [collected, pending, render_cons, String.append_assoc]
          · simp [Heeds, pending]
  obtain ⟨written, left, isFile, isStream, isCollected, nothingLeft⟩ := split
  rw [isFile, isStream, ← nothingLeft, isCollected]
  constructor
  · intro same
    have complete : written = render strip state.stream := String.append_left_inj _ |>.mp same
    have none : left = [] := by
      by_contra some
      have positive := length_render_pos strip some
      rw [isCollected, complete, String.length_append] at bounded
      omega
    rw [none, complete]
    exact ⟨String.append_empty, rfl⟩
  · rintro ⟨complete, rfl⟩
    rw [← complete]
    simp [render]

theorem not_run_of_finish {lands : Bool} (stepped : state.step strip (.finish lands) = some after)
    {labels : List LoggerStep} (more : labels ≠ []) :
    run (step strip) after labels ≠ some final := by
  have isCancelled : after.phase = .cancelled := by
    simp only [step] at stepped
    split at stepped
    · cases stepped
    all_goals
      cases stepped
      rfl
  cases labels with
  | nil => exact absurd rfl more
  | cons label labels =>
    have stops : after.step strip label = none := by
      cases label <;> simp [step, isCancelled]
    simp [run, stops]

/-- The log file of a build holds every message once and in order, exactly when all of them are
added while Redis holds a question of the logger and nothing is left to write at the end. -/
theorem log_complete_iff (strip : String → String) (labels : List LoggerStep) (lands : Bool)
    (final : LoggerState)
    (ran : run (step strip) initial (labels ++ [.finish lands]) = some final) :
    final.file = render strip final.stream ++ endMarker ↔
      AllowedRun (step strip) Heeds initial (labels ++ [.finish lands]) := by
  have general : ∀ labels state, run (step strip) state (labels ++ [.finish lands]) =
        some final → (collected strip state).length ≤ (render strip state.stream).length →
      (final.file = render strip final.stream ++ endMarker ↔
        collected strip state = render strip state.stream ∧
          AllowedRun (step strip) Heeds state (labels ++ [.finish lands])) := by
    intro labels
    induction labels with
    | nil =>
      intro state ran bounded
      obtain ⟨next, stepped, same⟩ := Option.bind_eq_some_iff.mp ran
      cases same
      rw [finish_complete_iff stepped bounded]
      simp [AllowedRun]
    | cons label labels ih =>
      intro state ran bounded
      obtain ⟨next, stepped, rest⟩ := Option.bind_eq_some_iff.mp ran
      have goesOn : ∀ lands, label ≠ .finish lands := by
        rintro lands rfl
        exact not_run_of_finish stepped (by simp) rest
      obtain ⟨due, added, gained⟩ := step_gains stepped goesOn
      have allowed : AllowedRun (step strip) Heeds state
            (label :: labels ++ [.finish lands]) ↔ state.Heeds label ∧
          AllowedRun (step strip) Heeds next (labels ++ [.finish lands]) := by
        simp [AllowedRun, stepped]
      rw [allowed]
      rcases gained with ⟨heeds, gained⟩ | ⟨ignores, kept, lost⟩
      · have bounded' : (collected strip next).length ≤ (render strip next.stream).length := by
          rw [gained, added, String.length_append, String.length_append]
          omega
        rw [ih next rest bounded', gained, added, String.append_left_inj]
        simp only [heeds, true_and]
      · have short : (collected strip next).length < (render strip next.stream).length := by
          rw [kept, added, String.length_append]
          omega
        rw [ih next rest short.le]
        constructor
        · rintro ⟨same, -⟩
          rw [same] at short
          exact absurd short (Nat.lt_irrefl _)
        · exact fun holds => absurd holds.2.1 ignores
  rw [general labels initial ran (by simp [collected, initial, pending, render])]
  exact and_iff_right rfl

/-- The messages of a small build. -/
def configuring : LogMessage := ⟨"configuring", by decide⟩

@[inherit_doc configuring]
def compiling : LogMessage := ⟨"compiling", by decide⟩

/-- The logger waits for a message, writes it and is cancelled. -/
def awaitsMessage : List LoggerStep := [.listen, .append configuring, .answer, .write, .flush]

/-- A message that the logger waits for is in the file. -/
theorem awaited_message_kept :
    (run (step id) initial (awaitsMessage ++ [.finish false])).isSome = true ∧
      ∀ final, run (step id) initial (awaitsMessage ++ [.finish false]) = some final →
        final.file = render id final.stream ++ endMarker := by
  refine ⟨rfl, fun final ran => (log_complete_iff id awaitsMessage false final ran).mpr ?_⟩
  simp [awaitsMessage, AllowedRun, step, initial, Heeds, pending]

/-- A message that is added while the logger writes the one before it is not in the file. -/
theorem overtaken_message_lost :
    (run (step id) initial
      [.listen, .append configuring, .answer, .append compiling, .write, .flush, .listen,
        .finish false]).map (fun final => (final.stream, final.file)) =
      some ([configuring, compiling], "configuring\n--- build log end ---\n") :=
  rfl

end LoggerState

/-- What a client shows: an entry of the stream, or a line of the log file. -/
inductive Shown where
  | entry (id : Nat) (message : String)
  | line (text : String)
  deriving DecidableEq

def Shown.id? : Shown → Option Nat
  | entry id _ => some id
  | line _ => none

/-- The answer to a client that follows a log. -/
structure BuildLogsFollowResponse where
  endOfStream : Bool
  lastId : Option Nat
  msgs : List Shown

/-- A build's log and a client that follows it.  The id of an entry is its position among all that
were ever added. -/
structure FollowState where
  messages : List String
  /-- So many of the oldest entries are not in the stream any more. -/
  trimmed : Nat
  tracked : Bool
  logged : List String
  lastId : Option Nat
  printed : List Shown
  /-- So many of the oldest entries were printed. -/
  read : Nat
  ended : Bool

inductive FollowStep where
  /-- An entry is added, and so many of the oldest ones are removed. -/
  | append (message : String) (evicted : Nat)
  | finish (logged : List String)
  | collect
  | probe

namespace FollowState

/-- A build without messages and a client that has not asked yet. -/
def initial : FollowState := ⟨[], 0, true, [], none, [], 0, false⟩

/-- Entries are removed from a stream only if so many are left.  The limit is an approximate one, so
that more of them may stay. -/
def maxLen : Nat := 100

/-- The number of messages of an answer, for the option of the client: without one the route has its
default, and what is out of range stands for the largest number. -/
def effectiveCount (numMsgs : Option Int) : Nat :=
  let n := match numMsgs with
    | none => 30
    | some n => if n = 0 then 30 else n
  if n ≤ 100 ∧ 0 < n then n.toNat else 100

/-- All entries that were ever in the stream. -/
def entries (state : FollowState) : List Shown := state.messages.mapIdx .entry

/-- `BuildLogsHandler._tail`. -/
def tail (state : FollowState) (maxMsgs : Nat) : BuildLogsFollowResponse :=
  let res := (state.entries.drop state.trimmed).rtake maxMsgs
  if res ≠ [] then
    ⟨!state.tracked, if state.tracked then res.head?.bind Shown.id? else none, res⟩
  else
    ⟨true, none, ((state.logged ++ ["--- build log end ---"]).rtake maxMsgs).map .line⟩

/-- `BuildLogsHandler.follow`. -/
def follow (state : FollowState) (since : Option Nat) (maxMsgs : Nat) : BuildLogsFollowResponse :=
  if state.tracked then
    let start := (since.map (· + 1)).getD 0
    let res := (state.entries.drop (max state.trimmed start)).take maxMsgs
    ⟨false, res.getLast?.bind Shown.id?, res⟩
  else state.tail maxMsgs

/-- The runs in which no entry leaves the stream before it was printed. -/
def step (maxMsgs : Nat) (state : FollowState) : FollowStep → Option FollowState
  | .append message evicted =>
    let messages := state.messages ++ [message]
    let trimmed := state.trimmed + evicted
    if state.ended = false ∧ evicted ≤ messages.length - state.trimmed - maxLen ∧
        trimmed ≤ state.read then
      some { state with messages, trimmed }
    else none
  | .finish logged =>
    if state.ended = false ∧ state.tracked then some { state with tracked := false, logged }
    else none
  | .collect =>
    if state.ended = false ∧ state.tracked = false ∧ state.read = state.messages.length then
      some { state with trimmed := state.messages.length }
    else none
  | .probe =>
    if state.ended then none
    else
      let res := state.follow state.lastId maxMsgs
      let seen := (res.msgs.getLast?.bind Shown.id?).map (· + 1)
      some { state with
        lastId := res.lastId
        printed := state.printed ++ res.msgs
        read := max state.read (seen.getD 0)
        ended := res.endOfStream }

/-- A client asks without an id only when nothing that it printed is in the stream, and of a
finished build it has not printed exactly as many entries as the answer has. -/
def Heeds (maxMsgs : Nat) (state : FollowState) : FollowStep → Prop
  | .probe =>
    if state.tracked then state.lastId = none → state.trimmed = state.read
    else state.trimmed < state.messages.length ∧
      state.messages.length - state.read = min maxMsgs (state.messages.length - state.trimmed)
  | _ => True

instance (maxMsgs : Nat) (state : FollowState) :
    (label : FollowStep) → Decidable (state.Heeds maxMsgs label)
  | .probe => inferInstanceAs (Decidable (if state.tracked = true then _ → _ else _ ∧ _))
  | .append _ _ | .finish _ | .collect => isTrue trivial

variable {maxMsgs : Nat} {state after final : FollowState} {label : FollowStep}

@[simp] theorem length_entries : state.entries.length = state.messages.length :=
  List.length_mapIdx

theorem id?_getElem?_entries {index : Nat} (inside : index < state.messages.length) :
    state.entries[index]?.bind Shown.id? = some index := by
  simp [entries, List.getElem?_mapIdx, List.getElem?_eq_getElem inside, Shown.id?]

theorem id?_getLast?_take_drop {start : Nat} (some : (state.entries.drop start).take maxMsgs ≠ []) :
    ((state.entries.drop start).take maxMsgs).getLast?.bind Shown.id? =
      .some (min (start + maxMsgs) state.messages.length - 1) := by
  have positive := List.length_pos_of_ne_nil some
  rw [List.length_take, List.length_drop, length_entries] at positive
  rw [List.getLast?_eq_getElem?, List.length_take, List.length_drop, length_entries,
    List.getElem?_take_of_lt (by omega), List.getElem?_drop]
  have index : start + (min maxMsgs (state.messages.length - start) - 1) =
      min (start + maxMsgs) state.messages.length - 1 := by omega
  rw [index]
  exact id?_getElem?_entries (by omega)

/-- The client printed the first entries, each once and in order. -/
structure Good (state : FollowState) : Prop where
  printed : state.printed = state.entries.take state.read
  bounded : state.read ≤ state.messages.length
  trimmed : state.trimmed ≤ state.read
  cursor : ∀ id ∈ state.lastId, id + 1 = state.read
  ended : state.ended = true → state.read = state.messages.length

theorem good_initial : Good initial := by
  refine ⟨rfl, Nat.le_refl _, Nat.le_refl _, nofun, nofun⟩

theorem goesOn_of_probe (stepped : state.step maxMsgs .probe = some after) :
    state.ended = false := by
  cases ended : state.ended with
  | false => rfl
  | true => simp [step, ended] at stepped

theorem Good.probe_tracked (good : state.Good) (positive : 0 < maxMsgs)
    (goesOn : state.ended = false) (isTracked : state.tracked = true)
    (heeds : state.Heeds maxMsgs .probe) (stepped : state.step maxMsgs .probe = some after) :
    after.Good := by
  have start : max state.trimmed ((state.lastId.map (· + 1)).getD 0) = state.read := by
    have before := good.trimmed
    cases isLast : state.lastId with
    | none =>
      simp only [Heeds, isTracked, if_true] at heeds
      simpa using heeds isLast
    | some id =>
      have here := good.cursor id isLast
      simp only [Option.map_some, Option.getD_some]
      omega
  simp only [step, goesOn, Bool.false_eq_true, if_false, follow, isTracked, if_true, start,
    Option.some.injEq] at stepped
  subst stepped
  have bounded := good.bounded
  by_cases empty : (state.entries.drop state.read).take maxMsgs = []
  · refine ⟨?_, ?_, ?_, ?_, nofun⟩ <;> simp only [empty, List.getLast?_nil, Option.bind_none,
      Option.map_none, Option.getD_none, Nat.max_zero, List.append_nil]
    · exact good.printed
    · exact bounded
    · exact good.trimmed
    · exact nofun
  · have last := id?_getLast?_take_drop empty
    have nonempty := List.length_pos_of_ne_nil empty
    rw [List.length_take, List.length_drop, length_entries] at nonempty
    have next : max state.read (min (state.read + maxMsgs) state.messages.length - 1 + 1) =
        min (state.read + maxMsgs) state.messages.length := by omega
    refine ⟨?_, ?_, ?_, ?_, nofun⟩ <;> simp only [last, Option.map_some, Option.getD_some, next]
    · rw [good.printed, ← List.take_add, ← List.take_length (l := state.entries), List.take_take,
        length_entries]
      rfl
    · exact Nat.min_le_right ..
    · exact Nat.le_trans good.trimmed (by omega)
    · rintro id ⟨⟩
      omega

theorem Good.probe_finished (good : state.Good) (positive : 0 < maxMsgs)
    (goesOn : state.ended = false) (isFinished : state.tracked = false)
    (heeds : state.Heeds maxMsgs .probe) (stepped : state.step maxMsgs .probe = some after) :
    after.Good := by
  simp only [Heeds, isFinished, Bool.false_eq_true, if_false] at heeds
  obtain ⟨visible, unread⟩ := heeds
  have bounded := good.bounded
  have before := good.trimmed
  have res : (state.entries.drop state.trimmed).rtake maxMsgs = state.entries.drop state.read := by
    rw [List.rtake, List.drop_drop, List.length_drop, length_entries]
    congr 1
    omega
  have whole : (state.entries.drop state.read).take state.messages.length =
      state.entries.drop state.read :=
    List.take_of_length_le (by rw [List.length_drop, length_entries]; omega)
  have some : state.entries.drop state.read ≠ [] := by
    rw [Ne, List.drop_eq_nil_iff, length_entries]
    omega
  have last := id?_getLast?_take_drop (whole ▸ some)
  rw [whole] at last
  simp only [step, goesOn, Bool.false_eq_true, if_false, follow, isFinished, tail, res, ne_eq, some,
    not_false_eq_true, if_true, Option.some.injEq, last, Option.map_some, Option.getD_some]
    at stepped
  subst stepped
  have next : max state.read (min (state.read + state.messages.length) state.messages.length -
      1 + 1) = state.messages.length := by omega
  refine ⟨?_, ?_, ?_, nofun, ?_⟩ <;> simp only [next]
  · rw [good.printed, List.take_append_drop]
    exact (List.take_of_length_le (Nat.le_of_eq length_entries)).symm
  · exact Nat.le_refl _
  · exact Nat.le_trans before bounded
  · exact fun _ => trivial

theorem Good.step (positive : 0 < maxMsgs) (good : state.Good) (heeds : state.Heeds maxMsgs label)
    (stepped : state.step maxMsgs label = some after) : after.Good := by
  cases label with
  | append message evicted =>
    obtain ⟨⟨goesOn, -, kept⟩, same⟩ := Option.ite_none_right_eq_some.mp stepped
    cases same
    refine ⟨?_, ?_, kept, good.cursor, fun ended => absurd ended (by simp [goesOn])⟩
    · have grown := List.mapIdx_concat (f := Shown.entry) (l := state.messages) (e := message)
      rw [entries, grown, List.take_append_of_le_length]
      · exact good.printed
      · rw [List.length_mapIdx]
        exact good.bounded
    · rw [List.length_append]
      exact Nat.le_add_right_of_le good.bounded
  | finish logged =>
    obtain ⟨⟨goesOn, -⟩, same⟩ := Option.ite_none_right_eq_some.mp stepped
    cases same
    exact ⟨good.printed, good.bounded, good.trimmed, good.cursor, good.ended⟩
  | collect =>
    obtain ⟨⟨goesOn, -, all⟩, same⟩ := Option.ite_none_right_eq_some.mp stepped
    cases same
    exact ⟨good.printed, good.bounded, Nat.le_of_eq all.symm, good.cursor, good.ended⟩
  | probe =>
    have goesOn := goesOn_of_probe stepped
    cases isTracked : state.tracked with
    | true => exact good.probe_tracked positive goesOn isTracked heeds stepped
    | false => exact good.probe_finished positive goesOn isTracked heeds stepped

/-- Every entry that was printed stands at the place of its id. -/
def InOrder (shown : List Shown) : Prop :=
  ∀ (index : Nat) (item : Shown), shown[index]? = some item → item.id? = some index

theorem inOrder_entries (state : FollowState) : InOrder state.entries := by
  intro index item found
  obtain ⟨inside, -⟩ := List.getElem?_eq_some_iff.mp found
  rw [length_entries] at inside
  have placed := id?_getElem?_entries inside
  rwa [found, Option.bind_some] at placed

theorem printed_prefix_step (stepped : state.step maxMsgs label = some after) :
    state.printed <+: after.printed := by
  cases label with
  | probe =>
    simp only [step] at stepped
    split_ifs at stepped
    cases stepped
    exact List.prefix_append ..
  | _ =>
    obtain ⟨-, same⟩ := Option.ite_none_right_eq_some.mp stepped
    cases same
    exact List.prefix_refl _

theorem printed_prefix_run {labels : List FollowStep}
    (ran : run (step maxMsgs) state labels = some final) :
    state.printed <+: final.printed := by
  induction labels generalizing state with
  | nil =>
    cases ran
    exact List.prefix_refl _
  | cons label labels ih =>
    obtain ⟨next, stepped, rest⟩ := Option.bind_eq_some_iff.mp ran
    exact (printed_prefix_step stepped).trans (ih rest)

theorem eq_of_ended {labels : List FollowStep} (ended : state.ended = true)
    (ran : run (step maxMsgs) state labels = some final) : final = state := by
  cases labels with
  | nil => exact (Option.some.inj ran).symm
  | cons label labels =>
    obtain ⟨next, stepped, -⟩ := Option.bind_eq_some_iff.mp ran
    cases label <;> simp [step, ended] at stepped

/-- A client that is to print everything in order heeds the condition. -/
theorem Good.heeds_of_complete (good : state.Good) (positive : 0 < maxMsgs)
    (stepped : state.step maxMsgs label = some after) {labels : List FollowStep}
    (ran : run (FollowState.step maxMsgs) after labels = some final)
    (complete : final.printed = final.entries) : state.Heeds maxMsgs label := by
  cases label with
  | probe =>
    have goesOn := goesOn_of_probe stepped
    have length : state.printed.length = state.read := by
      rw [good.printed, List.length_take, length_entries, Nat.min_eq_left good.bounded]
    -- What the probe prints first has to be the entry with the next id.
    have next : ∀ item ∈ (state.follow state.lastId maxMsgs).msgs.head?,
        item.id? = some state.read := by
      intro item first
      obtain ⟨rest, same⟩ := printed_prefix_run ran
      refine inOrder_entries final state.read item ?_
      simp only [FollowState.step, goesOn, Bool.false_eq_true, if_false, Option.some.injEq]
        at stepped
      subst stepped
      rw [← complete, ← same, List.append_assoc, List.getElem?_append_right (by omega), length,
        Nat.sub_self, ← List.head?_eq_getElem?, List.head?_append, first]
      rfl
    cases isTracked : state.tracked with
    | true =>
      simp only [Heeds, isTracked, if_true]
      intro isNone
      by_contra different
      have before := good.trimmed
      have bounded := good.bounded
      simp only [follow, isTracked, if_true, isNone, Option.map_none, Option.getD_none,
        Nat.max_zero, List.head?_take, positive.ne', if_false, List.head?_drop] at next
      have inside : state.trimmed < state.messages.length := by omega
      have placed := id?_getElem?_entries inside
      obtain ⟨item, found, isId⟩ := Option.bind_eq_some_iff.mp placed
      rw [next item found] at isId
      exact different (Option.some.inj isId).symm
    | false =>
      have size : ((state.entries.drop state.trimmed).rtake maxMsgs).length =
          min maxMsgs (state.messages.length - state.trimmed) := by
        rw [List.rtake, List.length_drop, List.length_drop, length_entries]
        omega
      simp only [Heeds, isTracked, Bool.false_eq_true, if_false]
      by_cases some : (state.entries.drop state.trimmed).rtake maxMsgs = []
      · -- The client gets lines of the log file, which ends with a line of its own.
        exfalso
        cases lines : (state.logged ++ ["--- build log end ---"]).rtake maxMsgs with
        | nil =>
          have short := congrArg List.length lines
          simp only [List.rtake, List.length_drop, List.length_append, List.length_singleton,
            List.length_nil] at short
          omega
        | cons line rest =>
          simp only [follow, isTracked, Bool.false_eq_true, if_false, tail, some, ne_eq,
            not_true_eq_false, lines, List.map_cons, List.head?_cons] at next
          cases next _ rfl
      · have visible := List.length_pos_of_ne_nil some
        simp only [FollowState.step, goesOn, Bool.false_eq_true, if_false, follow, isTracked,
          tail, ne_eq, some, not_false_eq_true, if_true, Bool.not_false, Option.some.injEq]
          at stepped
        subst stepped
        have same := eq_of_ended rfl ran
        subst same
        have total : (state.printed ++ (state.entries.drop state.trimmed).rtake maxMsgs).length =
            state.messages.length := (congrArg List.length complete).trans length_entries
        rw [List.length_append, length, size] at total
        rw [size] at visible
        omega
  | _ => trivial

/-- A client that follows a log until its end prints every message exactly once and in order,
exactly when its probes heed the condition. -/
theorem follow_complete_iff (numMsgs : Option Int) (labels : List FollowStep) (final : FollowState)
    (ran : run (step (effectiveCount numMsgs)) initial labels = some final)
    (ended : final.ended = true) :
    final.printed = final.entries ↔
      AllowedRun (step (effectiveCount numMsgs)) (Heeds (effectiveCount numMsgs)) initial
        labels := by
  have positive : 0 < effectiveCount numMsgs := by
    unfold effectiveCount
    dsimp only
    split_ifs with range
    · omega
    · decide
  constructor
  · intro complete
    have general : ∀ labels state, Good state → run (step (effectiveCount numMsgs)) state
        labels = some final → AllowedRun (step (effectiveCount numMsgs))
          (Heeds (effectiveCount numMsgs)) state labels := by
      intro labels
      induction labels with
      | nil => exact fun _ _ _ => trivial
      | cons label labels ih =>
        intro state good ran
        obtain ⟨next, stepped, rest⟩ := Option.bind_eq_some_iff.mp ran
        have heeds := good.heeds_of_complete positive stepped rest complete
        refine ⟨heeds, fun other isOther => ?_⟩
        cases stepped.symm.trans isOther
        exact ih next (good.step positive heeds stepped) rest
    exact general labels initial good_initial ran
  · intro allowed
    have good := invariant_of_run Good good_initial
      (fun before label after good heeds stepped => good.step positive heeds stepped) allowed ran
    rw [good.printed, good.ended ended]
    exact List.take_of_length_le (Nat.le_of_eq length_entries)

/-- A client that asks at once and again after two more messages and the end of the build prints all
three. -/
theorem followed_messages_printed :
    (run (step (effectiveCount (some 2))) initial
      [.append "a" 0, .probe, .append "b" 0, .append "c" 0, .finish ["a", "b", "c"],
        .probe]).isSome = true ∧
    ∀ final, run (step (effectiveCount (some 2))) initial
        [.append "a" 0, .probe, .append "b" 0, .append "c" 0, .finish ["a", "b", "c"], .probe] =
        some final → final.ended = true → final.printed = final.entries :=
  ⟨rfl, fun final ran ended => (follow_complete_iff (some 2) _ final ran ended).mpr (by decide)⟩

/-- After an answer without messages the client is sent the first message again. -/
theorem idle_probe_repeats :
    (run (step (effectiveCount none)) initial
      [.append "a" 0, .probe, .probe, .probe, .finish ["a"], .probe]).map (·.printed) =
      some [.entry 0 "a", .entry 0 "a", .entry 0 "a"] := by
  decide +kernel

end FollowState

end Cbs

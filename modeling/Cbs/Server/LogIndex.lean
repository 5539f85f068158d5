import Cbs.Server.BuildQueries
import Cbs.Server.Changes

/-!
# The line index of a log

The index of the lines of a log is extended with every batch.  A dispatch attempt numbers its lines
from zero, but nothing clears the index between two attempts.
-/

namespace Cbs

open Concurrency

/-- The content of a file to which lines are appended. -/
def textOf (base : String) (lines : List String) : String :=
  lines.foldl (fun content line => content ++ line ++ "\n") base

theorem textOf_append (base : String) (lines more : List String) :
    textOf base (lines ++ more) = textOf (textOf base lines) more :=
  List.foldl_append

theorem exists_textOf (base : String) (lines : List String) :
    ∃ rest, textOf base lines = base ++ rest := by
  induction lines generalizing base with
  | nil => exact ⟨"", String.append_empty.symm⟩
  | cons line lines ih =>
    obtain ⟨rest, isRest⟩ := ih (base ++ line ++ "\n")
    refine ⟨line ++ "\n" ++ rest, ?_⟩
    rw [textOf, List.foldl_cons, ← textOf, isRest, String.append_assoc, String.append_assoc,
      String.append_assoc]

theorem content_appendLines (content : String) (startSeq : Nat) (lines : List String) :
    (appendLines content startSeq lines).2 = textOf content lines := by
  induction lines generalizing content startSeq with
  | nil => rfl
  | cons line lines ih => exact ih ..

theorem entries_appendLines_append (content : String) (startSeq : Nat) (lines more : List String) :
    (appendLines content startSeq (lines ++ more)).1 =
      (appendLines content startSeq lines).1 ++
        (appendLines (textOf content lines) (startSeq + lines.length) more).1 := by
  induction lines generalizing content startSeq with
  | nil => rfl
  | cons line lines ih =>
    simp only [List.cons_append, appendLines, List.cons.injEq, true_and]
    rw [ih, List.length_cons, Nat.add_assoc, Nat.add_comm 1]
    rfl

variable {seq offset : Nat}

/-- The entries are the lines with their numbers and the sizes of what precedes them. -/
theorem mem_entries_appendLines {content : String} {startSeq : Nat} {lines : List String} :
    (seq, offset) ∈ (appendLines content startSeq lines).1 ↔
      ∃ position < lines.length, seq = startSeq + position ∧
        offset = (textOf content (lines.take position)).utf8ByteSize := by
  induction lines generalizing content startSeq with
  | nil => simp [appendLines]
  | cons line lines ih =>
    simp only [appendLines, List.mem_cons, Prod.mk.injEq, ih]
    constructor
    · rintro (⟨rfl, rfl⟩ | ⟨position, inside, rfl, rfl⟩)
      · exact ⟨0, by simp, rfl, rfl⟩
      · exact ⟨position + 1, by simpa using inside, by omega, rfl⟩
    · rintro ⟨position, inside, rfl, rfl⟩
      cases position with
      | zero => exact Or.inl ⟨rfl, rfl⟩
      | succ position => exact Or.inr ⟨position, by simpa using inside, by omega, rfl⟩

theorem pairwise_entries_appendLines (content : String) (startSeq : Nat) (lines : List String) :
    (appendLines content startSeq lines).1.Pairwise fun first second => first.1 < second.1 := by
  induction lines generalizing content startSeq with
  | nil => exact .nil
  | cons line lines ih =>
    refine List.pairwise_cons.mpr ⟨fun entry inside => ?_, ih ..⟩
    obtain ⟨position, -, isSeq, -⟩ := mem_entries_appendLines.mp
      (show (entry.1, entry.2) ∈ _ from inside)
    dsimp only
    omega

def AppState.logContent (state : AppState) (buildId : BuildId) : String :=
  (state.logFiles.lookup buildId).getD ""

def AppState.logIndex (state : AppState) (buildId : BuildId) : List (Nat × Nat) :=
  (state.seqIndices.lookup buildId).getD []

def SameLog (buildId : BuildId) (before after : AppState) : Prop :=
  after.logFiles.lookup buildId = before.logFiles.lookup buildId ∧
    after.seqIndices.lookup buildId = before.seqIndices.lookup buildId

/-- The states of a server through the attempts to build something, with what the log file held when
the current one began and the lines that it has written.  A build is returned to its lane only in
admitted states. -/
inductive Attempts (admits : AppState → Prop) (buildId : BuildId) :
    String → List String → AppState → Prop
  | start (state : AppState) (unindexed : state.seqIndices.lookup buildId = none) :
      Attempts admits buildId (state.logContent buildId) [] state
  | output {base : String} {written : List String} {state : AppState}
      (attempts : Attempts admits buildId base written state) (env : Env)
      (connectionId : ConnectionId) (connection : Connection)
      (held : state.Holds connectionId buildId) {lines : List String} (nonempty : lines ≠ [])
      (closed : ∀ line ∈ lines, '\n' ∉ line.toList) :
      Attempts admits buildId base (written ++ lines)
        ((Operation.message connectionId connection
          (.buildOutput buildId written.length lines)).exec env state)
  | rollback {base : String} {written : List String} {state : AppState}
      (attempts : Attempts admits buildId base written state) (env : Env)
      (admitted : admits state) :
      Attempts admits buildId (state.logContent buildId) []
        ((rollbackActiveToQueued env buildId).run state).1
  | dispatch {base : String} {written : List String} {state : AppState}
      (attempts : Attempts admits buildId base written state) (env : Env) :
      Attempts admits buildId base written ((tryDispatch env).run state).1
  | aside {base : String} {written : List String} {state after : AppState}
      (attempts : Attempts admits buildId base written state)
      (same : SameLog buildId state after) : Attempts admits buildId base written after

section Steps

variable {buildId : BuildId} {state : AppState}

theorem sameLog_requeuedState (env : Env) (other : BuildId) (build : ActiveBuild) :
    SameLog buildId state (requeuedState env other build state) :=
  ⟨rfl, rfl⟩

theorem sameLog_rollbackActiveToQueued (env : Env) (other : BuildId) :
    SameLog buildId state ((rollbackActiveToQueued env other).run state).1 := by
  cases active : state.queue.active.get other with
  | none =>
    rw [run_rollbackActiveToQueued_of_vacant active]
    exact ⟨rfl, rfl⟩
  | some build =>
    rw [run_rollbackActiveToQueued_of_active active]
    exact sameLog_requeuedState env other build

theorem DispatchOutcome.sameLog {env : Env} {after : AppState}
    {result : Except DispatchError Unit} (outcome : DispatchOutcome env state after result) :
    SameLog buildId state after := by
  cases outcome <;> exact ⟨rfl, rfl⟩

variable {connectionId : ConnectionId}

theorem run_whenAuthorized_of_holds (action : WorkerBuildAction)
    (handler : Handler Unit) (held : state.Holds connectionId buildId) :
    ∃ claimed, (whenAuthorized connectionId buildId action handler).run state =
      handler.run claimed ∧ SameLog buildId state claimed := by
  obtain ⟨build, active, isConnection⟩ := held
  have owned : state.queue.activeBuildForConnection buildId connectionId = some build :=
    Option.filter_eq_some_iff.mpr ⟨active, by simpa using isConnection⟩
  have claimed : (claimReceipt connectionId buildId state).2 = true := by
    simp only [claimReceipt, owned]
  refine ⟨(claimReceipt connectionId buildId state).1, ?_, ?_⟩
  · simp only [whenAuthorized, authorizeLifecycleMessage, Routine.bind_eq, Routine.run_bind,
      Routine.run_step, claimed, if_true]
    rfl
  · simp only [claimReceipt, owned]
    exact ⟨rfl, rfl⟩

/-- A batch of the holder is appended to the file and to the index. -/
theorem log_of_output (env : Env) (connection : Connection)
    (held : state.Holds connectionId buildId) (startSeq : Nat) {lines : List String}
    (nonempty : lines ≠ []) :
    ((Operation.message connectionId connection
        (.buildOutput buildId startSeq lines)).exec env state).logContent buildId =
      textOf (state.logContent buildId) lines ∧
    ((Operation.message connectionId connection
        (.buildOutput buildId startSeq lines)).exec env state).logIndex buildId =
      state.logIndex buildId ++ (appendLines (state.logContent buildId) startSeq lines).1 := by
  obtain ⟨claimed, same, sameFile, sameIndex⟩ := run_whenAuthorized_of_holds .buildOutput
    (writeBuildOutput env buildId startSeq lines) held
  have some : lines.isEmpty = false := by simpa using nonempty
  have written : (Operation.message connectionId connection
      (.buildOutput buildId startSeq lines)).exec env state =
      ((writeBuildOutput env buildId startSeq lines).run claimed).1 :=
    congrArg Prod.fst same
  rw [written]
  simp only [writeBuildOutput, some, Bool.false_eq_true, if_false, Routine.bind_eq,
    Routine.run_bind, Routine.run_stepFree, Handler.executeLogs, AppState.logContent,
    AppState.logIndex, sameFile, sameIndex, AList.lookup_insert, Option.getD_some,
    content_appendLines, and_self]

end Steps

/-- The index of a build is that of the lines of the current attempt. -/
structure Indexed (buildId : BuildId) (base : String) (written : List String) (state : AppState) :
    Prop where
  content : state.logContent buildId = textOf base written
  index : state.logIndex buildId = (appendLines base 0 written).1

def AppState.Unindexed (state : AppState) (buildId : BuildId) : Prop :=
  state.logIndex buildId = []

section Indexed

variable {buildId : BuildId} {base : String} {written : List String} {state after : AppState}

theorem Indexed.of_sameLog (indexed : Indexed buildId base written state)
    (same : SameLog buildId state after) : Indexed buildId base written after := by
  have content : after.logContent buildId = state.logContent buildId := by
    rw [AppState.logContent, same.1, AppState.logContent]
  have index : after.logIndex buildId = state.logIndex buildId := by
    rw [AppState.logIndex, same.2, AppState.logIndex]
  exact ⟨content.trans indexed.content, index.trans indexed.index⟩

/-- A state in which nothing is indexed is ready for another attempt. -/
theorem Indexed.of_unindexed (unindexed : state.Unindexed buildId) :
    Indexed buildId (state.logContent buildId) [] state :=
  ⟨rfl, unindexed⟩

/-- The index follows the current attempt if a build is returned only while nothing is indexed. -/
theorem Attempts.indexed (attempts : Attempts (·.Unindexed buildId) buildId base written state) :
    Indexed buildId base written state := by
  induction attempts with
  | start state unindexed =>
    exact .of_unindexed (by rw [AppState.Unindexed, AppState.logIndex, unindexed]; rfl)
  | @output base written state _ env connectionId connection held lines nonempty _ ih =>
    obtain ⟨content, index⟩ := log_of_output env connection held written.length nonempty
    refine ⟨?_, ?_⟩
    · rw [content, ih.content, textOf_append]
    · rw [index, ih.index, ih.content, entries_appendLines_append, Nat.zero_add]
  | rollback _ env unindexed ih =>
    exact (Indexed.of_unindexed unindexed).of_sameLog (sameLog_rollbackActiveToQueued env buildId)
  | dispatch _ env ih => exact ih.of_sameLog (tryDispatch_outcome env _).sameLog
  | aside _ same ih => exact ih.of_sameLog same

end Indexed

/-- What a binary search promises: among entries in increasing order it finds the one with the given
number. -/
def FindsOrdered (binarySearch : List (Nat × Nat) → Nat → Option Nat) : Prop :=
  ∀ entries : List (Nat × Nat), (entries.Pairwise fun first second => first.1 < second.1) →
    ∀ seq offset, binarySearch entries seq = some offset ↔ (seq, offset) ∈ entries

/-- Line `seq` of the attempt stands at an offset of the log file. -/
def LineAt (base : String) (written : List String) (content : String) (seq offset : Nat) : Prop :=
  ∃ line rest, written[seq]? = some line ∧
    content = textOf base (written.take seq) ++ line ++ "\n" ++ rest ∧
      (textOf base (written.take seq)).utf8ByteSize = offset

/-- The lines of an attempt stand where the sizes of what precedes them say. -/
theorem lineAt_iff {base : String} {written : List String} :
    LineAt base written (textOf base written) seq offset ↔
      seq < written.length ∧ offset = (textOf base (written.take seq)).utf8ByteSize := by
  constructor
  · rintro ⟨line, rest, isLine, -, rfl⟩
    exact ⟨(List.getElem?_eq_some_iff.mp isLine).1, rfl⟩
  · rintro ⟨inside, rfl⟩
    obtain ⟨rest, isRest⟩ := exists_textOf
      (textOf base (written.take seq) ++ written[seq] ++ "\n") (written.drop (seq + 1))
    refine ⟨written[seq], rest, List.getElem?_eq_getElem inside, ?_, rfl⟩
    have whole : written = written.take seq ++ written[seq] :: written.drop (seq + 1) := by
      rw [← List.drop_eq_getElem_cons inside, List.take_append_drop]
    calc textOf base written
        = textOf base (written.take seq ++ written[seq] :: written.drop (seq + 1)) := by
          rw [← whole]
      _ = textOf (textOf base (written.take seq) ++ written[seq] ++ "\n")
            (written.drop (seq + 1)) := textOf_append ..
      _ = _ := isRest

/-- As long as a build is returned to its lane only while no line of it is indexed, its index is in
increasing order and finds exactly the lines of the current attempt, where they stand in the
file. -/
theorem index_exact_over_attempts {Json : Type} (env : ReadEnv Json)
    (finds : FindsOrdered env.binarySearch) (buildId : BuildId) (base : String)
    (written : List String) (service : Service)
    (attempts : Attempts (·.Unindexed buildId) buildId base written service.state) :
    ((service.state.logIndex buildId).Pairwise fun first second => first.1 < second.1) ∧
      ∀ seq offset, service.getSeqOffset env buildId seq = some offset ↔
        LineAt base written (service.state.logContent buildId) seq offset := by
  have indexed := attempts.indexed
  have ordered := pairwise_entries_appendLines base 0 written
  refine ⟨indexed.index ▸ ordered, fun seq offset => ?_⟩
  rw [indexed.content, lineAt_iff]
  have present : (seq, offset) ∈ service.state.logIndex buildId ↔
      seq < written.length ∧ offset = (textOf base (written.take seq)).utf8ByteSize := by
    rw [indexed.index, mem_entries_appendLines]
    simp only [Nat.zero_add]
    constructor
    · rintro ⟨position, inside, rfl, isOffset⟩
      exact ⟨inside, isOffset⟩
    · rintro ⟨inside, isOffset⟩
      exact ⟨seq, inside, rfl, isOffset⟩
  rw [← present, Service.getSeqOffset]
  cases stored : service.state.seqIndices.lookup buildId with
  | none => simp [AppState.logIndex, stored]
  | some entries =>
    have isIndex : service.state.logIndex buildId = entries := by
      rw [AppState.logIndex, stored, Option.getD_some]
    rw [isIndex]
    exact finds entries (isIndex ▸ indexed.index ▸ ordered) seq offset

/-- The loop of `binary_search_by` over a window of entries, which gives its last position. -/
def narrow (entries : List (Nat × Nat)) (seq : Nat) : Nat → Nat → Nat → Nat
  | 0, _, base => base
  | fuel + 1, size, base =>
    if size ≤ 1 then base
    else
      let half := size / 2
      let isGreater := entries[base + half]?.any (seq < ·.1)
      narrow entries seq fuel (size - half) (if isGreater then base else base + half)

/-- The search of the standard library. -/
def ReadEnv.std : ReadEnv Unit where
  fromStr := fun _ => none
  binarySearch := fun entries seq =>
    (entries[narrow entries seq entries.length entries.length 0]?.filter (·.1 = seq)).map (·.2)

/-- Among entries in increasing order, the window keeps the one with the given number. -/
theorem narrow_eq {entries : List (Nat × Nat)} {position : Nat}
    (ordered : entries.Pairwise fun first second => first.1 < second.1)
    (inside : position < entries.length) {fuel size base : Nat} (enough : size ≤ fuel)
    (within : base + size ≤ entries.length) (lower : base ≤ position)
    (upper : position < base + size) :
    narrow entries entries[position].1 fuel size base = position := by
  induction fuel generalizing size base with
  | zero => omega
  | succ fuel ih =>
    unfold narrow
    split_ifs with isLast
    · omega
    have middle : base + size / 2 < entries.length := by omega
    simp only [List.getElem?_eq_getElem middle, Option.any_some, decide_eq_true_eq]
    have sorted := List.pairwise_iff_getElem.mp ordered
    split_ifs with isGreater
    · -- the entry comes before the middle one
      have before : position < base + size / 2 := by
        by_contra notBefore
        rcases (Nat.le_of_not_lt notBefore).eq_or_lt with same | less
        · simp [same] at isGreater
        · exact absurd (sorted _ _ middle inside less) isGreater.not_gt
      exact ih (by omega) (by omega) lower (by omega)
    · have after : base + size / 2 ≤ position :=
        Nat.le_of_not_lt fun less => isGreater (sorted _ _ inside middle less)
      exact ih (by omega) (by omega) after (by omega)

theorem findsOrdered_std : FindsOrdered ReadEnv.std.binarySearch := by
  intro entries ordered seq offset
  simp only [ReadEnv.std, Option.map_eq_some_iff, Option.filter_eq_some_iff, decide_eq_true_eq]
  constructor
  · rintro ⟨entry, ⟨found, rfl⟩, rfl⟩
    exact List.mem_of_getElem? found
  · intro listed
    obtain ⟨position, inside, isEntry⟩ := List.getElem_of_mem listed
    have found : narrow entries seq entries.length entries.length 0 = position := by
      simpa [isEntry] using narrow_eq ordered inside (le_refl entries.length)
        (Nat.zero_add _).le (Nat.zero_le _) (by simpa using inside)
    exact ⟨(seq, offset), ⟨by rw [found, List.getElem?_eq_getElem inside, isEntry], rfl⟩, rfl⟩

/-- The server after the builder sent two lines of its first build. -/
def loggingServer : AppState :=
  (Operation.message "first" builder (.buildOutput 1 0 ["configure", "make"])).exec .smooth
    executingServer

/-- The two lines are found where they stand. -/
theorem first_attempt_indexed :
    Service.getSeqOffset ReadEnv.std ⟨restrictedSite, loggingServer⟩ 1 1 = some 10 ∧
      LineAt "" ["configure", "make"] (loggingServer.logContent 1) 1 10 := by
  have held : executingServer.Holds "first" 1 := by
    refine ⟨_, rfl, ?_⟩
    decide
  have attempts : Attempts (·.Unindexed 1) 1 "" ["configure", "make"] loggingServer :=
    .output (.start executingServer (by decide)) .smooth "first" builder held (by simp) (by decide)
  have found : Service.getSeqOffset ReadEnv.std ⟨restrictedSite, loggingServer⟩ 1 1 =
      some 10 := by
    decide
  exact ⟨found, ((index_exact_over_attempts ReadEnv.std findsOrdered_std 1 ""
    ["configure", "make"] ⟨restrictedSite, loggingServer⟩ attempts).2 1 10).mp found⟩

/-- The server after it has taken the build back and dispatched it again. -/
def retryingServer : AppState :=
  ((tryDispatch .smooth).run ((rollbackActiveToQueued .smooth 1).run loggingServer).1).1

/-- The server after the second attempt sent its first line. -/
def retriedServer : AppState :=
  (Operation.message "first" builder (.buildOutput 1 0 ["configure again"])).exec .smooth
    retryingServer

/-- The index of a second attempt still has the lines of the first: it is not in order, and the
first line of the second attempt is found where that of the first one stands. -/
theorem second_attempt_misindexed :
    Attempts (fun _ => True) 1 "configure\nmake\n" ["configure again"] retriedServer ∧
      retriedServer.logIndex 1 = [(0, 0), (1, 10), (0, 15)] ∧
      Service.getSeqOffset ReadEnv.std ⟨restrictedSite, retriedServer⟩ 1 0 = some 0 ∧
      LineAt "configure\nmake\n" ["configure again"] (retriedServer.logContent 1) 0 15 := by
  have held : executingServer.Holds "first" 1 := by
    refine ⟨_, rfl, ?_⟩
    decide
  have heldAgain : retryingServer.Holds "first" 1 := by
    refine ⟨_, rfl, ?_⟩
    decide
  have first : Attempts (fun _ => True) 1 "" ["configure", "make"] loggingServer :=
    .output (.start executingServer (by decide)) .smooth "first" builder held (by simp) (by decide)
  have second : Attempts (fun _ => True) 1 "configure\nmake\n" [] retryingServer :=
    .dispatch (.rollback first .smooth trivial) .smooth
  exact ⟨.output second .smooth "first" builder heldAgain (by simp) (by decide), by decide,
    by decide, "configure again", "", rfl, by decide, by decide⟩

end Cbs

import Mathlib.Data.List.DropRight
import Mathlib.Data.PNat.Basic
import Cbs.Library.Utf8

/-!
# Log files

The service reads the last lines of a log file backwards in pieces, and sends a whole file in pieces
that are decoded one by one.
-/

namespace Cbs

open Utf8

inductive LogPath where
  | missing
  | notFile
  | file (content : List UInt8)

inductive FileTailError where
  | invalidLineCount (n : Int)
  | fileNotFound
  | notFile
  | undecodable (line : List UInt8)

/-- The loop of `tail_file`: read pieces in front of a position until there are enough lines.  The
first part of what was read may be cut and is kept back. -/
def scanBackwards (content : List UInt8) (n : Nat) (bufferSize : ℕ+) (position : Nat)
    (buffer : List UInt8) (linesFound : List (List UInt8)) : List (List UInt8) :=
  if 0 < position ∧ linesFound.length ≤ n then
    let chunkSize := min (bufferSize : Nat) position
    let start := position - chunkSize
    let chunk := (content.drop start).take chunkSize
    let parts := (chunk ++ buffer).splitOn newline
    if start = 0 then parts ++ linesFound
    else scanBackwards content n bufferSize start (parts.headD []) (parts.tail ++ linesFound)
  else linesFound
termination_by position
decreasing_by
  have positive := bufferSize.pos
  omega

/-- The lines that `tail_file` selects from the content of a file. -/
def tailLines (content : List UInt8) (n : Nat) (bufferSize : ℕ+) : List (List UInt8) :=
  if content.length = 0 then []
  else
    let linesFound := Lines.chomp (scanBackwards content n bufferSize content.length [] [])
    if n < linesFound.length then linesFound.drop (linesFound.length - n) else linesFound

def decodeLine (decode : List UInt8 → Option String) (line : List UInt8) :
    Except FileTailError String :=
  match decode line with
  | some text => .ok text
  | none => .error (.undecodable line)

def tailFile (path : LogPath) (n : Int) (bufferSize : ℕ+) (decode : List UInt8 → Option String) :
    Except FileTailError (List String) :=
  if n < 0 then .error (.invalidLineCount n)
  else if n = 0 then .ok []
  else
    match path with
    | .missing => .error .fileNotFound
    | .notFile => .error .notFile
    | .file content => (tailLines content n.toNat bufferSize).mapM (decodeLine decode)

/-- The loop finds the last lines: all of them, or more than were asked for. -/
theorem splitOn_scanBackwards {content : List UInt8} {position : Nat} {buffer : List UInt8}
    {linesFound : List (List UInt8)} (inside : 0 < position)
    (cut : (content.drop position).splitOn newline = buffer :: linesFound) (n : Nat)
    (bufferSize : ℕ+) :
    ∃ front, content.splitOn newline =
        front ++ scanBackwards content n bufferSize position buffer linesFound ∧
      (front = [] ∨
        n < (scanBackwards content n bufferSize position buffer linesFound).length) := by
  induction position using Nat.strong_induction_on generalizing buffer linesFound with
  | _ position ih =>
    unfold scanBackwards
    split_ifs with goesOn
    · have positive := bufferSize.pos
      dsimp only
      generalize size : min (bufferSize : Nat) position = chunkSize
      generalize chunkIs : (content.drop (position - chunkSize)).take chunkSize = chunk
      have read : content.drop (position - chunkSize) = chunk ++ content.drop position := by
        have split := List.take_append_drop chunkSize (content.drop (position - chunkSize))
        have behind : position - chunkSize + chunkSize = position := by omega
        rw [List.drop_drop, behind, chunkIs] at split
        exact split.symm
      have parts := congrArg (List.splitOn newline) read
      rw [Lines.splitOn_append cut] at parts
      split_ifs with atStart
      · rw [atStart, List.drop_zero] at parts
        exact ⟨[], parts, Or.inl rfl⟩
      · cases isCut : (chunk ++ buffer).splitOn newline with
        | nil => exact absurd isCut (List.splitOnP_ne_nil _ _)
        | cons first rest =>
          rw [isCut, List.cons_append] at parts
          exact ih _ (by omega) (Nat.pos_of_ne_zero atStart) parts
    · refine ⟨(content.take position ++ buffer).splitOn newline, ?_, Or.inr (by omega)⟩
      rw [← Lines.splitOn_append cut, List.take_append_drop]

/-- Reading a file backwards gives the last of its lines, whatever the size of the pieces. -/
theorem tail_lines_eq (content : List UInt8) (n : Nat) (bufferSize : ℕ+) :
    tailLines content n bufferSize = (Lines.all newline content).rtake n ∧
      ∀ decode, tailFile (.file content) n bufferSize decode =
        ((Lines.all newline content).rtake n).mapM (decodeLine decode) := by
  have lines : tailLines content n bufferSize = (Lines.all newline content).rtake n := by
    unfold tailLines Lines.all
    split_ifs with empty
    · rw [List.eq_nil_of_length_eq_zero empty]
      exact (List.rtake_nil n).symm
    · have atEnd : (content.drop content.length).splitOn newline = [[]] := by
        rw [List.drop_length]
        rfl
      obtain ⟨front, same, enough⟩ :=
        splitOn_scanBackwards (Nat.pos_of_ne_zero empty) atEnd n bufferSize
      generalize scanBackwards content n bufferSize content.length [] [] = found at same enough
      have some : found ≠ [] := by
        rintro rfl
        rcases enough with rfl | few
        · exact List.splitOnP_ne_nil _ _ same
        · exact absurd few (Nat.not_lt_zero n)
      have large := Lines.length_le_chomp found
      rw [same, Lines.chomp_append some, List.rtake]
      dsimp only
      rcases enough with rfl | many
      · rw [List.nil_append]
        split_ifs with more
        · rfl
        · rw [Nat.sub_eq_zero_of_le (Nat.le_of_not_lt more), List.drop_zero]
      · have behind : (front ++ Lines.chomp found).length - n =
            front.length + ((Lines.chomp found).length - n) := by
          rw [List.length_append]
          omega
        rw [behind, List.drop_length_add_append]
        split_ifs with more
        · rfl
        · rw [Nat.sub_eq_zero_of_le (Nat.le_of_not_lt more), List.drop_zero]
  refine ⟨lines, fun decode => ?_⟩
  have counted : ¬ (n : Int) < 0 := by omega
  rw [← lines, tailFile, if_neg counted]
  split_ifs with none
  · obtain rfl : n = 0 := by omega
    rw [lines, List.rtake_zero]
    rfl
  · rfl

/-- What a reader of a log file gets: some pieces, and what was raised behind them. -/
structure LogRead where
  yielded : List String
  raised : Option String

/-- The generator that `get_log_file` returns.  The text of a decoding error is left open. -/
def getLog (logFilePath : String) (explain : List UInt8 → String) (chunkSize : ℕ+)
    (content : List UInt8) : LogRead :=
  if content = [] then ⟨[], none⟩
  else
    match fromUtf8 (content.take chunkSize) with
    | none =>
      ⟨[], some (s!"error opening and reading log file '{logFilePath}': " ++
        explain (content.take chunkSize))⟩
    | some text =>
      let rest := getLog logFilePath explain chunkSize (content.drop chunkSize)
      ⟨text :: rest.yielded, rest.raised⟩
termination_by content.length
decreasing_by
  have positive := chunkSize.pos
  have nonempty := List.length_pos_of_ne_nil (by assumption)
  rw [List.length_drop]
  omega

/-- No piece starts inside a character. -/
def Aligned (chunkSize : ℕ+) (content : List UInt8) : Prop :=
  ∀ index : Nat, ∀ byte ∈ content[index * (chunkSize : Nat)]?, isContinuation byte = false

section Downloads

variable {logFilePath : String} {explain : List UInt8 → String} {chunkSize : ℕ+}

theorem aligned_drop {content : List UInt8} (aligned : Aligned chunkSize content) :
    Aligned chunkSize (content.drop chunkSize) := by
  intro index
  rw [List.getElem?_drop, Nat.add_comm, ← Nat.succ_mul]
  exact aligned (index + 1)

/-- Without an error the pieces are the content, and each of them starts with a character. -/
theorem getLog_sound (content : List UInt8)
    (ended : (getLog logFilePath explain chunkSize content).raised = none) :
    (getLog logFilePath explain chunkSize content).yielded.flatMap bytes = content ∧
      Aligned chunkSize content := by
  fun_induction getLog logFilePath explain chunkSize content with
  | case1 => exact ⟨rfl, by simp [Aligned]⟩
  | case2 content nonempty undecodable => cases ended
  | case3 content nonempty text decoded rest ih =>
    obtain ⟨same, aligned⟩ := ih ended
    have piece := fromUtf8_eq_some.mp decoded
    refine ⟨?_, fun index byte inside => ?_⟩
    · rw [List.flatMap_cons, same, ← piece, List.take_append_drop]
    · cases index with
      | zero =>
        refine isContinuation_head_encode text.toList byte ?_
        rw [← bytes_eq_encode, ← piece, List.head?_take, if_neg chunkSize.ne_zero]
        simpa [List.head?_eq_getElem?] using inside
      | succ index =>
        refine aligned index byte ?_
        rwa [List.getElem?_drop, Nat.add_comm, ← Nat.succ_mul]

theorem raised_getLog_encode (chars : List Char) (aligned : Aligned chunkSize (encode chars)) :
    (getLog logFilePath explain chunkSize (encode chars)).raised = none := by
  generalize same : encode chars = content at aligned
  fun_induction getLog logFilePath explain chunkSize content generalizing chars with
  | case1 => rfl
  | case2 content nonempty undecodable =>
    obtain ⟨left, right, -, taken, -⟩ := exists_take_encode chars chunkSize (by
      rw [same]
      simpa using aligned 1)
    rw [← same, taken, encode_eq_bytes, fromUtf8_bytes] at undecodable
    cases undecodable
  | case3 content nonempty text decoded rest ih =>
    obtain ⟨left, right, -, -, dropped⟩ := exists_take_encode chars chunkSize (by
      rw [same]
      simpa using aligned 1)
    exact ih right (by rw [← dropped, same]) (aligned_drop aligned)

end Downloads

/-- The pieces of a download are the stored log, without an error, exactly when none of them starts
inside a character. -/
theorem download_complete_iff (logFilePath : String) (explain : List UInt8 → String)
    (chunkSize : ℕ+) (text : String) :
    ((getLog logFilePath explain chunkSize (bytes text)).raised = none ∧
      String.join (getLog logFilePath explain chunkSize (bytes text)).yielded = text) ↔
      Aligned chunkSize (bytes text) := by
  constructor
  · rintro ⟨ended, -⟩
    exact (getLog_sound _ ended).2
  · intro aligned
    have ended : (getLog logFilePath explain chunkSize (bytes text)).raised = none := by
      rw [bytes_eq_encode] at aligned ⊢
      exact raised_getLog_encode _ aligned
    refine ⟨ended, bytes_injective ?_⟩
    rw [bytes_join]
    exact (getLog_sound _ ended).1

/-- A character that lies across the end of the first piece makes the download fail. -/
theorem split_character_raises :
    getLog "build-1.log" (fun _ => "unexpected end of data") 2 (bytes "aé") =
      ⟨[], some "error opening and reading log file 'build-1.log': unexpected end of data"⟩ := by
  have undecodable : fromUtf8 ((bytes "aé").take 2) = none := by decide +kernel
  rw [getLog, if_neg (by decide +kernel)]
  simp only [PNat.val_ofNat, undecodable]
  rfl

end Cbs

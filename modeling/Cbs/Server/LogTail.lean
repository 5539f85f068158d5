import Mathlib.Order.MinMax
import Cbs.Library.Utf8

/-!
# The tail of a log

Reading the last lines of a log file from a window of bounded size at its end.  The window may cut a
line, and a character of it; the reader returns complete lines only.
-/

namespace Cbs

open Utf8

structure TailReadResult where
  lines : List String
  returned : Nat
  requested : Nat
  truncated : Bool
  bytesScanned : Nat
  deriving DecidableEq

/-- The complete lines of a window; in one that does not reach back to the start of the file the
first line may be cut. -/
def windowLines (truncatedStart : Bool) (validText : String) : List String :=
  let endsWithNewline := (bytes validText).getLast? == some newline
  let pieces := (validText.toList.splitOn '\n').map String.ofList
  let lines :=
    if endsWithNewline then pieces.dropLast
    else if !pieces.isEmpty then pieces.dropLast
    else pieces
  if truncatedStart && !lines.isEmpty then lines.tail else lines

variable (contents : List UInt8)

/-- The complete lines of the window that starts at an offset.  The remainder of a character that
the window cuts is skipped. -/
def scannedLines (startOffset : Nat) : List String :=
  let truncatedStart := decide (0 < startOffset)
  let buf := contents.drop startOffset
  let afterLeading := if truncatedStart then buf.dropWhile isContinuation else buf
  windowLines truncatedStart (longestText afterLeading)

/-- Read at most so many of the last lines of a file from at most so many of its last bytes. -/
def readTail (requestedN maxBytes : Nat) : TailReadResult :=
  let fileSize := contents.length
  if fileSize = 0 then ⟨[], 0, requestedN, false, 0⟩
  else
    let scanBudget := min fileSize maxBytes
    let startOffset := fileSize - scanBudget
    let lines := scannedLines contents startOffset
    let total := lines.length
    let returnedLines :=
      if total ≤ requestedN then lines else lines.drop (total - requestedN)
    ⟨returnedLines, returnedLines.length, requestedN, decide (0 < startOffset), scanBudget⟩

theorem bytes_windowLines (truncatedStart : Bool) (chars : List Char) :
    (windowLines truncatedStart (String.ofList chars)).map bytes =
      if truncatedStart then ((encode chars).splitOn newline).dropLast.tail
      else ((encode chars).splitOn newline).dropLast := by
  have bytesOf : ∀ pieces : List (List Char),
      (pieces.map String.ofList).map bytes = pieces.map encode := by
    intro pieces
    rw [List.map_map]
    exact List.map_congr_left fun piece _ => (encode_eq_bytes piece).symm
  have cut : ∀ lines : List String,
      (if truncatedStart && !lines.isEmpty then lines.tail else lines) =
        if truncatedStart then lines.tail else lines := by
    intro lines
    cases lines <;> cases truncatedStart <;> rfl
  have nonempty : (chars.splitOn '\n').map String.ofList ≠ [] := by
    simp [List.splitOn_ne_nil]
  unfold windowLines
  simp only [String.toList_ofList, cut, List.isEmpty_eq_false_iff.mpr nonempty, Bool.not_false,
    if_true, ite_self, splitOn_encode]
  cases truncatedStart with
  | false =>
    simp only [Bool.false_eq_true, if_false, List.map_dropLast, bytesOf]
  | true =>
    simp only [if_true, List.map_tail, List.map_dropLast, bytesOf]

/-- The last lines of some lines are those of the text that they are the last lines of. -/
theorem drop_of_drop {α : Type} (all : List α) {count : Nat} (few : count ≤ all.length)
    (requestedN : Nat) :
    (if count ≤ requestedN then all.drop (all.length - count)
      else (all.drop (all.length - count)).drop (count - requestedN)) =
      all.drop (all.length - min requestedN count) := by
  split_ifs with enough
  · rw [min_eq_right enough]
  · rw [List.drop_drop, min_eq_left (Nat.le_of_not_le enough)]
    congr 1
    omega

/-- The number of complete lines that a window of bounded size shows. -/
def reachableLines (maxBytes : Nat) : Nat :=
  if contents.length ≤ maxBytes then (Lines.complete newline contents).length
  else (Lines.complete newline contents).countP fun line =>
    contents.length - maxBytes < line.1

theorem reachableLines_le (maxBytes : Nat) :
    reachableLines contents maxBytes ≤ (Lines.complete newline contents).length := by
  unfold reachableLines
  split_ifs
  · exact le_rfl
  · exact List.countP_le_length

theorem bytes_scannedLines (text : String) (maxBytes : Nat) :
    (scannedLines (bytes text)
        ((bytes text).length - min (bytes text).length maxBytes)).map bytes =
      ((Lines.complete newline (bytes text)).drop
        ((Lines.complete newline (bytes text)).length -
          reachableLines (bytes text) maxBytes)).map Prod.snd := by
  rw [bytes_eq_encode]
  generalize text.toList = chars
  obtain ⟨lines, rest, joined, closed, loose⟩ := Lines.exists_joined newline (encode chars)
  have isComplete : Lines.complete newline (encode chars) = Lines.positions 0 lines := by
    rw [Lines.complete, joined, Lines.dropLast_splitOn_joined closed loose]
  unfold scannedLines reachableLines
  by_cases fits : (encode chars).length ≤ maxBytes
  · rw [if_pos fits, min_eq_left fits, Nat.sub_self, Nat.sub_self]
    simp only [Nat.lt_irrefl, decide_false, if_false, List.drop_zero, longestText_encode,
      bytes_windowLines, Bool.false_eq_true]
    rw [isComplete, Lines.map_snd_positions, joined, Lines.dropLast_splitOn_joined closed loose]
  · have larger : maxBytes < (encode chars).length := Nat.lt_of_not_le fits
    have cuts : 0 < (encode chars).length - maxBytes := Nat.sub_pos_of_lt larger
    obtain ⟨cut, right, window, continued⟩ :=
      exists_drop_encode chars ((encode chars).length - maxBytes)
    have shown := Lines.tail_dropLast_splitOn_drop closed loose 0
      ((encode chars).length - maxBytes)
    rw [← joined, window, Nat.zero_add, List.tail_dropLast,
      Lines.tail_splitOn_append (newline_notMem_of_isContinuation continued),
      ← List.tail_dropLast] at shown
    rw [if_neg fits, min_eq_right (Nat.le_of_lt larger)]
    simp only [cuts, decide_true, if_true, window, dropWhile_isContinuation right continued,
      longestText_encode, bytes_windowLines]
    rw [isComplete, Lines.length_positions, ← Lines.filter_positions, shown]

/-- A tail is made of the last complete lines of the file that start inside the window, byte by
byte, and it is truncated exactly if the file is larger than the window. -/
theorem readTail_exact (text : String) (requestedN maxBytes : Nat) :
    (readTail (bytes text) requestedN maxBytes).lines.map bytes =
        ((Lines.complete newline (bytes text)).drop
          ((Lines.complete newline (bytes text)).length -
            min requestedN (reachableLines (bytes text) maxBytes))).map Prod.snd ∧
      ((readTail (bytes text) requestedN maxBytes).truncated = false ↔
        (bytes text).length ≤ maxBytes) := by
  have few := reachableLines_le (bytes text) maxBytes
  have scanned := bytes_scannedLines text maxBytes
  generalize bytes text = contents at few scanned ⊢
  unfold readTail
  dsimp only
  generalize scannedLines contents (contents.length - min contents.length maxBytes) = lines
    at scanned ⊢
  by_cases empty : contents.length = 0
  · obtain rfl := List.length_eq_zero_iff.mp empty
    rw [if_pos empty]
    simp [Lines.complete, Lines.positions]
  · have total : lines.length = reachableLines contents maxBytes := by
      rw [← List.length_map bytes, scanned, List.length_map, List.length_drop]
      omega
    rw [if_neg empty]
    dsimp only
    refine ⟨?_, ?_⟩
    · rw [total, ← drop_of_drop _ few]
      split_ifs
      · exact scanned
      · rw [List.map_drop, scanned, ← List.map_drop]
    · rw [decide_eq_false_iff_not]
      omega

/-- A window that starts inside a character shows the lines behind the one that it cuts. -/
example : (readTail (bytes "xé\nyz\n") 10 5).lines = ["yz"] := by decide +kernel

end Cbs

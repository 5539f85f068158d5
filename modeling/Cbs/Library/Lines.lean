import Mathlib.Data.List.Basic

/-!
# Lines of a text

A line is complete when the separator follows it.  A window on the end of a text shows the lines
that start inside it, behind the remainder of the line that it cuts.
-/

namespace Lines

variable {α : Type}

/-- The text of some complete lines and of what follows them. -/
def joined (separator : α) (lines : List (List α)) (rest : List α) : List α :=
  lines.flatMap (· ++ [separator]) ++ rest

def positions (start : Nat) : List (List α) → List (Nat × List α)
  | [] => []
  | line :: lines => (start, line) :: positions (start + line.length + 1) lines

/-- The complete lines of a text, with the positions at which they start. -/
def complete [BEq α] (separator : α) (text : List α) : List (Nat × List α) :=
  positions 0 (text.splitOn separator).dropLast

def chomp [DecidableEq α] (parts : List (List α)) : List (List α) :=
  if parts.getLast? = some [] then parts.dropLast else parts

/-- All lines of a text; behind a final separator no further line starts. -/
def all [DecidableEq α] (separator : α) (text : List α) : List (List α) :=
  chomp (text.splitOn separator)

section Joined

variable {separator : α} {line rest : List α} {lines : List (List α)}

@[simp] theorem joined_nil : joined separator [] rest = rest :=
  rfl

theorem joined_cons :
    joined separator (line :: lines) rest = line ++ separator :: joined separator lines rest := by
  simp [joined]

theorem exists_joined [DecidableEq α] (separator : α) (text : List α) :
    ∃ lines rest, text = joined separator lines rest ∧ (∀ line ∈ lines, separator ∉ line) ∧
      separator ∉ rest := by
  induction text with
  | nil => exact ⟨[], [], rfl, by simp, by simp⟩
  | cons first text ih =>
    obtain ⟨lines, rest, rfl, closed, loose⟩ := ih
    by_cases cut : first = separator
    · subst cut
      exact ⟨[] :: lines, rest, by simp [joined_cons], by simpa using closed, loose⟩
    · have other : separator ≠ first := fun same => cut same.symm
      cases lines with
      | nil => exact ⟨[], first :: rest, rfl, by simp, by simp [other, loose]⟩
      | cons line lines =>
        refine ⟨(first :: line) :: lines, rest, by simp [joined_cons], ?_, loose⟩
        intro member inside
        rcases List.mem_cons.mp inside with rfl | later
        · simp [other, closed line (by simp)]
        · exact closed member (by simp [later])

variable [DecidableEq α]

theorem splitOn_of_notMem (loose : separator ∉ rest) : rest.splitOn separator = [rest] :=
  List.splitOnP_eq_singleton fun element inside => by
    simpa using fun same : element = separator => loose (same ▸ inside)

theorem splitOn_append_cons (closed : separator ∉ line) (text : List α) :
    (line ++ separator :: text).splitOn separator = line :: text.splitOn separator :=
  List.splitOnP_append_cons_of_forall_mem
    (fun element inside => by
      simpa using fun same : element = separator => closed (same ▸ inside))
    separator (by simp) text

theorem splitOn_joined (closed : ∀ line ∈ lines, separator ∉ line) (loose : separator ∉ rest) :
    (joined separator lines rest).splitOn separator = lines ++ [rest] := by
  induction lines with
  | nil => exact splitOn_of_notMem loose
  | cons line lines ih =>
    rw [joined_cons, splitOn_append_cons (closed line (by simp)),
      ih fun other inside => closed other (by simp [inside]), List.cons_append]

theorem dropLast_splitOn_joined (closed : ∀ line ∈ lines, separator ∉ line)
    (loose : separator ∉ rest) :
    ((joined separator lines rest).splitOn separator).dropLast = lines := by
  rw [splitOn_joined closed loose, List.dropLast_concat]

/-- What stands in front of a text extends its first line. -/
theorem splitOn_append {text : List α} (cut : text.splitOn separator = line :: lines)
    (front : List α) :
    (front ++ text).splitOn separator = (front ++ line).splitOn separator ++ lines := by
  induction front with
  | nil =>
    obtain ⟨whole, rest, rfl, closed, loose⟩ := exists_joined separator text
    rw [List.nil_append, List.nil_append, cut]
    rw [splitOn_joined closed loose] at cut
    cases whole with
    | nil =>
      obtain ⟨rfl, rfl⟩ := List.cons_eq_cons.mp cut
      rw [splitOn_of_notMem loose, List.append_nil]
    | cons first whole =>
      obtain ⟨rfl, -⟩ := List.cons_eq_cons.mp cut
      rw [splitOn_of_notMem (closed first (by simp)), List.singleton_append]
  | cons first front ih =>
    unfold List.splitOn at ih ⊢
    rw [List.cons_append, List.cons_append, List.splitOnP_cons_eq_if_modifyHead,
      List.splitOnP_cons_eq_if_modifyHead, ih]
    split_ifs
    · rw [List.cons_append]
    · cases parts : List.splitOnP (· == separator) (front ++ line) with
      | nil => exact absurd parts (List.splitOnP_ne_nil _ _)
      | cons => rfl

/-- What stands in front of a text without a separator extends its first line. -/
theorem tail_splitOn_append (loose : separator ∉ rest) (text : List α) :
    ((rest ++ text).splitOn separator).tail = (text.splitOn separator).tail := by
  induction rest with
  | nil => rfl
  | cons first rest ih =>
    obtain ⟨other, loose⟩ : separator ≠ first ∧ separator ∉ rest := by simpa using loose
    have step : ((first :: (rest ++ text)).splitOn separator).tail =
        ((rest ++ text).splitOn separator).tail := by
      unfold List.splitOn
      rw [List.splitOnP_cons_eq_if_modifyHead, if_neg (by simpa using other.symm)]
      cases List.splitOnP (· == separator) (rest ++ text) with
      | nil | cons => rfl
    exact step.trans (ih loose)

end Joined

theorem chomp_append [DecidableEq α] {found : List (List α)} (some : found ≠ [])
    (front : List (List α)) : chomp (front ++ found) = front ++ chomp found := by
  unfold chomp
  rw [List.getLast?_append_of_ne_nil _ some, List.dropLast_append_of_ne_nil some]
  split_ifs <;> rfl

theorem length_le_chomp [DecidableEq α] (found : List (List α)) :
    found.length ≤ (chomp found).length + 1 := by
  unfold chomp
  split_ifs
  · rw [List.length_dropLast]
    omega
  · omega

section Window

variable {separator : α} {rest : List α} {lines : List (List α)}

@[simp] theorem map_snd_positions (start : Nat) (lines : List (List α)) :
    (positions start lines).map Prod.snd = lines := by
  induction lines generalizing start with
  | nil => rfl
  | cons line lines ih => rw [positions, List.map_cons, ih]

@[simp] theorem length_positions (start : Nat) (lines : List (List α)) :
    (positions start lines).length = lines.length := by
  rw [← List.length_map Prod.snd, map_snd_positions]

theorem le_of_mem_positions {start : Nat} {entry : Nat × List α}
    (inside : entry ∈ positions start lines) : start ≤ entry.1 := by
  induction lines generalizing start with
  | nil => cases inside
  | cons line lines ih =>
    rcases List.mem_cons.mp inside with rfl | later
    · exact Nat.le_refl _
    · exact Nat.le_trans (by omega) (ih later)

/-- The lines that start behind an offset are the last ones. -/
theorem filter_positions (start offset : Nat) (lines : List (List α)) :
    (positions start lines).filter (fun entry => offset < entry.1) =
      (positions start lines).drop
        (lines.length - (positions start lines).countP fun entry => offset < entry.1) := by
  induction lines generalizing start with
  | nil => rfl
  | cons line lines ih =>
    by_cases behind : offset < start
    · have all : ∀ entry ∈ positions start (line :: lines), offset < entry.1 :=
        fun entry inside => Nat.lt_of_lt_of_le behind (le_of_mem_positions inside)
      have counted : (positions start (line :: lines)).countP (fun entry => offset < entry.1) =
          (line :: lines).length := by
        rw [← length_positions start]
        exact List.countP_eq_length.mpr fun entry inside => by simpa using all entry inside
      rw [counted, Nat.sub_self, List.drop_zero]
      exact List.filter_eq_self.mpr fun entry inside => by simpa using all entry inside
    · have bound := (positions (start + line.length + 1) lines).countP_le_length
        (p := fun entry => offset < entry.1)
      rw [length_positions] at bound
      rw [positions, List.filter_cons_of_neg (by simpa using behind), ih,
        List.countP_cons_of_neg (by simpa using behind), List.length_cons,
        Nat.sub_add_comm bound, List.drop_succ_cons]

variable [DecidableEq α]

/-- A window on the end of a text shows the complete lines that start behind its first position, and
in front of them what it cuts off. -/
theorem tail_dropLast_splitOn_drop (closed : ∀ line ∈ lines, separator ∉ line)
    (loose : separator ∉ rest) (start offset : Nat) :
    (((joined separator lines rest).drop offset).splitOn separator).dropLast.tail =
      ((positions start lines).filter fun entry => start + offset < entry.1).map Prod.snd := by
  induction lines generalizing start offset with
  | nil =>
    have cut : separator ∉ rest.drop offset := fun inside => loose (List.mem_of_mem_drop inside)
    rw [joined_nil, splitOn_of_notMem cut]
    rfl
  | cons line lines ih =>
    have closedHere : separator ∉ line := closed line (by simp)
    have closedLater : ∀ other ∈ lines, separator ∉ other :=
      fun other inside => closed other (by simp [inside])
    rw [joined_cons, positions, List.filter_cons_of_neg (by simp)]
    by_cases inside : offset ≤ line.length
    · -- The window starts in this line, so that every later line is inside it.
      have cut : separator ∉ line.drop offset :=
        fun member => closedHere (List.mem_of_mem_drop member)
      have later : ∀ entry ∈ positions (start + line.length + 1) lines,
          start + offset < entry.1 :=
        fun entry member => Nat.lt_of_lt_of_le (by omega) (le_of_mem_positions member)
      rw [List.drop_append_of_le_length inside, splitOn_append_cons cut,
        splitOn_joined closedLater loose, ← List.cons_append, List.dropLast_concat,
        List.tail_cons,
        List.filter_eq_self.mpr fun entry member => by simpa using later entry member,
        map_snd_positions]
    · obtain ⟨further, rfl⟩ : ∃ further, offset = line.length + (further + 1) :=
        ⟨offset - line.length - 1, by omega⟩
      rw [List.drop_length_add_append, List.drop_succ_cons,
        ih closedLater (start + line.length + 1) further]
      congr 2
      funext entry
      congr 1
      exact propext (by constructor <;> intro behind <;> omega)

end Window

end Lines

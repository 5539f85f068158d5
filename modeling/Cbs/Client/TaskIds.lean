import Mathlib.Data.List.Count
import Mathlib.Data.List.Forall2
import Mathlib.Data.List.Nodup

/-!
# Short task ids

The client shows as few groups of the ids of the periodic tasks as tell them apart, and takes such a
short id for the task that has it as a prefix.
-/

namespace Cbs

inductive ClientError where
  | config (text : String)
  | connection (text : String)
  | api (status : Nat) (message : String)
  | other (text : String)
  deriving DecidableEq

structure PeriodicListItem where
  id : String
  cronExpr : String
  deriving DecidableEq

def resolveFromFetch (fetched : Except ClientError (List PeriodicListItem)) (short : String) :
    Except ClientError String :=
  match fetched with
  -- Who may not list the tasks acts by full ids.
  | .error (.api 403 _) => .ok short
  | .error reason => .error reason
  | .ok tasks =>
    match tasks.filter fun task => short.toList.isPrefixOf task.id.toList with
    | [] => .error (.other ("no periodic task matching '" ++ short ++ "'"))
    | [found] => .ok found.id
    | several =>
      .error (.other ("ambiguous task id '" ++ short ++ "' matches:\n" ++
        "\n".intercalate (several.map fun task => "  " ++ task.id ++ "  " ++ task.cronExpr)))

/-- The text before the dash after the given number of dashes. -/
def beforeDash : Nat → List Char → List Char
  | _, [] => []
  | 0, first :: rest => if first = '-' then [] else first :: beforeDash 0 rest
  | count + 1, first :: rest =>
    first :: beforeDash (if first = '-' then count else count + 1) rest

def truncateComponents (id : String) (count : Nat) : String :=
  String.ofList (beforeDash (count - 1) id.toList)

def minUniqueComponents (ids : List String) : Nat :=
  ((List.range' 1 5).find? fun count => (ids.map (truncateComponents · count)).Nodup).getD 5

def isHexDigit (only : Char) : Bool :=
  only.isDigit || 'a' ≤ only && only ≤ 'f' || 'A' ≤ only && only ≤ 'F'

/-- The marks of a text with hexadecimal digits in groups. -/
def Grouped (marks text : List Char) : Prop :=
  List.Forall₂ (fun mark only => if mark = '-' then only = '-' else isHexDigit only = true) marks
    text

/-- Five groups of 8, 4, 4, 4 and 12 hexadecimal digits. -/
def IsTaskId (id : String) : Prop :=
  Grouped "hhhhhhhh-hhhh-hhhh-hhhh-hhhhhhhhhhhh".toList id.toList

section Grouped

variable {marks text other : List Char}

theorem dash_iff {mark only : Char}
    (isOnly : if mark = '-' then only = '-' else isHexDigit only = true) :
    mark = '-' ↔ only = '-' := by
  split_ifs at isOnly with dash
  · exact iff_of_true dash isOnly
  · refine iff_of_false dash ?_
    rintro rfl
    cases isOnly

/-- The first groups of a text begin another one with groups of the same widths exactly if they are
its first groups. -/
theorem beforeDash_prefix_iff (grouped : Grouped marks text) (alike : Grouped marks other)
    (count : Nat) :
    beforeDash count text <+: other ↔ beforeDash count text = beforeDash count other := by
  induction grouped generalizing other count with
  | nil =>
    cases alike
    simp [beforeDash]
  | @cons mark first marks text isFirst _ ih =>
    obtain _ | @⟨_, second, _, others, isSecond, alike⟩ := alike
    have dashes := (dash_iff isFirst).symm.trans (dash_iff isSecond)
    cases count with
    | zero =>
      by_cases dash : first = '-'
      · simp [beforeDash, dash, dashes.mp dash]
      · simp [beforeDash, dash, mt dashes.mpr dash, List.cons_prefix_cons, ih alike]
    | succ count =>
      simp only [beforeDash, List.cons_prefix_cons, ih alike, List.cons.injEq, dashes]

theorem beforeDash_eq (grouped : Grouped marks text) {count : Nat}
    (enough : marks.count '-' ≤ count) : beforeDash count text = text := by
  induction grouped generalizing count with
  | nil => cases count <;> rfl
  | @cons mark first marks text isFirst _ ih =>
    by_cases dash : mark = '-'
    · obtain ⟨count, rfl⟩ : ∃ rest, count = rest + 1 :=
        Nat.exists_eq_add_one.mpr (by simp [dash] at enough; omega)
      rw [beforeDash, if_pos ((dash_iff isFirst).mp dash), ih (by simpa [dash] using enough)]
    · have rest := ih (by simpa [dash] using enough : marks.count '-' ≤ count)
      cases count <;> simp [beforeDash, mt (dash_iff isFirst).mpr dash, rest]

end Grouped

variable {tasks : List PeriodicListItem}

/-- A short id stands for its task exactly if no other task has it. -/
theorem resolveFromFetch_eq_ok (areIds : ∀ task ∈ tasks, IsTaskId task.id) {task : PeriodicListItem}
    (listed : task ∈ tasks) (count : Nat) :
    resolveFromFetch (.ok tasks) (truncateComponents task.id count) = .ok task.id ↔
      (tasks.map (truncateComponents ·.id count)).count (truncateComponents task.id count) = 1 := by
  have selected : (tasks.filter fun other =>
      (truncateComponents task.id count).toList.isPrefixOf other.id.toList) =
      tasks.filter (truncateComponents ·.id count == truncateComponents task.id count) := by
    refine List.filter_congr fun other inside => ?_
    rw [Bool.eq_iff_iff, List.isPrefixOf_iff_prefix, beq_iff_eq, ← String.toList_inj, eq_comm]
    simpa [truncateComponents] using
      beforeDash_prefix_iff (areIds task listed) (areIds other inside) (count - 1)
  have inside : task ∈ tasks.filter
      (truncateComponents ·.id count == truncateComponents task.id count) := by
    simp [listed]
  rw [resolveFromFetch, selected, List.count, List.countP_map, List.countP_eq_length_filter,
    Function.comp_def]
  generalize tasks.filter _ = same at inside
  rcases same with _ | ⟨found, _ | ⟨second, others⟩⟩
  · cases inside
  · simp [List.mem_singleton.mp inside]
  · simp

/-- Every displayed id can be used, and with fewer groups some could not. -/
theorem short_ids_usable (areIds : ∀ task ∈ tasks, IsTaskId task.id)
    (different : (tasks.map (·.id)).Nodup) :
    let shown := minUniqueComponents (tasks.map (·.id))
    let Usable := fun count => ∀ task ∈ tasks,
      resolveFromFetch (.ok tasks) (truncateComponents task.id count) = .ok task.id
    Usable shown ∧ 1 ≤ shown ∧ ∀ count, 1 ≤ count → Usable count → shown ≤ count := by
  intro shown Usable
  have usable_iff : ∀ count,
      Usable count ↔ ((tasks.map (·.id)).map (truncateComponents · count)).Nodup := by
    intro count
    rw [List.nodup_iff_count_eq_one, List.map_map, List.forall_mem_map]
    exact forall₂_congr fun task listed => resolveFromFetch_eq_ok areIds listed count
  have full : ((tasks.map (·.id)).map (truncateComponents · 5)).Nodup := by
    have same : ∀ id ∈ tasks.map (·.id), truncateComponents id 5 = id := by
      rw [List.forall_mem_map]
      intro task listed
      rw [truncateComponents, beforeDash_eq (areIds task listed) (by decide), String.ofList_toList]
    rwa [List.map_congr_left same, List.map_id']
  cases isFound : (List.range' 1 5).find? fun count =>
      ((tasks.map (·.id)).map (truncateComponents · count)).Nodup with
  | none =>
    have unfound := List.find?_range'_eq_none.mp isFound 5 (by decide) (by decide)
    simp only [full, decide_true, Bool.not_true, Bool.false_eq_true] at unfound
  | some count =>
    have isShown : shown = count := by
      simp only [shown, minUniqueComponents, isFound, Option.getD_some]
    obtain ⟨unique, inside, least⟩ := List.find?_range'_eq_some.mp isFound
    rw [isShown]
    refine ⟨(usable_iff count).mpr (of_decide_eq_true unique), (List.mem_range'_1.mp inside).1, ?_⟩
    intro fewer positive isUsable
    by_contra more
    have missed := least fewer positive (Nat.lt_of_not_le more)
    simp only [(usable_iff fewer).mp isUsable, decide_true, Bool.not_true,
      Bool.false_eq_true] at missed

/-- Two tasks whose ids have the first group in common. -/
theorem two_groups_usable :
    let tasks : List PeriodicListItem :=
      [⟨"550e8400-e29b-41d4-a716-446655440000", "@daily"⟩,
        ⟨"550e8400-0000-41d4-a716-446655440000", "@daily"⟩]
    minUniqueComponents (tasks.map (·.id)) = 2 ∧
      resolveFromFetch (.ok tasks) "550e8400-e29b" = .ok "550e8400-e29b-41d4-a716-446655440000" :=
  ⟨by decide, (short_ids_usable (by simp [IsTaskId, Grouped]; decide) (by decide)).1
    ⟨"550e8400-e29b-41d4-a716-446655440000", "@daily"⟩ (by simp)⟩

end Cbs

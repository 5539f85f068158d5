import Mathlib.Data.List.Basic
import Cbs.Library.Routine

/-!
# Pools of concurrent routines

Any number of routines share one state and take their atomic steps in any order.  A step is
undisturbed when the routine finds the key it last worked on as it left it, and a key it turns to at
rest.
-/

namespace Concurrency

/-- A routine in a pool, with what it last did. -/
structure Thread (σ κ : Type) where
  /-- The key of the last keyed step, if there was one, and the state which that step left. -/
  seen : Option (κ × σ)
  routine : Routine σ κ Unit

/-- A shared state and the routines that run on it. -/
structure Pool (σ κ : Type) where
  state : σ
  threads : List (Thread σ κ)

inductive Event (σ κ : Type) where
  | spawn (routine : Routine σ κ Unit)
  | advance (index : Nat)

namespace Pool

variable {σ κ : Type}

/-- The effect of one event; advancing a finished or missing routine does nothing. -/
def exec (pool : Pool σ κ) : Event σ κ → Pool σ κ
  | .spawn routine => { pool with threads := pool.threads ++ [⟨none, routine⟩] }
  | .advance index =>
    match pool.threads[index]? with
    | some ⟨seen, .atomic key act next⟩ =>
      { state := act pool.state
        threads := pool.threads.set index
          ⟨((key pool.state).map (·, act pool.state)).or seen, next pool.state⟩ }
    | _ => pool

def run (pool : Pool σ κ) (events : List (Event σ κ)) : Pool σ κ :=
  events.foldl exec pool

@[simp] theorem run_nil (pool : Pool σ κ) : pool.run [] = pool :=
  rfl

@[simp]
theorem run_cons (pool : Pool σ κ) (event : Event σ κ) (events : List (Event σ κ)) :
    pool.run (event :: events) = (pool.exec event).run events :=
  rfl

theorem run_append (pool : Pool σ κ) (first second : List (Event σ κ)) :
    pool.run (first ++ second) = (pool.run first).run second :=
  List.foldl_append

section Step

variable {pool : Pool σ κ} {index : Nat} {seen : Option (κ × σ)} {key : σ → Option κ}
  {act : σ → σ} {next : σ → Routine σ κ Unit}

theorem exec_advance_atomic (found : pool.threads[index]? = some ⟨seen, .atomic key act next⟩) :
    pool.exec (.advance index) =
      { state := act pool.state
        threads := pool.threads.set index
          ⟨((key pool.state).map (·, act pool.state)).or seen, next pool.state⟩ } := by
  simp only [exec, found]

end Step

/-- Advancing either does nothing or takes the first step of an unfinished routine. -/
theorem exec_advance_cases (pool : Pool σ κ) (index : Nat) :
    pool.exec (.advance index) = pool ∨
      ∃ seen key act next, pool.threads[index]? = some ⟨seen, .atomic key act next⟩ := by
  cases found : pool.threads[index]? with
  | none => exact Or.inl (by simp only [exec, found])
  | some thread =>
    obtain ⟨seen, routine⟩ := thread
    cases routine with
    | done value => exact Or.inl (by simp only [exec, found])
    | atomic key act next => exact Or.inr ⟨seen, key, act, next, rfl⟩

theorem threads_advance {pool : Pool σ κ} {index other : Nat} {seen : Option (κ × σ)}
    {key : σ → Option κ} {act : σ → σ} {next : σ → Routine σ κ Unit} {thread : Thread σ κ}
    (found : pool.threads[index]? = some ⟨seen, .atomic key act next⟩)
    (after : (pool.exec (.advance index)).threads[other]? = some thread) :
    (other = index ∧
        thread = ⟨((key pool.state).map (·, act pool.state)).or seen, next pool.state⟩) ∨
      (other ≠ index ∧ pool.threads[other]? = some thread) := by
  rw [exec_advance_atomic found] at after
  by_cases same : other = index
  · subst same
    have inRange : other < pool.threads.length := (List.getElem?_eq_some_iff.mp found).1
    rw [List.getElem?_set_self inRange] at after
    exact Or.inl ⟨rfl, (Option.some.inj after).symm⟩
  · rw [List.getElem?_set_ne (Ne.symm same)] at after
    exact Or.inr ⟨same, after⟩

theorem threads_spawn {pool : Pool σ κ} {index : Nat} {routine : Routine σ κ Unit}
    {thread : Thread σ κ} (after : (pool.exec (.spawn routine)).threads[index]? = some thread) :
    thread = ⟨none, routine⟩ ∨ pool.threads[index]? = some thread := by
  by_cases old : index < pool.threads.length
  · rw [exec, List.getElem?_append_left old] at after
    exact Or.inr after
  · rw [exec, List.getElem?_append_right (Nat.le_of_not_lt old)] at after
    obtain ⟨_, rfl⟩ := List.getElem?_eq_some_iff.mp after
    simp

end Pool

namespace Discipline

variable {σ κ : Type}

/-- The key that a thread last worked on, with the part it left there. -/
def engagement (D : Discipline σ κ) (seen : Option (κ × σ)) : D.Engagement :=
  seen.map fun (key, left) => (key, D.part key left)

/-- The routine about to take a step finds the key it last worked on as it left it, and a key it
turns to at rest. -/
def Undisturbed (D : Discipline σ κ) (pool : Pool σ κ) : Event σ κ → Prop
  | .spawn _ => True
  | .advance index =>
    match pool.threads[index]? with
    | some ⟨seen, .atomic key _ _⟩ =>
      D.Holds (D.engagement seen) pool.state ∧
        ∀ target, key pool.state = some target →
          D.Entry (D.engagement seen) target pool.state
    | _ => True

def UndisturbedRun (D : Discipline σ κ) (pool : Pool σ κ) : List (Event σ κ) → Prop
  | [] => True
  | event :: events => D.Undisturbed pool event ∧ D.UndisturbedRun (pool.exec event) events

theorem undisturbedRun_append (D : Discipline σ κ) (pool : Pool σ κ)
    (first second : List (Event σ κ)) :
    D.UndisturbedRun pool (first ++ second) ↔
      D.UndisturbedRun pool first ∧ D.UndisturbedRun (pool.run first) second := by
  induction first generalizing pool with
  | nil => simp [UndisturbedRun]
  | cons event events ih => simp [UndisturbedRun, ih, and_assoc]

section Decidable

variable (D : Discipline σ κ) [DecidableEq κ] [DecidableEq D.Part]
  [∀ key, DecidablePred (D.rest key)]

instance (state : σ) : (engagement : D.Engagement) → Decidable (D.Holds engagement state)
  | none => isTrue (by simp [Holds])
  | some (key, part) => decidable_of_iff (D.part key state = part) (by simp [Holds])

instance (state : σ) (target : κ) :
    (engagement : D.Engagement) → Decidable (D.Entry engagement target state)
  | none => decidable_of_iff (D.rest target (D.part target state)) (by simp [Entry])
  | some (key, part) =>
    decidable_of_iff (key = target ∨ D.rest target (D.part target state)) (by simp [Entry])

instance (pool : Pool σ κ) : (event : Event σ κ) → Decidable (D.Undisturbed pool event)
  | .spawn _ => isTrue trivial
  | .advance index =>
    match found : pool.threads[index]? with
    | none | some ⟨_, .done _⟩ => isTrue (by simp [Undisturbed, found])
    | some ⟨seen, .atomic key _ _⟩ =>
      decidable_of_iff
        (D.Holds (D.engagement seen) pool.state ∧
          ∀ target ∈ key pool.state, D.Entry (D.engagement seen) target pool.state)
        (by simp [Undisturbed, found])

instance decidableUndisturbedRun :
    (events : List (Event σ κ)) → (pool : Pool σ κ) → Decidable (D.UndisturbedRun pool events)
  | [], _ => isTrue trivial
  | event :: events, pool =>
    have := decidableUndisturbedRun events (pool.exec event)
    inferInstanceAs (Decidable (_ ∧ _))

end Decidable

/-- Every routine in the pool follows the discipline from what it last did. -/
def Sound (D : Discipline σ κ) (pool : Pool σ κ) : Prop :=
  ∀ (index : Nat) thread, pool.threads[index]? = some thread →
    D.Follows thread.routine (D.engagement thread.seen) fun last _ => D.Settled last

/-- The event starts an obedient routine or none. -/
def Starts (D : Discipline σ κ) : Event σ κ → Prop
  | .spawn routine => D.Obeys routine
  | .advance _ => True

theorem sound_empty (D : Discipline σ κ) (state : σ) : D.Sound ⟨state, []⟩ := by
  simp [Sound]

/-- What an undisturbed step does: the routine keeps following the discipline, and a key other than
the one it steps on is left alone. -/
structure Stepped (D : Discipline σ κ) (seen : Option (κ × σ)) (key : Option κ) (before after : σ)
    (rest : Routine σ κ Unit) : Prop where
  follows : D.Follows rest (D.engagement ((key.map (·, after)).or seen)) fun last _ =>
    D.Settled last
  frame : ∀ other, key ≠ some other → D.part other after = D.part other before
  move : ∀ target, key = some target → D.move target (D.part target before) (D.part target after)

section Step

variable {D : Discipline σ κ} {pool : Pool σ κ} {index : Nat} {seen : Option (κ × σ)}
  {key : σ → Option κ} {act : σ → σ} {next : σ → Routine σ κ Unit}

theorem undisturbed_advance_atomic
    (found : pool.threads[index]? = some ⟨seen, .atomic key act next⟩) :
    D.Undisturbed pool (.advance index) ↔
      D.Holds (D.engagement seen) pool.state ∧
        ∀ target, key pool.state = some target →
          D.Entry (D.engagement seen) target pool.state := by
  simp only [Undisturbed, found]

theorem Sound.stepped (sound : D.Sound pool) (undisturbed : D.Undisturbed pool (.advance index))
    (found : pool.threads[index]? = some ⟨seen, .atomic key act next⟩) :
    D.Stepped seen (key pool.state) pool.state (act pool.state) (next pool.state) := by
  obtain ⟨holds, entry⟩ := (undisturbed_advance_atomic found).mp undisturbed
  have here := sound index _ found pool.state holds
  cases isTarget : key pool.state with
  | none =>
    rw [isTarget] at here
    exact ⟨here.2, fun other _ => here.1 other, by simp⟩
  | some target =>
    simp only [isTarget] at here
    obtain ⟨moves, follows⟩ := here.2 (entry target isTarget)
    refine ⟨follows, fun other different => ?_, ?_⟩
    · exact moves.frame other fun same => different (by rw [same])
    · rintro _ ⟨⟩
      exact moves.move

end Step

/-- An undisturbed step keeps the pool sound, and each key stays or makes an allowed move. -/
theorem Sound.exec {D : Discipline σ κ} {pool : Pool σ κ} {event : Event σ κ}
    (sound : D.Sound pool) (undisturbed : D.Undisturbed pool event) (starts : D.Starts event) :
    D.Sound (pool.exec event) ∧
      ∀ key, D.part key (pool.exec event).state = D.part key pool.state ∨
        D.move key (D.part key pool.state) (D.part key (pool.exec event).state) := by
  cases event with
  | spawn routine =>
    refine ⟨fun index thread after => ?_, fun key => Or.inl rfl⟩
    rcases Pool.threads_spawn after with rfl | old
    · exact starts
    · exact sound index thread old
  | advance index =>
    rcases pool.exec_advance_cases index with idle | ⟨seen, key, act, next, found⟩
    · rw [idle]
      exact ⟨sound, fun key => Or.inl rfl⟩
    · have stepped := sound.stepped undisturbed found
      constructor
      · intro other thread after
        rcases Pool.threads_advance found after with ⟨-, rfl⟩ | ⟨-, old⟩
        · exact stepped.follows
        · exact sound other thread old
      · intro other
        rw [Pool.exec_advance_atomic found]
        by_cases isTarget : key pool.state = some other
        · exact Or.inr (stepped.move other isTarget)
        · exact Or.inl (stepped.frame other isTarget)

/-- The run form: a sound pool stays sound and each key follows a chain of allowed moves. -/
theorem Sound.run {D : Discipline σ κ} {pool : Pool σ κ} {events : List (Event σ κ)}
    (sound : D.Sound pool) (undisturbed : D.UndisturbedRun pool events)
    (starts : ∀ event ∈ events, D.Starts event) :
    D.Sound (pool.run events) ∧
      ∀ key, Relation.ReflTransGen (D.move key) (D.part key pool.state)
        (D.part key (pool.run events).state) := by
  induction events generalizing pool with
  | nil => exact ⟨sound, fun _ => .refl⟩
  | cons event events ih =>
    obtain ⟨after, moved⟩ := sound.exec undisturbed.1 (starts event (by simp))
    obtain ⟨final, chain⟩ := ih after undisturbed.2 fun event' inside =>
      starts event' (by simp [inside])
    refine ⟨final, fun key => ?_⟩
    rcases moved key with same | move
    · rw [← same]
      exact chain key
    · exact .head move (chain key)

end Discipline

end Concurrency

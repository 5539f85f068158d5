import Cbs.Library.Pool

/-!
# Assertions that survive interference

A rule for pools of routines: every step of every routine relates the states before and after it,
and between its steps a routine only relies on assertions that such steps keep.
-/

namespace Concurrency

/-- What the steps of all routines in a pool have in common. -/
structure Rely (σ κ : Type) where
  Invariant : σ → Prop
  Moves : σ → σ → Prop
  /-- The states in which a step with a label is taken. -/
  Allows : κ → σ → Prop
  keeps : ∀ before after, Invariant before → Moves before after → Invariant after

namespace Rely

variable {σ κ α β : Type}

/-- Steps do not make the assertion false. -/
def Stable (R : Rely σ κ) (assertion : σ → Prop) : Prop :=
  ∀ before after, R.Invariant before → R.Moves before after → assertion before → assertion after

/-- A step labelled like this may be taken. -/
def Permits (R : Rely σ κ) (label : Option κ) (state : σ) : Prop :=
  ∀ name, label = some name → R.Allows name state

/-- From states that satisfy the assertion, every step of the routine is a move and is taken with
what its label promises, and the routine ends with the postcondition; between its steps it relies on
stable assertions only. -/
def Outline (R : Rely σ κ) (ensures : κ → σ → Prop) :
    Routine σ κ α → (σ → Prop) → (α → σ → Prop) → Prop
  | .done value, before, after =>
    ∀ state, R.Invariant state → before state → after value state
  | .atomic key act next, before, after =>
    ∀ state, R.Invariant state → before state → R.Permits (key state) state →
      R.Moves state (act state) ∧ (∀ name, key state = some name → ensures name state) ∧
        ∃ middle, R.Stable middle ∧ middle (act state) ∧
          Outline R ensures (next state) middle after

section Rules

variable {R : Rely σ κ} {ensures : κ → σ → Prop} {routine : Routine σ κ α} {before : σ → Prop}
  {after : α → σ → Prop}

theorem stable_true (R : Rely σ κ) : R.Stable fun _ => True :=
  fun _ _ _ _ _ => trivial

theorem stable_const (R : Rely σ κ) (fact : Prop) : R.Stable fun _ => fact :=
  fun _ _ _ _ holds => holds

theorem Stable.and {first second : σ → Prop} (isFirst : R.Stable first)
    (isSecond : R.Stable second) : R.Stable fun state => first state ∧ second state :=
  fun _ _ invariant moves holds =>
    ⟨isFirst _ _ invariant moves holds.1, isSecond _ _ invariant moves holds.2⟩

theorem Stable.forall {ι : Type} {assertion : ι → σ → Prop}
    (stable : ∀ item, R.Stable (assertion item)) :
    R.Stable fun state => ∀ item, assertion item state :=
  fun _ _ invariant moves holds item => stable item _ _ invariant moves (holds item)

theorem Outline.mono {stronger : σ → Prop} (outline : R.Outline ensures routine before after)
    (implies : ∀ state, R.Invariant state → stronger state → before state) :
    R.Outline ensures routine stronger after := by
  cases routine with
  | done value =>
    exact fun state invariant holds => outline state invariant (implies _ invariant holds)
  | atomic key act next =>
    exact fun state invariant holds =>
      outline state invariant (implies _ invariant holds)

theorem outline_of_fact {fact : Prop} (outline : fact → R.Outline ensures routine before after) :
    R.Outline ensures routine (fun state => fact ∧ before state) after := by
  cases routine with
  | done value => exact fun state invariant holds => outline holds.1 state invariant holds.2
  | atomic key act next =>
    exact fun state invariant holds => outline holds.1 state invariant holds.2

theorem Outline.bind {next : α → Routine σ κ β} {last : β → σ → Prop}
    (between : α → σ → Prop) (first : R.Outline ensures routine before between)
    (second : ∀ value, R.Outline ensures (next value) (between value) last) :
    R.Outline ensures (routine >>= next) before last := by
  induction routine generalizing before with
  | done value => exact (second value).mono first
  | atomic key act rest ih =>
    intro state invariant holds permitted
    obtain ⟨moves, promised, middle, stable, reached, outline⟩ :=
      first state invariant holds permitted
    exact ⟨moves, promised, middle, stable, reached, ih state outline⟩

theorem outline_pure {value : α} (implies : ∀ state, R.Invariant state → before state →
    after value state) : R.Outline ensures (pure value) before after :=
  implies

/-- A check that may end the routine. -/
theorem outline_orReply {ε β : Type} {check : Except ε β} {reply : ε → α} {next : β → Routine σ κ α}
    (refused : ∀ reason state, R.Invariant state → before state → after (reply reason) state)
    (accepted : ∀ value, check = .ok value → R.Outline ensures (next value) before after) :
    R.Outline ensures (.orReply check reply next) before after := by
  cases check with
  | error reason => exact refused reason
  | ok value => exact accepted value rfl

theorem outline_stepAt {key : σ → Option κ} {action : σ → σ × α}
    (step : ∀ state, R.Invariant state → before state → R.Permits (key state) state →
      R.Moves state (action state).1 ∧ (∀ name, key state = some name → ensures name state) ∧
        R.Stable (after (action state).2) ∧ after (action state).2 (action state).1) :
    R.Outline ensures (.stepAt key action) before after := by
  intro state invariant holds permitted
  obtain ⟨moves, promised, stable, reached⟩ := step state invariant holds permitted
  exact ⟨moves, promised, _, stable, reached, fun _ _ holds => holds⟩

theorem outline_stepFree {action : σ → σ × α}
    (step : ∀ state, R.Invariant state → before state → R.Moves state (action state).1 ∧
      R.Stable (after (action state).2) ∧ after (action state).2 (action state).1) :
    R.Outline ensures (.stepFree action) before after :=
  outline_stepAt fun state invariant holds _ =>
    have taken := step state invariant holds
    ⟨taken.1, fun _ => nofun, taken.2⟩

/-- A routine that runs alone keeps the invariant and ends as its outline says. -/
theorem Outline.run (outline : R.Outline ensures routine before after)
    (allows : ∀ name state, R.Allows name state) {state : σ} (invariant : R.Invariant state)
    (holds : before state) :
    R.Invariant (routine.run state).1 ∧ after (routine.run state).2 (routine.run state).1 := by
  induction routine generalizing before state with
  | done value => exact ⟨invariant, outline state invariant holds⟩
  | atomic key act next ih =>
    obtain ⟨moves, -, middle, -, reached, rest⟩ :=
      outline state invariant holds fun name _ => allows name state
    exact ih state rest (R.keeps _ _ invariant moves) reached

end Rules

end Rely

namespace Pool

variable {σ κ : Type}

/-- The label of the next step of a routine. -/
def labelOf (pool : Pool σ κ) (index : Nat) : Option κ :=
  match pool.threads[index]? with
  | some ⟨_, .atomic key _ _⟩ => key pool.state
  | _ => none

theorem length_threads_exec (pool : Pool σ κ) (event : Event σ κ) :
    pool.threads.length ≤ (pool.exec event).threads.length := by
  cases event with
  | spawn routine => simp [exec]
  | advance index =>
    rcases pool.exec_advance_cases index with idle | ⟨seen, key, act, next, found⟩
    · exact Nat.le_of_eq (by rw [idle])
    · simp [exec_advance_atomic found]

/-- A step is taken in a suitable state. -/
def Permitted (pool : Pool σ κ) (allows : κ → σ → Prop) : Event σ κ → Prop
  | .spawn _ => True
  | .advance index => ∀ name ∈ pool.labelOf index, allows name pool.state

/-- Every step of a schedule is taken in a suitable state. -/
def PermittedRun (pool : Pool σ κ) (allows : κ → σ → Prop) : List (Event σ κ) → Prop
  | [] => True
  | event :: events => pool.Permitted allows event ∧ (pool.exec event).PermittedRun allows events

theorem permittedRun_append (pool : Pool σ κ) (allows : κ → σ → Prop)
    (first second : List (Event σ κ)) :
    pool.PermittedRun allows (first ++ second) ↔
      pool.PermittedRun allows first ∧ (pool.run first).PermittedRun allows second := by
  induction first generalizing pool with
  | nil => simp [PermittedRun]
  | cons event events ih => simp [PermittedRun, ih, and_assoc]

theorem permittedRun_of_allows (pool : Pool σ κ) {allows : κ → σ → Prop}
    (everything : ∀ name state, allows name state) (events : List (Event σ κ)) :
    pool.PermittedRun allows events := by
  induction events generalizing pool with
  | nil => trivial
  | cons event events ih =>
    refine ⟨?_, ih _⟩
    cases event with
    | spawn routine => trivial
    | advance index => exact fun name _ => everything name pool.state

section Decidable

variable {allows : κ → σ → Prop} [∀ name state, Decidable (allows name state)]

instance (pool : Pool σ κ) : (event : Event σ κ) → Decidable (pool.Permitted allows event)
  | .spawn _ => isTrue trivial
  | .advance index => inferInstanceAs (Decidable (∀ name ∈ pool.labelOf index, _))

instance decidablePermittedRun :
    (events : List (Event σ κ)) → (pool : Pool σ κ) → Decidable (pool.PermittedRun allows events)
  | [], _ => isTrue trivial
  | event :: events, pool =>
    have := decidablePermittedRun events (pool.exec event)
    inferInstanceAs (Decidable (_ ∧ _))

end Decidable

end Pool

namespace Rely

variable {σ κ : Type}

/-- Every routine of the pool is where a stable assertion lets it go on; what the labels promise may
depend on the routine. -/
structure Outlined (R : Rely σ κ) (ensures : Nat → κ → σ → Prop) (pool : Pool σ κ) : Prop where
  invariant : R.Invariant pool.state
  threads : ∀ (index : Nat) thread, pool.threads[index]? = some thread →
    ∃ middle, R.Stable middle ∧ middle pool.state ∧
      R.Outline (ensures index) thread.routine middle fun _ _ => True

variable {R : Rely σ κ} {ensures : Nat → κ → σ → Prop} {pool : Pool σ κ}

/-- A labelled step is taken with what its label promises. -/
theorem Outlined.ensures_label (outlined : R.Outlined ensures pool) {index : Nat} {name : κ}
    (labelled : pool.labelOf index = some name) (allowed : R.Allows name pool.state) :
    ensures index name pool.state := by
  unfold Pool.labelOf at labelled
  split at labelled
  · rename_i seen key act next found
    obtain ⟨middle, -, holds, outline⟩ := outlined.threads index _ found
    have permitted : R.Permits (key pool.state) pool.state := by
      intro other isOther
      rw [labelled] at isOther
      rwa [← Option.some.inj isOther]
    exact (outline pool.state outlined.invariant holds permitted).2.1 name labelled
  · cases labelled

/-- The assertions of the other routines survive a step, and so does a stable fact. -/
theorem Outlined.exec (outlined : R.Outlined ensures pool) {fact : σ → Prop}
    (stable : R.Stable fact) (holds : fact pool.state) {event : Event σ κ}
    (permitted : pool.Permitted R.Allows event)
    (starts : ∀ routine, event = .spawn routine →
      R.Outline (ensures pool.threads.length) routine fact fun _ _ => True) :
    R.Outlined ensures (pool.exec event) ∧ fact (pool.exec event).state := by
  cases event with
  | spawn routine =>
    refine ⟨⟨outlined.invariant, fun index thread after => ?_⟩, holds⟩
    by_cases old : index < pool.threads.length
    · rw [Pool.exec, List.getElem?_append_left old] at after
      exact outlined.threads index thread after
    · rw [Pool.exec, List.getElem?_append_right (Nat.le_of_not_lt old)] at after
      obtain ⟨inRange, rfl⟩ := List.getElem?_eq_some_iff.mp after
      obtain rfl : index = pool.threads.length := by
        simp only [List.length_cons, List.length_nil] at inRange
        omega
      simp only [Nat.sub_self, List.getElem_cons_zero]
      exact ⟨fact, stable, holds, starts routine rfl⟩
  | advance index =>
    rcases pool.exec_advance_cases index with idle | ⟨seen, key, act, next, found⟩
    · rw [idle]
      exact ⟨outlined, holds⟩
    · obtain ⟨middle, -, here, outline⟩ := outlined.threads index _ found
      have permits : R.Permits (key pool.state) pool.state := by
        intro name labelled
        exact permitted name (by simp only [Pool.labelOf, found, labelled, Option.mem_def])
      obtain ⟨moves, -, later, stableLater, reached, rest⟩ :=
        outline pool.state outlined.invariant here permits
      have state : (pool.exec (.advance index)).state = act pool.state := by
        rw [Pool.exec_advance_atomic found]
      rw [← state] at moves reached
      refine ⟨⟨R.keeps _ _ outlined.invariant moves, fun other thread after => ?_⟩,
        stable _ _ outlined.invariant moves holds⟩
      rcases Pool.threads_advance found after with ⟨rfl, rfl⟩ | ⟨-, unchanged⟩
      · exact ⟨later, stableLater, reached, rest⟩
      · obtain ⟨assertion, stableToo, kept, going⟩ := outlined.threads other thread unchanged
        exact ⟨assertion, stableToo, stableToo _ _ outlined.invariant moves kept, going⟩

/-- The run form: along a schedule of permitted steps all routines can go on, if every routine that
is started can start from a stable fact. -/
theorem Outlined.run (outlined : R.Outlined ensures pool) {fact : σ → Prop}
    (stable : R.Stable fact) (holds : fact pool.state) {events : List (Event σ κ)}
    (permitted : pool.PermittedRun R.Allows events)
    (starts : ∀ index routine, pool.threads.length ≤ index → .spawn routine ∈ events →
      R.Outline (ensures index) routine fact fun _ _ => True) :
    R.Outlined ensures (pool.run events) ∧ fact (pool.run events).state := by
  induction events generalizing pool with
  | nil => exact ⟨outlined, holds⟩
  | cons event events ih =>
    obtain ⟨first, rest⟩ := permitted
    obtain ⟨outlinedNext, holdsNext⟩ := outlined.exec stable holds first fun routine isSpawn =>
      starts _ routine (Nat.le_refl _) (by simp [isSpawn])
    refine ih outlinedNext holdsNext rest fun index routine later inside => ?_
    exact starts index routine (Nat.le_trans (pool.length_threads_exec event) later)
      (by simp [inside])

end Rely

end Concurrency

import Mathlib.Logic.Relation
import Mathlib.Data.Option.Basic

/-!
# Routines of atomic steps

A routine is a program cut into its atomic steps over a shared state, each of which names the key it
works on, if any.  A discipline says what a key looks like at rest and what a single step may do to
it.
-/

namespace Concurrency

/-- A program over the shared state `σ`, cut into atomic steps labelled with keys from `κ`. -/
inductive Routine (σ κ α : Type) where
  | done (value : α)
  /-- One atomic step: `key` is what it works on, `act` its effect, and `next` the rest of the
  routine, which may depend on the state the step found. -/
  | atomic (key : σ → Option κ) (act : σ → σ) (next : σ → Routine σ κ α)

namespace Routine

variable {σ κ α β : Type}

def bind : Routine σ κ α → (α → Routine σ κ β) → Routine σ κ β
  | done value, after => after value
  | atomic key act next, after => atomic key act fun state => bind (next state) after

instance : Monad (Routine σ κ) where
  pure := done
  bind := bind

/-- A single step on a key that may be read off the state. -/
def stepAt (key : σ → Option κ) (action : σ → σ × α) : Routine σ κ α :=
  atomic key (fun state => (action state).1) fun state => done (action state).2

/-- A single step on a fixed key. -/
def step (key : κ) (action : σ → σ × α) : Routine σ κ α :=
  stepAt (fun _ => some key) action

def stepFree (action : σ → σ × α) : Routine σ κ α :=
  stepAt (fun _ => none) action

/-- Go on with what a check gives, or end with a reply to its error. -/
def orReply {ε : Type} (check : Except ε α) (reply : ε → β) (next : α → Routine σ κ β) :
    Routine σ κ β :=
  match check with
  | .error reason => done (reply reason)
  | .ok value => next value

/-- Run a routine to completion, with nothing in between its steps. -/
def run : Routine σ κ α → σ → σ × α
  | done value, state => (state, value)
  | atomic _ act next, state => run (next state) (act state)

@[simp] theorem bind_eq (routine : Routine σ κ α) (after : α → Routine σ κ β) :
    routine >>= after = routine.bind after :=
  rfl

@[simp] theorem done_bind (value : α) (after : α → Routine σ κ β) :
    (done value).bind after = after value :=
  rfl

@[simp] theorem pure_eq (value : α) : (pure value : Routine σ κ α) = done value :=
  rfl

@[simp] theorem run_done (value : α) (state : σ) :
    (done value : Routine σ κ α).run state = (state, value) :=
  rfl

@[simp] theorem run_stepAt (key : σ → Option κ) (action : σ → σ × α) (state : σ) :
    (stepAt key action).run state = action state :=
  rfl

@[simp] theorem run_step (key : κ) (action : σ → σ × α) (state : σ) :
    (step key action).run state = action state :=
  rfl

@[simp] theorem run_stepFree (action : σ → σ × α) (state : σ) :
    (stepFree action : Routine σ κ α).run state = action state :=
  rfl

@[simp]
theorem run_bind (routine : Routine σ κ α) (after : α → Routine σ κ β) (state : σ) :
    (routine.bind after).run state =
      (after (routine.run state).2).run (routine.run state).1 := by
  induction routine generalizing state with
  | done value => rfl
  | atomic key act next ih => exact ih state (act state)

end Routine

/-- What a family of routines promises about each key of the shared state. -/
structure Discipline (σ κ : Type) where
  /-- The part of the state that belongs to one key. -/
  Part : Type
  part : κ → σ → Part
  /-- What holds of a key while no routine is working on it. -/
  rest : κ → Part → Prop
  /-- What one step may do to the key it works on. -/
  move : κ → Part → Part → Prop

namespace Discipline

variable {σ κ α β : Type} (D : Discipline σ κ)

/-- The key a routine is working on, with the part it last left there. -/
abbrev Engagement : Type :=
  Option (κ × D.Part)

/-- The engaged key still has the part that was left there. -/
def Holds (engagement : D.Engagement) (state : σ) : Prop :=
  ∀ key part, engagement = some (key, part) → D.part key state = part

/-- Leaving the engaged key for another one requires it to be at rest. -/
def Settled (engagement : D.Engagement) : Prop :=
  ∀ key part, engagement = some (key, part) → D.rest key part

/-- A step on `key` may go ahead: the routine is on that key already, or it leaves its previous key
at rest and finds the new one at rest. -/
def Entry (engagement : D.Engagement) (key : κ) (state : σ) : Prop :=
  (∃ part, engagement = some (key, part)) ∨ D.rest key (D.part key state)

/-- What one step on `key` does: other keys are untouched and the key makes an allowed move. -/
structure Moves (D : Discipline σ κ) (key : κ) (before after : σ) : Prop where
  frame : ∀ other, other ≠ key → D.part other after = D.part other before
  move : D.move key (D.part key before) (D.part key after)

/-- The routine follows the discipline from the given engagement, whatever happens to other keys
between its steps, and finishes only with an engagement and a value that satisfy `post`. -/
def Follows (D : Discipline σ κ) :
    Routine σ κ α → D.Engagement → (D.Engagement → α → Prop) → Prop
  | .done value, engagement, post => post engagement value
  | .atomic key act next, engagement, post =>
    ∀ state, D.Holds engagement state →
      match key state with
      | none =>
        (∀ other, D.part other (act state) = D.part other state) ∧
          D.Follows (next state) engagement post
      | some target =>
        (∀ other part, engagement = some (other, part) → other ≠ target →
          D.rest other part) ∧
        (D.Entry engagement target state →
          D.Moves target state (act state) ∧
            D.Follows (next state) (some (target, D.part target (act state))) post)

/-- The routine follows the discipline from scratch and leaves its last key at rest. -/
def Obeys (routine : Routine σ κ α) : Prop :=
  D.Follows routine none fun engagement _ => D.Settled engagement

@[simp]
theorem follows_done (value : α) (engagement : D.Engagement) (post : D.Engagement → α → Prop) :
    D.Follows (.done value) engagement post ↔ post engagement value :=
  Iff.rfl

theorem Follows.mono {D : Discipline σ κ} {routine : Routine σ κ α}
    {engagement : D.Engagement} {post weaker : D.Engagement → α → Prop}
    (follows : D.Follows routine engagement post)
    (weaken : ∀ engagement value, post engagement value → weaker engagement value) :
    D.Follows routine engagement weaker := by
  induction routine generalizing engagement with
  | done value => exact weaken engagement value follows
  | atomic key act next ih =>
    intro state holds
    have here := follows state holds
    cases found : key state with
    | none =>
      rw [found] at here
      exact ⟨here.1, ih state here.2⟩
    | some target =>
      simp only [found] at here
      exact ⟨here.1, fun entry => ⟨(here.2 entry).1, ih state (here.2 entry).2⟩⟩

@[simp]
theorem follows_bind (routine : Routine σ κ α)
    (after : α → Routine σ κ β) (engagement : D.Engagement) (post : D.Engagement → β → Prop) :
    D.Follows (routine.bind after) engagement post ↔
      D.Follows routine engagement fun engagement value =>
        D.Follows (after value) engagement post := by
  induction routine generalizing engagement with
  | done value => rfl
  | atomic key act next ih => simp only [Routine.bind, Follows, ih]

/-- A step on no key only has to leave every part alone. -/
theorem follows_stepFree {D : Discipline σ κ} {action : σ → σ × α} {engagement : D.Engagement}
    {post : D.Engagement → α → Prop}
    (frame : ∀ state other, D.part other (action state).1 = D.part other state)
    (after : ∀ state, D.Holds engagement state → post engagement (action state).2) :
    D.Follows (Routine.stepFree action) engagement post :=
  fun state holds => ⟨frame state, after state holds⟩

/-- A settled routine entering a key finds it at rest. -/
theorem rest_of_entry {D : Discipline σ κ} {engagement : D.Engagement} {key : κ} {state : σ}
    (settled : D.Settled engagement) (holds : D.Holds engagement state)
    (entry : D.Entry engagement key state) :
    D.rest key (D.part key state) := by
  rcases entry with ⟨part, engaged⟩ | rest
  · rw [holds key part engaged]
    exact settled key part engaged
  · exact rest

/-- A settled routine may take a step on any key, also one it reads off the state. -/
theorem follows_stepAt {D : Discipline σ κ} {key : σ → Option κ} {action : σ → σ × α}
    {engagement : D.Engagement} {post : D.Engagement → α → Prop} (settled : D.Settled engagement)
    (free : ∀ state, key state = none →
      (∀ other, D.part other (action state).1 = D.part other state) ∧
        post engagement (action state).2)
    (enter : ∀ state target, key state = some target → D.rest target (D.part target state) →
      D.Moves target state (action state).1 ∧
        post (some (target, D.part target (action state).1)) (action state).2) :
    D.Follows (Routine.stepAt key action) engagement post := by
  intro state holds
  cases found : key state with
  | none => exact free state found
  | some target =>
    refine ⟨fun other part engaged _ => settled other part engaged, fun entry => ?_⟩
    exact enter state target found (rest_of_entry settled holds entry)

/-- A further step on the key the routine is already working on finds the part it left there. -/
theorem follows_step_stay {D : Discipline σ κ} {key : κ} {action : σ → σ × α} {part : D.Part}
    {post : D.Engagement → α → Prop}
    (stay : ∀ state, D.part key state = part →
      D.Moves key state (action state).1 ∧
        post (some (key, D.part key (action state).1)) (action state).2) :
    D.Follows (Routine.step key action) (some (key, part)) post := by
  intro state holds
  refine ⟨?_, fun _ => stay state (holds key part rfl)⟩
  intro other otherPart same different
  obtain ⟨rfl, rfl⟩ : key = other ∧ part = otherPart := by simpa using same
  exact absurd rfl different

@[simp]
theorem settled_none : D.Settled none := by
  simp [Settled]

@[simp]
theorem settled_some (key : κ) (part : D.Part) :
    D.Settled (some (key, part)) ↔ D.rest key part := by
  simp [Settled]

/-- From any settled engagement the routine follows the discipline to a settled one. -/
def Keeps (routine : Routine σ κ α) : Prop :=
  ∀ engagement, D.Settled engagement →
    D.Follows routine engagement fun last _ => D.Settled last

theorem Keeps.obeys {D : Discipline σ κ} {routine : Routine σ κ α} (keeps : D.Keeps routine) :
    D.Obeys routine :=
  keeps none D.settled_none

theorem keeps_done (value : α) : D.Keeps (.done value) :=
  fun _ settled => settled

theorem Keeps.bind {D : Discipline σ κ} {routine : Routine σ κ α} {after : α → Routine σ κ β}
    (first : D.Keeps routine) (second : ∀ value, D.Keeps (after value)) :
    D.Keeps (routine.bind after) := by
  intro engagement settled
  rw [follows_bind]
  exact (first engagement settled).mono fun last value rest => second value last rest

theorem keeps_stepFree {D : Discipline σ κ} {action : σ → σ × α}
    (frame : ∀ state other, D.part other (action state).1 = D.part other state) :
    D.Keeps (Routine.stepFree action) :=
  fun _ settled => follows_stepFree frame fun _ _ => settled

theorem keeps_forM {D : Discipline σ κ} {items : List α} {body : α → Routine σ κ PUnit}
    (each : ∀ item ∈ items, D.Keeps (body item)) : D.Keeps (items.forM body) := by
  induction items with
  | nil => exact keeps_done D PUnit.unit
  | cons item items ih =>
    exact (each item (by simp)).bind fun _ => ih fun other inside => each other (by simp [inside])

/-- The first step of the routine is on the given key. -/
def StartsOn (key : κ) : Routine σ κ α → Prop
  | .done _ => False
  | .atomic found _ _ => ∀ state, found state = some key

/-- A routine that starts on a key may be taken to be working on that key at rest already. -/
theorem keeps_of_startsOn {D : Discipline σ κ} {routine : Routine σ κ α} {key : κ}
    (starts : StartsOn key routine)
    (follows : ∀ part, D.rest key part →
      D.Follows routine (some (key, part)) fun last _ => D.Settled last) :
    D.Keeps routine := by
  intro engagement settled
  cases routine with
  | done value => exact starts.elim
  | atomic found act next =>
    intro state holds
    rw [starts state]
    refine ⟨fun other part engaged _ => settled other part engaged, fun entry => ?_⟩
    have here := follows (D.part key state) (rest_of_entry settled holds entry) state
      (by simp [Holds])
    rw [starts state] at here
    exact here.2 (Or.inl ⟨_, rfl⟩)

/-- Every key that the routine is not working on is at rest. -/
structure Quiet (D : Discipline σ κ) (engagement : D.Engagement) (state : σ) : Prop where
  holds : D.Holds engagement state
  rest : ∀ key, (∀ part, engagement ≠ some (key, part)) → D.rest key (D.part key state)

def AtRest (state : σ) : Prop :=
  ∀ key, D.rest key (D.part key state)

theorem AtRest.quiet {D : Discipline σ κ} {state : σ} (atRest : D.AtRest state) :
    D.Quiet none state :=
  ⟨by simp [Holds], fun key _ => atRest key⟩

theorem Quiet.atRest {D : Discipline σ κ} {engagement : D.Engagement} {state : σ}
    (quiet : D.Quiet engagement state) (settled : D.Settled engagement) : D.AtRest state := by
  intro key
  by_cases engaged : ∃ part, engagement = some (key, part)
  · obtain ⟨part, engaged⟩ := engaged
    rw [quiet.holds key part engaged]
    exact settled key part engaged
  · exact quiet.rest key fun part same => engaged ⟨part, same⟩

theorem Quiet.of_frame {D : Discipline σ κ} {engagement : D.Engagement} {before after : σ}
    (quiet : D.Quiet engagement before)
    (frame : ∀ key, D.part key after = D.part key before) : D.Quiet engagement after := by
  refine ⟨fun key part engaged => ?_, fun key free => ?_⟩
  · rw [frame key]
    exact quiet.holds key part engaged
  · rw [frame key]
    exact quiet.rest key free

/-- A step on a key that leaves the previously engaged key at rest. -/
theorem Quiet.move {D : Discipline σ κ} {engagement : D.Engagement} {before after : σ}
    {target : κ} (quiet : D.Quiet engagement before)
    (settled : ∀ other part, engagement = some (other, part) → other ≠ target →
      D.rest other part)
    (moves : D.Moves target before after) :
    D.Quiet (some (target, D.part target after)) after := by
  refine ⟨by simp [Holds], fun key free => ?_⟩
  have different : key ≠ target := by
    rintro rfl
    exact free _ rfl
  rw [moves.frame key different]
  by_cases engaged : ∃ part, engagement = some (key, part)
  · obtain ⟨part, engaged⟩ := engaged
    rw [quiet.holds key part engaged]
    exact settled key part engaged different
  · exact quiet.rest key fun part same => engaged ⟨part, same⟩

theorem Quiet.entry {D : Discipline σ κ} {engagement : D.Engagement} {state : σ}
    (quiet : D.Quiet engagement state) (key : κ) : D.Entry engagement key state := by
  by_cases engaged : ∃ part, engagement = some (key, part)
  · exact Or.inl engaged
  · exact Or.inr (quiet.rest key fun part same => engaged ⟨part, same⟩)

/-- A routine that follows a discipline keeps every other key at rest when it runs alone, and each
key only makes allowed moves. -/
theorem Follows.run {D : Discipline σ κ} {routine : Routine σ κ α}
    {engagement : D.Engagement} {post : D.Engagement → α → Prop} {state : σ}
    (follows : D.Follows routine engagement post) (quiet : D.Quiet engagement state) :
    (∃ last, post last (routine.run state).2 ∧ D.Quiet last (routine.run state).1) ∧
      ∀ key, Relation.ReflTransGen (D.move key) (D.part key state)
        (D.part key (routine.run state).1) := by
  induction routine generalizing engagement state with
  | done value => exact ⟨⟨engagement, follows, quiet⟩, fun _ => .refl⟩
  | atomic key act next ih =>
    have here := follows state quiet.holds
    cases found : key state with
    | none =>
      rw [found] at here
      obtain ⟨finish, moves⟩ := ih state here.2 (quiet.of_frame here.1)
      refine ⟨finish, fun other => ?_⟩
      rw [← here.1 other]
      exact moves other
    | some target =>
      simp only [found] at here
      obtain ⟨step, rest⟩ := here.2 (quiet.entry target)
      obtain ⟨finish, moves⟩ := ih state rest (quiet.move here.1 step)
      refine ⟨finish, fun other => ?_⟩
      by_cases same : other = target
      · subst same
        exact .head step.move (moves other)
      · rw [← step.frame other same]
        exact moves other

theorem Obeys.run_atRest {D : Discipline σ κ} {routine : Routine σ κ α} {state : σ}
    (obeys : D.Obeys routine) (atRest : D.AtRest state) :
    D.AtRest (routine.run state).1 := by
  obtain ⟨last, settled, quiet⟩ := (Follows.run obeys atRest.quiet).1
  exact quiet.atRest settled

theorem Obeys.run_moves {D : Discipline σ κ} {routine : Routine σ κ α} {state : σ}
    (obeys : D.Obeys routine) (atRest : D.AtRest state) (key : κ) :
    Relation.ReflTransGen (D.move key) (D.part key state)
      (D.part key (routine.run state).1) :=
  (Follows.run obeys atRest.quiet).2 key

end Discipline

end Concurrency

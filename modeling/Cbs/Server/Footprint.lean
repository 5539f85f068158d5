import Cbs.Server.Operations

/-!
# The footprint of a build

What the database row, the active map and the lanes say about one build.  Between two operations the
three agree, and no step takes a row out of a terminal state.
-/

namespace Cbs

open Concurrency

/-- What the three stores say about one build. -/
@[ext]
structure Footprint where
  row : Option (BuildState × Priority)
  active : Option Priority
  waiting : Priority → Nat

theorem forall_priority_iff {holds : Priority → Prop} :
    (∀ priority, holds priority) ↔ holds .high ∧ holds .normal ∧ holds .low := by
  constructor
  · intro all
    exact ⟨all .high, all .normal, all .low⟩
  · rintro ⟨high, normal, low⟩ priority
    cases priority
    · exact high
    · exact normal
    · exact low

instance {places counts : Priority → Nat} : Decidable (places = counts) :=
  decidable_of_iff _ (forall_priority_iff.symm.trans funext_iff.symm)

instance : DecidableEq Footprint := fun first second =>
  decidable_of_iff
    (first.row = second.row ∧ first.active = second.active ∧ first.waiting = second.waiting)
    Footprint.ext_iff.symm

def footprint (buildId : BuildId) (state : AppState) : Footprint where
  row := (state.builds.getBuild buildId).map fun row => (row.state, row.priority)
  active := (state.queue.active.get buildId).map (·.priority)
  waiting := state.queue.occurs buildId

/-- The assignment that goes with a row. -/
def assignmentOf : Option (BuildState × Priority) → Option Priority
  | some (.dispatched, priority) | some (.started, priority) | some (.revoking, priority) =>
    some priority
  | _ => none

/-- The places in the lanes that go with a row. -/
def waitingOf : Option (BuildState × Priority) → Priority → Nat
  | some (.queued, priority) => fun lane => if lane = priority then 1 else 0
  | _ => fun _ => 0

namespace Footprint

/-- The active map and the lanes are as the row says. -/
structure Consistent (print : Footprint) : Prop where
  active : print.active = assignmentOf print.row
  waiting : print.waiting = waitingOf print.row

/-- The active map and the lanes are as the row says, except that a queued build may have been lost
from its lane if that is to be reckoned with. -/
structure Resting (lossy : Prop) (print : Footprint) : Prop where
  active : print.active = assignmentOf print.row
  waiting : print.waiting = waitingOf print.row ∨ lossy ∧ print.waiting = fun _ => 0

instance {lossy : Prop} [Decidable lossy] {print : Footprint} : Decidable (print.Resting lossy) :=
  decidable_of_iff
    (print.active = assignmentOf print.row ∧
      (print.waiting = waitingOf print.row ∨ lossy ∧ print.waiting = fun _ => 0))
    ⟨fun both => ⟨both.1, both.2⟩, fun resting => ⟨resting.active, resting.waiting⟩⟩

variable {lossy : Prop} {print : Footprint}

theorem Consistent.resting (consistent : print.Consistent) : print.Resting lossy :=
  ⟨consistent.active, Or.inl consistent.waiting⟩

theorem Resting.consistent (resting : print.Resting False) : print.Consistent :=
  ⟨resting.active, resting.waiting.resolve_right fun lost => lost.1⟩

/-- Set the state of the row, if there is one. -/
def setState (print : Footprint) (state : BuildState) : Footprint :=
  { print with row := print.row.map fun row => (state, row.2) }

/-- Drop the assignment. -/
def vacate (print : Footprint) : Footprint :=
  { print with active := none }

/-- What a step may do to a row: a terminal state stays, and for a guarded build a revoke is not
undone. -/
structure Allowed (guarded : Prop) (before after : Footprint) : Prop where
  absorbing : ∀ state priority, before.row = some (state, priority) → state.Terminal →
    after.row = before.row
  revoking : guarded → ∀ priority, before.row = some (.revoking, priority) →
    ∃ state priority, after.row = some (state, priority) ∧
      (state = .revoking ∨ state.Terminal)

variable {guarded : Prop}

theorem Allowed.of_row_eq {before after : Footprint}
    (same : after.row = before.row) : Allowed guarded before after := by
  refine ⟨fun _ _ _ _ => same, fun _ priority isRevoking => ?_⟩
  exact ⟨.revoking, priority, same.trans isRevoking, Or.inl rfl⟩

variable {priority : Priority}

theorem Allowed.setState {old new : BuildState}
    (row : print.row = some (old, priority)) (live : ¬ old.Terminal)
    (kept : guarded → old = .revoking → new = .revoking ∨ new.Terminal) :
    Allowed guarded print (print.setState new) := by
  refine ⟨fun state priority isState terminal => ?_, fun isGuarded priority isRevoking => ?_⟩
  · obtain ⟨rfl, -⟩ : old = state ∧ _ := by simpa [row] using isState
    exact absurd terminal live
  · obtain ⟨rfl, rfl⟩ : old = .revoking ∧ _ := by simpa [row] using isRevoking
    exact ⟨new, priority, by simp [Footprint.setState, row], kept isGuarded rfl⟩

variable {state : BuildState}

theorem resting_of_terminal
    (priority : Priority) (row : print.row = some (state, priority)) (terminal : state.Terminal)
    (active : print.active = none) (waiting : print.waiting = fun _ => 0) :
    print.Resting lossy := by
  have none_waiting : waitingOf print.row = fun _ => 0 := by
    rw [row]
    rcases terminal with rfl | rfl | rfl <;> rfl
  refine ⟨?_, Or.inl (waiting.trans none_waiting.symm)⟩
  rw [active, row]
  rcases terminal with rfl | rfl | rfl <;> rfl

variable (resting : print.Resting lossy)

include resting

theorem Resting.not_active_of_not_assigned (row : print.row = some (state, priority))
    (unassigned : ¬ state.Assigned) : print.active = none := by
  rw [resting.active, row]
  cases state <;> first | rfl | exact absurd (by decide) unassigned

theorem Resting.active_of_assigned (row : print.row = some (state, priority))
    (assigned : state.Assigned) : print.active = some priority ∧ print.waiting = fun _ => 0 := by
  rw [resting.active, row]
  have waiting := resting.waiting
  rw [row] at waiting
  rcases assigned with rfl | rfl | rfl <;> exact ⟨rfl, waiting.elim id And.right⟩

theorem Resting.assigned_of_active (active : print.active = some priority) :
    ∃ state, print.row = some (state, priority) ∧ state.Assigned := by
  rw [resting.active] at active
  unfold assignmentOf at active
  split at active
  · exact ⟨.dispatched, by rename_i row; rw [row, Option.some.inj active], by decide⟩
  · exact ⟨.started, by rename_i row; rw [row, Option.some.inj active], by decide⟩
  · exact ⟨.revoking, by rename_i row; rw [row, Option.some.inj active], by decide⟩
  · exact absurd active (by simp)

theorem Resting.waiting_le (lane : Priority) : print.waiting lane ≤ waitingOf print.row lane := by
  rcases resting.waiting with same | ⟨-, lost⟩
  · exact Nat.le_of_eq (congrFun same lane)
  · rw [lost]
    exact Nat.zero_le _

/-- A build that waits somewhere was not lost. -/
theorem Resting.waiting_of_waiting (waits : 0 < print.waiting priority) :
    print.waiting = waitingOf print.row := by
  refine resting.waiting.resolve_right fun lost => ?_
  rw [lost.2] at waits
  exact Nat.lt_irrefl 0 waits

theorem Resting.queued_of_waiting (waits : 0 < print.waiting priority) :
    print.row = some (.queued, priority) := by
  rw [resting.waiting_of_waiting waits] at waits
  rcases row : print.row with _ | ⟨state, found⟩
  · simp [row, waitingOf] at waits
  · cases state <;> simp [row, waitingOf] at waits
    by_cases same : priority = found
    · rw [same]
    · simp [same] at waits

end Footprint

theorem BuildState.not_terminal_of_assigned {state : BuildState} (assigned : state.Assigned) :
    ¬ state.Terminal := by
  rcases assigned with rfl | rfl | rfl <;> decide

/-- Between operations the stores agree, up to builds that were lost if that is to be reckoned with;
a step keeps terminal rows and, for the guarded builds, does not undo a revoke. -/
def discipline (lossy : Prop) (guarded : BuildId → Prop) : Discipline AppState BuildId where
  Part := Footprint
  part := footprint
  rest := fun _ print => print.Resting lossy
  move := fun buildId before after => Footprint.Allowed (guarded buildId) before after

instance (lossy : Prop) (guarded : BuildId → Prop) : DecidableEq (discipline lossy guarded).Part :=
  inferInstanceAs (DecidableEq Footprint)

instance (lossy : Prop) [Decidable lossy] (guarded : BuildId → Prop) (buildId : BuildId) :
    DecidablePred ((discipline lossy guarded).rest buildId) := fun (print : Footprint) =>
  inferInstanceAs (Decidable (Footprint.Resting lossy print))

section Rules

variable {lossy : Prop} {guarded : BuildId → Prop} {α : Type} {buildId : BuildId}
  {print : Footprint}

/-- A handler that works on a build with the given footprint leaves it at rest in the end. -/
abbrev Settles (lossy : Prop) (guarded : BuildId → Prop) (handler : Handler α) (buildId : BuildId)
    (print : Footprint) : Prop :=
  (discipline lossy guarded).Follows handler (some (buildId, print)) fun last _ =>
    (discipline lossy guarded).Settled last

theorem Footprint.Resting.settled (resting : print.Resting lossy) :
    (discipline lossy guarded).Settled (some (buildId, print)) :=
  (Discipline.settled_some ..).mpr resting

theorem Settles.bind_done {β : Type} {handler : Handler α} {value : α → β}
    (settles : Settles lossy guarded handler buildId print) :
    Settles lossy guarded (handler.bind fun result => .done (value result)) buildId print := by
  rw [Settles, Discipline.follows_bind]
  exact settles.mono fun _ _ rest => rest

theorem keeps_of_settles {handler : Handler α} (starts : Discipline.StartsOn buildId handler)
    (settles : ∀ print : Footprint, print.Resting lossy →
      Settles lossy guarded handler buildId print) : (discipline lossy guarded).Keeps handler :=
  Discipline.keeps_of_startsOn starts settles

theorem follows_execute {change : BuildRow → BuildRow} (state : BuildState)
    {post : (discipline lossy guarded).Engagement → Unit → Prop}
    (sets : ∀ row, (change row).state = state) (keeps : ∀ row, (change row).priority = row.priority)
    (allowed : Footprint.Allowed (guarded buildId) print (print.setState state))
    (after : post (some (buildId, print.setState state)) ()) :
    (discipline lossy guarded).Follows (Handler.execute buildId (·.update buildId change))
      (some (buildId, print)) post := by
  refine Discipline.follows_step_stay fun app here => ?_
  have result : footprint buildId { app with builds := app.builds.update buildId change } =
      print.setState state := by
    have isPrint : footprint buildId app = print := here
    rw [← isPrint]
    simp only [footprint, Footprint.setState, BuildsTable.getBuild_update, if_pos, Option.map_map]
    congr 1
    cases app.builds.getBuild buildId <;> simp [sets, keeps]
  refine ⟨⟨fun other different => ?_, ?_⟩, ?_⟩
  · change footprint other _ = footprint other app
    simp [footprint, different]
  · change Footprint.Allowed _ (footprint buildId app) (footprint buildId _)
    rw [result, show footprint buildId app = print from here]
    exact allowed
  · change post (some (buildId, footprint buildId _)) ()
    rw [result]
    exact after

theorem follows_lockFor {action : BuildQueue → BuildQueue × α} (after : Footprint)
    {post : (discipline lossy guarded).Engagement → α → Prop}
    (others : ∀ queue other, other ≠ buildId →
      ((action queue).1.active.get other).map (·.priority) =
          (queue.active.get other).map (·.priority) ∧
        (action queue).1.occurs other = queue.occurs other)
    (row : after.row = print.row)
    (here : ∀ queue, (queue.active.get buildId).map (·.priority) = print.active →
      queue.occurs buildId = print.waiting →
      ((action queue).1.active.get buildId).map (·.priority) = after.active ∧
        (action queue).1.occurs buildId = after.waiting ∧
        post (some (buildId, after)) (action queue).2) :
    (discipline lossy guarded).Follows (Handler.lockFor buildId action)
      (some (buildId, print)) post := by
  refine Discipline.follows_step_stay fun app isPrint => ?_
  obtain rfl : footprint buildId app = print := isPrint
  obtain ⟨active, waiting, finish⟩ := here app.queue rfl rfl
  have result : footprint buildId { app with queue := (action app.queue).1 } = after :=
    Footprint.ext row.symm active waiting
  refine ⟨⟨fun other different => ?_, ?_⟩, ?_⟩
  · change footprint other _ = footprint other app
    exact Footprint.ext rfl (others app.queue other different).1
      (others app.queue other different).2
  · change Footprint.Allowed _ (footprint buildId app) (footprint buildId _)
    rw [result]
    exact .of_row_eq row
  · change post (some (buildId, footprint buildId _)) _
    rw [result]
    exact finish

theorem follows_removeActive {value : BuildQueue → α}
    {post : (discipline lossy guarded).Engagement → α → Prop}
    (after : ∀ queue, (queue.active.get buildId).map (·.priority) = print.active →
      post (some (buildId, print.vacate)) (value queue)) :
    (discipline lossy guarded).Follows
      (Handler.lockFor buildId fun queue =>
        ({ queue with active := queue.active.remove buildId }, value queue))
      (some (buildId, print)) post := by
  refine follows_lockFor print.vacate (fun queue other different => ?_) rfl
    fun queue active waiting => ⟨?_, waiting, after queue active⟩
  · exact ⟨by simp [different], rfl⟩
  · simp [Footprint.vacate]

theorem follows_getBuild {post : (discipline lossy guarded).Engagement → Option BuildRow → Prop}
    (after : ∀ row, row.map (fun row => (row.state, row.priority)) = print.row →
      post (some (buildId, print)) row) :
    (discipline lossy guarded).Follows (Handler.getBuild buildId) (some (buildId, print)) post := by
  refine Discipline.follows_step_stay fun app isPrint => ?_
  obtain rfl : footprint buildId app = print := isPrint
  exact ⟨⟨fun _ _ => rfl, .of_row_eq rfl⟩, after _ rfl⟩

/-- A step on the build that the handler works on which leaves the footprint alone. -/
theorem follows_step_same {action : AppState → AppState × α}
    {post : (discipline lossy guarded).Engagement → α → Prop}
    (same : ∀ state other, footprint other (action state).1 = footprint other state)
    (after : ∀ state, footprint buildId state = print →
      post (some (buildId, print)) (action state).2) :
    (discipline lossy guarded).Follows (Routine.step buildId action)
      (some (buildId, print)) post := by
  refine Discipline.follows_step_stay fun app isPrint => ?_
  obtain rfl : footprint buildId app = print := isPrint
  refine ⟨⟨fun other _ => same app other, .of_row_eq ?_⟩, ?_⟩
  · change (footprint buildId _).row = (footprint buildId app).row
    rw [same]
  · change post (some (buildId, footprint buildId _)) _
    rw [same]
    exact after app rfl

end Rules

end Cbs

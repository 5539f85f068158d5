import Cbs.Library.Pool
import Cbs.Server.Invariant

/-!
# Concurrent handlers

Any number of operations run at once and their atomic steps interleave.  A handler may overwrite the
end of a build that it has read before; along other schedules a terminal row is final.
-/

namespace Cbs

open Concurrency

/-- What the scheduler of the server may do: start an operation, or let one take its next step. -/
def ServerEvent : Event AppState BuildId → Prop
  | .spawn routine => ∃ env operation, routine = Operation.routine env operation
  | .advance _ => True

def idlePool (state : AppState) : Pool AppState BuildId :=
  ⟨state, []⟩

/-- Whenever a handler takes a step, what the stores say of the build it last worked on is as it
left it, and of a build that it turns to they agree, up to a build lost from its lane. -/
def UndisturbedRun (state : AppState) (events : List (Event AppState BuildId)) : Prop :=
  (discipline True fun _ => False).UndisturbedRun (idlePool state) events

instance (state : AppState) (events : List (Event AppState BuildId)) :
    Decidable (UndisturbedRun state events) :=
  inferInstanceAs (Decidable ((discipline True fun _ => False).UndisturbedRun _ _))

theorem starts_of_serverEvent {event : Event AppState BuildId} (served : ServerEvent event) :
    (discipline True fun _ => False).Starts event := by
  cases event with
  | spawn routine =>
    obtain ⟨env, operation, rfl⟩ := served
    exact (keeps_routine (by simp) (by simp)).obeys
  | advance index => trivial

theorem row_of_moves {guarded : Prop} {before after : Footprint} {state : BuildState}
    {priority : Priority} (row : before.row = some (state, priority)) (terminal : state.Terminal)
    (moves : Relation.ReflTransGen (Footprint.Allowed guarded) before after) :
    after.row = some (state, priority) := by
  induction moves with
  | refl => exact row
  | tail _ move ih => rw [move.absorbing state priority ih terminal, ih]

/-- Terminal states are absorbing along every schedule in which no handler acts on a build that has
changed since it last looked. -/
theorem terminal_absorbing_of_undisturbed {state : AppState}
    {first second : List (Event AppState BuildId)}
    (served : ∀ event ∈ first ++ second, ServerEvent event)
    (undisturbed : UndisturbedRun state (first ++ second)) {buildId : BuildId}
    {status : BuildState}
    (ended : (((idlePool state).run first).state.builds.getBuild buildId).map (·.state) =
      some status)
    (terminal : status.Terminal) :
    (((idlePool state).run (first ++ second)).state.builds.getBuild buildId).map (·.state) =
      some status := by
  obtain ⟨before, after⟩ := (Discipline.undisturbedRun_append ..).mp undisturbed
  have starts : ∀ event ∈ first ++ second, (discipline True fun _ => False).Starts event :=
    fun event inside => starts_of_serverEvent (served event inside)
  have sound : (discipline True fun _ => False).Sound (idlePool state) :=
    Discipline.sound_empty _ state
  have middle := sound.run before fun event inside =>
    starts event (List.mem_append_left _ inside)
  have moves := (middle.1.run after fun event inside =>
    starts event (List.mem_append_right _ inside)).2 buildId
  obtain ⟨row, found, rfl⟩ := Option.map_eq_some_iff.mp ended
  have here : (footprint buildId ((idlePool state).run first).state).row =
      some (row.state, row.priority) := by
    simp [footprint, found]
  have final := row_of_moves here terminal moves
  rw [Pool.run_append]
  obtain ⟨last, isLast, same⟩ := Option.map_eq_some_iff.mp final
  rw [isLast]
  exact congrArg some (Prod.mk.inj same).1

def successReport : Operation :=
  .message "first" builder (.buildFinished 1 .success none none)

/-- A batch of output lines and a report of success that are handled at the same time, up to the
statement that records the success. -/
def overlappingReports : List (Event AppState BuildId) :=
  [.spawn (Operation.routine .smooth (.message "first" builder (.buildOutput 1 0 ["done"]))),
    .spawn (successReport.routine .smooth), .advance 0, .advance 1, .advance 0, .advance 0,
    .advance 0, .advance 1]

theorem terminal_absorbing_of_overlap :
    (((idlePool executingServer).run
      (overlappingReports ++ List.replicate 6 (.advance 1))).state.builds.getBuild 1).map
        (·.state) = some .success := by
  refine terminal_absorbing_of_undisturbed (fun event inside => ?_) (by decide) (by decide)
    (by decide)
  simp only [overlappingReports, List.cons_append, List.nil_append, List.mem_cons,
    List.mem_replicate] at inside
  rcases inside with rfl | rfl | rfl | rfl | rfl | rfl | rfl | rfl | ⟨-, rfl⟩
  · exact ⟨.smooth, .message "first" builder (.buildOutput 1 0 ["done"]), rfl⟩
  · exact ⟨.smooth, successReport, rfl⟩
  all_goals trivial

/-- A revoke request that has read the row and found the assignment, and a report of success that
has then been recorded. -/
def crossingRevoke : List (Event AppState BuildId) :=
  [.spawn (Operation.routine .smooth (.revoke admin 1)), .spawn (successReport.routine .smooth),
    .advance 0, .advance 0, .advance 1, .advance 1]

/-- The next step of the revoke request overwrites the recorded success. -/
theorem revoke_overwrites_success :
    Reachable executingServer ∧
      (∀ event ∈ crossingRevoke ++ [.advance 0], ServerEvent event) ∧
      (((idlePool executingServer).run crossingRevoke).state.builds.getBuild 1).map (·.state) =
        some .success ∧
      (((idlePool executingServer).run
        (crossingRevoke ++ [.advance 0])).state.builds.getBuild 1).map (·.state) =
        some .revoking := by
  refine ⟨reachable_executingServer, fun event inside => ?_, by decide, by decide⟩
  simp only [crossingRevoke, List.cons_append, List.nil_append, List.mem_cons,
    List.not_mem_nil, or_false] at inside
  rcases inside with rfl | rfl | rfl | rfl | rfl | rfl | rfl
  · exact ⟨.smooth, .revoke admin 1, rfl⟩
  · exact ⟨.smooth, successReport, rfl⟩
  all_goals trivial

end Cbs

import Cbs.Library.Routine

/-!
# Routines that run to completion

Rules of pre- and postconditions for routines that run from their first to their last step without
interference.
-/

namespace Concurrency

namespace Routine

variable {σ κ α β : Type}

/-- From every state that satisfies the precondition, a complete run ends in a value and a state
that satisfy the postcondition. -/
def Triple (before : σ → Prop) (routine : Routine σ κ α) (after : α → σ → Prop) : Prop :=
  ∀ state, before state → after (routine.run state).2 (routine.run state).1

abbrev Preserves (invariant : σ → Prop) (routine : Routine σ κ α) : Prop :=
  Triple invariant routine fun _ => invariant

variable {before : σ → Prop} {routine : Routine σ κ α}

theorem preserves_done (invariant : σ → Prop) (value : α) :
    Preserves invariant (done value : Routine σ κ α) :=
  fun _ holds => holds

theorem Triple.bind {middle : α → σ → Prop} {next : α → Routine σ κ β} {after : β → σ → Prop}
    (first : Triple before routine middle)
    (second : ∀ value, Triple (middle value) (next value) after) :
    Triple before (routine >>= next) after := by
  intro state holds
  have reached := first state holds
  rw [bind_eq, run_bind]
  exact second _ _ reached

/-- A loop, with an invariant that depends on the items that are still to come. -/
theorem triple_forM {body : α → Routine σ κ PUnit} (invariant : List α → σ → Prop)
    (step : ∀ item items, Triple (invariant (item :: items)) (body item)
      fun _ => invariant items) (items : List α) :
    Triple (invariant items) (items.forM body) fun _ => invariant [] := by
  induction items with
  | nil => exact preserves_done _ _
  | cons item items ih => exact (step item items).bind fun _ => ih

end Routine

end Concurrency

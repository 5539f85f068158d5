import Mathlib.Init

/-!
# Scripts that may stop

A script changes a state and ends with a value or stops with an error; what it has done until then
stays done.
-/

/-- A program on a state that may stop with an error. -/
def Script (σ ε α : Type) : Type :=
  σ → Except ε α × σ

namespace Script

variable {σ ε α β : Type}

def run (script : Script σ ε α) (state : σ) : Except ε α × σ :=
  script state

def fail (reason : ε) : Script σ ε α :=
  fun state => (.error reason, state)

instance : Monad (Script σ ε) where
  pure value := fun state => (.ok value, state)
  bind first next := fun state =>
    match first state with
    | (.ok value, after) => next value after
    | (.error reason, after) => (.error reason, after)

def ofExcept : Except ε α → Script σ ε α
  | .ok value => pure value
  | .error reason => fail reason

def mapError {ζ : Type} (translate : ε → ζ) (script : Script σ ε α) : Script σ ζ α :=
  fun state => ((script state).1.mapError translate, (script state).2)

/-- From states that satisfy the precondition, the script ends with a value and a state that satisfy
the postcondition, or it stops in a state that satisfies the last assertion. -/
def Triple (before : σ → Prop) (script : Script σ ε α) (after : α → σ → Prop)
    (stopped : σ → Prop) : Prop :=
  ∀ state, before state →
    match script.run state with
    | (.ok value, final) => after value final
    | (.error _, final) => stopped final

variable {before : σ → Prop} {script : Script σ ε α} {after : α → σ → Prop} {stopped : σ → Prop}

theorem triple_pure {value : α} (implies : ∀ state, before state → after value state) :
    Triple before (pure value : Script σ ε α) after stopped :=
  implies

theorem triple_fail {reason : ε} (implies : ∀ state, before state → stopped state) :
    Triple before (fail reason : Script σ ε α) after stopped :=
  implies

theorem triple_ofExcept {check : Except ε α}
    (accepted : ∀ value, check = .ok value → ∀ state, before state → after value state)
    (refused : ∀ state, before state → stopped state) :
    Triple before (ofExcept check) after stopped := by
  cases check with
  | ok value => exact triple_pure (accepted value rfl)
  | error reason => exact triple_fail refused

theorem Triple.bind (middle : α → σ → Prop) {next : α → Script σ ε β} {final : β → σ → Prop}
    (first : Triple before script middle stopped)
    (second : ∀ value, Triple (middle value) (next value) final stopped) :
    Triple before (script >>= next) final stopped := by
  intro state holds
  have reached := first state holds
  change match (match script.run state with
    | (.ok value, after) => next value after
    | (.error reason, after) => (.error reason, after)) with
    | (.ok value, last) => final value last
    | (.error _, last) => stopped last
  cases outcome : script.run state with
  | mk result after =>
    rw [outcome] at reached
    cases result with
    | ok value => exact second value after reached
    | error reason => exact reached

variable (triple : Triple before script after stopped)
include triple

theorem Triple.mapError {ζ : Type} {translate : ε → ζ} :
    Triple before (script.mapError translate) after stopped := by
  intro state holds
  have reached := triple state holds
  unfold Script.run at reached
  unfold Script.run Script.mapError
  cases outcome : script state with
  | mk result final =>
    rw [outcome] at reached
    cases result with
    | ok value | error reason => exact reached

theorem Triple.mono {weaker : α → σ → Prop} {stronger : σ → Prop}
    (implies : ∀ state, stronger state → before state)
    (weakens : ∀ value state, after value state → weaker value state) :
    Triple stronger script weaker stopped := by
  intro state holds
  have reached := triple state (implies state holds)
  cases outcome : script.run state with
  | mk result final =>
    rw [outcome] at reached
    cases result with
    | ok value => exact weakens value final reached
    | error reason => exact reached

theorem Triple.mono_stopped {weaker : σ → Prop} (weakens : ∀ state, stopped state → weaker state) :
    Triple before script after weaker := by
  intro state holds
  have reached := triple state holds
  cases outcome : script.run state with
  | mk result final =>
    rw [outcome] at reached
    cases result with
    | ok value => exact reached
    | error reason => exact weakens final reached

omit triple

theorem triple_of_fact {fact : Prop} (assuming : fact → Triple before script after stopped) :
    Triple (fun state => before state ∧ fact) script after stopped :=
  fun state holds => assuming holds.2 state holds.1

theorem triple_of_state
    (pointwise : ∀ state, before state → Triple (· = state) script after stopped) :
    Triple before script after stopped :=
  fun state holds => pointwise state holds state rfl

theorem Triple.remember (triple : Triple before script after stopped) {state : σ}
    (holds : before state) :
    Triple (· = state) script
      (fun value final => script.run state = (.ok value, final) ∧ after value final) stopped := by
  rintro _ rfl
  have reached := triple _ holds
  cases outcome : script.run _ with
  | mk result final =>
    rw [outcome] at reached
    cases result with
    | ok value => exact ⟨rfl, reached⟩
    | error reason => exact reached

theorem Triple.final (triple : Triple before script (fun _ => stopped) stopped) {state : σ}
    (holds : before state) : stopped (script.run state).2 := by
  have reached := triple state holds
  cases outcome : script.run state with
  | mk result final =>
    rw [outcome] at reached
    cases result with
    | ok value | error reason => exact reached

end Script

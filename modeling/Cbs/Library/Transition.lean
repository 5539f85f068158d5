import Mathlib.Data.Option.Basic

/-!
# Systems of labelled steps

A step that is not possible in a state has no result.  What every allowed step keeps holds after
every run of allowed steps.
-/

namespace Transition

variable {σ ι : Type}

def run (step : σ → ι → Option σ) : σ → List ι → Option σ
  | state, [] => some state
  | state, label :: labels => (step state label).bind (run step · labels)

def AllowedRun (step : σ → ι → Option σ) (allows : σ → ι → Prop) : σ → List ι → Prop
  | _, [] => True
  | state, label :: labels =>
    allows state label ∧ ∀ next ∈ step state label, AllowedRun step allows next labels

instance decidableAllowedRun (step : σ → ι → Option σ) (allows : σ → ι → Prop)
    [∀ state label, Decidable (allows state label)] :
    (state : σ) → (labels : List ι) → Decidable (AllowedRun step allows state labels)
  | _, [] => isTrue trivial
  | state, label :: labels =>
    have (next : σ) := decidableAllowedRun step allows next labels
    inferInstanceAs (Decidable (_ ∧ ∀ next ∈ step state label, _))

variable {step : σ → ι → Option σ} {allows : σ → ι → Prop}

theorem invariant_of_run (invariant : σ → Prop) {state final : σ} {labels : List ι}
    (initially : invariant state)
    (kept : ∀ before label after, invariant before → allows before label →
      step before label = some after → invariant after)
    (allowed : AllowedRun step allows state labels) (ran : run step state labels = some final) :
    invariant final := by
  induction labels generalizing state with
  | nil =>
    cases ran
    exact initially
  | cons label labels ih =>
    obtain ⟨next, stepped, rest⟩ := Option.bind_eq_some_iff.mp ran
    exact ih (kept state label next initially allowed.1 stepped) (allowed.2 next stepped) rest

theorem allowedRun_of_allows (always : ∀ state label, allows state label) (state : σ)
    (labels : List ι) : AllowedRun step allows state labels := by
  induction labels generalizing state with
  | nil => trivial
  | cons label labels ih => exact ⟨always state label, fun next _ => ih next⟩

theorem AllowedRun.of_append {state : σ} {first second : List ι}
    (allowed : AllowedRun step allows state (first ++ second)) :
    AllowedRun step allows state first := by
  induction first generalizing state with
  | nil => trivial
  | cons label labels ih =>
    exact ⟨allowed.1, fun next stepped => ih (allowed.2 next stepped)⟩

end Transition

import Mathlib.Tactic.SplitIfs

/-!
# Chains of checks

A request handler checks one thing after the other and stops at the first error.  The lemmas say
when such a chain succeeds and where its error comes from.
-/

namespace Checks

variable {ε ε' α β : Type}

def require (condition : Prop) [Decidable condition] (reason : ε) : Except ε Unit :=
  if condition then .ok () else .error reason

/-- The value, or a reason why there is none. -/
def orError (reason : ε) : Option α → Except ε α
  | some value => .ok value
  | none => .error reason

variable {condition : Prop}

@[simp]
theorem require_eq_ok [Decidable condition] {reason : ε} {value : Unit} :
    require condition reason = .ok value ↔ condition := by
  unfold require
  split_ifs with holds <;> simp [holds]

@[simp]
theorem require_eq_error [Decidable condition] {reason other : ε} :
    require condition reason = .error other ↔ ¬ condition ∧ reason = other := by
  unfold require
  split_ifs with holds <;> simp [holds]

@[simp]
theorem orError_eq_ok {reason : ε} {source : Option α} {value : α} :
    orError reason source = .ok value ↔ source = some value := by
  cases source <;> simp [orError]

@[simp]
theorem orError_eq_error {reason other : ε} {source : Option α} :
    orError reason source = .error other ↔ source = none ∧ reason = other := by
  cases source <;> simp [orError]

@[simp]
theorem map_eq_ok {change : α → β} {first : Except ε α} {value : β} :
    first.map change = .ok value ↔ ∃ original, first = .ok original ∧ change original = value := by
  cases first <;> simp [Except.map]

@[simp]
theorem mapError_eq_ok {change : ε → ε'} {first : Except ε α} {value : α} :
    first.mapError change = .ok value ↔ first = .ok value := by
  cases first <;> simp [Except.mapError]

@[simp]
theorem mapError_eq_error {change : ε → ε'} {first : Except ε α} {reason : ε'} :
    first.mapError change = .error reason ↔
      ∃ original, first = .error original ∧ change original = reason := by
  cases first <;> simp [Except.mapError]

@[simp]
theorem bind_eq_ok {first : Except ε α} {next : α → Except ε β} {value : β} :
    (first >>= next) = .ok value ↔ ∃ middle, first = .ok middle ∧ next middle = .ok value := by
  cases first <;> simp [bind, Except.bind]

@[simp]
theorem bind_eq_error {first : Except ε α} {next : α → Except ε β} {reason : ε} :
    (first >>= next) = .error reason ↔
      first = .error reason ∨ ∃ middle, first = .ok middle ∧ next middle = .error reason := by
  cases first <;> simp [bind, Except.bind]

@[simp]
theorem pure_eq_ok {given value : α} : (pure given : Except ε α) = .ok value ↔ given = value := by
  simp [pure, Except.pure]

theorem bind_congr_ok {left right : Except ε α} {next after : α → Except ε β}
    (same : left = right) (rest : ∀ value, left = .ok value → next value = after value) :
    (left >>= next) = (right >>= after) := by
  subst same
  cases left with
  | error reason => rfl
  | ok value => exact rest value rfl

theorem exists_ok_iff {result : Except ε α} :
    (∃ value, result = .ok value) ↔ ∀ reason, result ≠ .error reason := by
  cases result <;> simp

end Checks

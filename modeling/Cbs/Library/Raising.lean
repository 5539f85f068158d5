import Cbs.Library.Script

/-!
# Scripts with handlers

Handlers that catch what a script stops with, and clean-up that runs however a script ends.  The
equations execute a script step by step.
-/

namespace Script

variable {σ ε α β : Type}

def modify (change : σ → σ) : Script σ ε Unit :=
  fun state => (.ok (), change state)

def read (look : σ → α) : Script σ ε α :=
  fun state => (.ok (look state), state)

/-- Go on with a handler when the body stops. -/
def rescue (body : Script σ ε α) (handler : ε → Script σ ε α) : Script σ ε α :=
  fun state =>
    match body state with
    | (.ok value, after) => (.ok value, after)
    | (.error reason, after) => handler reason after

/-- Clean up however the body ends; if the clean-up stops, that is how it ends. -/
def ensuring (body : Script σ ε α) (cleanup : Script σ ε Unit) : Script σ ε α :=
  fun state =>
    match cleanup (body state).2 with
    | (.ok (), last) => ((body state).1, last)
    | (.error reason, last) => (.error reason, last)

variable {state after : σ} {script : Script σ ε α} {value : α} {reason : ε}

@[simp]
theorem run_pure : (pure value : Script σ ε α).run state = (.ok value, state) :=
  rfl

@[simp]
theorem run_fail : (fail reason : Script σ ε α).run state = (.error reason, state) :=
  rfl

@[simp]
theorem run_ofExcept {check : Except ε α} : (ofExcept check).run state = (check, state) := by
  cases check <;> rfl

@[simp]
theorem run_modify {change : σ → σ} :
    (modify change : Script σ ε Unit).run state = (.ok (), change state) :=
  rfl

@[simp]
theorem run_read {look : σ → α} :
    (read look : Script σ ε α).run state = (.ok (look state), state) :=
  rfl

theorem run_bind {next : α → Script σ ε β} :
    (script >>= next).run state =
      match script.run state with
      | (.ok value, after) => (next value).run after
      | (.error reason, after) => (.error reason, after) :=
  rfl

theorem run_bind_of_ok {next : α → Script σ ε β} (ended : script.run state = (.ok value, after)) :
    (script >>= next).run state = (next value).run after := by
  rw [run_bind, ended]

theorem of_run_bind_ok {next : α → Script σ ε β} {result : β}
    (ended : (script >>= next).run state = (.ok result, after)) :
    ∃ value between, script.run state = (.ok value, between) ∧
      (next value).run between = (.ok result, after) := by
  rw [run_bind] at ended
  cases outcome : script.run state with
  | mk first between =>
    rw [outcome] at ended
    cases first with
    | ok value => exact ⟨value, between, rfl, ended⟩
    | error reason => cases ended

theorem run_rescue {handler : ε → Script σ ε α} :
    (script.rescue handler).run state =
      match script.run state with
      | (.ok value, after) => (.ok value, after)
      | (.error reason, after) => (handler reason).run after :=
  rfl

theorem run_ensuring {cleanup : Script σ ε Unit} :
    (script.ensuring cleanup).run state =
      match cleanup.run (script.run state).2 with
      | (.ok (), last) => ((script.run state).1, last)
      | (.error reason, last) => (.error reason, last) :=
  rfl

variable {before : σ → Prop} {ended : α → σ → Prop} {stopped : σ → Prop}

theorem triple_modify {change : σ → σ} {ended : Unit → σ → Prop}
    (implies : ∀ state, before state → ended () (change state)) :
    Triple before (modify change : Script σ ε Unit) ended stopped :=
  implies

theorem triple_read {look : σ → α} (implies : ∀ state, before state → ended (look state) state) :
    Triple before (read look : Script σ ε α) ended stopped :=
  implies

theorem Triple.rescue (broken : σ → Prop) {handler : ε → Script σ ε α}
    (body : Triple before script ended broken)
    (handled : ∀ reason, Triple broken (handler reason) ended stopped) :
    Triple before (script.rescue handler) ended stopped := by
  intro state holds
  have reached := body state holds
  rw [run_rescue]
  cases outcome : script.run state with
  | mk result after =>
    rw [outcome] at reached
    cases result with
    | ok value => exact reached
    | error reason => exact handled reason after reached

/-- The script stops with some error and changes nothing. -/
def Reraises (script : Script σ ε α) : Prop :=
  ∀ state, ∃ reason, script.run state = (.error reason, state)

theorem reraises_fail : Reraises (fail reason : Script σ ε α) :=
  fun _ => ⟨reason, rfl⟩

theorem Reraises.after_check {next : α → Script σ ε β} {check : Except ε α}
    (reraises : ∀ value, Reraises (next value)) : Reraises (ofExcept check >>= next) := by
  intro state
  cases check with
  | ok value => exact reraises value state
  | error reason => exact ⟨reason, rfl⟩

theorem Reraises.triple (reraises : Reraises script) : Triple before script ended before := by
  intro state holds
  obtain ⟨reason, stops⟩ := reraises state
  rw [stops]
  exact holds

theorem Triple.ensuring (ended : α → σ → Prop) (broken : σ → Prop) {cleanup : Script σ ε Unit}
    {cleaned : α → σ → Prop} (body : Triple before script ended broken)
    (after_end : ∀ value, Triple (ended value) cleanup (fun _ => cleaned value) stopped)
    (after_stop : Triple broken cleanup (fun _ => stopped) stopped) :
    Triple before (script.ensuring cleanup) cleaned stopped := by
  intro state holds
  have reached := body state holds
  rw [run_ensuring]
  cases outcome : script.run state with
  | mk result after =>
    rw [outcome] at reached
    cases result with
    | ok value =>
      have finished := after_end value after reached
      dsimp only
      cases last : cleanup.run after with
      | mk cleaning final =>
        rw [last] at finished
        cases cleaning <;> exact finished
    | error reason =>
      have finished := after_stop after reached
      dsimp only
      cases last : cleanup.run after with
      | mk cleaning final =>
        rw [last] at finished
        cases cleaning <;> exact finished

/-- However the script ends, a part of the state is as it was. -/
def Fixes {γ : Type} (part : σ → γ) (script : Script σ ε α) : Prop :=
  ∀ state, part (script.run state).2 = part state

variable {γ : Type} {part : σ → γ}

theorem fixes_pure : Fixes part (pure value : Script σ ε α) :=
  fun _ => rfl

theorem fixes_fail : Fixes part (fail reason : Script σ ε α) :=
  fun _ => rfl

theorem fixes_ofExcept {check : Except ε α} : Fixes part (ofExcept check) := by
  intro state
  rw [run_ofExcept]

theorem fixes_read {look : σ → α} : Fixes part (read look : Script σ ε α) :=
  fun _ => rfl

theorem fixes_modify {change : σ → σ} (same : ∀ state, part (change state) = part state) :
    Fixes part (modify change : Script σ ε Unit) :=
  same

theorem Fixes.bind {next : α → Script σ ε β} (first : Fixes part script)
    (second : ∀ value, Fixes part (next value)) : Fixes part (script >>= next) := by
  intro state
  have kept := first state
  rw [run_bind]
  cases outcome : script.run state with
  | mk result after =>
    rw [outcome] at kept
    cases result with
    | ok value => exact (second value after).trans kept
    | error reason => exact kept

theorem Fixes.rescue {handler : ε → Script σ ε α} (body : Fixes part script)
    (handled : ∀ reason, Fixes part (handler reason)) : Fixes part (script.rescue handler) := by
  intro state
  have kept := body state
  rw [run_rescue]
  cases outcome : script.run state with
  | mk result after =>
    rw [outcome] at kept
    cases result with
    | ok value => exact kept
    | error reason => exact (handled reason after).trans kept

theorem Fixes.ensuring {cleanup : Script σ ε Unit} (body : Fixes part script)
    (cleaned : Fixes part cleanup) : Fixes part (script.ensuring cleanup) := by
  intro state
  have kept := (cleaned (script.run state).2).trans (body state)
  rw [run_ensuring]
  cases outcome : cleanup.run (script.run state).2 with
  | mk result last =>
    rw [outcome] at kept
    cases result <;> exact kept

/-- What is counted behind a script, if it ends with a value. -/
def tally (script : Script σ ε α) (rest : α → σ → Nat) (state : σ) : Nat :=
  match script.run state with
  | (.ok value, after) => rest value after
  | (.error _, _) => 0

/-- The script does not stop with some errors. -/
def Avoids (bad : ε → Prop) (script : Script σ ε α) : Prop :=
  ∀ state reason, (script.run state).1 = .error reason → ¬ bad reason

section Avoids

variable {bad : ε → Prop}

theorem avoids_pure : Avoids bad (pure value : Script σ ε α) :=
  fun _ _ stopped => nomatch stopped

theorem avoids_ofExcept {check : Except ε α}
    (good : ∀ reason, check = .error reason → ¬ bad reason) :
    Avoids bad (ofExcept check : Script σ ε α) := by
  intro state reason stopped
  rw [run_ofExcept] at stopped
  exact good reason stopped

theorem Avoids.bind {next : α → Script σ ε β} (first : Avoids bad script)
    (second : ∀ value, Avoids bad (next value)) : Avoids bad (script >>= next) := by
  intro state reason stopped
  rw [run_bind] at stopped
  cases outcome : script.run state with
  | mk result after =>
    rw [outcome] at stopped
    cases result with
    | ok value => exact second value after reason stopped
    | error other =>
      obtain rfl : other = reason := by simpa using stopped
      exact first state other (by rw [outcome])

theorem avoids_mapError {ζ : Type} {worse : ζ → Prop} {translate : ε → ζ}
    (good : ∀ reason, ¬ worse (translate reason)) : Avoids worse (script.mapError translate) := by
  intro state reason stopped
  change (script.run state).1.mapError translate = .error reason at stopped
  cases result : (script.run state).1 with
  | ok value =>
    rw [result] at stopped
    cases stopped
  | error other =>
    rw [result] at stopped
    cases stopped
    exact good other

end Avoids

/-- The count of what a script does is at most a total, and it is the total unless the script stops
with an excused error. -/
def Tallies (excused : ε → Prop) (script : Script σ ε α) (count : σ → Nat) (total : Nat) : Prop :=
  ∀ state, count state ≤ total ∧
    ((∀ reason, (script.run state).1 = .error reason → ¬ excused reason) → count state = total)

section Tallies

variable {excused : ε → Prop} {next : α → Script σ ε β} {count : σ → Nat} {rest : α → σ → Nat}
  {total : Nat}

theorem tallies_zero : Tallies excused script (fun _ => 0) 0 :=
  fun _ => ⟨Nat.le_refl 0, fun _ => rfl⟩

theorem Tallies.bind (excuses : Avoids (¬ excused ·) script)
    (continued : ∀ value, Tallies excused (next value) (rest value) total) :
    Tallies excused (script >>= next) (script.tally rest) total := by
  intro state
  rw [tally, run_bind]
  cases outcome : script.run state with
  | mk result after =>
    cases result with
    | ok value => exact continued value after
    | error reason =>
      refine ⟨Nat.zero_le _, fun unexcused => absurd (unexcused reason rfl) ?_⟩
      exact excuses state reason (by rw [outcome])

theorem Tallies.uncounted (tallies : Tallies excused script count total) :
    Tallies excused (script >>= next) count total := by
  refine fun state => ⟨(tallies state).1, fun unexcused => (tallies state).2 ?_⟩
  intro reason stopped
  refine unexcused reason ?_
  rw [run_bind]
  cases outcome : script.run state with
  | mk result after =>
    rw [outcome] at stopped
    cases stopped
    rfl

theorem Tallies.add (tallies : Tallies excused script count total) (more : Nat) :
    Tallies excused script (fun state => more + count state) (more + total) :=
  fun state => ⟨Nat.add_le_add_left (tallies state).1 more, fun unexcused =>
    congrArg (more + ·) ((tallies state).2 unexcused)⟩

end Tallies

end Script

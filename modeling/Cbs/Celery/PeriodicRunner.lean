import Mathlib.Data.List.Chain
import Mathlib.Tactic.Linarith
import Mathlib.Tactic.NormNum

/-!
# Retries of a periodic task

The runner of a periodic task waits for its time, triggers a build and tries again with a growing
backoff that ends in disabling the task.  The wait before each attempt is computed from the original
time of the task.
-/

namespace Cbs

inductive TriggerOutcome where
  | triggered
  | tryAgain
  | disableTask
  | unexpectedError
  deriving DecidableEq

structure Attempt where
  /-- The time that passes until the clock is read. -/
  lag : ℚ
  /-- The time that the runner sleeps longer than it asked for. -/
  oversleep : ℚ
  /-- The time that the trigger takes. -/
  duration : ℚ
  outcome : TriggerOutcome
  nonneg : 0 ≤ lag ∧ 0 ≤ oversleep ∧ 0 ≤ duration

structure Tried where
  started : ℚ
  ended : ℚ
  /-- The backoff that is announced if the attempt has to be repeated. -/
  backoff : ℚ
  deriving DecidableEq

inductive RunnerEnd where
  | running
  | finished (disable : Bool) (time : ℚ)
  /-- The task is disabled because the backoff is exhausted. -/
  | exhausted (time : ℚ)
  deriving DecidableEq

def maxBackoff : ℚ :=
  60 * 10

def backoffFactor : ℚ :=
  3 / 2

/-- The loop of the runner, over the attempts that the host lets it make; `settling` is the time
that passes between the last of them and the disabling. -/
def runnerLoop (scheduled settling : ℚ) : ℚ → ℚ → List Attempt → List Tried × RunnerEnd
  | backoff, clock, [] =>
    ([], if backoff < maxBackoff then .running else .exhausted (clock + settling))
  | backoff, clock, attempt :: attempts =>
    if backoff < maxBackoff then
      let now := clock + attempt.lag
      let waitTime := if scheduled ≤ now then 0 else scheduled - now
      let started := now + waitTime + attempt.oversleep
      let ended := started + attempt.duration
      let tried : Tried := ⟨started, ended, backoff⟩
      match attempt.outcome with
      | .tryAgain =>
        let (later, ending) :=
          runnerLoop scheduled settling (backoff * backoffFactor) ended attempts
        (tried :: later, ending)
      | .disableTask | .unexpectedError => ([tried], .finished true ended)
      | .triggered => ([tried], .finished false ended)
    else ([], .exhausted (clock + settling))

def periodicTaskRunner (scheduled settling clock : ℚ) (attempts : List Attempt) :
    List Tried × RunnerEnd :=
  runnerLoop scheduled settling 30 clock attempts

/-- The attempts follow each other with the announced backoffs between them, and the task is
disabled only after all of them; `owed` is what has not passed yet at `clock`. -/
structure Spaced (clock pause owed : ℚ) (result : List Tried × RunnerEnd) : Prop where
  next : ∀ tried ∈ result.1.head?, clock + pause ≤ tried.started
  chain : result.1.IsChain fun first second => first.ended + first.backoff ≤ second.started
  exhausted : ∀ time, result.2 = .exhausted time →
    clock + owed + (result.1.map (·.backoff)).sum ≤ time

/-- The first attempt is made in time, and the others after the announced backoffs. -/
structure BacksOff (scheduled : ℚ) (result : List Tried × RunnerEnd) : Prop where
  first : ∀ tried ∈ result.1.head?, scheduled ≤ tried.started
  chain : result.1.IsChain fun first second => first.ended + first.backoff ≤ second.started
  exhausted : ∀ time, result.2 = .exhausted time → ∀ tried ∈ result.1.head?,
    tried.started + (result.1.map (·.backoff)).sum ≤ time

/-- The host delays every retry by the announced backoff, and the disabling long enough. -/
def Delayed (settling : ℚ) : ℚ → ℚ → ℚ → List Attempt → Prop
  | _, backoff, owed, [] => backoff < maxBackoff ∨ owed ≤ settling
  | pause, backoff, owed, attempt :: attempts =>
    if backoff < maxBackoff then
      pause ≤ attempt.lag + attempt.oversleep ∧
        (attempt.outcome = .tryAgain → Delayed settling backoff (backoff * backoffFactor)
          (owed + backoff - (attempt.lag + attempt.oversleep + attempt.duration)) attempts)
    else owed ≤ settling

/-- The delays of the host cover the backoffs of all retries. -/
def HostDelays (settling : ℚ) : List Attempt → Prop
  | [] => True
  | first :: attempts =>
    first.outcome = .tryAgain →
      Delayed settling 30 (30 * backoffFactor) (30 - first.duration) attempts

variable {scheduled settling clock pause backoff owed : ℚ} {attempts : List Attempt}

theorem spaced_cons {tried : Tried} {later : List Tried} {ending : RunnerEnd} :
    Spaced clock pause owed (tried :: later, ending) ↔
      clock + pause ≤ tried.started ∧
        Spaced tried.ended tried.backoff (clock + owed + tried.backoff - tried.ended)
          (later, ending) := by
  constructor
  · intro spaced
    obtain ⟨next, chain⟩ := List.isChain_cons.mp spaced.chain
    refine ⟨spaced.next tried rfl, next, chain, fun time isEnd => ?_⟩
    have late := spaced.exhausted time isEnd
    simp only [List.map_cons, List.sum_cons] at late
    linarith
  · rintro ⟨first, spaced⟩
    refine ⟨fun other isHead => ?_, List.isChain_cons.mpr ⟨spaced.next, spaced.chain⟩, ?_⟩
    · cases isHead
      exact first
    · intro time isEnd
      have late := spaced.exhausted time isEnd
      simp only [List.map_cons, List.sum_cons]
      linarith

theorem spaced_singleton_finished {tried : Tried} {disable : Bool} {time : ℚ} :
    Spaced clock pause owed ([tried], .finished disable time) ↔ clock + pause ≤ tried.started := by
  rw [spaced_cons, and_iff_left]
  exact ⟨by simp, .nil, fun _ isEnd => by cases isEnd⟩

theorem spaced_exhausted :
    Spaced clock pause owed ([], .exhausted (clock + settling)) ↔ owed ≤ settling := by
  constructor
  · intro spaced
    have late := spaced.exhausted (clock + settling) rfl
    simp only [List.map_nil, List.sum_nil] at late
    linarith
  · intro due
    refine ⟨by simp, .nil, fun time isEnd => ?_⟩
    cases isEnd
    simpa using due

/-- After the time of the task, a retry is made without any wait of the runner. -/
theorem spaced_runnerLoop_iff (due : scheduled ≤ clock) :
    Spaced clock pause owed (runnerLoop scheduled settling backoff clock attempts) ↔
      Delayed settling pause backoff owed attempts := by
  induction attempts generalizing clock pause backoff owed with
  | nil =>
    unfold runnerLoop Delayed
    split_ifs with more
    · simp only [more, true_or, iff_true]
      exact ⟨by simp, .nil, fun _ isEnd => by cases isEnd⟩
    · rw [spaced_exhausted, or_iff_right more]
  | cons attempt attempts ih =>
    obtain ⟨lagged, overslept, took⟩ := attempt.nonneg
    unfold runnerLoop Delayed
    split_ifs with more
    · have past : scheduled ≤ clock + attempt.lag := by linarith
      have late : clock + pause ≤ clock + attempt.lag + 0 + attempt.oversleep ↔
          pause ≤ attempt.lag + attempt.oversleep := by
        constructor <;> intro bound <;> linarith
      simp only [if_pos past]
      cases outcome : attempt.outcome with
      | tryAgain =>
        have later : Spaced _ backoff
            (owed + backoff - (attempt.lag + attempt.oversleep + attempt.duration))
            (runnerLoop scheduled settling (backoff * backoffFactor)
              (clock + attempt.lag + 0 + attempt.oversleep + attempt.duration) attempts) ↔ _ :=
          ih (by linarith)
        dsimp only
        rw [spaced_cons, late, Prod.mk.eta, show clock + owed + backoff - (clock + attempt.lag + 0 +
          attempt.oversleep + attempt.duration) = owed + backoff - (attempt.lag +
          attempt.oversleep + attempt.duration) by linarith, later]
        simp
      | triggered | disableTask | unexpectedError => simpa [spaced_singleton_finished] using late
    · exact spaced_exhausted

theorem backsOff_cons {tried : Tried} {later : List Tried} {ending : RunnerEnd} :
    BacksOff scheduled (tried :: later, ending) ↔
      scheduled ≤ tried.started ∧ Spaced tried.ended tried.backoff
        (tried.started + tried.backoff - tried.ended) (later, ending) := by
  have asSpaced : BacksOff scheduled (tried :: later, ending) ↔
      Spaced scheduled 0 (tried.started - scheduled) (tried :: later, ending) := by
    constructor
    · intro ⟨first, chain, exhausted⟩
      refine ⟨by simpa using first, chain, fun time isEnd => ?_⟩
      have late := exhausted time isEnd tried rfl
      linarith
    · intro ⟨next, chain, exhausted⟩
      refine ⟨by simpa using next, chain, fun time isEnd other isHead => ?_⟩
      cases isHead
      have late := exhausted time isEnd
      linarith
  rw [asSpaced, spaced_cons, add_zero, add_sub_cancel]

/-- Retries back off exactly as far as the host delays them. -/
theorem backsOff_iff_hostDelays (scheduled settling clock : ℚ) (attempts : List Attempt) :
    BacksOff scheduled (periodicTaskRunner scheduled settling clock attempts) ↔
      HostDelays settling attempts := by
  have more : (30 : ℚ) < maxBackoff := by norm_num [maxBackoff]
  unfold periodicTaskRunner
  cases attempts with
  | nil =>
    rw [runnerLoop, if_pos more, HostDelays, iff_true]
    exact ⟨by simp, .nil, fun _ isEnd => by cases isEnd⟩
  | cons first attempts =>
    obtain ⟨lagged, overslept, took⟩ := first.nonneg
    unfold runnerLoop HostDelays
    rw [if_pos more]
    dsimp only
    generalize isStart : clock + first.lag + (if scheduled ≤ clock + first.lag then 0 else
      scheduled - (clock + first.lag)) + first.oversleep = started
    have due : scheduled ≤ started := by
      rw [← isStart]
      split_ifs <;> linarith
    cases outcome : first.outcome with
    | tryAgain =>
      have later : Spaced _ 30 (30 - first.duration) (runnerLoop scheduled settling
          (30 * backoffFactor) (started + first.duration) attempts) ↔ _ :=
        spaced_runnerLoop_iff (by linarith)
      dsimp only
      rw [backsOff_cons, Prod.mk.eta, show started + 30 - (started + first.duration) =
        30 - first.duration by linarith, later]
      simp [due]
    | _ =>
      simp only [reduceCtorEq, false_imp_iff, iff_true]
      exact backsOff_cons.mpr ⟨due, by simp, .nil, fun _ isEnd => by cases isEnd⟩

/-- An attempt that takes no time and finds the service unavailable. -/
def Attempt.instant : Attempt :=
  ⟨0, 0, 0, .tryAgain, by norm_num⟩

/-- A service that is unavailable at the time of a task disables it at that very time, after eight
attempts. -/
theorem retries_without_waiting :
    let result := periodicTaskRunner 0 0 0 (List.replicate 8 .instant)
    (result.1.map (·.started) = List.replicate 8 0 ∧ result.2 = .exhausted 0) ∧
      ¬ BacksOff 0 result := by
  refine ⟨by decide +kernel, fun backsOff => ?_⟩
  have late := backsOff.exhausted 0 (by decide +kernel) ⟨0, 0, 30⟩ (by decide +kernel)
  exact absurd late (by decide +kernel)

end Cbs

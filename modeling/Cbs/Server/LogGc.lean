import Cbs.Server.BuildQueries

/-!
# Collecting old logs

A cycle removes the log files and the rows of `build_logs` of builds that ended before the retention
period.  Whatever fails on the way, it touches nothing else.
-/

namespace Cbs

/-- What a cycle gets from outside, and the calls that fail in it. -/
structure GcEnv where
  now : Int
  retentionDays : UInt32
  /-- The order in which the query returns the rows. -/
  rank : BuildId → Nat
  queryError : Option String
  /-- The file is there and cannot be removed. -/
  keepsFile : BuildId → Bool
  /-- The row cannot be deleted. -/
  keepsRow : BuildId → Bool

def GcEnv.cutoff (env : GcEnv) : Int :=
  env.now - env.retentionDays.toNat * 24 * 60 * 60

/-- The row satisfies the conditions of the query. -/
def GcEnv.Expired (env : GcEnv) (row : BuildRow) : Prop :=
  row.state ∈ [.success, .failure, .revoked] ∧
    ∃ finishedAt ∈ row.finishedAt, finishedAt < env.cutoff

instance (env : GcEnv) (row : BuildRow) : Decidable (env.Expired row) :=
  inferInstanceAs (Decidable (_ ∧ ∃ finishedAt ∈ row.finishedAt, _))

def selectExpired (env : GcEnv) (state : AppState) : List (Sigma fun _ : BuildId => BuildLogRow) :=
  (state.buildLogs.traverse env.rank).filter fun entry =>
    (state.builds.getBuild entry.1).any (env.Expired ·)

/-- Remove the file of a log, and its row unless that fails. -/
def collectLog (env : GcEnv) (cleaned : AppState × Nat)
    (entry : Sigma fun _ : BuildId => BuildLogRow) : AppState × Nat :=
  if env.keepsFile entry.1 then cleaned
  else
    let unlinked := { cleaned.1 with
      logFiles := cleaned.1.logFiles.restrict fun id _ => Service.logPath id ≠ entry.2.logPath }
    if env.keepsRow entry.1 then (unlinked, cleaned.2)
    else ({ unlinked with buildLogs := unlinked.buildLogs.erase entry.1 }, cleaned.2 + 1)

def runGcCycle (env : GcEnv) (state : AppState) : AppState × Except String Nat :=
  match env.queryError with
  | some reason => (state, .error reason)
  | none =>
    let cleaned := (selectExpired env state).foldl (collectLog env) (state, 0)
    (cleaned.1, .ok cleaned.2)

/-- What the calls for some logs leave. -/
structure Leaves (env : GcEnv) (entries : List (Sigma fun _ : BuildId => BuildLogRow))
    (before after : AppState) : Prop where
  builds : after.builds = before.builds
  rows : ∀ id row, after.buildLogs.lookup id = some row ↔
    before.buildLogs.lookup id = some row ∧
      ∀ entry ∈ entries, entry.1 = id → env.keepsFile entry.1 ∨ env.keepsRow entry.1
  files : ∀ id content, after.logFiles.lookup id = some content ↔
    before.logFiles.lookup id = some content ∧
      ∀ entry ∈ entries, Service.logPath id = entry.2.logPath → env.keepsFile entry.1

variable (env : GcEnv)

theorem leaves_collectLog (cleaned : AppState × Nat)
    (entry : Sigma fun _ : BuildId => BuildLogRow) :
    Leaves env [entry] cleaned.1 (collectLog env cleaned entry).1 := by
  unfold collectLog
  by_cases keepsFile : env.keepsFile entry.1
  · constructor <;> simp [keepsFile]
  · by_cases keepsRow : env.keepsRow entry.1
    · constructor <;> simp [keepsFile, keepsRow, Dictionary.lookup_restrict]
    · constructor
      · simp [keepsFile, keepsRow]
      · intro id row
        by_cases same : entry.1 = id
        · subst same
          simp [keepsFile, keepsRow]
        · simp [keepsFile, keepsRow, same, Ne.symm same]
      · simp [keepsFile, keepsRow, Dictionary.lookup_restrict]

theorem leaves_foldl (entries : List (Sigma fun _ : BuildId => BuildLogRow))
    (cleaned : AppState × Nat) :
    Leaves env entries cleaned.1 (entries.foldl (collectLog env) cleaned).1 := by
  induction entries generalizing cleaned with
  | nil => constructor <;> simp
  | cons entry entries ih =>
    have first := leaves_collectLog env cleaned entry
    have rest := ih (collectLog env cleaned entry)
    refine ⟨rest.builds.trans first.builds, fun id row => ?_, fun id content => ?_⟩
    · simp [rest.rows, first.rows, and_assoc]
    · simp [rest.files, first.files, and_assoc]

theorem mem_selectExpired {state : AppState} {id : BuildId} {logRow : BuildLogRow} :
    ⟨id, logRow⟩ ∈ selectExpired env state ↔ state.buildLogs.lookup id = some logRow ∧
      ∃ row, state.builds.getBuild id = some row ∧ env.Expired row := by
  simp [selectExpired, Dictionary.mem_traverse, Option.any_eq_true]

/-- A cycle leaves the builds.  Of the log rows it deletes those of expired builds, and of the log
files those that such a row names, except where a call fails. -/
theorem gc_cycle_exact (state : AppState) :
    (runGcCycle env state).1.builds = state.builds ∧
    (∀ id logRow, (runGcCycle env state).1.buildLogs.lookup id = some logRow ↔
      state.buildLogs.lookup id = some logRow ∧
        ∀ row, state.builds.getBuild id = some row → env.Expired row → env.queryError = none →
          env.keepsFile id ∨ env.keepsRow id) ∧
    ∀ id content, (runGcCycle env state).1.logFiles.lookup id = some content ↔
      state.logFiles.lookup id = some content ∧
        ∀ other logRow row, state.buildLogs.lookup other = some logRow →
          state.builds.getBuild other = some row → env.Expired row → env.queryError = none →
          Service.logPath id = logRow.logPath → env.keepsFile other := by
  cases queried : env.queryError with
  | some reason => simp [runGcCycle, queried]
  | none =>
    obtain ⟨builds, rows, files⟩ := leaves_foldl env (selectExpired env state) (state, 0)
    simp only [runGcCycle, queried, forall_const]
    refine ⟨builds, fun id logRow => (rows id logRow).trans (and_congr_right fun found => ?_),
      fun id content => (files id content).trans (and_congr_right fun _ => ?_)⟩
    · constructor
      · intro kept row isRow expired
        exact kept ⟨id, logRow⟩ ((mem_selectExpired env).mpr ⟨found, row, isRow, expired⟩) rfl
      · rintro kept ⟨_, other⟩ inside rfl
        obtain ⟨-, row, isRow, expired⟩ := (mem_selectExpired env).mp inside
        exact kept row isRow expired
    · constructor
      · intro kept other logRow row isLog isRow expired
        exact kept ⟨other, logRow⟩ ((mem_selectExpired env).mpr ⟨isLog, row, isRow, expired⟩)
      · rintro kept ⟨other, logRow⟩ inside
        obtain ⟨isLog, row, isRow, expired⟩ := (mem_selectExpired env).mp inside
        exact kept other logRow row isLog isRow expired

end Cbs

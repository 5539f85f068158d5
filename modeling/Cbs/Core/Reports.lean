import Cbs.Core.Runner
import Mathlib.Data.List.Forall2

/-!
# Reports of runner calls

The report of a build is a file with a fixed name in a scratch directory that calls share.  When the
container command raises, the file stays, and a later call may return it.
-/

namespace Cbs

open Script RunnerCall

/-- The results of calls that use one scratch directory, one after the other. -/
def runnerResults : List RunnerCall → Host → List (Except Raised (Option BuildArtifactReport))
  | [], _ => []
  | call :: rest, host =>
    ((runner call).run host).1 :: runnerResults rest ((runner call).run host).2

/-- A report that is returned was written by the container of the call. -/
def RunnerCall.ReportsOwn (call : RunnerCall)
    (result : Except Raised (Option BuildArtifactReport)) : Prop :=
  ∀ report, result = .ok (some report) →
    ∃ raw, call.container.wrote = some raw ∧ call.parseReport raw = .ok report

/-- A container that writes a report is not given up, and what follows it is cleaned up. -/
def RunnerCall.ReturnsAfterReport (call : RunnerCall) : Prop :=
  call.container.wrote = none ∨
    (∃ ended, call.container.ended = .ok ended) ∧ call.closeLog = .ok () ∧
      call.cleanupComponentsDir = .ok () ∧ call.unlinkReport = .ok ()

variable {call : RunnerCall}

/-- A call that stops leaves no report behind, if its container was not given up. -/
def RunnerCall.Leaves (call : RunnerCall) (host : Host) : Prop :=
  call.ReturnsAfterReport → host.report = none

variable {host : Host}

theorem RunnerCall.leaves_of_none (absent : host.report = none) : call.Leaves host :=
  fun _ => absent

/-- A report that is there because the container wrote it is one of a call that did not return. -/
theorem RunnerCall.leaves_of_wrote (same : host.report = call.container.wrote)
    (broken : ¬ ((∃ ended, call.container.ended = .ok ended) ∧ call.closeLog = .ok () ∧
      call.cleanupComponentsDir = .ok () ∧ call.unlinkReport = .ok ())) :
    call.Leaves host := by
  rintro (silent | returned)
  · rw [same, silent]
  · exact absurd returned broken

/-- A step that leaves the files alone keeps the report of the container, and stops only when the
call does not return. -/
theorem triple_check_report {check : Except Raised Unit}
    (needed : (∃ ended, call.container.ended = .ok ended) ∧ call.closeLog = .ok () ∧
      call.cleanupComponentsDir = .ok () ∧ call.unlinkReport = .ok () → check = .ok ()) :
    Triple (·.report = call.container.wrote) (ofExcept check)
      (fun _ host => host.report = call.container.wrote) call.Leaves := by
  cases outcome : check with
  | ok value => exact triple_pure fun _ same => same
  | error raised =>
    refine triple_fail fun _ same => leaves_of_wrote same fun returned => ?_
    cases (needed returned).symm.trans outcome

theorem giveUp_reraises (container : ContainerRun) (raised : Raised) :
    Reraises (giveUp container raised) := by
  unfold giveUp
  split_ifs
  · exact Reraises.after_check fun _ => reraises_fail
  · exact reraises_fail

theorem podmanRun_report :
    Triple (·.report = none) (podmanRun call.container)
      (fun _ host => host.report = call.container.wrote) call.Leaves := by
  unfold podmanRun
  refine Triple.bind (fun _ (host : Host) => host.report = none)
    (triple_ofExcept (fun _ _ _ absent => absent) fun _ => leaves_of_none) fun _ => ?_
  refine Triple.bind (fun _ (host : Host) => host.report = call.container.wrote) ?_ fun _ => ?_
  · refine triple_modify fun host absent => ?_
    simp [absent]
  · refine Triple.rescue call.Leaves ?_ fun raised => (giveUp_reraises call.container raised).triple
    cases ended : call.container.ended with
    | ok value => exact triple_pure fun _ same => same
    | error raised =>
      refine triple_fail fun _ same => leaves_of_wrote same fun returned => ?_
      simp [ended] at returned

theorem runLogged_report :
    Triple (·.report = none) (runLogged call)
      (fun _ host => host.report = call.container.wrote) call.Leaves := by
  unfold runLogged
  refine Triple.bind (fun _ (host : Host) => host.report = none)
    (triple_ofExcept (fun _ _ _ absent => absent) fun _ => leaves_of_none) fun _ => ?_
  refine Triple.bind (fun _ (host : Host) => host.report = call.container.wrote) ?_ fun _ => ?_
  · exact Triple.rescue call.Leaves podmanRun_report fun raised =>
      (Reraises.after_check fun _ => reraises_fail).triple
  · refine Triple.bind (fun _ (host : Host) => host.report = call.container.wrote)
      (triple_check_report fun returned => returned.2.1) fun _ => ?_
    exact triple_pure fun _ same => same

theorem runContainer_report :
    Triple (·.report = none) (runContainer call)
      (fun _ host => host.report = call.container.wrote) call.Leaves := by
  unfold runContainer
  refine Triple.ensuring (fun _ (host : Host) => host.report = call.container.wrote) call.Leaves
    ?_ (fun _ => triple_check_report fun returned => returned.2.2.1)
    (triple_ofExcept (fun _ _ _ leaves => leaves) fun _ leaves => leaves)
  refine Triple.rescue call.Leaves runLogged_report fun raised => Reraises.triple ?_
  split
  · exact reraises_fail
  · split_ifs
    · exact reraises_fail
    · exact reraises_fail

theorem readReport_own :
    Triple (·.report = call.container.wrote) (readReport call)
      (fun report host => host.report = call.container.wrote ∧ call.ReportsOwn (.ok report))
      (·.report = call.container.wrote) := by
  unfold readReport
  refine Triple.bind
    (fun found (host : Host) => host.report = call.container.wrote ∧ found = call.container.wrote)
    (triple_read fun _ same => ⟨same, same⟩) fun found => triple_of_fact fun written => ?_
  cases found with
  | none => exact triple_pure fun _ same => ⟨same, fun report returned => by simp at returned⟩
  | some raw =>
    refine Triple.bind (fun _ (host : Host) => host.report = call.container.wrote)
      (triple_ofExcept (fun _ _ _ same => same) fun _ same => same) fun _ => ?_
    refine Triple.bind
      (fun report (host : Host) => host.report = call.container.wrote ∧
        call.parseReport raw = .ok report)
      (triple_ofExcept (fun _ parsed _ same => ⟨same, parsed⟩) fun _ same => same) fun report => ?_
    refine triple_pure fun _ read => ⟨read.1, fun returned equal => ?_⟩
    cases equal
    exact ⟨raw, written.symm, read.2⟩

theorem collectReport_report :
    Triple (·.report = call.container.wrote) (collectReport call)
      (fun report host => host.report = none ∧ call.ReportsOwn (.ok report)) call.Leaves := by
  have unlinks : Triple (·.report = call.container.wrote)
      (do ofExcept call.unlinkReport; modify fun host => { host with report := none } :
        HostScript Unit) (fun _ host => host.report = none) call.Leaves :=
    Triple.bind (fun _ (host : Host) => host.report = call.container.wrote)
      (triple_check_report fun returned => returned.2.2.2) fun _ => triple_modify fun _ _ => rfl
  unfold collectReport
  refine Triple.ensuring
    (fun report (host : Host) => host.report = call.container.wrote ∧ call.ReportsOwn (.ok report))
    (·.report = call.container.wrote) ?_
    (fun report => triple_of_fact fun own => unlinks.mono (fun _ same => same)
      fun _ _ absent => ⟨absent, own⟩)
    (unlinks.mono (fun _ same => same) fun _ _ => leaves_of_none)
  refine Triple.rescue (·.report = call.container.wrote) readReport_own fun raised => ?_
  split_ifs
  · exact triple_pure fun _ same => ⟨same, fun report returned => by simp at returned⟩
  · exact triple_fail fun _ same => same

theorem runAndCollect_report :
    Triple (·.report = none) (runAndCollect call)
      (fun report host => host.report = none ∧ call.ReportsOwn (.ok report)) call.Leaves := by
  unfold runAndCollect
  refine Triple.bind (fun _ (host : Host) => host.report = none)
    (triple_ofExcept (fun _ _ _ absent => absent) fun _ => leaves_of_none) fun _ => ?_
  refine Triple.bind _ runContainer_report fun ended => ?_
  refine Triple.bind _ collectReport_report fun report => ?_
  split_ifs
  · exact triple_fail fun _ collected => leaves_of_none collected.1
  · exact triple_pure fun _ collected => collected

theorem runner_report (call : RunnerCall) :
    Triple (·.report = none) (runner call)
      (fun report host => host.report = none ∧ call.ReportsOwn (.ok report)) call.Leaves := by
  have unchanged : ∀ {check : Except Raised Unit}, Triple (·.report = none)
      (ofExcept check : HostScript Unit) (fun _ host => host.report = none) call.Leaves :=
    triple_ofExcept (fun _ _ _ absent => absent) fun _ => leaves_of_none
  have removes : ∀ {reason : Raised}, Triple (·.report = none)
      (do removeHolder .secretsFile; fail reason : HostScript Unit)
      (fun _ host => host.report = none) call.Leaves :=
    Triple.bind (fun _ (host : Host) => host.report = none) (triple_modify fun _ absent => absent)
      fun _ => triple_fail fun _ => leaves_of_none
  have stops : ∀ {reason : Raised}, Triple (·.report = none)
      (fail reason : HostScript Unit) (fun _ host => host.report = none) call.Leaves :=
    triple_fail fun _ => leaves_of_none
  unfold runner
  refine Triple.bind _ unchanged fun _ => ?_
  refine Triple.bind (fun _ (host : Host) => host.report = none) ?_ fun _ => ?_
  · exact Triple.bind _ unchanged fun _ => triple_modify fun _ absent => absent
  refine Triple.bind (fun _ (host : Host) => host.report = none) ?_ fun _ => ?_
  · refine Triple.rescue (·.report = none) (triple_ofExcept (fun _ _ _ absent => absent)
      fun _ absent => absent) fun raised => ?_
    split_ifs
    · exact removes
    · exact stops
  refine Triple.bind _ unchanged fun _ => ?_
  refine Triple.bind (fun _ (host : Host) => host.report = none) ?_
    fun _ => runAndCollect_report
  refine Triple.rescue (·.report = none) (triple_ofExcept (fun _ _ _ absent => absent)
    fun _ absent => absent) fun raised => ?_
  split_ifs
  · exact removes
  · exact stops

theorem runner_reportsOwn (absent : host.report = none) :
    call.ReportsOwn ((runner call).run host).1 := by
  intro report returned
  have reached := runner_report call host absent
  cases outcome : (runner call).run host with
  | mk result final =>
    rw [outcome] at reached returned
    subst returned
    exact reached.2 report rfl

theorem runner_leaves_none (absent : host.report = none)
    (returns : call.ReturnsAfterReport) : ((runner call).run host).2.report = none :=
  (((runner_report call).mono (fun _ absent => absent) fun _ _ collected =>
    leaves_of_none collected.1).final absent) returns

/-- Over any sequence of calls on a scratch directory without a report, where no container that
wrote a report is given up, every report that is returned belongs to its own call. -/
theorem reports_own_of_returns (calls : List RunnerCall) (host : Host)
    (absent : host.report = none) (returns : ∀ call ∈ calls, call.ReturnsAfterReport) :
    List.Forall₂ ReportsOwn calls (runnerResults calls host) := by
  induction calls generalizing host with
  | nil => exact .nil
  | cons call rest ih =>
    refine .cons (runner_reportsOwn absent) (ih _ ?_ fun later member => ?_)
    · exact runner_leaves_none absent (returns call List.mem_cons_self)
    · exact returns later (List.mem_cons_of_mem _ member)

/-- A container that writes a report for a version and ends with exit code zero. -/
def ContainerRun.reporting (version : String) : ContainerRun :=
  ⟨.ok (), some version, .ok (0, "", ""), true, .ok ()⟩

/-- A container that is given up after it wrote a report for a version. -/
def ContainerRun.timedOut (version : String) : ContainerRun :=
  ⟨.ok (), some version, .error ⟨.timeout, ""⟩, true, .ok ()⟩

/-- Of two builds in a row, the second does not return the report of the first. -/
theorem reporting_then_silent :
    runnerResults [.smooth (.reporting "19.2.3"), .smooth .silent] ⟨[], none⟩ =
        [.ok (some { version := "19.2.3", skipped := false }), .ok none] ∧
      List.Forall₂ ReportsOwn [.smooth (.reporting "19.2.3"), .smooth .silent]
        (runnerResults [.smooth (.reporting "19.2.3"), .smooth .silent] ⟨[], none⟩) := by
  refine ⟨rfl, reports_own_of_returns _ _ rfl fun call member => ?_⟩
  simp only [List.mem_cons, List.not_mem_nil, or_false] at member
  rcases member with rfl | rfl
  · exact .inr ⟨⟨_, rfl⟩, rfl, rfl, rfl⟩
  · exact .inl rfl

/-- After a build that timed out once its report was written, a build that wrote none returns that
report. -/
theorem timedOut_report_returned_later :
    (runnerResults [.smooth (.timedOut "19.2.3"), .smooth .silent] ⟨[], none⟩)[1]? =
        some (.ok (some { version := "19.2.3", skipped := false })) ∧
      ¬ List.Forall₂ ReportsOwn [.smooth (.timedOut "19.2.3"), .smooth .silent]
        (runnerResults [.smooth (.timedOut "19.2.3"), .smooth .silent] ⟨[], none⟩) := by
  refine ⟨rfl, fun own => ?_⟩
  cases own with
  | cons first rest =>
  cases rest with
  | cons stale rest =>
  obtain ⟨raw, wrote, _⟩ := stale { version := "19.2.3", skipped := false } rfl
  cases wrote

end Cbs

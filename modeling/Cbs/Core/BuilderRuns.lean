import Cbs.Core.Builder

/-!
# Runs of the builder

What a run that returns a report guarantees about the image: that it was pushed, and that it holds
the components of the version.
-/

namespace Cbs

open Script

variable {env : BuilderEnv} {workshop after : Workshop} {α : Type}

section Frames

variable {γ : Type} {part : Workshop → γ}

theorem fixes_wrapping {translate : Raised → Option Raised} {script : BuildScript α}
    (fixes : Fixes part script) : Fixes part (wrapping translate script) :=
  fixes.rescue fun _ => fixes_fail

theorem fixes_forM {β : Type} {items : List β} {task : β → BuildScript Unit}
    (fixes : ∀ item ∈ items, Fixes part (task item)) : Fixes part (items.forM task) := by
  induction items with
  | nil => exact fixes_pure
  | cons item rest ih =>
    exact (fixes item List.mem_cons_self).bind fun _ =>
      ih fun later member => fixes later (List.mem_cons_of_mem _ member)

theorem fixes_taskGroup {kind : ErrorKind} {msg : String} {tasks : List (BuildScript Unit)}
    (fixes : ∀ task ∈ tasks, Fixes part task) : Fixes part (taskGroup kind msg tasks) := by
  refine (fixes_forM fixes).rescue fun raised => ?_
  split_ifs
  · exact fixes_fail
  · exact fixes_fail

theorem fixes_step {step : BuilderStep} : Fixes part (env.step step) :=
  fixes_ofExcept

variable {s3 : Bucket}

theorem checkReleaseExists_fixes {version : String} : Fixes part (checkReleaseExists s3 version) :=
  (fixes_wrapping fixes_ofExcept).bind fun _ => fixes_read

theorem checkReleasedComponents_fixes {components : Dictionary String String} :
    Fixes part (checkReleasedComponents s3 components) := by
  refine (fixes_taskGroup fun task member => ?_).bind fun _ => fixes_read
  obtain ⟨entry, -, rfl⟩ := List.mem_map.mp member
  exact fixes_ofExcept

theorem prepareComponents_fixes : Fixes part (prepareComponents env) := by
  refine fixes_step.bind fun _ => fixes_ofExcept.bind fun _ =>
    (fixes_taskGroup fun task member => ?_).bind fun _ => fixes_pure
  obtain ⟨component, -, rfl⟩ := List.mem_map.mp member
  exact fixes_step

variable {name : String}

theorem installDeps_fixes : Fixes part (installDeps env name) := by
  unfold installDeps
  cases env.components.lookup name with
  | none => exact fixes_fail
  | some core =>
    dsimp only
    split_ifs
    · exact fixes_wrapping fixes_step
    · exact fixes_fail

variable {infos : Dictionary String BuildComponentInfo}

theorem existingComponents_fixes : Fixes part (existingComponents env infos) := by
  unfold existingComponents
  cases env.s3 with
  | none => exact fixes_pure
  | some s3 =>
    dsimp only
    split_ifs
    · exact fixes_pure
    · exact (fixes_wrapping checkReleasedComponents_fixes).bind fun _ => fixes_pure

theorem storedRelease_fixes : Fixes part (storedRelease env) := by
  unfold storedRelease
  cases env.s3 with
  | none => exact fixes_pure
  | some s3 => exact checkReleaseExists_fixes

theorem buildComponent_fixes : Fixes part (buildComponent env name) := by
  unfold buildComponent
  split_ifs
  · exact fixes_pure
  · exact fixes_step

theorem buildRpms_fixes : Fixes part (buildRpms env infos) := by
  refine fixes_ofExcept.bind fun _ =>
    (fixes_wrapping (fixes_forM fun name _ => installDeps_fixes)).bind fun _ =>
      fixes_ofExcept.bind fun toBuild => (fixes_taskGroup fun task member => ?_).bind fun _ =>
        fixes_pure
  obtain ⟨name, -, rfl⟩ := List.mem_map.mp member
  exact buildComponent_fixes

theorem buildSignedRpms_fixes : Fixes part (buildSignedRpms env infos) := by
  refine fixes_step.bind fun _ => (fixes_wrapping buildRpms_fixes).bind fun builds => ?_
  cases transitKey env.signWithGpg with
  | none => exact fixes_pure
  | some _ => exact (fixes_wrapping fixes_step).bind fun _ => fixes_pure

variable {builds : Dictionary String String}

theorem s3UploadRpms_fixes {s3 : S3Config} : Fixes part (s3UploadRpms env s3 builds) := by
  refine (fixes_taskGroup fun task member => ?_).bind fun _ => fixes_pure
  obtain ⟨name, -, rfl⟩ := List.mem_map.mp member
  exact fixes_step

theorem releaseUploadComponents_commands {releases : Dictionary String ReleaseComponent} :
    Fixes Workshop.commands (releaseUploadComponents s3 releases) := by
  refine fixes_taskGroup fun task member => ?_
  obtain ⟨entry, -, rfl⟩ := List.mem_map.mp member
  exact fixes_ofExcept.bind fun _ => fixes_modify fun _ => rfl

theorem upload_commands {s3 : S3Config} : Fixes Workshop.commands (upload env s3 infos builds) := by
  unfold upload
  split_ifs
  · exact fixes_fail
  · exact fixes_fail
  · exact (fixes_wrapping s3UploadRpms_fixes).bind fun _ =>
      (fixes_wrapping checkReleasedComponents_fixes).bind fun _ => fixes_ofExcept.bind fun _ =>
        (fixes_wrapping releaseUploadComponents_commands).bind fun _ => fixes_pure

theorem buildComponents_commands : Fixes Workshop.commands (buildComponents env infos) := by
  unfold buildComponents
  split_ifs
  · exact fixes_pure
  · refine (fixes_wrapping buildSignedRpms_fixes).bind fun builds => ?_
    cases env.s3 with
    | none => exact fixes_pure
    | some s3 => exact fixes_wrapping upload_commands

end Frames

theorem releaseDescUpload_commands {s3 : Bucket} {version : String} {build : ReleaseBuildEntry} :
    Fixes Workshop.commands (releaseDescUpload s3 version build) := by
  refine (fixes_wrapping checkReleaseExists_fixes).bind fun _ =>
    (fixes_wrapping fixes_ofExcept).bind fun _ => Fixes.bind (fixes_modify ?_) fun _ => fixes_pure
  exact fun _ => rfl

theorem doBuildRelease_commands {infos : Dictionary String BuildComponentInfo} :
    Fixes Workshop.commands (doBuildRelease env infos) := by
  refine existingComponents_fixes.bind fun existing =>
    (fixes_wrapping buildComponents_commands).bind fun built => ?_
  unfold storeRelease
  cases env.s3 with
  | none => exact fixes_pure
  | some s3 =>
    dsimp only
    split_ifs
    · exact fixes_fail
    · exact (fixes_wrapping releaseDescUpload_commands).bind fun _ => fixes_pure

theorem buildRelease_commands : Fixes Workshop.commands (buildRelease env) := by
  refine fixes_wrapping (prepareComponents_fixes.bind fun infos =>
    doBuildRelease_commands.ensuring ?_)
  split_ifs
  · exact fixes_pure
  · exact fixes_step

theorem obtainRelease_commands (env : BuilderEnv) :
    Fixes Workshop.commands (obtainRelease env) := by
  refine storedRelease_fixes.bind fun stored => ?_
  cases stored with
  | some release => exact fixes_pure
  | none => exact fixes_wrapping buildRelease_commands

theorem containerBuild_fixes (env : BuilderEnv) (release : ReleaseDesc) :
    Fixes part (containerBuild env release) :=
  (fixes_wrapping fixes_ofExcept).bind fun _ => fixes_step.bind fun _ =>
    (fixes_wrapping fixes_step).bind fun _ => (fixes_wrapping fixes_step).bind fun _ =>
      (fixes_wrapping fixes_step).bind fun _ => fixes_wrapping fixes_step

variable {report : BuildArtifactReport}

theorem writeBuildReport_commands : Fixes Workshop.commands (writeBuildReport env report) := by
  refine Fixes.rescue (fixes_step.bind fun _ => fixes_modify fun _ => rfl) fun raised => ?_
  split_ifs
  · exact fixes_pure
  · exact fixes_fail

variable {final : Workshop}

/-- A run that returns a report of a build went through its image. -/
theorem buildImage_of_builderRun
    (returned : (builderRun env).run workshop = (.ok (some report), final))
    (complete : report ≠ env.skippedReport) :
    ∃ release before, (obtainRelease env).run workshop = (.ok (some release), before) ∧
      (buildImage env release).run before = (.ok (some report), final) := by
  obtain ⟨_, prepared, preparing, looks⟩ := of_run_bind_ok returned
  have samePrepared : prepared = workshop := by
    rw [wrapping_run_ok, BuilderEnv.step, run_ofExcept] at preparing
    exact (congrArg Prod.snd preparing).symm
  obtain ⟨_, looked, looking, goesOn⟩ := of_run_bind_ok looks
  have sameLooked : looked = prepared := by
    rw [BuilderEnv.step, run_ofExcept] at looking
    exact (congrArg Prod.snd looking).symm
  rw [sameLooked, samePrepared] at goesOn
  by_cases there : env.imageExists = true
  · rw [if_pos there] at goesOn
    obtain ⟨_, written, -, skips⟩ := of_run_bind_ok goesOn
    cases skips
    exact absurd rfl complete
  · rw [if_neg there] at goesOn
    obtain ⟨obtained, before, ended, imaged⟩ := of_run_bind_ok goesOn
    cases obtained with
    | some release => exact ⟨release, before, ended, imaged⟩
    | none =>
      dsimp only at imaged
      split_ifs at imaged
      · cases imaged
      · cases imaged

theorem finish_of_buildImage {release : ReleaseDesc}
    (returned : (buildImage env release).run workshop = (.ok (some report), final)) :
    report = env.buildReport release ∧ ∃ before finished,
      (containerBuild env release).run workshop = (.ok (), before) ∧
        (containerFinish env).run before = (.ok (), finished) ∧
          (writeBuildReport env report).run finished = (.ok (), final) := by
  obtain ⟨_, finished, ended, returned⟩ := of_run_bind_ok returned
  rw [asBuilderError, wrapping_run_ok] at ended
  obtain ⟨_, before, built, finishes⟩ := of_run_bind_ok ended
  obtain ⟨_, written, writes, returned⟩ := of_run_bind_ok returned
  cases returned
  exact ⟨rfl, before, finished, built, finishes, writes⟩

/-- A report of an image that was pushed comes from a run whose image was finished. -/
theorem finish_of_pushed (returned : (builderRun env).run workshop = (.ok (some report), final))
    (complete : report ≠ env.skippedReport) :
    ∃ before finished, before.commands = workshop.commands ∧
      (containerFinish env).run before = (.ok (), finished) ∧
        finished.commands = final.commands := by
  obtain ⟨release, obtained, ended, imaged⟩ := buildImage_of_builderRun returned complete
  obtain ⟨-, before, finished, built, finishes, writes⟩ := finish_of_buildImage imaged
  refine ⟨before, finished, ?_, finishes, ?_⟩
  · have kept : Workshop.commands _ = _ := containerBuild_fixes env release obtained
    have keptToo := obtainRelease_commands env workshop
    rw [built] at kept
    rw [ended] at keptToo
    exact kept.trans keptToo
  · have kept := @writeBuildReport_commands env report finished
    rw [writes] at kept
    exact kept.symm

/-- Finishing an image is sound exactly when no failed push is ignored, and then a report of an
image that was pushed comes from a run in which it was. -/
theorem pushed_images_sound_iff (env : BuilderEnv) (workshop : Workshop)
    (writes : env.finish.PushWritesDigest) (fresh : workshop.commands = []) :
    (PushSound env.finish env.desc env.signWithTransit ((containerFinish env).run workshop).1
        ((containerFinish env).run workshop).2.commands ↔
      ¬ env.finish.IgnoresFailedPush env.desc env.signWithTransit) ∧
    (¬ env.finish.IgnoresFailedPush env.desc env.signWithTransit →
      ∀ report final image, (builderRun env).run workshop = (.ok (some report), final) →
        report.containerImage = some image → image.pushed = true →
          PushSound env.finish env.desc env.signWithTransit (.ok ()) final.commands) := by
  refine ⟨finishImage_sound_iff writes fresh, ?_⟩
  intro heeds report final image returned shown pushed
  have complete : report ≠ env.skippedReport := by
    rintro rfl
    cases shown
    cases pushed
  obtain ⟨before, finished, same, finishes, sameToo⟩ := finish_of_pushed returned complete
  have sound := (finishImage_sound_iff writes (same.trans fresh)).mpr heeds
  rw [containerFinish] at finishes
  rw [finishes] at sound
  rwa [← sameToo]

/-- A host on which an image is finished with a given exit code of the push. -/
def FinishEnv.pushing (rc : Int) : FinishEnv where
  cid := "ceph-working-container"
  config := .ok (0, "")
  commit := .ok (0, "")
  registryCreds _ := .ok ("user", "password")
  mkstempDigest := .ok ()
  push := .ok (rc, "")
  digestText := .ok (if rc = 0 then "sha256:abc" else "")
  closeDigest := .ok ()
  hasVault := true
  hasTransitKey _ := true
  imageBaseUri _ := .ok "registry.example.org/ceph"
  transit _ := .ok ("transit", "key")
  vaultToken := .ok "token"
  sign _ := .ok (0, "")

def cephVersion : VersionDescriptor where
  version := "19.2.3"
  registry := "registry.example.org"
  imageName := "ceph"
  tag := "v19.2.3"
  components := [⟨"ceph", "https://git.example.org/ceph.git", "v19.2.3"⟩]
  distro := "rockylinux:9"
  elVersion := 9

/-- A builder of a version whose steps succeed, with a given exit code of the push. -/
def BuilderEnv.smooth (desc : VersionDescriptor) (rc : Int) (transit : Option String)
    (force : Bool) : BuilderEnv where
  desc
  s3 := some ⟨"rpms", "cbs-releases", "releases"⟩
  signWithGpg := none
  signWithTransit := transit
  skipBuild := false
  force
  components := desc.components.foldl
    (fun known component => known.insert component.name ⟨true, true, some ⟨true, true⟩⟩) ∅
  outcome _ := .ok ()
  imageExists := false
  sha1 _ := "5a0b003"
  longVersion component := component.ref ++ "-42.g5a0b003"
  releaseRpmOutput name := name ++ "-release.rpm"
  finish := .pushing rc

/-- A workshop at the start of a run, with what the bucket holds. -/
def Workshop.start (releases : String → Option ReleaseDesc)
    (released : String → String → Option ReleaseComponent) : Workshop :=
  ⟨releases, released, [], none⟩

theorem signed_image_pushed :
    ((containerFinish (.smooth cephVersion 0 (some "transit-key") false)).run
        (.start (fun _ => none) fun _ _ => none)).2.commands =
        [⟨.config, some 0⟩, ⟨.commit, some 0⟩, ⟨.push, some 0⟩,
          ⟨.sign "registry.example.org/ceph@sha256:abc", some 0⟩] ∧
      PushSound (.pushing 0) cephVersion (some "transit-key")
        ((containerFinish (.smooth cephVersion 0 (some "transit-key") false)).run
          (.start (fun _ => none) fun _ _ => none)).1
        ((containerFinish (.smooth cephVersion 0 (some "transit-key") false)).run
          (.start (fun _ => none) fun _ _ => none)).2.commands := by
  refine ⟨by decide +kernel, ?_⟩
  refine (pushed_images_sound_iff (.smooth cephVersion 0 (some "transit-key") false)
    (.start (fun _ => none) fun _ _ => none) ?_ rfl).1.mpr ?_
  · rintro stderr text ⟨⟩ ⟨⟩
    decide +kernel
  · rintro ⟨-, rc, stderr, digest, ⟨⟨⟩, -⟩, failed, -⟩
    exact failed rfl

/-- A push that ends with exit code 125: without a transit key the run reports the image as pushed;
with one the image is signed all the same. -/
theorem failed_push_ignored :
    ((builderRun (.smooth cephVersion 125 none false)).run
        (.start (fun _ => none) fun _ _ => none)).1.toOption.join.bind (·.containerImage) =
      some ⟨"registry.example.org/ceph", "v19.2.3", true⟩ ∧
    ((builderRun (.smooth cephVersion 125 none false)).run
        (.start (fun _ => none) fun _ _ => none)).2.commands =
      [⟨.config, some 0⟩, ⟨.commit, some 0⟩, ⟨.push, some 125⟩] ∧
    ((builderRun (.smooth cephVersion 125 (some "transit-key") false)).run
        (.start (fun _ => none) fun _ _ => none)).2.commands =
      [⟨.config, some 0⟩, ⟨.commit, some 0⟩, ⟨.push, some 125⟩,
        ⟨.sign "registry.example.org/ceph:v19.2.3", some 0⟩] := by
  refine ⟨?_, ?_, ?_⟩
  · decide +kernel
  · decide +kernel
  · decide +kernel

end Cbs

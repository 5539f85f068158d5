import Cbs.Core.Releases
import Cbs.Library.Text
import Mathlib.Tactic.SplitIfs

/-!
# Finishing an image

The commands that configure, commit, push and sign the image of a build.  The exit code of the push
is looked at only after the image was signed, and not at all when it is not to be signed.
-/

namespace Cbs

open Script

/-- What the commands and the secrets of a build host do. -/
structure FinishEnv where
  cid : String
  config : Except Raised (Int × String)
  commit : Except Raised (Int × String)
  registryCreds : String → Except Raised (String × String)
  mkstempDigest : Except Raised Unit
  push : Except Raised (Int × String)
  digestText : Except Raised String
  closeDigest : Except Raised Unit
  hasVault : Bool
  hasTransitKey : String → Bool
  imageBaseUri : String → Except Raised String
  transit : String → Except Raised (String × String)
  vaultToken : Except Raised String
  sign : String → Except Raised (Int × String)

def buildahError (msg : String) : Raised :=
  ⟨.buildah, msg⟩

def signingError (msg : String) : Raised :=
  ⟨.signing, msg⟩

def runCommand (command : ImageCommand) (ended : Except Raised (Int × String)) :
    BuildScript (Int × String) := do
  modify fun workshop =>
    { workshop with
      commands := workshop.commands ++ [⟨command, ended.toOption.map Prod.fst⟩] }
  ofExcept ended

/-- Run a buildah command; exceptions become buildah errors. -/
def buildahRun (command : ImageCommand) (ended : Except Raised (Int × String)) :
    BuildScript (Int × String) :=
  wrapping (fun raised =>
      reword (onlyKind .command) .buildah "error running buildah: " raised <|>
        reword ErrorKind.isException .buildah "unknown error running buildah: " raised)
    (runCommand command ended)

def checked (command : BuildScript (Int × String)) (failed : String → Raised) :
    BuildScript Unit := do
  let (rc, stderr) ← command
  if rc ≠ 0 then fail (failed stderr) else pure ()

def setConfig (env : FinishEnv) : BuildScript Unit :=
  let msg := "error setting config for '" ++ env.cid ++ "': "
  checked
    (wrapping (reword (onlyKind .buildah) .buildah msg) (buildahRun .config env.config))
    fun stderr => buildahError (msg ++ stderr)

def commitImage (env : FinishEnv) (version : String) : BuildScript Unit :=
  let msg := "error committing container '" ++ env.cid ++ "' for '" ++ version
  checked
    (wrapping (reword (onlyKind .buildah) .buildah (msg ++ "': ")) (buildahRun .commit env.commit))
    fun stderr => buildahError (msg ++ ": " ++ stderr)

/-- Credentials to push with; without any, the registry is accessed without. -/
def FinishEnv.pushCreds (env : FinishEnv) (uri base : String) : Except Raised (String × String) :=
  match env.registryCreds base with
  | .ok creds => .ok creds
  | .error raised =>
    if raised.kind = .value then .ok ("", "")
    else if raised.kind = .secretsMgr then
      .error (buildahError ("error obtaining registry credentials to push '" ++ uri ++ "': "
        ++ raised.text))
    else .error raised

/-- Push the image: the exit code and the error output, and the digest that the push wrote. -/
def pushImage (env : FinishEnv) (uri : String) : BuildScript (Int × String × String) :=
  (wrapping (reword (onlyKind .buildah) .buildah ("error pushing image '" ++ uri ++ "': ")) do
    let (rc, stderr) ← buildahRun .push env.push
    let digest ← ofExcept env.digestText
    pure (rc, stderr, Text.strip digest)).ensuring (ofExcept env.closeDigest)

def FinishEnv.signCreds (env : FinishEnv) (base : String) : Except Raised (String × String) :=
  match env.registryCreds base with
  | .ok creds => .ok creds
  | .error raised =>
    if raised.kind = .value then .ok ("", "")
    else if raised.kind = .secretsMgr then
      .error (signingError ("error obtaining registry credentials for '" ++ base ++ "': "
        ++ raised.text))
    else .error raised

def FinishEnv.signPrepared (env : FinishEnv) (img transit : String) : Except Raised Unit := do
  if !env.hasVault then throw (signingError "no vault configured, can't sign image")
  if !env.hasTransitKey transit then
    throw (signingError ("vault transit key '" ++ transit ++ "' not found, can't sign image"))
  let base ← (env.imageBaseUri img).mapError fun raised =>
    if raised.kind = .value then signingError ("error obtaining image base URI: " ++ raised.text)
    else raised
  let _ ← env.signCreds base
  let _ ← (env.transit transit).mapError fun raised =>
    if raised.kind = .secretsMgr then
      signingError ("unable to obtain transit key '" ++ transit ++ "': " ++ raised.text)
    else raised
  let _ ← env.vaultToken
  pure ()

def asyncSign (env : FinishEnv) (img transit : String) : BuildScript Unit := do
  let msg := "error signing image '" ++ img ++ "': "
  ofExcept (env.signPrepared img transit)
  checked
    (wrapping (reword ErrorKind.isException .signing msg) (runCommand (.sign img) (env.sign img)))
    fun stderr => signingError (msg ++ stderr)

/-- Sign the image that was pushed, and only then look at the exit code of the push. -/
def signPushed (env : FinishEnv) (desc : VersionDescriptor) (transit : String)
    (pushed : Int × String × String) : BuildScript Unit := do
  let msg := "error signing image '" ++ desc.canonicalUri "" ++ "': "
  wrapping (reword ErrorKind.isException .buildah msg)
    (asyncSign env (desc.canonicalUri pushed.2.2) transit)
  if pushed.1 ≠ 0 then fail (buildahError (msg ++ pushed.2.1)) else pure ()

/-- The transit key to sign with, if there is one. -/
def transitKey : Option String → Option String
  | none | some "" => none
  | some key => some key

def commitConfigured (env : FinishEnv) (desc : VersionDescriptor) : BuildScript Unit := do
  wrapping (reword (onlyKind .buildah) .buildah
      ("error setting final config on '" ++ env.cid ++ "' for '" ++ desc.version ++ "': "))
    (setConfig env)
  commitImage env desc.version
  let _ ← ofExcept (env.pushCreds (desc.canonicalUri "") desc.baseUri)
  ofExcept env.mkstempDigest

def finishImage (env : FinishEnv) (desc : VersionDescriptor) (signWithTransit : Option String) :
    BuildScript Unit := do
  commitConfigured env desc
  let pushed ← pushImage env (desc.canonicalUri "")
  match transitKey signWithTransit with
  | none => pure ()
  | some transit => signPushed env desc transit pushed

def Workshop.ran (workshop : Workshop) (command : ImageCommand)
    (ended : Except Raised (Int × String)) : Workshop :=
  { workshop with commands := workshop.commands ++ [⟨command, ended.toOption.map Prod.fst⟩] }

variable {env : FinishEnv} {desc : VersionDescriptor} {workshop : Workshop}
variable {command : ImageCommand} {ended : Except Raised (Int × String)}

/-- The script runs one command and ends with a value exactly when the command did, with the same
one. -/
def RunsCommand (script : BuildScript (Int × String)) (command : ImageCommand)
    (ended : Except Raised (Int × String)) : Prop :=
  ∀ workshop, ∃ result, script.run workshop = (result, workshop.ran command ended) ∧
    ∀ value, result = .ok value ↔ ended = .ok value

theorem runCommand_runs : RunsCommand (runCommand command ended) command ended := by
  intro workshop
  refine ⟨ended, ?_, fun value => Iff.rfl⟩
  rw [runCommand, run_bind]
  cases ended <;> rfl

variable {script : BuildScript (Int × String)}

theorem RunsCommand.wrapping
    {translate : Raised → Option Raised} (runs : RunsCommand script command ended) :
    RunsCommand (wrapping translate script) command ended := by
  intro workshop
  obtain ⟨result, ran, same⟩ := runs workshop
  rw [wrapping_run, ran]
  refine ⟨_, rfl, fun value => ?_⟩
  rw [← same]
  cases result <;> simp [Except.mapError]

theorem RunsCommand.checked
    (runs : RunsCommand script command ended) (failed : String → Raised) (workshop : Workshop) :
    ∃ outcome, (checked script failed).run workshop = (outcome, workshop.ran command ended) ∧
      (outcome = .ok () ↔ ∃ stderr, ended = .ok (0, stderr)) := by
  obtain ⟨result, ran, same⟩ := runs workshop
  rw [Cbs.checked, run_bind, ran]
  cases result with
  | error raised => exact ⟨.error raised, rfl, by simp [← same]⟩
  | ok value =>
    obtain ⟨rc, stderr⟩ := value
    have given := (same (rc, stderr)).mp rfl
    by_cases zero : rc = 0
    · exact ⟨.ok (), by simp [zero], by simp [given, zero]⟩
    · exact ⟨.error (failed stderr), by simp [zero], by simp [given, zero]⟩

theorem buildahRun_runs : RunsCommand (buildahRun command ended) command ended :=
  runCommand_runs.wrapping

theorem setConfig_run (env : FinishEnv) (workshop : Workshop) :
    ∃ outcome, (setConfig env).run workshop = (outcome, workshop.ran .config env.config) ∧
      (outcome = .ok () ↔ ∃ stderr, env.config = .ok (0, stderr)) := by
  unfold setConfig
  exact buildahRun_runs.wrapping.checked _ workshop

theorem commitImage_run (env : FinishEnv) (version : String) (workshop : Workshop) :
    ∃ outcome, (commitImage env version).run workshop =
        (outcome, workshop.ran .commit env.commit) ∧
      (outcome = .ok () ↔ ∃ stderr, env.commit = .ok (0, stderr)) := by
  unfold commitImage
  exact buildahRun_runs.wrapping.checked _ workshop

def FinishEnv.Commits (env : FinishEnv) (desc : VersionDescriptor) : Prop :=
  (∃ stderr, env.config = .ok (0, stderr)) ∧ (∃ stderr, env.commit = .ok (0, stderr)) ∧
    (∃ creds, env.pushCreds (desc.canonicalUri "") desc.baseUri = .ok creds) ∧
    env.mkstempDigest = .ok ()

/-- The image is committed after its configuration, or the script stops before the push. -/
theorem commitConfigured_cases (env : FinishEnv) (desc : VersionDescriptor) {workshop : Workshop}
    (fresh : workshop.commands = []) :
    (env.Commits desc ∧ ∃ after, (commitConfigured env desc).run workshop = (.ok (), after) ∧
        after.commands = [⟨.config, some 0⟩, ⟨.commit, some 0⟩]) ∨
      ¬ env.Commits desc ∧ ∃ raised after,
        (commitConfigured env desc).run workshop = (.error raised, after) ∧
          ∀ run ∈ after.commands, run.command = .config ∨ run.command = .commit := by
  obtain ⟨configured, runsConfig, configOk⟩ := setConfig_run env workshop
  obtain ⟨committed, runsCommit, commitOk⟩ :=
    commitImage_run env desc.version (workshop.ran .config env.config)
  unfold commitConfigured FinishEnv.Commits
  rw [← configOk, ← commitOk, run_bind, wrapping_run, runsConfig]
  cases configured with
  | error raised => exact .inr ⟨by simp, _, _, rfl, by simp [Workshop.ran, fresh]⟩
  | ok _ =>
  obtain ⟨_, config⟩ := configOk.mp rfl
  simp only [Except.mapError, run_bind, runsCommit]
  cases committed with
  | error raised => exact .inr ⟨by simp, _, _, rfl, by simp [Workshop.ran, fresh]⟩
  | ok _ =>
  obtain ⟨_, commit⟩ := commitOk.mp rfl
  simp only [run_ofExcept]
  cases env.pushCreds (desc.canonicalUri "") desc.baseUri with
  | error raised => exact .inr ⟨by simp, _, _, rfl, by simp [Workshop.ran, fresh]⟩
  | ok creds =>
  cases env.mkstempDigest with
  | error raised => exact .inr ⟨by simp, _, _, rfl, by simp [Workshop.ran, fresh]⟩
  | ok _ =>
    refine .inl ⟨⟨trivial, trivial, ⟨creds, rfl⟩, rfl⟩, _, rfl, ?_⟩
    simp [Workshop.ran, fresh, config, commit, Except.toOption]

/-- The push returned and its digest can be read. -/
def FinishEnv.Pushes (env : FinishEnv) (rc : Int) (stderr digest : String) : Prop :=
  env.push = .ok (rc, stderr) ∧ (∃ text, env.digestText = .ok text ∧ digest = Text.strip text) ∧
    env.closeDigest = .ok ()

/-- The push is run; its exit code does not matter for going on. -/
theorem pushImage_cases (env : FinishEnv) (uri : String) (workshop : Workshop) :
    (∃ rc stderr digest, env.Pushes rc stderr digest ∧
        (pushImage env uri).run workshop =
          (.ok (rc, stderr, digest), workshop.ran .push env.push)) ∨
      (¬ ∃ rc stderr digest, env.Pushes rc stderr digest) ∧
        ∃ raised, (pushImage env uri).run workshop =
          (.error raised, workshop.ran .push env.push) := by
  obtain ⟨result, runs, same⟩ := @buildahRun_runs .push env.push workshop
  unfold pushImage FinishEnv.Pushes
  rw [run_ensuring, wrapping_run, run_bind, runs]
  cases result with
  | error raised =>
    have failed : ∀ value, env.push ≠ .ok value := fun value given => by
      simpa using (same value).mpr given
    refine .inr ⟨fun ⟨_, _, _, pushed, _⟩ => failed _ pushed, ?_⟩
    cases env.closeDigest with
    | error reason => exact ⟨reason, rfl⟩
    | ok _ => exact ⟨_, rfl⟩
  | ok value =>
    obtain ⟨rc, stderr⟩ := value
    have pushed := (same (rc, stderr)).mp rfl
    simp only [run_bind, run_ofExcept, pushed]
    cases env.closeDigest with
    | error reason =>
      refine .inr ⟨by simp, reason, ?_⟩
      cases env.digestText <;> rfl
    | ok _ =>
      cases env.digestText with
      | error reason => exact .inr ⟨by simp, _, rfl⟩
      | ok text => exact .inl ⟨rc, stderr, Text.strip text, ⟨rfl, ⟨text, rfl, rfl⟩, rfl⟩, rfl⟩

/-- Without what signing needs nothing is signed; otherwise the image is, and only then a failed
push raises. -/
theorem signPushed_cases (env : FinishEnv) (desc : VersionDescriptor) (transit : String)
    (rc : Int) (stderr digest : String) (workshop : Workshop) :
    ((∃ raised, env.signPrepared (desc.canonicalUri digest) transit = .error raised) ∧
        ∃ raised, (signPushed env desc transit (rc, stderr, digest)).run workshop =
          (.error raised, workshop)) ∨
      env.signPrepared (desc.canonicalUri digest) transit = .ok () ∧
        ∃ outcome, (signPushed env desc transit (rc, stderr, digest)).run workshop =
            (outcome, workshop.ran (.sign (desc.canonicalUri digest))
              (env.sign (desc.canonicalUri digest))) ∧
          (outcome = .ok () →
            rc = 0 ∧ ∃ stderr, env.sign (desc.canonicalUri digest) = .ok (0, stderr)) := by
  unfold signPushed asyncSign
  rw [run_bind, wrapping_run, run_bind, run_ofExcept]
  cases env.signPrepared (desc.canonicalUri digest) transit with
  | error raised => exact .inl ⟨⟨raised, rfl⟩, _, rfl⟩
  | ok _ =>
    refine .inr ⟨rfl, ?_⟩
    obtain ⟨signed, runs, signedOk⟩ :=
      (@runCommand_runs (.sign (desc.canonicalUri digest))
        (env.sign (desc.canonicalUri digest))).wrapping.checked
        (fun stderr => signingError
          ("error signing image '" ++ desc.canonicalUri digest ++ "': " ++ stderr)) workshop
    dsimp only
    rw [runs]
    cases signed with
    | error raised => exact ⟨_, rfl, by simp⟩
    | ok _ =>
      simp only [Except.mapError]
      by_cases zero : rc = 0
      · exact ⟨.ok (), by simp [zero], fun _ => ⟨zero, signedOk.mp rfl⟩⟩
      · exact ⟨_, by simp [zero]; rfl, by simp⟩

/-- An image that is finished was committed and pushed, the digest that was signed is the one that
the push wrote, and nothing is signed after a push that failed. -/
structure PushSound (env : FinishEnv) (desc : VersionDescriptor) (signWithTransit : Option String)
    (outcome : Except Raised Unit) (commands : List CommandRun) : Prop where
  pushed : outcome = .ok () → ⟨.commit, some 0⟩ ∈ commands ∧ ⟨.push, some 0⟩ ∈ commands
  signed : outcome = .ok () → ∀ transit, transitKey signWithTransit = some transit →
    ∃ text, env.digestText = .ok text ∧ Text.strip text ≠ "" ∧
      ⟨.sign (desc.baseUri ++ "@" ++ Text.strip text), some 0⟩ ∈ commands
  afterPush : ∀ image exit, ⟨.sign image, exit⟩ ∈ commands → ⟨.push, some 0⟩ ∈ commands

/-- A push that ends with exit code zero writes a digest. -/
def FinishEnv.PushWritesDigest (env : FinishEnv) : Prop :=
  ∀ stderr text, env.push = .ok (0, stderr) → env.digestText = .ok text → Text.strip text ≠ ""

/-- A push that was reached ended with another exit code than zero, its digest file could be read,
and either the image is not to be signed or everything that signing needs is there. -/
def FinishEnv.IgnoresFailedPush (env : FinishEnv) (desc : VersionDescriptor)
    (signWithTransit : Option String) : Prop :=
  env.Commits desc ∧ ∃ rc stderr digest, env.Pushes rc stderr digest ∧ rc ≠ 0 ∧
    ∀ transit, transitKey signWithTransit = some transit →
      env.signPrepared (desc.canonicalUri digest) transit = .ok ()

/-- Finishing an image is sound exactly when no failed push is ignored. -/
theorem finishImage_sound_iff {signWithTransit : Option String} (writes : env.PushWritesDigest)
    (fresh : workshop.commands = []) :
    PushSound env desc signWithTransit ((finishImage env desc signWithTransit).run workshop).1
        ((finishImage env desc signWithTransit).run workshop).2.commands ↔
      ¬ env.IgnoresFailedPush desc signWithTransit := by
  unfold finishImage FinishEnv.IgnoresFailedPush
  rw [run_bind]
  rcases commitConfigured_cases env desc fresh with
    ⟨commits, after, runs, commands⟩ | ⟨refused, raised, after, runs, before⟩
  swap
  · -- nothing is pushed or signed before the commit
    rw [runs]
    refine ⟨fun _ ignored => refused ignored.1,
      fun _ => ⟨by simp, by simp, fun image exit ran => ?_⟩⟩
    simpa using before _ ran
  rw [runs]
  dsimp only
  rw [run_bind]
  rcases pushImage_cases env (desc.canonicalUri "") after with
    ⟨rc, stderr, digest, pushes, runsPush⟩ | ⟨unpushed, raised, runsPush⟩
  swap
  · rw [runsPush]
    refine ⟨fun _ ⟨_, rc, stderr, digest, pushes, _⟩ => unpushed ⟨rc, stderr, digest, pushes⟩,
      fun _ => ⟨by simp, by simp, fun image exit ran => ?_⟩⟩
    simp [Workshop.ran, commands] at ran
  rw [runsPush]
  obtain ⟨push, ⟨text, read, stripped⟩, closed⟩ := pushes
  have only : ∀ {other errors written}, env.Pushes other errors written →
      other = rc ∧ errors = stderr ∧ written = digest := by
    rintro other errors written ⟨samePush, ⟨_, sameRead, rfl⟩, -⟩
    rw [push] at samePush
    rw [read] at sameRead
    cases samePush
    cases sameRead
    exact ⟨rfl, rfl, stripped.symm⟩
  have ranPush : (after.ran .push env.push).commands =
      [⟨.config, some 0⟩, ⟨.commit, some 0⟩, ⟨.push, some rc⟩] := by
    simp [Workshop.ran, commands, push, Except.toOption]
  have ignored_iff : (env.Commits desc ∧ ∃ rc stderr digest, env.Pushes rc stderr digest ∧ rc ≠ 0 ∧
      ∀ transit, transitKey signWithTransit = some transit →
        env.signPrepared (desc.canonicalUri digest) transit = .ok ()) ↔
      rc ≠ 0 ∧ ∀ transit, transitKey signWithTransit = some transit →
        env.signPrepared (desc.canonicalUri digest) transit = .ok () := by
    constructor
    · rintro ⟨-, other, errors, written, pushes, failed, prepared⟩
      obtain ⟨rfl, rfl, rfl⟩ := only pushes
      exact ⟨failed, prepared⟩
    · rintro ⟨failed, prepared⟩
      exact ⟨commits, rc, stderr, digest, ⟨push, ⟨text, read, stripped⟩, closed⟩, failed, prepared⟩
  rw [ignored_iff]
  dsimp only
  cases key : transitKey signWithTransit with
  | none =>
    -- without a transit key the exit code of the push is never looked at
    change PushSound env desc signWithTransit (.ok ()) (after.ran .push env.push).commands ↔ _
    rw [ranPush]
    constructor
    · rintro ⟨pushed, -, -⟩ ⟨failed, -⟩
      have zero := (pushed rfl).2
      simp only [List.mem_cons, CommandRun.mk.injEq, Option.some.injEq] at zero
      simp at zero
      exact failed zero.symm
    · intro sound
      have zero : rc = 0 := by
        by_contra failed
        exact sound ⟨failed, by simp⟩
      exact ⟨by simp [zero], by simp [key], by simp⟩
  | some transit =>
    rcases signPushed_cases env desc transit rc stderr digest (after.ran .push env.push) with
      ⟨⟨raised, unprepared⟩, reason, runsSign⟩ | ⟨prepared, outcome, runsSign, signedOk⟩
    · dsimp only
      rw [runsSign, ranPush]
      refine ⟨fun _ ignored => ?_, fun _ => ⟨by simp, by simp, by simp⟩⟩
      have needed := ignored.2 transit rfl
      rw [unprepared] at needed
      cases needed
    · dsimp only
      rw [runsSign]
      have ranSign : ((after.ran .push env.push).ran (.sign (desc.canonicalUri digest))
          (env.sign (desc.canonicalUri digest))).commands =
            [⟨.config, some 0⟩, ⟨.commit, some 0⟩, ⟨.push, some rc⟩,
              ⟨.sign (desc.canonicalUri digest),
                (env.sign (desc.canonicalUri digest)).toOption.map Prod.fst⟩] := by
        rw [Workshop.ran, ranPush]
        rfl
      rw [ranSign]
      constructor
      · rintro ⟨-, -, afterPush⟩ ⟨failed, -⟩
        have zero := afterPush (desc.canonicalUri digest) _
          (List.mem_cons_of_mem _ (List.mem_cons_of_mem _ (List.mem_cons_of_mem _
            List.mem_cons_self)))
        simp at zero
        exact failed zero.symm
      · intro sound
        have zero : rc = 0 := by
          by_contra failed
          refine sound ⟨failed, fun other same => ?_⟩
          cases same
          exact prepared
        subst zero
        have named : Text.strip text ≠ "" := writes stderr text push read
        refine ⟨fun _ => by simp, fun finished _ _ => ?_, by simp⟩
        obtain ⟨-, errors, signed⟩ := signedOk finished
        refine ⟨text, read, named, ?_⟩
        have uri : desc.canonicalUri digest = desc.baseUri ++ "@" ++ Text.strip text := by
          rw [VersionDescriptor.canonicalUri, stripped, if_neg named, String.append_assoc]
        rw [← uri, signed]
        simp [Except.toOption]

end Cbs

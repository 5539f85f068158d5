import Cbs.Core.Basic
import Cbs.Library.Raising
import Mathlib.Tactic.SplitIfs

/-!
# The runner

A call of `runner` starts one build container and returns the report that it finds in the scratch
directory.  The files that outlive a call are the state.
-/

namespace Cbs

open Script

/-- What holds secret material on a host. -/
inductive Holder where
  | secretsFile
  | sshKey
  | gpgKeyFile
  | gpgHome
  deriving DecidableEq

structure Host where
  /-- Existing holders of secret material, the newest first. -/
  holders : List Holder
  /-- Content of `build-report.json` in the scratch directory. -/
  report : Option String
  deriving DecidableEq

abbrev HostScript (α : Type) : Type :=
  Script Host Raised α

/-- Create a holder of secret material, which may fail. -/
def createHolder (holder : Holder) (created : Except Raised Unit) : HostScript Unit := do
  ofExcept created
  modify fun host => { host with holders := holder :: host.holders }

/-- Remove a holder of secret material. -/
def removeHolder (holder : Holder) : HostScript Unit :=
  modify fun host => { host with holders := host.holders.erase holder }

/-- A container run and the podman command around it. -/
structure ContainerRun where
  cidfile : Except Raised Unit
  /-- What the container wrote to `build-report.json`, if anything. -/
  wrote : Option String
  /-- Exit code, output and error output of the command, or what it raised. -/
  ended : Except Raised (Int × String × String)
  /-- Whether the container id is known when the command is given up. -/
  cidKnown : Bool
  stopped : Except Raised Unit

/-- A call of `runner`. -/
structure RunnerCall where
  entrypointPath : String
  entrypointIsFile : Bool
  entrypointIsSymlink : Bool
  entrypointIsExecutable : Bool
  descFilePath : String
  descExists : Bool
  readDescriptor : Except Raised Unit
  setupComponentsDir : Except Raised Unit
  mkstempSecrets : Except Raised Unit
  getSecrets : Except Raised Unit
  storeSecrets : Except Raised Unit
  copyConfig : Except Raised Unit
  prepareLog : Except Raised Unit
  mkstempConfig : Except Raised Unit
  storeConfig : Except Raised Unit
  resolveVolumes : Except Raised Unit
  openLog : Except Raised Unit
  container : ContainerRun
  closeLog : Except Raised Unit
  abortLog : Except Raised Unit
  cleanupComponentsDir : Except Raised Unit
  readReport : Except Raised Unit
  parseReport : String → Except Raised BuildArtifactReport
  unlinkReport : Except Raised Unit

def runnerError (msg : String) : Raised :=
  ⟨.runner, msg⟩

variable (call : RunnerCall)

/-- The checks of the entrypoint and of the version descriptor, and the aggregated components. -/
def RunnerCall.prepare : Except Raised Unit := do
  if !call.entrypointIsFile then
    throw (runnerError ("error: unable to find entrypoint script at '" ++
      call.entrypointPath ++ "'"))
  if call.entrypointIsSymlink then
    throw (runnerError ("error: entrypoint script at '" ++ call.entrypointPath
      ++ "' can't be a symlink"))
  if !call.entrypointIsExecutable then
    throw (runnerError ("error: entrypoint script at '" ++ call.entrypointPath
      ++ "' is not executable"))
  if !call.descExists then
    throw ⟨.version, "no such build descriptor at '" ++ call.descFilePath ++ "'"⟩
  match call.readDescriptor with
  | .ok () => pure ()
  | .error raised =>
    if raised.kind.isCes then
      throw (runnerError ("error loading version descriptor: " ++ raised.text))
    else
      throw raised
  call.setupComponentsDir

/-- Read, merge and write the secrets. -/
def RunnerCall.fillSecrets : Except Raised Unit := do
  call.getSecrets
  call.storeSecrets

/-- Fill the temporary secrets file; configuration and secrets errors remove it. -/
def writeSecrets : HostScript Unit :=
  (ofExcept call.fillSecrets).rescue fun raised =>
    if raised.kind = .config ∨ raised.kind.isSecrets then do
      removeHolder .secretsFile
      fail (runnerError ("error creating temporary secrets file: " ++ raised.text))
    else
      fail raised

/-- What comes between the secrets file and the configuration file. -/
def RunnerCall.adjustConfig : Except Raised Unit := do
  call.copyConfig
  call.prepareLog
  call.mkstempConfig

/-- Fill the temporary configuration file; a configuration error removes both files. -/
def writeConfig : HostScript Unit :=
  (ofExcept call.storeConfig).rescue fun raised =>
    if raised.kind = .config then do
      removeHolder .secretsFile
      fail (runnerError ("error creating temporary config file: " ++ raised.text))
    else
      fail raised

variable (container : ContainerRun)

def writeReport : HostScript Unit :=
  modify fun host => { host with report := container.wrote <|> host.report }

def ContainerRun.stop : Except Raised Unit :=
  if container.cidKnown then container.stopped else .ok ()

def giveUp (raised : Raised) : HostScript (Int × String × String) :=
  if raised.kind = .cancelled ∨ raised.kind = .timeout then do
    ofExcept container.stop
    fail ⟨.podman 110, "podman command timed out or was cancelled"⟩
  else
    fail raised

def podmanRun : HostScript (Int × String × String) := do
  ofExcept container.cidfile
  writeReport container
  (ofExcept container.ended).rescue (giveUp container)

def runLogged : HostScript (Int × String × String) := do
  ofExcept call.openLog
  let ended ← (podmanRun call.container).rescue fun raised => do
    ofExcept call.abortLog
    fail raised
  ofExcept call.closeLog
  pure ended

/-- Run the container; the aggregated components are removed however that ends. -/
def runContainer : HostScript (Int × String × String) :=
  ((runLogged call).rescue fun raised =>
    match raised.kind with
    | .podman _ => fail (runnerError ("error running build: " ++ raised.text))
    | kind =>
      if kind.isException then
        fail (runnerError ("unknown error running build: " ++ raised.text))
      else
        fail raised).ensuring (ofExcept call.cleanupComponentsDir)

/-- Read the report of the container, if there is one. -/
def readReport (call : RunnerCall) : HostScript (Option BuildArtifactReport) := do
  match ← Script.read Host.report with
  | none => pure none
  | some raw =>
    ofExcept call.readReport
    let report ← ofExcept (call.parseReport raw)
    pure (some report)

/-- Read the report and remove its file; failures to read it are only logged. -/
def collectReport : HostScript (Option BuildArtifactReport) :=
  ((readReport call).rescue fun raised =>
    if raised.kind.isException then pure none else fail raised).ensuring do
      ofExcept call.unlinkReport
      modify fun host => { host with report := none }

/-- What the runner does once the configuration of the container is written. -/
def runAndCollect : HostScript (Option BuildArtifactReport) := do
  ofExcept call.resolveVolumes
  let (rc, _, stderr) ← runContainer call
  let report ← collectReport call
  if rc ≠ 0 then
    fail (runnerError ("error running build (rc=" ++ toString rc ++ "): " ++ stderr))
  else
    pure report

def runner : HostScript (Option BuildArtifactReport) := do
  ofExcept call.prepare
  createHolder .secretsFile call.mkstempSecrets
  writeSecrets call
  ofExcept call.adjustConfig
  writeConfig call
  runAndCollect call

/-- A call in which every step of the host succeeds, with a given container. -/
def RunnerCall.smooth : RunnerCall where
  entrypointPath := "/opt/cbscore-entrypoint.sh"
  entrypointIsFile := true
  entrypointIsSymlink := false
  entrypointIsExecutable := true
  descFilePath := "/opt/19.2.3.json"
  descExists := true
  readDescriptor := .ok ()
  setupComponentsDir := .ok ()
  mkstempSecrets := .ok ()
  getSecrets := .ok ()
  storeSecrets := .ok ()
  copyConfig := .ok ()
  prepareLog := .ok ()
  mkstempConfig := .ok ()
  storeConfig := .ok ()
  resolveVolumes := .ok ()
  openLog := .ok ()
  container
  closeLog := .ok ()
  abortLog := .ok ()
  cleanupComponentsDir := .ok ()
  readReport := .ok ()
  parseReport raw := .ok { version := raw, skipped := false }
  unlinkReport := .ok ()

/-- A container that ends with exit code zero and writes no report. -/
def ContainerRun.silent : ContainerRun :=
  ⟨.ok (), none, .ok (0, "", ""), true, .ok ()⟩

end Cbs

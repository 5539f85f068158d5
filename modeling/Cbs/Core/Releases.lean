import Cbs.Core.Basic
import Cbs.Library.Dictionary
import Cbs.Library.Raising

/-!
# Releases

Version descriptors, the release descriptors that the release bucket holds, and the functions that
read and write them.
-/

namespace Cbs

open Script

structure VersionComponent where
  name : String
  repo : String
  ref : String

structure VersionDescriptor where
  version : String
  registry : String
  imageName : String
  tag : String
  components : List VersionComponent
  distro : String
  elVersion : Nat

def VersionDescriptor.baseUri (desc : VersionDescriptor) : String :=
  desc.registry ++ "/" ++ desc.imageName

/-- The canonical URI of the image: by digest if there is one, and by tag otherwise. -/
def VersionDescriptor.canonicalUri (desc : VersionDescriptor) (digest : String) : String :=
  desc.baseUri ++ if digest = "" then ":" ++ desc.tag else "@" ++ digest

inductive ArchType where
  | x86_64
  deriving DecidableEq

inductive BuildType where
  | rpm
  deriving DecidableEq

structure ReleaseRPMArtifacts where
  loc : String
  releaseRpmLoc : String
  deriving DecidableEq

structure ReleaseComponentVersion where
  name : String
  version : String
  sha1 : String
  arch : ArchType
  buildType : BuildType
  osVersion : String
  repoUrl : String
  artifacts : ReleaseRPMArtifacts
  deriving DecidableEq

structure ReleaseComponent where
  name : String
  version : String
  sha1 : String
  versions : List ReleaseComponentVersion

structure ReleaseBuildEntry where
  arch : ArchType
  buildType : BuildType
  osVersion : String
  components : Dictionary String ReleaseComponentVersion

structure ReleaseDesc where
  version : String
  builds : Dictionary ArchType ReleaseBuildEntry

inductive ImageCommand where
  | config
  | commit
  | push
  | sign (image : String)
  deriving DecidableEq

/-- A command that was run and its exit code, which is missing if the command raised. -/
structure CommandRun where
  command : ImageCommand
  exit : Option Int
  deriving DecidableEq

structure Workshop where
  releases : String → Option ReleaseDesc
  /-- Component descriptors in the bucket by name and long version. -/
  released : String → String → Option ReleaseComponent
  commands : List CommandRun
  report : Option BuildArtifactReport

abbrev BuildScript (α : Type) : Type :=
  Script Workshop Raised α

inductive BuilderStep where
  | prepareBuilder
  | imageExists
  | download (location : String)
  | uploadJson (location : String)
  | mkdirRepos
  | prepareComponent (name : String)
  | cleanupComponents
  | mkdirRpms
  | installDeps (name : String)
  | buildComponent (name : String)
  | signRpms
  | uploadRpms (name : String)
  | releaseRpm (name : String)
  | componentContainer (name : String)
  | newContainer
  | applyPre
  | installPackages
  | applyPost
  | applyConfig
  | writeReport

/-- What an exception of the given classes is turned into, with its text after a message. -/
def reword (catches : ErrorKind → Bool) (kind : ErrorKind) (msg : String) (raised : Raised) :
    Option Raised :=
  if catches raised.kind then some ⟨kind, msg ++ raised.text⟩ else none

def onlyKind (kind : ErrorKind) : ErrorKind → Bool :=
  (· = kind)

def wrapping {α : Type} (translate : Raised → Option Raised) (script : BuildScript α) :
    BuildScript α :=
  script.rescue fun raised => fail ((translate raised).getD raised)

variable {α : Type} {translate : Raised → Option Raised} {workshop : Workshop}

theorem wrapping_run {script : BuildScript α} :
    (wrapping translate script).run workshop =
      ((script.run workshop).1.mapError fun raised => (translate raised).getD raised,
        (script.run workshop).2) := by
  rw [wrapping, run_rescue]
  cases script.run workshop with
  | mk result after => cases result <;> rfl

theorem wrapping_run_ok {script : BuildScript α} {after : Workshop} {value : α} :
    (wrapping translate script).run workshop = (.ok value, after) ↔
      script.run workshop = (.ok value, after) := by
  rw [wrapping_run]
  cases script.run workshop with
  | mk result last => cases result <;> simp [Except.mapError]

/-- Run the tasks of a group; if one raises an exception, the group raises one of a class. -/
def taskGroup (kind : ErrorKind) (msg : String) (tasks : List (BuildScript Unit)) :
    BuildScript Unit :=
  (tasks.forM id).rescue fun raised =>
    if raised.kind.isException then fail ⟨kind, msg⟩ else fail raised

structure Bucket where
  bucket : String
  loc : String
  outcome : BuilderStep → Except Raised Unit

variable (s3 : Bucket)

def Bucket.releaseKey (version : String) : String :=
  s3.loc ++ "/" ++ version ++ ".json"

def Bucket.componentKey (name longVersion : String) : String :=
  s3.loc ++ "/" ++ name ++ "/" ++ longVersion ++ ".json"

def checkReleaseExists (version : String) : BuildScript (Option ReleaseDesc) := do
  wrapping (reword (onlyKind .release) .release
      ("error checking if release '" ++ version ++ "' exists: "))
    (ofExcept (s3.outcome (.download (s3.releaseKey version))))
  Script.read (·.releases version)

/-- Add a build to the release that is stored under a version string, or to a new one. -/
def releaseDescUpload (version : String) (releaseBuild : ReleaseBuildEntry) :
    BuildScript ReleaseDesc := do
  let existing ← wrapping
    (reword (fun kind => kind.isException && kind ≠ .release) .release
      ("unknown error checking for existing release '" ++ version ++ "': "))
    (checkReleaseExists s3 version)
  let known := existing.getD { version, builds := ∅ }
  let desc := { known with builds := known.builds.insert releaseBuild.arch releaseBuild }
  let place := "to bucket '" ++ s3.bucket ++ "' loc '" ++ s3.releaseKey version ++ "': "
  wrapping (fun raised =>
      reword (onlyKind .release) .release
          ("error uploading release desc for version '" ++ version ++ "' " ++ place) raised <|>
        reword ErrorKind.isException .release
          ("unknown error uploading release desc for version '" ++ version ++ "'" ++ place) raised)
    (ofExcept (s3.outcome (.uploadJson (s3.releaseKey version))))
  modify fun workshop =>
    { workshop with releases := fun other =>
        if other = version then some desc else workshop.releases other }
  pure desc

def putComponent (release : ReleaseComponent) : BuildScript Unit := do
  ofExcept (s3.outcome (.uploadJson (s3.componentKey release.name release.version)))
  modify fun workshop =>
    { workshop with released := fun name longVersion =>
        if name = release.name ∧ longVersion = release.version then some release
        else workshop.released name longVersion }

def releaseUploadComponents (releases : Dictionary String ReleaseComponent) : BuildScript Unit :=
  taskGroup .release "error uploading release descriptors"
    (releases.entries.map fun entry => putComponent s3 entry.2)

/-- The components, of those asked for by name and long version, that are in the bucket. -/
def checkReleasedComponents (components : Dictionary String String) :
    BuildScript (Dictionary String ReleaseComponent) := do
  taskGroup .release "error checking released components"
    (components.entries.map fun entry =>
      ofExcept (s3.outcome (.download (s3.componentKey entry.1 entry.2))))
  Script.read fun workshop => components.collect workshop.released

end Cbs

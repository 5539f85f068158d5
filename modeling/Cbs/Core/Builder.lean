import Cbs.Core.Buildah

/-!
# The builder

A run of the builder inside a build container: it takes the stored release of a version or builds
one, component by component, makes an image of it and writes a report.
-/

namespace Cbs

open Script

structure RpmSection where
  buildExists : Bool
  releaseRpmExists : Bool

structure CoreComponent where
  pathExists : Bool
  depsExists : Bool
  rpm : Option RpmSection

structure BuildComponentInfo where
  name : String
  repoUrl : String
  baseRef : String
  sha1 : String
  longVersion : String

structure S3Config where
  artifactsLoc : String
  releasesBucket : String
  releasesLoc : String

structure BuilderEnv where
  desc : VersionDescriptor
  s3 : Option S3Config
  signWithGpg : Option String
  signWithTransit : Option String
  skipBuild : Bool
  force : Bool
  components : Dictionary String CoreComponent
  outcome : BuilderStep → Except Raised Unit
  imageExists : Bool
  sha1 : VersionComponent → String
  longVersion : VersionComponent → String
  releaseRpmOutput : String → String
  finish : FinishEnv

def builderError (msg : String) : Raised :=
  ⟨.builder, msg⟩

def containerError (msg : String) : Raised :=
  ⟨.container, msg⟩

def keysText {ν : Type} (dictionary : Dictionary String ν) : String :=
  "dict_keys([" ++ ", ".intercalate (dictionary.keys.map fun key => "'" ++ key ++ "'") ++ "])"

def asBuilderError {α : Type} (msg : String) (script : BuildScript α) : BuildScript α :=
  wrapping (reword ErrorKind.isException .builder msg) script

def asContainerError {α : Type} (msg : String) (script : BuildScript α) : BuildScript α :=
  wrapping (reword ErrorKind.isException .container msg) script

def BuilderEnv.step (env : BuilderEnv) (step : BuilderStep) : BuildScript Unit :=
  ofExcept (env.outcome step)

variable (env : BuilderEnv)

/-- The release bucket of a storage. -/
def BuilderEnv.bucket (s3 : S3Config) : Bucket :=
  ⟨s3.releasesBucket, s3.releasesLoc, env.outcome⟩

/-- The distribution version of the build. -/
def BuilderEnv.osVersion : String :=
  "el" ++ toString env.desc.elVersion

/-- What is known about a component once it is prepared. -/
def BuilderEnv.info (component : VersionComponent) : BuildComponentInfo where
  name := component.name
  repoUrl := component.repo
  baseRef := component.ref
  sha1 := env.sha1 component
  longVersion := env.longVersion component

/-- The prepared components by name; of two with one name the later is kept. -/
def BuilderEnv.infos (env : BuilderEnv) : Dictionary String BuildComponentInfo :=
  env.desc.components.foldl (fun infos component =>
    infos.insert component.name (env.info component)) ∅

def BuilderEnv.coreComponentsDefined : Except Raised Unit :=
  env.desc.components.forM fun component =>
    if (env.components.lookup component.name).isSome then .ok ()
    else .error (builderError
      ("unable to find core component definition for '" ++ component.name ++ "'"))

variable (infos : Dictionary String BuildComponentInfo)

def longVersions : Dictionary String String :=
  infos.collect fun _ info => some info.longVersion

def prepareComponents : BuildScript (Dictionary String BuildComponentInfo) := do
  env.step .mkdirRepos
  ofExcept env.coreComponentsDefined
  taskGroup .builder "error preparing components"
    (env.desc.components.map fun component => env.step (.prepareComponent component.name))
  pure env.infos

def installDeps (env : BuilderEnv) (name : String) : BuildScript Unit :=
  match env.components.lookup name with
  | none => fail ⟨.other "KeyError", name⟩
  | some core =>
    if core.depsExists then
      asBuilderError ("error installing dependencies for '" ++ name ++ "': ")
        (env.step (.installDeps name))
    else
      fail (builderError ("install_deps script not found for component '" ++ name ++ "'"))

/-- The version to build a component at; components without packages are not built. -/
def BuilderEnv.rpmVersion (name : String) (info : BuildComponentInfo) :
    Except Raised (Option String) :=
  match env.components.lookup name with
  | none => .error ⟨.other "KeyError", name⟩
  | some core =>
    if !core.pathExists then .ok none
    else
      match core.rpm with
      | none => .ok none
      | some rpm =>
        if rpm.buildExists then .ok (some info.longVersion)
        else .error (builderError ("build script not found for '" ++ name ++ "'"))

def buildComponent (name : String) : BuildScript Unit :=
  if env.skipBuild then pure () else env.step (.buildComponent name)

def BuilderEnv.componentsDefined : Except Raised Unit :=
  infos.keys.forM fun name =>
    if (env.components.lookup name).isSome then .ok ()
    else .error (builderError ("component '" ++ name ++ "' has no corresponding core component"))

/-- Build the packages of components: the versions that were built. -/
def buildRpms : BuildScript (Dictionary String String) := do
  ofExcept (env.componentsDefined infos)
  wrapping (reword (onlyKind .builder) .builder "error installing components' dependencies: ")
    (infos.keys.forM fun name => installDeps env name)
  let toBuild ← ofExcept (infos.collectExcept env.rpmVersion)
  taskGroup .builder "error building component RPMs"
    (toBuild.keys.map fun name => buildComponent env name)
  pure toBuild

def buildSignedRpms : BuildScript (Dictionary String String) := do
  env.step .mkdirRpms
  let builds ← asBuilderError ("error building components (" ++ keysText infos ++ "): ")
    (buildRpms env infos)
  match transitKey env.signWithGpg with
  | none => pure builds
  | some _ => do
    wrapping (fun raised =>
        reword (onlyKind .builder) .builder "error signing component RPMs: " raised <|>
          reword ErrorKind.isException .builder "unknown error signing component RPMs: " raised)
      (env.step .signRpms)
    pure builds

def s3UploadRpms (s3 : S3Config) (builds : Dictionary String String) :
    BuildScript (Dictionary String String) := do
  taskGroup .builder "error uploading component RPMs"
    (builds.keys.map fun name => env.step (.uploadRpms name))
  pure (builds.mapEntries fun name version =>
    s3.artifactsLoc ++ "/" ++ name ++ "/rpm-" ++ version ++ "/" ++ env.osVersion ++ ".clyso")

/-- The name of the release package of a component, if there is one. -/
def BuilderEnv.getComponentReleaseRpm (name : String) : Except Raised (Option String) :=
  match env.components.lookup name with
  | none => .error ⟨.other "KeyError", name⟩
  | some core =>
    match core.rpm with
    | none => .error ⟨.release, "component '" ++ name ++ "' has no rpm build configuration"⟩
    | some rpm =>
      if !rpm.releaseRpmExists then .ok none
      else do
        env.outcome (.releaseRpm name)
        pure (some (Text.strip (env.releaseRpmOutput name)))

def BuilderEnv.builtVersion (name : String) (info : BuildComponentInfo)
    (location releaseRpm : String) : ReleaseComponentVersion where
  name
  version := info.longVersion
  sha1 := info.sha1
  arch := .x86_64
  buildType := .rpm
  osVersion := env.osVersion
  repoUrl := info.repoUrl
  artifacts := ⟨location, location ++ "/" ++ releaseRpm⟩

/-- The release entry of a component that was uploaded; without a release package it is ignored. -/
def BuilderEnv.releaseEntry (locations builds : Dictionary String String)
    (name : String) (info : BuildComponentInfo) : Except Raised (Option ReleaseComponentVersion) :=
  match locations.lookup name with
  | none =>
    .error (builderError ("unexpected missing component '" ++ name ++ "' in S3 upload result"))
  | some location =>
    match builds.lookup name with
    | none => .error (builderError ("unexpected missing component '" ++ name ++ "' in builds"))
    | some _ => do
      match ← env.getComponentReleaseRpm name with
      | none | some "" => pure none
      | some releaseRpm => pure (some (env.builtVersion name info location releaseRpm))

def addVersion (existing : Dictionary String ReleaseComponent) (name : String)
    (version : ReleaseComponentVersion) : ReleaseComponent :=
  let known := (existing.lookup name).getD ⟨name, version.version, version.sha1, []⟩
  { known with versions := known.versions ++ [version] }

def upload (env : BuilderEnv) (s3 : S3Config) (infos : Dictionary String BuildComponentInfo)
    (builds : Dictionary String String) :
    BuildScript (Dictionary String ReleaseComponentVersion) := do
  if builds.entries.isEmpty then
    fail (builderError "unexpected empty 'components' builds dict, can't upload")
  else if infos.entries.isEmpty then
    fail (builderError "unexpected empty 'components' infos dict, can't upload")
  else do
    let locations ← asBuilderError "error uploading RPMs to S3: " (s3UploadRpms env s3 builds)
    let existing ← wrapping (fun raised =>
        reword (onlyKind .release) .builder
            "error checking existing released components: " raised <|>
          reword ErrorKind.isException .builder
            "unknown error checking existing released components: " raised)
      (checkReleasedComponents (env.bucket s3) (longVersions infos))
    let versions ← ofExcept (infos.collectExcept (env.releaseEntry locations builds))
    asBuilderError "error uploading release descriptors for components: "
      (releaseUploadComponents (env.bucket s3) (versions.collect fun name version =>
        some (addVersion existing name version)))
    pure versions

def buildComponents : BuildScript (Dictionary String ReleaseComponentVersion) :=
  if infos.entries.isEmpty then pure ∅
  else do
    let builds ← asBuilderError ("error building RPMs for '" ++ keysText infos ++ ": ")
      (buildSignedRpms env infos)
    match env.s3 with
    | none => pure ∅
    | some s3 =>
      asBuilderError ("error uploading component builds '" ++ keysText builds ++ "': ")
        (upload env s3 infos builds)

/-- The first build of a released component that suits this build. -/
def BuilderEnv.suitable (release : ReleaseComponent) : Option ReleaseComponentVersion :=
  release.versions.find? fun version =>
    version.arch = .x86_64 && version.buildType = .rpm && version.osVersion = env.osVersion

/-- The components that need not be built; with the force flag there are none. -/
def existingComponents : BuildScript (Dictionary String ReleaseComponentVersion) :=
  match env.s3 with
  | none => pure ∅
  | some s3 =>
    if env.force then pure ∅
    else do
      let found ← asBuilderError "error checking released components: "
        (checkReleasedComponents (env.bucket s3) (longVersions infos))
      pure (found.collect fun _ release => env.suitable release)

def BuilderEnv.releaseBuild
    (components : Dictionary String ReleaseComponentVersion) : ReleaseBuildEntry :=
  ⟨.x86_64, .rpm, env.osVersion, components⟩

def storeRelease (existing built : Dictionary String ReleaseComponentVersion) :
    BuildScript (Option ReleaseDesc) :=
  match env.s3 with
  | none => pure none
  | some s3 =>
    if (built ∪ existing).entries.isEmpty then
      fail (builderError ("no component release versions found, existing: " ++ keysText existing
        ++ ", built: " ++ keysText built))
    else do
      let release ← asBuilderError "error uploading release desc to S3: "
        (releaseDescUpload (env.bucket s3) env.desc.version (env.releaseBuild (built ∪ existing)))
      pure (some release)

/-- Build a release of prepared components: those that exist and those that are built. -/
def doBuildRelease : BuildScript (Option ReleaseDesc) := do
  let existing ← existingComponents env infos
  let toBuild := infos.restrict fun name _ => (existing.lookup name).isNone
  let built ← asBuilderError ("error building components '" ++ keysText toBuild ++ "': ")
    (buildComponents env toBuild)
  storeRelease env existing built

/-- Prepare the components and build a release; the worktrees are removed however that ends. -/
def buildRelease : BuildScript (Option ReleaseDesc) :=
  wrapping (reword (onlyKind .builder) .builder "error preparing components: ") do
    let infos ← prepareComponents env
    (doBuildRelease env infos).ensuring
      (if infos.entries.isEmpty then pure () else env.step .cleanupComponents)

/-- Add a component of the version to those of the image; one that the build of the release lacks is
only logged. -/
def BuilderEnv.addImageComponent (build : ReleaseBuildEntry)
    (found : List (String × ReleaseComponentVersion)) (component : VersionComponent) :
    Except Raised (List (String × ReleaseComponentVersion)) :=
  if (env.components.lookup component.name).isNone then
    .error (containerError ("unable to find core component '" ++ component.name ++ "'"))
  else
    match build.components.lookup component.name with
    | none => .ok found
    | some version => do
      env.outcome (.componentContainer component.name)
      pure (found ++ [(component.name, version)])

variable (release : ReleaseDesc)

/-- The components that go into the image. -/
def BuilderEnv.getComponents : Except Raised (List (String × ReleaseComponentVersion)) :=
  match release.builds.lookup .x86_64 with
  | none =>
    .error (containerError ("no release builds for x86_64 for '" ++ env.desc.version ++ "'"))
  | some build => do
    let components ← env.desc.components.foldlM (env.addImageComponent build) []
    if components.isEmpty then .error (containerError "no container descriptors found")
    else .ok components

def containerBuild : BuildScript Unit := do
  let _ ← asContainerError "error obtaining components to build: "
    (ofExcept (env.getComponents release))
  env.step .newContainer
  asContainerError "error applying PRE sections: " (env.step .applyPre)
  asContainerError "error installing component PACKAGES: " (env.step .installPackages)
  asContainerError "error applying POST sections: " (env.step .applyPost)
  asContainerError "error applying CONFIG section: " (env.step .applyConfig)

/-- Finish the image of a release. -/
def containerFinish : BuildScript Unit :=
  finishImage env.finish env.desc env.signWithTransit

def BuilderEnv.skippedReport : BuildArtifactReport where
  version := env.desc.version
  skipped := true
  containerImage := some ⟨env.desc.baseUri, env.desc.tag, false⟩

def BuilderEnv.buildReport : BuildArtifactReport where
  version := env.desc.version
  skipped := false
  containerImage := some ⟨env.desc.baseUri, env.desc.tag, true⟩
  releaseDescriptor := env.s3.map fun s3 =>
    ⟨s3.releasesLoc ++ "/" ++ env.desc.version ++ ".json", s3.releasesBucket⟩
  components := release.builds.entries.flatMap fun build =>
    build.2.components.entries.map fun entry =>
      ⟨entry.1, entry.2.version, entry.2.sha1, entry.2.repoUrl, some entry.2.artifacts.loc⟩

def putReport (report : BuildArtifactReport) : BuildScript Unit := do
  env.step .writeReport
  modify fun workshop => { workshop with report := some report }

/-- Write a report to the scratch directory; a failure to do so is only logged. -/
def writeBuildReport (report : BuildArtifactReport) : BuildScript Unit :=
  (putReport env report).rescue fun raised =>
    if raised.kind = .other "OSError" then pure () else fail raised

def storedRelease : BuildScript (Option ReleaseDesc) :=
  match env.s3 with
  | none => pure none
  | some s3 => checkReleaseExists (env.bucket s3) env.desc.version

/-- The release to make an image of: the stored one, whatever the force flag, or one that is
built. -/
def obtainRelease : BuildScript (Option ReleaseDesc) := do
  match ← storedRelease env with
  | some release => pure (some release)
  | none => asBuilderError "error building components: " (buildRelease env)

def buildImage : BuildScript (Option BuildArtifactReport) := do
  asBuilderError "error creating container: " do
    containerBuild env release
    containerFinish env
  writeBuildReport env (env.buildReport release)
  pure (some (env.buildReport release))

def builderRun : BuildScript (Option BuildArtifactReport) := do
  wrapping (reword (onlyKind .builder) .builder "error preparing builder: ")
    (env.step .prepareBuilder)
  env.step .imageExists
  if env.imageExists then do
    writeBuildReport env env.skippedReport
    pure (some env.skippedReport)
  else do
    match ← obtainRelease env with
    | some release => buildImage env release
    | none =>
      if env.s3.isSome then fail (builderError "unexpected missing release descriptor!")
      else pure none

end Cbs

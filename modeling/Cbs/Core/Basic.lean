import Mathlib.Init

/-!
# Errors and reports of the build core

The exceptions that the Python code raises, by their class, and the report of a build.
-/

namespace Cbs

inductive ErrorKind where
  | ces
  | config
  | secrets
  | secretsMgr
  | vault
  | podman (retcode : Int)
  | runner
  | command
  | buildah
  | container
  | signing
  | release
  | builder
  | skopeo
  | version
  | malformedVersion
  | worker
  | workerBuilder
  | osVersionNotPermitted
  | tracker
  | buildsDb
  | value
  | timeout
  | other (name : String)
  | cancelled
  /-- Any other class that is not below `Exception`. -/
  | exit (name : String)
  deriving DecidableEq

/-- The class is below `Exception`. -/
def ErrorKind.isException : ErrorKind → Bool
  | cancelled | exit _ => false
  | _ => true

/-- The class is below `CESError`. -/
def ErrorKind.isCes : ErrorKind → Bool
  | value | timeout | other _ | cancelled | exit _ => false
  | _ => true

def ErrorKind.isSecrets : ErrorKind → Bool
  | secrets | secretsMgr => true
  | _ => false

structure Raised where
  kind : ErrorKind
  msg : String
  deriving DecidableEq

def Raised.text (raised : Raised) : String :=
  match raised.kind with
  | .ces | .config | .buildsDb => "CES error: " ++ raised.msg
  | .secrets | .secretsMgr => "Secrets Error: " ++ raised.msg
  | .vault => "Vault Error: " ++ raised.msg
  | .podman retcode => "podman error: " ++ raised.msg ++ " (retcode: " ++ toString retcode ++ ")"
  | .runner => "Runner error: " ++ raised.msg
  | .command => "Command error: " ++ raised.msg
  | .buildah => "buildah error: " ++ raised.msg
  | .container => "Container Error: " ++ raised.msg
  | .signing => "Signing Error: " ++ raised.msg
  | .release => "Release Error: " ++ raised.msg
  | .builder => "Builder Error: " ++ raised.msg
  | .skopeo => "skopeo error"
  | .version => "Version Error: " ++ raised.msg
  | .malformedVersion => "malformed version: " ++ raised.msg
  | .worker => "Worker Error: " ++ raised.msg
  | .workerBuilder => "Builder Error: " ++ raised.msg
  | .osVersionNotPermitted => "OS version not permitted: " ++ raised.msg
  | .tracker => "Tracker Error: " ++ raised.msg
  | .value | .timeout | .other _ | .cancelled | .exit _ => raised.msg

structure ContainerImageReport where
  name : String
  tag : String
  pushed : Bool
  deriving DecidableEq

structure ReleaseDescriptorReport where
  s3Path : String
  bucket : String
  deriving DecidableEq

structure ComponentReport where
  name : String
  version : String
  sha1 : String
  repoUrl : String
  rpmsS3Path : Option String
  deriving DecidableEq

structure BuildArtifactReport where
  reportVersion : Nat := 1
  version : String
  skipped : Bool
  containerImage : Option ContainerImageReport := none
  releaseDescriptor : Option ReleaseDescriptorReport := none
  components : List ComponentReport := []
  deriving DecidableEq

end Cbs

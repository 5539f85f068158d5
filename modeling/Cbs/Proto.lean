import Mathlib.Data.Finset.Basic

/-!
# Build descriptors and the worker protocol

The data types of the `cbsd-proto` crate: what a build is described by, the states it passes
through, and the messages that the server and its workers exchange.
-/

namespace Cbs

/-- A build identifier, the `AUTOINCREMENT` key of the `builds` table. -/
abbrev BuildId : Type := Int

/-- The UUID that the server assigns to a WebSocket connection. -/
abbrev ConnectionId : Type := String

abbrev WorkerId : Type := String

/-- Build architecture. -/
inductive Arch where
  | x86_64
  | aarch64
  deriving DecidableEq

/-- Build priority, with strict precedence of high over normal over low. -/
inductive Priority where
  | high
  | normal
  | low
  deriving DecidableEq

/-- The lifecycle state stored in `builds.state`. -/
inductive BuildState where
  | queued
  | dispatched
  | started
  | revoking
  | success
  | failure
  | revoked
  deriving DecidableEq

variable (state : BuildState)

/-- The states that a build does not leave again. -/
def BuildState.Terminal : Prop :=
  state = .success ∨ state = .failure ∨ state = .revoked

instance : Decidable state.Terminal :=
  inferInstanceAs (Decidable (_ ∨ _ ∨ _))

def BuildState.Assigned : Prop :=
  state = .dispatched ∨ state = .started ∨ state = .revoking

instance : Decidable state.Assigned :=
  inferInstanceAs (Decidable (_ ∨ _ ∨ _))

inductive VersionType where
  | release
  | dev
  | test
  | ci
  deriving DecidableEq

/-- The signed-off-by field of a descriptor. -/
structure BuildSignedOffBy where
  user : String
  email : String
  deriving DecidableEq

structure BuildDestImage where
  name : String
  tag : String
  deriving DecidableEq

structure BuildComponent where
  name : String
  gitRef : String
  repo : Option String
  deriving DecidableEq

structure BuildTarget where
  distro : String
  osVersion : String
  artifactType : String
  arch : Arch
  deriving DecidableEq

structure BuildDescriptor where
  version : String
  channel : Option String
  versionType : Option VersionType
  signedOffBy : BuildSignedOffBy
  dstImage : BuildDestImage
  components : List BuildComponent
  build : BuildTarget
  deriving DecidableEq

/-- A lifecycle action of a worker that the server may refuse. -/
inductive WorkerBuildAction where
  | workerStatus
  | buildAccepted
  | buildStarted
  | buildOutput
  | buildFinished
  | buildRejected
  deriving DecidableEq

inductive UnauthorizedBuildReason where
  | notAssigned
  deriving DecidableEq

inductive BuildRevokeReason where
  | admin
  | migrationSupersede
  | unauthorizedAction
  deriving DecidableEq

inductive ServerMessage where
  /-- Dispatch a build; a binary frame with the component tarball follows. -/
  | buildNew (buildId : BuildId) (traceId : String) (priority : Priority)
      (descriptor : BuildDescriptor) (componentSha256 : String)
  | buildRevoke (buildId : BuildId) (reason : Option BuildRevokeReason)
  | unauthorizedBuildAction (buildId : BuildId) (action : WorkerBuildAction)
      (reason : UnauthorizedBuildReason)
  deriving DecidableEq

/-- A frame on a worker's outbound channel. -/
inductive Frame where
  | text (message : ServerMessage)
  | binary (bytes : List UInt8)
  deriving DecidableEq

inductive WorkerReportedState where
  | idle
  | building
  deriving DecidableEq

inductive BuildFinishedStatus where
  | success
  | failure
  | revoked
  deriving DecidableEq

def BuildFinishedStatus.toState : BuildFinishedStatus → BuildState
  | .success => .success
  | .failure => .failure
  | .revoked => .revoked

theorem BuildFinishedStatus.terminal_toState (status : BuildFinishedStatus) :
    status.toState.Terminal := by
  cases status <;> decide

inductive WorkerMessage where
  | hello
  | workerStatus (state : WorkerReportedState) (buildId : Option BuildId)
  | buildAccepted (buildId : BuildId)
  | buildRejected (buildId : BuildId) (reason : String)
  | buildStarted (buildId : BuildId)
  | buildOutput (buildId : BuildId) (startSeq : Nat) (lines : List String)
  | buildFinished (buildId : BuildId) (status : BuildFinishedStatus) (error : Option String)
      (buildReport : Option String)
  | workerStopping (reason : String)
  | metrics
  deriving DecidableEq

end Cbs

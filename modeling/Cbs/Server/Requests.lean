import Cbs.Server.Auth
import Cbs.Server.Lifecycle

/-!
# Submission and revocation requests

The parts of the build routes that change the builds table and the queue.
-/

namespace Cbs

open Concurrency

/-- A build that passed admission. -/
structure Submission where
  descriptor : BuildDescriptor
  userEmail : String
  priority : Priority
  periodicTaskId : Option String
  channelId : Option Int
  channelTypeId : Option Int
  deriving DecidableEq

/-- Insert the row of a submission under a fresh key. -/
def insertSubmission (env : Env) (submission : Submission) (state : AppState) :
    AppState × BuildId :=
  ({ state with
      builds := state.builds.insertBuild env.now submission.descriptor submission.userEmail
        submission.priority submission.periodicTaskId submission.channelId
        submission.channelTypeId },
    state.builds.nextId)

/-- Insert a build into the database and put it at the back of its lane. -/
def insertBuildInternal (env : Env) (submission : Submission) : Handler (BuildId × Nat) := do
  let buildId ← .stepAt (fun state => some state.builds.nextId) (insertSubmission env submission)
  Handler.executeLogs (·.insertBuildLogRow env.now buildId)
  let pending ← Handler.lockFor buildId fun queue =>
    let queue := queue.enqueue
      { buildId := buildId
        priority := submission.priority
        descriptor := submission.descriptor
        userEmail := submission.userEmail
        queuedAt := env.now }
    (queue, queue.pendingCount)
  pure (buildId, pending)

def revokeQueued (buildId : BuildId) : Handler Unit := do
  Handler.lockFor buildId fun queue => (queue.removeById buildId, ())
  Handler.execute buildId (·.updateBuildState buildId .revoked none)

/-- Revoke a build whose row says that a worker has it. -/
def revokeAssigned (buildId : BuildId) : Handler (Except AuthError String) := do
  let sent ← sendBuildRevoke buildId
  match sent with
  | .error _ => pure (.error ⟨.internalServerError, "failed to send revoke"⟩)
  | .ok () => pure (.ok ("build " ++ toString buildId ++ " revoke sent — now revoking"))

/-- The revocation request: what it does depends on the state that the row is found in. -/
def revokeBuild (user : AuthUser) (buildId : BuildId) : Handler (Except AuthError String) :=
  if !user.hasCap "builds:revoke:any" && !user.hasCap "builds:revoke:own" then
    pure (.error ⟨.forbidden,
      "missing required capability: builds:revoke:own or builds:revoke:any"⟩)
  else do
    let row ← Handler.getBuild buildId
    match row with
    | none => pure (.error ⟨.notFound, "build not found"⟩)
    | some row =>
      if !user.hasCap "builds:revoke:any" && row.userEmail ≠ user.email then
        pure (.error ⟨.notFound, "build not found"⟩)
      else
        match row.state with
        | .queued => do
          revokeQueued buildId
          pure (.ok ("build " ++ toString buildId ++ " revoked"))
        | .dispatched | .started => revokeAssigned buildId
        | .revoking => pure (.ok ("build " ++ toString buildId ++ " already revoking"))
        | .success =>
          pure (.error ⟨.conflict, "build already in terminal state: success"⟩)
        | .failure =>
          pure (.error ⟨.conflict, "build already in terminal state: failure"⟩)
        | .revoked =>
          pure (.error ⟨.conflict, "build already in terminal state: revoked"⟩)

end Cbs

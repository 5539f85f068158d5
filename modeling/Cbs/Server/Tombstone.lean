import Cbs.Server.Holders
import Cbs.Server.Statements

/-!
# Tombstoned robots

A tombstoned robot is inactive and has no usable token.  Issuing a token needs an active robot, and
activating a robot a usable token.
-/

namespace Cbs

open Concurrency Checks Database

variable (env : AdminEnv)

theorem CommitsThen.users {accounts changed : Accounts} {proceeds fails : Prop}
    {result : Accounts × Except AuthError AdminResponse}
    (outcome : CommitsThen accounts proceeds changed fails result)
    (same : proceeds → changed.users = accounts.users) : result.1.users = accounts.users := by
  rcases outcome with ⟨-, _, rfl⟩ | ⟨proceeds, _, rfl, -⟩
  · rfl
  · exact same proceeds

theorem users_handle (user : AuthUser) {request : AdminRequest}
    (onRoles : request.OnRoles) (accounts : Accounts) :
    (request.handle env user accounts).1.users = accounts.users := by
  cases request with
  | createRole body =>
    obtain ⟨changed, added, outcome⟩ := createRole_outcome env user accounts body
    exact outcome.users fun proceeds => (added proceeds).users
  | updateRole name body =>
    rcases updateRole_outcome user accounts name body with same | ⟨-, replaced, -⟩
    · exact same.users
    · exact replaced.users
  | deleteRole name => exact (deleteRole_outcome user accounts name).users fun _ => rfl
  | replaceEntityRoles address roles =>
    obtain ⟨replaced, committed, outcome⟩ :=
      replaceEntityRoles_outcome env user accounts address roles
    refine outcome.users fun proceeds => ?_
    obtain ⟨-, _, rfl⟩ := Accounts.setUserRoles_eq_some.mp (committed proceeds)
    rfl
  | addEntityRole address role =>
    rcases addEntityRole_outcome env user accounts address role with same | ⟨-, added⟩
    · exact congrArg Accounts.users same
    · exact (addUserRole_eq_some added).2.1
  | removeEntityRole address role =>
    exact (removeEntityRole_outcome env user accounts address role).users fun _ => rfl
  | deactivateEntity address | activateEntity address => exact onRoles.elim

namespace Database

section Statements

variable {before middle after : Database} {email other : String}

/-- The robot is there, inactive and without a usable token. -/
structure Tombstoned (db : Database) (email : String) : Prop where
  inactive : ∃ row, db.accounts.getUser email = some row ∧ row.isRobot = true ∧ row.active = false
  lockedOut : db.LockedOut email

theorem Tombstoned.transfer (tombstoned : before.Tombstoned email)
    (same : before.SameRobots after) : after.Tombstoned email where
  inactive := by
    rw [Accounts.getUser, same.users]
    exact tombstoned.inactive
  lockedOut := by
    rw [LockedOut, same.robotTokens]
    exact tombstoned.lockedOut

theorem inactive_modify {users : Dictionary String UserRow} {change : UserRow → UserRow}
    (inactive : ∃ row, users.lookup email = some row ∧ row.isRobot = true ∧ row.active = false)
    (keeps : ∀ row, (change row).isRobot = row.isRobot ∧
      (other = email → row.active = false → (change row).active = false)) :
    ∃ row, (users.modify other change).lookup email = some row ∧ row.isRobot = true ∧
      row.active = false := by
  obtain ⟨row, stored, isRobot, off⟩ := inactive
  rw [Dictionary.lookup_modify]
  split_ifs with same
  · refine ⟨change row, by rw [stored, Option.map_some], ?_, ?_⟩
    · rw [(keeps row).1, isRobot]
    · exact (keeps row).2 (by simp [same]) off
  · exact ⟨row, stored, isRobot, off⟩

theorem lockedOut_revokeAllActiveTokens_other (lockedOut : before.LockedOut email) :
    (before.revokeAllActiveTokens other).1.LockedOut email := by
  intro id row stored owned
  obtain ⟨old, storedOld, rfl⟩ := Dictionary.lookup_mapEntries.mp stored
  split_ifs at owned ⊢
  · rfl
  · exact lockedOut id old storedOld owned

/-- What concerns another robot does not let this one in. -/
theorem Tombstoned.apart (tombstoned : before.Tombstoned email)
    (concerns : Concerns other before after) (different : other ≠ email) :
    after.Tombstoned email where
  inactive := by
    rw [concerns.users email different.symm]
    exact tombstoned.inactive
  lockedOut := by
    intro id row stored owned
    refine tombstoned.lockedOut id row (concerns.others id row stored ?_) owned
    rw [owned]
    exact different.symm

/-- No statement lets a tombstoned robot in. -/
theorem tombstoned_statement (statement : Statement before after)
    (tombstoned : before.Tombstoned email) : after.Tombstoned email := by
  cases statement with
  | insertApiKey own inserted =>
    have spec := keyInserted_of_insertApiKey inserted
    exact tombstoned.transfer ⟨spec.users, spec.robotTokens⟩
  | revokeApiKeys check => exact tombstoned.transfer ⟨rfl, rfl⟩
  | registerWorker registered => exact tombstoned.transfer (registerWorker_eq_ok registered).2.1
  | deregisterWorker id worker => exact tombstoned.transfer ⟨rfl, rfl⟩
  | regenerateToken replaced =>
    obtain ⟨_, _, _, -, -, -, same, ⟨rfl, -⟩, -⟩ := regenerateToken_eq_ok replaced
    exact tombstoned.transfer ⟨same.users, same.robotTokens⟩
  | tombstoneRobot now other =>
    exact ⟨inactive_modify tombstoned.inactive fun row => ⟨rfl, fun _ _ => rfl⟩,
      lockedOut_revokeAllActiveTokens_other tombstoned.lockedOut⟩
  | rotateToken rotated =>
    obtain ⟨⟨row, stored, active⟩, concerns, -⟩ := rotateToken_eq_ok rotated
    refine tombstoned.apart concerns ?_
    rintro rfl
    obtain ⟨robot, storedToo, -, off⟩ := tombstoned.inactive
    obtain rfl := Option.some.inj (stored.symm.trans storedToo)
    rw [active] at off
    cases off
  | revokeAllActiveTokens other =>
    exact ⟨tombstoned.inactive, lockedOut_revokeAllActiveTokens_other tombstoned.lockedOut⟩
  | setDescription now other description =>
    unfold setDescription
    split
    · exact tombstoned
    · split_ifs
      · exact tombstoned
      · exact ⟨inactive_modify tombstoned.inactive fun row => ⟨rfl, fun _ off => off⟩,
          tombstoned.lockedOut⟩
  | deactivateUser now other =>
    unfold deactivateUser
    dsimp only
    split_ifs
    · exact tombstoned
    · exact ⟨inactive_modify tombstoned.inactive fun row => ⟨rfl, fun _ _ => rfl⟩,
        tombstoned.lockedOut⟩
  | revokeSessionTokens other => exact tombstoned.transfer ⟨rfl, rfl⟩
  | roles env user onRoles =>
    exact tombstoned.transfer ⟨users_handle env user onRoles _, rfl⟩

end Statements

end Database

/-- The robot stays tombstoned. -/
abbrev tombstoneRely (email : String) : Rely AuthState AuthStep :=
  invariantRely fun state => state.db.Tombstoned email

variable {email : String}

theorem Database.LockedOut.hasNonRevokedToken {db : Database}
    (lockedOut : db.LockedOut email) : db.hasNonRevokedToken email = false := by
  rw [Bool.eq_false_iff]
  intro has
  obtain ⟨id, row, stored, checked⟩ := GeneratedTable.any_iff.mp has
  simp only [Bool.and_eq_true, decide_eq_true_eq, Bool.not_eq_true'] at checked
  rw [lockedOut id row stored checked.1] at checked
  cases checked.2

theorem admits_tombstoneRely (email : String) : Admits (tombstoneRely email) (· ≠ email) := by
  apply admits_invariantRely
  · exact fun _ _ tombstoned _ => tombstoned
  · exact fun _ _ tombstoned statement => tombstoned_statement statement tombstoned
  · intro found tokens state now other target wasFound hadTokens tombstoned isFound needs
    have different : other ≠ email := by
      rintro rfl
      obtain ⟨row, stored, isRobot, -⟩ := wasFound.inactive
      obtain rfl := Option.some.inj (stored.symm.trans isFound)
      have has := needs isRobot
      rw [hadTokens.lockedOut.hasNonRevokedToken] at has
      cases has
    refine ⟨inactive_modify tombstoned.inactive fun row => ⟨rfl, fun same => ?_⟩,
      tombstoned.lockedOut⟩
    exact absurd same different
  · exact fun _ _ _ _ _ _ _ _ _ tombstoned different done =>
      tombstoned.apart (createOrRevive_eq_ok done).1 different

/-- The state after a call that runs alone. -/
def AuthCall.complete (call : AuthCall) (state : AuthState) : AuthState :=
  (call.task.run state).1

def completeAll (calls : List AuthCall) (state : AuthState) : AuthState :=
  calls.foldl (fun state call => call.complete state) state

variable {state : AuthState}

theorem tombstoned_complete {call : AuthCall}
    (spares : ¬ call.Revives email) (tombstoned : state.db.Tombstoned email) :
    (call.complete state).db.Tombstoned email := by
  have proper := proper_call (admits_tombstoneRely email) call
    fun other revives same => spares (same ▸ revives)
  exact (proper.run (fun _ _ => trivial) tombstoned trivial).1

theorem tombstoned_completeAll {calls : List AuthCall}
    (spare : ∀ call ∈ calls, ¬ call.Revives email) (tombstoned : state.db.Tombstoned email) :
    (completeAll calls state).db.Tombstoned email := by
  induction calls generalizing state with
  | nil => exact tombstoned
  | cons call calls ih =>
    refine ih (fun other inside => spare other (by simp [inside])) ?_
    exact tombstoned_complete (spare call (by simp)) tombstoned

theorem tombstoned_tombstoneRobot {env : CredentialEnv} {user : AuthUser} {name : String}
    {response : CredentialResponse}
    (succeeded : ((tombstoneRobot env user name).run state).2.response = .ok response) :
    ((tombstoneRobot env user name).run state).1.db.Tombstoned (env.nameToSyntheticEmail name) := by
  unfold tombstoneRobot at succeeded ⊢
  cases capable : requireCap user "robots:manage" with
  | error reason => simp [capable, Reply.plain] at succeeded
  | ok _ =>
    simp only [capable, AuthTask.orRefuse_ok, Routine.bind_eq, Routine.run_bind,
      AuthTask.run_query] at succeeded ⊢
    cases found : state.db.getRobot (env.nameToSyntheticEmail name) with
    | none => simp [found, orError, Reply.plain] at succeeded
    | some robot =>
      obtain ⟨stored, isFound, -⟩ := Option.map_eq_some_iff.mp found
      obtain ⟨isUser, isRobot⟩ := Option.filter_eq_some_iff.mp isFound
      refine ⟨⟨{ stored with active := false, updatedAt := env.now }, ?_, isRobot, rfl⟩, ?_⟩
      · have modified : (state.db.accounts.setActive env.now (env.nameToSyntheticEmail name)
            false).getUser (env.nameToSyntheticEmail name) =
            some { stored with active := false, updatedAt := env.now } := by
          rw [Accounts.getUser, Accounts.setActive, Dictionary.lookup_modify, if_pos rfl]
          exact congrArg (Option.map _) isUser
        exact modified
      · exact lockedOut_revokeAllActiveTokens _

variable {caller : AuthUser}

/-- The account of a token that was verified is not the tombstoned robot. -/
theorem email_of_loadVerified {what : String} {result : Except TokenError CachedToken}
    (tombstoned : state.db.Tombstoned email)
    (loaded : ((loadVerified what result).run state).2 = .ok caller) : caller.email ≠ email := by
  cases result with
  | error reason => cases loaded
  | ok cached =>
    obtain ⟨row, stored, active, rfl⟩ := Accounts.loadAuthedUser_eq_ok.mp loaded
    rintro rfl
    obtain ⟨other, storedOther, -, off⟩ := tombstoned.inactive
    obtain rfl := Option.some.inj (stored.symm.trans storedOther)
    rw [active] at off
    cases off

/-- No API key or robot token authenticates a tombstoned robot. -/
theorem email_of_fromBearer {raw : String} {env : VerifyEnv}
    (tombstoned : state.db.Tombstoned email) (isToken : Text.startsWith raw "cbrk_" = true)
    (authenticated : ((fromBearer env raw).run state).2 = .ok caller) : caller.email ≠ email := by
  have kept (kind : TokenKind) :
      ((verifyHashedToken env kind raw).run state).1.db.Tombstoned email :=
    ((proper_verifyHashedToken (admits_tombstoneRely email) env kind raw).run
      (fun _ _ => trivial) tombstoned trivial).1
  unfold fromBearer at authenticated
  split_ifs at authenticated
  · rw [Routine.bind_eq, Routine.run_bind] at authenticated
    exact email_of_loadVerified (kept .apiKey) authenticated
  · rw [Routine.bind_eq, Routine.run_bind] at authenticated
    exact email_of_loadVerified (kept .robotToken) authenticated

def Database.AtMostOneToken (db : Database) (email : String) : Prop :=
  ∀ first second row other, db.robotTokens.get first = some row →
    db.robotTokens.get second = some other → row.robotEmail = email → other.robotEmail = email →
    row.revoked = false → other.revoked = false → first = second

/-- In every state a robot has at most one usable token; after a successful tombstone and any calls
that do not revive the robot, it is inactive, has no usable token and cannot authenticate with
one. -/
theorem tombstoned_robot_stays_locked_out :
    (∀ (db : Database) (email : String), db.AtMostOneToken email) ∧
      ∀ (env : CredentialEnv) (user : AuthUser) (name : String) (state : AuthState)
        (response : CredentialResponse) (calls : List AuthCall) (after : AuthState),
        ((tombstoneRobot env user name).run state).2.response = .ok response →
        (∀ call ∈ calls, ¬ call.Revives (env.nameToSyntheticEmail name)) →
        after = completeAll calls ((tombstoneRobot env user name).run state).1 →
        (∃ row, after.db.accounts.getUser (env.nameToSyntheticEmail name) = some row ∧
          row.isRobot = true ∧ row.active = false) ∧
        after.db.hasNonRevokedToken (env.nameToSyntheticEmail name) = false ∧
        ∀ (verifier : VerifyEnv) (raw : String) (caller : AuthUser),
          Text.startsWith raw "cbrk_" = true →
          ((fromBearer verifier raw).run after).2 = .ok caller →
          caller.email ≠ env.nameToSyntheticEmail name := by
  constructor
  · intro db email first second row other stored storedToo owned ownedToo live liveToo
    exact db.robotTokens.distinct first second row other stored storedToo
      (Or.inr ⟨owned.trans ownedToo.symm, live, liveToo⟩)
  · rintro env user name state response calls after succeeded spare rfl
    have tombstoned := tombstoned_completeAll spare (tombstoned_tombstoneRobot succeeded)
    refine ⟨tombstoned.inactive, tombstoned.lockedOut.hasNonRevokedToken, ?_⟩
    exact fun verifier raw caller => email_of_fromBearer tombstoned

def robotTokenOf (digit : Char) : KeyMaterial where
  plaintext := "cbrk_" ++ String.ofList (List.replicate 64 digit)
  keyPrefix := String.ofList (List.replicate 12 digit)
  hash := "cbrk_" ++ String.ofList (List.replicate 64 digit)

def ciServer : AuthState :=
  (AuthCall.handle .plain alice (.createOrReviveRobot ⟨"ci", none, .null, []⟩
    (robotTokenOf '1'))).complete ⟨.new singleAdmin, .new 16 (by decide)⟩

def ciAttempts : List AuthCall :=
  [.handle .plain alice (.createOrRotateToken "ci" .null true (robotTokenOf '2')),
    .handle .plain alice (.admin (.activateEntity "robot+ci@robots")),
    .verify .plain .robotToken (robotTokenOf '1').plaintext]

/-- Neither a new token nor an activation lets the tombstoned robot in. -/
theorem ci_stays_locked_out :
    ciServer.db.hasNonRevokedToken "robot+ci@robots" = true ∧
      (completeAll ciAttempts
        ((tombstoneRobot .plain alice "ci").run ciServer).1).db.hasNonRevokedToken
        "robot+ci@robots" = false :=
  ⟨by decide, (tombstoned_robot_stays_locked_out.2 .plain alice "ci" ciServer
    (.tokensRevoked "robot 'ci' tombstoned" 1) ciAttempts _ (by decide)
    (by
      rintro call inside ⟨env, user, body, material, rfl, -⟩
      simp [ciAttempts] at inside) rfl).2.1⟩

end Cbs

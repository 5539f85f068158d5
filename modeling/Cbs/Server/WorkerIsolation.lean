import Cbs.Server.Tombstone
import Cbs.Server.WorkerKeys

/-!
# What the key of a worker is good for

The keys of workers are rows of `api_keys` like personal keys.  A request that presents one has the
rights of its owner, the administrator who asked for it last, and the owner can revoke it like a
personal key.
-/

namespace Cbs

open Concurrency Checks

/-- What the handlers decide by: the caller, and the roles of the caller with their scopes. -/
structure Rights where
  user : AuthUser
  assignments : List AssignmentWithScopes
  deriving DecidableEq

def Accounts.rights (accounts : Accounts) (email : String) : Except AuthError Rights :=
  (accounts.loadAuthedUser email).map fun user =>
    ⟨user, accounts.getUserAssignmentsWithScopes email⟩

/-- The rights of a request that presents a bearer string. -/
def bearerRights (env : VerifyEnv) (raw : String) : AuthTask (Except AuthError Rights) := do
  let caller ← fromBearer env raw
  AuthTask.query fun db => caller.map fun user =>
    ⟨user, db.accounts.getUserAssignmentsWithScopes user.email⟩

def AuthState.Accepts (state : AuthState) (env : VerifyEnv) (raw : String) (keyId : Int) : Prop :=
  ∃ token, ((verifyApiKey env raw).run state).2 = .ok token ∧ token.ref = ⟨.apiKey, keyId⟩

structure Accounts.DifferInRoles (email : String) (first second : Accounts) : Prop where
  users : second.users = first.users
  roles : second.roles = first.roles
  roleCaps : second.roleCaps = first.roleCaps
  roleScopes : second.roleScopes = first.roleScopes
  userRoles : ∀ other, other ≠ email → second.rolesOf other = first.rolesOf other
  tokens : second.tokens = first.tokens

def Accounts.CanLogIn (accounts : Accounts) (email : String) : Prop :=
  ∃ row, accounts.getUser email = some row ∧ row.active = true

namespace Accounts

variable {first second : Accounts} {registrar email : String}

theorem rights_of_getUser {row : UserRow} (isRow : first.getUser email = some row)
    (active : row.active = true) :
    first.rights email =
      .ok ⟨⟨email, row.name, first.retainedCaps email row.isRobot, row.isRobot⟩,
        first.getUserAssignmentsWithScopes email⟩ :=
  map_eq_ok.mpr ⟨_, loadAuthedUser_eq_ok.mpr ⟨row, isRow, active, rfl⟩, rfl⟩

theorem rights_of_canLogIn (canLogIn : first.CanLogIn email) :
    ∃ user, first.rights email = .ok ⟨user, first.getUserAssignmentsWithScopes email⟩ := by
  obtain ⟨row, isRow, active⟩ := canLogIn
  exact ⟨_, rights_of_getUser isRow active⟩

theorem rights_of_not_canLogIn (locked : ¬ first.CanLogIn email) :
    first.rights email = .error ⟨.unauthorized,
      if (first.getUser email).isSome then "user account deactivated" else "user not found"⟩ := by
  unfold Accounts.rights loadAuthedUser
  cases found : first.getUser email with
  | none => rfl
  | some row =>
    have inactive : row.active = false :=
      Bool.eq_false_iff.mpr fun active => locked ⟨row, found, active⟩
    simp [orError, require, inactive, bind, Except.bind, Except.map]

theorem DifferInRoles.rights_eq (differ : first.DifferInRoles registrar second)
    (sameRoles : second.rolesOf email = first.rolesOf email) :
    second.rights email = first.rights email := by
  have capsOf : second.capsOf = first.capsOf := by
    funext role
    simp only [Accounts.capsOf, differ.roleCaps]
  have scopesOf : second.scopesOf = first.scopesOf := by
    funext role
    simp only [Accounts.scopesOf, differ.roleScopes]
  simp only [Accounts.rights, Accounts.loadAuthedUser, getUser, retainedCaps, getEffectiveCaps,
    effectiveCaps, getUserAssignmentsWithScopes, getUserRoles, getRoleCaps, getRoleScopes,
    differ.users, sameRoles, capsOf, scopesOf]

theorem rolesOf_eq_of_assignments
    (same : second.getUserAssignmentsWithScopes email = first.getUserAssignmentsWithScopes email) :
    second.rolesOf email = first.rolesOf email := by
  have names := congrArg (List.map AssignmentWithScopes.roleName) same
  simp only [getUserAssignmentsWithScopes, List.map_map] at names
  have sorted : second.getUserRoles email = first.getUserRoles email := by
    simpa [Function.comp_def] using names
  ext role
  rw [← Finset.mem_sort (· ≤ ·), ← Finset.mem_sort (· ≤ ·)]
  exact iff_of_eq (congrArg (role ∈ ·) sorted)

/-- Whether the rights of an account depend on the roles of the administrator. -/
theorem DifferInRoles.rights_eq_iff (differ : first.DifferInRoles registrar second) :
    second.rights email = first.rights email ↔
      email ≠ registrar ∨ ¬ first.CanLogIn email ∨
        second.rolesOf registrar = first.rolesOf registrar := by
  by_cases own : email = registrar
  swap
  · exact iff_of_true (differ.rights_eq (differ.userRoles email own)) (Or.inl own)
  subst own
  constructor
  · intro same
    by_cases canLogIn : first.CanLogIn email
    · have canLogInToo : second.CanLogIn email := by
        obtain ⟨row, isRow, active⟩ := canLogIn
        exact ⟨row, by rwa [getUser, differ.users], active⟩
      obtain ⟨user, isUser⟩ := rights_of_canLogIn canLogIn
      obtain ⟨other, isOther⟩ := rights_of_canLogIn canLogInToo
      rw [isUser, isOther] at same
      have sameAssignments := congrArg Rights.assignments (Except.ok.inj same)
      exact Or.inr (Or.inr (rolesOf_eq_of_assignments sameAssignments))
    · exact Or.inr (Or.inl canLogIn)
  · rintro (different | locked | sameRoles)
    · exact absurd rfl different
    · have lockedToo : ¬ second.CanLogIn email := by
        rwa [CanLogIn, getUser, differ.users]
      rw [rights_of_not_canLogIn locked, rights_of_not_canLogIn lockedToo, getUser, differ.users,
        getUser]
    · exact differ.rights_eq sameRoles

end Accounts

section Verification

variable {env : VerifyEnv} {kind : TokenKind} {raw : String} {state other : AuthState}

def AuthState.candidate (state : AuthState) (env : VerifyEnv) (kind : TokenKind) (raw : String) :
    Option CandidateRow :=
  (state.db.fetchCandidates env.rowRank (String.ofList ((raw.toList.drop 5).take 12)) kind).find?
    fun candidate => env.argon2Verify raw candidate.hash

theorem run_verifyUncached :
    (verifyUncached env kind raw).run state =
      match state.candidate env kind raw with
      | none => (state, .error .notFound)
      | some candidate =>
        if isExpired env.now (candidate.toCached kind).expiresAt then (state, .error .expired)
        else ({ state with cache := state.cache.insert (env.sha256 raw) (candidate.toCached kind) },
          .ok (candidate.toCached kind)) := by
  unfold verifyUncached
  rw [Routine.bind_eq, Routine.run_bind, AuthTask.run_query]
  dsimp only [AuthState.candidate]
  generalize List.find? _ _ = found
  cases found with
  | none => rfl
  | some candidate =>
    dsimp only
    by_cases expired : isExpired env.now (candidate.toCached kind).expiresAt = true
    · rw [if_pos expired, if_pos expired]
      rfl
    · rw [if_neg expired, if_neg expired]
      rfl

theorem run_verifyHashedToken (wellFormed :
    ¬ (Text.byteLength raw ≠ 69 ∨ Text.startsWith raw kind.literal = false)) :
    (verifyHashedToken env kind raw).run state =
      match state.cache.peek (env.sha256 raw) with
      | some cached =>
        ({ state with cache := (state.cache.get (env.sha256 raw)).1 },
          if isExpired env.now cached.expiresAt then .error .expired else .ok cached)
      | none =>
        (verifyUncached env kind raw).run
          { state with cache := (state.cache.get (env.sha256 raw)).1 } := by
  rw [verifyHashedToken, if_neg wellFormed, Routine.bind_eq, Routine.run_bind,
    AuthTask.run_withCache, TokenCache.get_snd]
  cases state.cache.peek (env.sha256 raw) with
  | none | some cached => rfl

theorem db_run_verifyUncached : ((verifyUncached env kind raw).run state).1.db = state.db := by
  rw [run_verifyUncached]
  split
  · rfl
  · split_ifs <;> rfl

theorem db_run_verifyHashedToken :
    ((verifyHashedToken env kind raw).run state).1.db = state.db := by
  by_cases malformed : Text.byteLength raw ≠ 69 ∨ Text.startsWith raw kind.literal = false
  · rw [verifyHashedToken, if_pos malformed]
    rfl
  · rw [run_verifyHashedToken malformed]
    split
    · rfl
    · exact db_run_verifyUncached

/-- The result of a verification depends on the credential tables and on the cache only. -/
theorem verified_congr (sameCache : other.cache = state.cache)
    (sameKeys : other.db.apiKeys = state.db.apiKeys)
    (sameTokens : other.db.robotTokens = state.db.robotTokens) :
    ((verifyHashedToken env kind raw).run other).2 =
      ((verifyHashedToken env kind raw).run state).2 := by
  have sameCandidate (first second : TokenCache) :
      AuthState.candidate ⟨other.db, first⟩ env kind raw =
        AuthState.candidate ⟨state.db, second⟩ env kind raw := by
    cases kind with
    | apiKey => simp only [AuthState.candidate, Database.fetchCandidates,
        Database.findApiKeysByPrefix, sameKeys]
    | robotToken => simp only [AuthState.candidate, Database.fetchCandidates,
        Database.findActiveTokenByPrefix, sameTokens]
  by_cases malformed : Text.byteLength raw ≠ 69 ∨ Text.startsWith raw kind.literal = false
  · rw [verifyHashedToken, if_pos malformed]
    rfl
  · rw [run_verifyHashedToken malformed, run_verifyHashedToken malformed, sameCache]
    cases state.cache.peek (env.sha256 raw) with
    | some cached => rfl
    | none =>
      dsimp only
      rw [run_verifyUncached, run_verifyUncached, sameCandidate _ (state.cache.get _).1]
      cases AuthState.candidate _ env kind raw with
      | none => rfl
      | some candidate =>
        dsimp only
        split_ifs <;> rfl

/-- A token that was accepted describes the row that it belongs to. -/
theorem describes_of_verified {token : CachedToken} (consistent : state.Consistent)
    (verified : ((verifyHashedToken env kind raw).run state).2 = .ok token) :
    state.db.Describes token := by
  by_cases malformed : Text.byteLength raw ≠ 69 ∨ Text.startsWith raw kind.literal = false
  · rw [verifyHashedToken, if_pos malformed] at verified
    cases verified
  · rw [run_verifyHashedToken malformed] at verified
    split at verified
    · rename_i cached hit
      dsimp only at verified
      split_ifs at verified
      obtain rfl := Except.ok.inj verified
      exact consistent (env.sha256 raw) cached hit
    · rw [run_verifyUncached] at verified
      split at verified
      · cases verified
      · rename_i candidate found
        split_ifs at verified
        obtain rfl := Except.ok.inj verified
        obtain ⟨info, stored, -, agrees⟩ :=
          token_of_mem_fetchCandidates (List.mem_of_find?_eq_some found)
        exact Database.describes_of_token stored agrees

theorem startsWith_of_verified {token : CachedToken}
    (verified : ((verifyHashedToken env kind raw).run state).2 = .ok token) :
    Text.startsWith raw kind.literal = true := by
  rw [← Bool.not_eq_false]
  intro malformed
  rw [verifyHashedToken, if_pos (Or.inr malformed)] at verified
  cases verified

theorem map_loadAuthedUser (accounts : Accounts) (email : String) :
    ((accounts.loadAuthedUser email).map fun user =>
      (⟨user, accounts.getUserAssignmentsWithScopes user.email⟩ : Rights)) =
      accounts.rights email := by
  unfold Accounts.rights
  cases loaded : accounts.loadAuthedUser email with
  | error reason => rfl
  | ok user =>
    obtain ⟨row, -, -, rfl⟩ := Accounts.loadAuthedUser_eq_ok.mp loaded
    rfl

variable {keyId : Int}

/-- A request that presents an API key has the rights of its owner. -/
theorem bearerRights_of_accepts {key : ApiKeyRow} (consistent : state.Consistent)
    (isKey : state.db.apiKeys.get keyId = some key) (accepts : state.Accepts env raw keyId) :
    ((bearerRights env raw).run state).2 = state.db.accounts.rights key.ownerEmail := by
  obtain ⟨token, verified, isRef⟩ := accepts
  have stored : state.db.token token.ref = some key.info := by
    rw [isRef]
    exact Option.map_eq_some_iff.mpr ⟨key, isKey, rfl⟩
  have owner : key.ownerEmail = token.ownerEmail :=
    ((describes_of_verified consistent verified).2 key.info stored).1
  have isApiKey : Text.startsWith raw "cbsk_" = true := startsWith_of_verified verified
  have unchanged : ((verifyApiKey env raw).run state).1.db = state.db := db_run_verifyHashedToken
  unfold bearerRights fromBearer
  rw [if_pos isApiKey]
  simp only [Routine.bind_eq, Routine.run_bind, AuthTask.run_query]
  rw [verified, owner, ← map_loadAuthedUser]
  simp only [loadVerified, AuthTask.run_query, unchanged]

theorem accepts_withAccounts (accepts : state.Accepts env raw keyId) (accounts : Accounts) :
    AuthState.Accepts { state with db := state.db.withAccounts accounts } env raw keyId := by
  obtain ⟨token, verified, isRef⟩ := accepts
  have same : ((verifyApiKey env raw).run { state with db := state.db.withAccounts accounts }).2 =
      ((verifyApiKey env raw).run state).2 := verified_congr rfl rfl rfl
  exact ⟨token, same.trans verified, isRef⟩

end Verification

namespace Database

variable {before after : Database}

def WorkerNamed (db : Database) (keyId : Int) : Prop :=
  ∃ key, db.apiKeys.get keyId = some key ∧ Text.startsWith key.name "worker:" = true

def BoundNamed (db : Database) : Prop :=
  ∀ id worker, db.workers.rows.lookup id = some worker → db.WorkerNamed worker.apiKeyId

theorem Concerns.boundNamed {email : String} (concerns : Concerns email before after)
    (named : before.BoundNamed) : after.BoundNamed := by
  rw [BoundNamed, concerns.workers]
  intro id worker isWorker
  rw [WorkerNamed, concerns.apiKeys]
  exact named id worker isWorker

theorem startsWith_worker (name : String) :
    Text.startsWith ("worker:" ++ name) "worker:" = true := by
  rw [Text.startsWith, String.toList_append, List.isPrefixOf_iff_prefix]
  exact List.prefix_append _ _

variable {key : ApiKeyRow} {keyId : Int}

theorem KeyInserted.workerNamed {other : Int}
    (inserted : KeyInserted before key after keyId) (named : before.WorkerNamed other) :
    after.WorkerNamed other := by
  obtain ⟨row, found, isNamed⟩ := named
  exact ⟨row, inserted.get_of_get found, isNamed⟩

theorem KeyInserted.workerNamed_new (inserted : KeyInserted before key after keyId)
    (isNamed : Text.startsWith key.name "worker:" = true) : after.WorkerNamed keyId := by
  refine ⟨key, ?_, isNamed⟩
  rw [inserted.get, if_pos inserted.id_eq]

theorem workerNamed_revokeApiKeys {check : Int → ApiKeyRow → Bool}
    (named : before.WorkerNamed keyId) : (before.revokeApiKeys check).1.WorkerNamed keyId := by
  obtain ⟨row, found, isNamed⟩ := named
  refine ⟨_, get_revokeApiKeys.mpr ⟨row, found, rfl⟩, ?_⟩
  split_ifs <;> exact isNamed

/-- No statement binds a worker to a personal key. -/
theorem boundNamed_statement (statement : Statement before after) (named : before.BoundNamed) :
    after.BoundNamed := by
  cases statement with
  | insertApiKey own inserted =>
    have spec := keyInserted_of_insertApiKey inserted
    rw [BoundNamed, spec.workers]
    exact fun id worker isWorker => spec.workerNamed (named id worker isWorker)
  | revokeApiKeys check =>
    exact fun id worker isWorker => workerNamed_revokeApiKeys (named id worker isWorker)
  | registerWorker registered =>
    obtain ⟨-, -, issued, keyId, spec, sameKeys, -, rows⟩ := registerWorker_eq_ok registered
    intro id worker isWorker
    rw [WorkerNamed, sameKeys]
    rw [rows] at isWorker
    split_ifs at isWorker
    · obtain rfl := Option.some.inj isWorker
      exact spec.workerNamed_new (startsWith_worker _)
    · exact spec.workerNamed (named id worker isWorker)
  | deregisterWorker gone row =>
    intro id worker isWorker
    rw [lookup_deregisterWorker] at isWorker
    split_ifs at isWorker
    exact workerNamed_revokeApiKeys (named id worker isWorker)
  | regenerateToken replaced =>
    obtain ⟨issued, bound, keyId, spec, sameKeys, -, -, ⟨rfl, -⟩, rows⟩ :=
      regenerateToken_eq_ok replaced
    have kept {other : Int} (isNamed : issued.WorkerNamed other) : bound.WorkerNamed other := by
      rwa [WorkerNamed, sameKeys]
    intro id worker isWorker
    rw [rows] at isWorker
    split_ifs at isWorker
    · obtain ⟨old, -, rfl⟩ := Option.map_eq_some_iff.mp isWorker
      exact workerNamed_revokeApiKeys (kept (spec.workerNamed_new (startsWith_worker _)))
    · exact workerNamed_revokeApiKeys (kept (spec.workerNamed (named id worker isWorker)))
  | tombstoneRobot now email => exact named
  | rotateToken rotated => exact (rotateToken_eq_ok rotated).2.1.boundNamed named
  | revokeAllActiveTokens email => exact named
  | setDescription now email description =>
    unfold setDescription
    split
    · exact named
    · split_ifs <;> exact named
  | deactivateUser now email =>
    unfold deactivateUser
    dsimp only
    split_ifs <;> exact named
  | revokeSessionTokens email | roles env user onRoles => exact named

end Database

/-- The databases that servers leave, one after the other, from one without credentials on. -/
inductive Database.Reachable : Database → Prop
  | new (accounts : Accounts) : Reachable (.new accounts)
  | serve {db : Database} (capacity : Nat) (positive : 0 < capacity) (events : List AuthEvent)
      (reachable : Reachable db) : Reachable (runServer db capacity positive events).state.db

def AuthState.Reachable (state : AuthState) : Prop :=
  ∃ (db : Database) (capacity : Nat) (positive : 0 < capacity) (events : List AuthEvent),
    db.Reachable ∧ state = (runServer db capacity positive events).state

/-- What is needed about reachable states. -/
def AuthState.WellNamed (state : AuthState) : Prop :=
  state.Consistent ∧ state.db.BoundNamed

theorem admits_wellNamed : Admits (invariantRely AuthState.WellNamed) fun _ => True := by
  apply admits_invariantRely
  · rintro state cache ⟨consistent, named⟩ described
    refine ⟨fun digest entry present => ?_, named⟩
    rcases described digest entry present with old | describes
    · exact consistent digest entry old
    · exact describes
  · rintro state db ⟨consistent, named⟩ statement
    exact ⟨fun digest entry present =>
        statement.evolves.describes (consistent digest entry present),
      Database.boundNamed_statement statement named⟩
  · rintro found tokens state now email target - - ⟨consistent, named⟩ - -
    exact ⟨fun digest entry present =>
      (Database.evolves_withAccounts _).describes (consistent digest entry present), named⟩
  · rintro state now email name description token roles after outcome ⟨consistent, named⟩ - done
    have concerns := (Database.createOrRevive_eq_ok done).1
    exact ⟨fun digest entry present =>
      concerns.evolves.describes (consistent digest entry present), concerns.boundNamed named⟩

variable {db : Database}

theorem wellNamed_runServer (capacity : Nat) (positive : 0 < capacity)
    (events : List AuthEvent) (named : db.BoundNamed) :
    (runServer db capacity positive events).state.WellNamed := by
  have start : (invariantRely AuthState.WellNamed).Outlined (fun _ _ _ => True)
      (startServer db capacity positive) := by
    refine ⟨⟨?_, named⟩, ?_⟩
    · exact fun digest entry present => by cases present
    · exact fun index thread found => by cases found
  refine (start.run (Rely.stable_true _) trivial
    (Pool.permittedRun_of_allows _ (fun _ _ => trivial) _) ?_).1.invariant
  intro index routine _ started
  obtain ⟨event, -, same⟩ := List.mem_map.mp started
  cases event with
  | arrive call =>
    obtain rfl := Event.spawn.inj same
    exact proper_call admits_wellNamed call fun _ _ => trivial
  | advance index => cases same

theorem Database.Reachable.boundNamed (reachable : db.Reachable) : db.BoundNamed := by
  induction reachable with
  | new accounts =>
    intro id worker isWorker
    cases isWorker
  | serve capacity positive events _ named =>
    exact (wellNamed_runServer capacity positive events named).2

variable {state : AuthState}

theorem AuthState.Reachable.wellNamed (reachable : state.Reachable) : state.WellNamed := by
  obtain ⟨db, capacity, positive, events, isReachable, rfl⟩ := reachable
  exact wellNamed_runServer capacity positive events isReachable.boundNamed

variable {caller : AuthUser}

theorem mem_listApiKeysHandler {env : CredentialEnv} {items : List ApiKeyItem}
    (listed : ((listApiKeysHandler env caller).run state).2.response = .ok (.apiKeys items))
    {item : ApiKeyItem} (inside : item ∈ items) : Text.startsWith item.name "worker:" = false := by
  unfold listApiKeysHandler at listed
  cases capable : requireCap caller "apikeys:create:own" with
  | error reason => simp [capable, Reply.plain] at listed
  | ok _ =>
    simp only [capable, AuthTask.orRefuse_ok, Routine.bind_eq, Routine.run_bind,
      AuthTask.run_query] at listed
    obtain rfl := CredentialResponse.apiKeys.inj (Except.ok.inj listed)
    simpa using (List.mem_filter.mp inside).2

variable {keyPrefix : String}

theorem db_run_revokeApiKeyHandler :
    ((revokeApiKeyHandler caller keyPrefix).run state).1.db =
      if caller.hasCap "apikeys:create:own" then
        (state.db.revokeApiKeyByPrefix caller.email keyPrefix).1
      else state.db := by
  unfold revokeApiKeyHandler
  by_cases capable : caller.hasCap "apikeys:create:own" = true
  · rw [requireCap_eq_ok.mpr capable, if_pos capable, AuthTask.orRefuse_ok, Routine.bind_eq,
      Routine.run_bind, AuthTask.run_execute]
    generalize state.db.revokeApiKeyByPrefix caller.email keyPrefix = outcome
    obtain ⟨after, revoked⟩ := outcome
    cases revoked <;> rfl
  · rw [if_neg capable]
    cases refused : requireCap caller "apikeys:create:own" with
    | error reason => rfl
    | ok _ => exact absurd (requireCap_eq_ok.mp refused) capable

/-- Whether the request of a user to revoke an API key leaves a key alone. -/
theorem get_revokeApiKeyHandler_iff
    {keyId : Int} {key : ApiKeyRow} (isKey : state.db.apiKeys.get keyId = some key) :
    ((revokeApiKeyHandler caller keyPrefix).run state).1.db.apiKeys.get keyId = some key ↔
      ¬ (caller.hasCap "apikeys:create:own" = true ∧ caller.email = key.ownerEmail ∧
        keyPrefix = key.keyPrefix ∧ key.revoked = false) := by
  rw [db_run_revokeApiKeyHandler]
  split_ifs with capable
  · rw [Database.revokeApiKeyByPrefix, Database.get_revokeApiKeys]
    constructor
    · rintro ⟨old, isOld, same⟩ ⟨-, owner, samePrefix, live⟩
      obtain rfl := Option.some.inj (isKey.symm.trans isOld)
      rw [if_pos (by simp [owner, samePrefix])] at same
      rw [same] at live
      cases live
    · intro spared
      refine ⟨key, isKey, ?_⟩
      split_ifs with matched
      · simp only [Bool.and_eq_true, decide_eq_true_eq] at matched
        have revoked : key.revoked = true := by
          by_contra live
          exact spared ⟨capable, matched.1.symm, matched.2.symm, Bool.eq_false_iff.mpr live⟩
        rw [← revoked]
      · rfl
  · exact iff_of_true isKey fun condition => capable condition.1

/-- A request with the key of a worker has the same rights whatever the roles of the administrator
who registered the worker, exactly when the key belongs to someone else or to an account that cannot
log in (or the roles are the same).  The listing never shows the key, and a self-service revocation
spares it exactly when its owner does not ask. -/
theorem worker_key_isolated_iff {state : AuthState} (reachable : state.Reachable) {id : WorkerId}
    {worker : WorkerRow} {key : ApiKeyRow}
    (isWorker : state.db.workers.rows.lookup id = some worker)
    (isKey : state.db.apiKeys.get worker.apiKeyId = some key) :
    (∀ (env : VerifyEnv) (raw : String) (accounts : Accounts),
      state.Accepts env raw worker.apiKeyId →
      state.db.accounts.DifferInRoles worker.createdBy accounts →
      (((bearerRights env raw).run { state with db := state.db.withAccounts accounts }).2 =
          ((bearerRights env raw).run state).2 ↔
        key.ownerEmail ≠ worker.createdBy ∨ ¬ state.db.accounts.CanLogIn key.ownerEmail ∨
          accounts.rolesOf worker.createdBy = state.db.accounts.rolesOf worker.createdBy)) ∧
      (∀ (env : CredentialEnv) (caller : AuthUser) (items : List ApiKeyItem),
        ((listApiKeysHandler env caller).run state).2.response = .ok (.apiKeys items) →
        ∀ item ∈ items, item.name ≠ key.name) ∧
      ∀ (caller : AuthUser) (keyPrefix : String),
        ((revokeApiKeyHandler caller keyPrefix).run state).1.db.apiKeys.get worker.apiKeyId =
            some key ↔
          ¬ (caller.hasCap "apikeys:create:own" = true ∧ caller.email = key.ownerEmail ∧
            keyPrefix = key.keyPrefix ∧ key.revoked = false) := by
  obtain ⟨consistent, named⟩ := reachable.wellNamed
  refine ⟨?_, ?_, ?_⟩
  · intro env raw accounts accepts differ
    have consistentToo : AuthState.Consistent { state with db := state.db.withAccounts accounts } :=
      fun digest entry present =>
        (Database.evolves_withAccounts accounts).describes (consistent digest entry present)
    rw [bearerRights_of_accepts consistent isKey accepts,
      bearerRights_of_accepts consistentToo isKey (accepts_withAccounts accepts accounts)]
    exact differ.rights_eq_iff
  · intro env caller items listed item inside same
    obtain ⟨row, stored, isNamed⟩ := named id worker isWorker
    obtain rfl := Option.some.inj (isKey.symm.trans stored)
    have personal := mem_listApiKeysHandler listed inside
    rw [same, isNamed] at personal
    cases personal
  · exact fun caller keyPrefix => get_revokeApiKeyHandler_iff isKey

def builderServer : AuthState :=
  (runServer (.new singleAdmin) 16 (Nat.succ_pos 15)
    [aliceAsks (.registerWorker "builder" "x86_64" "w1" (apiKeyOf '1')), .advance 0,
      .advance 0]).state

def builderWorker : WorkerRow :=
  ⟨"builder", .x86_64, 1, "alice@example.com"⟩

def builderKey : ApiKeyRow :=
  ⟨"worker:builder", (apiKeyOf '1').hash, (apiKeyOf '1').keyPrefix, "alice@example.com",
    none, false, 0⟩

def demotedAdmin : Accounts :=
  { singleAdmin with
    userRoles := {("alice@example.com", "viewer")}
    assigned_user := by decide
    assigned_role := by decide }

theorem reachable_builderServer : builderServer.Reachable :=
  ⟨.new singleAdmin, 16, by decide, _, .new singleAdmin, rfl⟩

theorem accepts_builderServer :
    builderServer.Accepts .plain (apiKeyOf '1').plaintext builderWorker.apiKeyId :=
  ⟨⟨.apiKey, 1, "alice@example.com", (apiKeyOf '1').keyPrefix, none⟩, by decide, by decide⟩

theorem differInRoles_demotedAdmin :
    builderServer.db.accounts.DifferInRoles "alice@example.com" demotedAdmin where
  users := AList.ext (by decide)
  roles := AList.ext (by decide)
  roleCaps := by decide
  roleScopes := by decide
  userRoles := by
    have assigned : builderServer.db.accounts.userRoles = {("alice@example.com", "admin")} := by
      decide
    have demoted : demotedAdmin.userRoles = {("alice@example.com", "viewer")} := rfl
    intro other different
    ext role
    simp [Accounts.mem_rolesOf, assigned, demoted, different]
  tokens := by decide

/-- A request of another user to revoke the key of the worker changes nothing. -/
theorem builder_key_spared :
    (((bearerRights .plain (apiKeyOf '1').plaintext).run
        { builderServer with db := builderServer.db.withAccounts demotedAdmin }).2 =
        ((bearerRights .plain (apiKeyOf '1').plaintext).run builderServer).2 ↔
      builderKey.ownerEmail ≠ builderWorker.createdBy ∨
        ¬ builderServer.db.accounts.CanLogIn builderKey.ownerEmail ∨
        demotedAdmin.rolesOf builderWorker.createdBy =
          builderServer.db.accounts.rolesOf builderWorker.createdBy) ∧
      ((revokeApiKeyHandler ⟨"bob@example.com", "Bob", ["*"], false⟩ builderKey.keyPrefix).run
        builderServer).1.db.apiKeys.get builderWorker.apiKeyId = some builderKey := by
  obtain ⟨rights, -, revoking⟩ := @worker_key_isolated_iff builderServer
    reachable_builderServer "w1" builderWorker builderKey (by decide) (by decide)
  refine ⟨rights _ _ _ accepts_builderServer differInRoles_demotedAdmin, (revoking _ _).mpr ?_⟩
  rintro ⟨-, owner, -⟩
  revert owner
  decide

theorem bearerRights_builder (accounts : Accounts)
    (isUser : accounts.getUser "alice@example.com" = some ⟨"Alice", true, false, none, 0⟩) :
    ∃ assignments, ((bearerRights .plain (apiKeyOf '1').plaintext).run
        { builderServer with db := builderServer.db.withAccounts accounts }).2 =
      .ok ⟨⟨"alice@example.com", "Alice", accounts.retainedCaps "alice@example.com" false, false⟩,
        assignments⟩ := by
  have consistent : AuthState.Consistent
      { builderServer with db := builderServer.db.withAccounts accounts } :=
    fun digest entry present => (Database.evolves_withAccounts accounts).describes
      (reachable_builderServer.wellNamed.1 digest entry present)
  have isKey : builderServer.db.apiKeys.get builderWorker.apiKeyId = some builderKey := by decide
  rw [bearerRights_of_accepts consistent isKey
    (accepts_withAccounts accepts_builderServer accounts)]
  exact ⟨_, Accounts.rights_of_getUser isUser rfl⟩

/-- The host of a worker is the administrator as long as that account is one, and the administrator
can revoke the key as if it was a personal one. -/
theorem worker_host_acts_as_registrar :
    (∃ rights, ((bearerRights .plain (apiKeyOf '1').plaintext).run builderServer).2 = .ok rights ∧
        rights.user.hasCap "permissions:manage" = true) ∧
      (∃ rights, ((bearerRights .plain (apiKeyOf '1').plaintext).run
          { builderServer with db := builderServer.db.withAccounts demotedAdmin }).2 = .ok rights ∧
        rights.user.hasCap "permissions:manage" = false) ∧
      ((revokeApiKeyHandler alice builderKey.keyPrefix).run builderServer).1.db.apiKeys.get
        builderWorker.apiKeyId = some { builderKey with revoked := true } := by
  refine ⟨?_, ?_, by decide⟩
  · obtain ⟨assignments, isRights⟩ :=
      bearerRights_builder builderServer.db.accounts (by decide)
    refine ⟨_, isRights, hasCap_iff.mpr (Or.inl ?_)⟩
    rw [Accounts.mem_retainedCaps, Accounts.mem_effectiveCaps]
    exact ⟨⟨"admin", by decide, by decide⟩, fun robot => by cases robot⟩
  · obtain ⟨assignments, isRights⟩ := bearerRights_builder demotedAdmin rfl
    refine ⟨_, isRights, Bool.eq_false_iff.mpr fun has => ?_⟩
    have caps : demotedAdmin.effectiveCaps "alice@example.com" = {"builds:list:any"} := by decide
    simp only [hasCap_iff, Accounts.mem_retainedCaps, caps] at has
    revert has
    decide

end Cbs

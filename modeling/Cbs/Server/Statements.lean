import Cbs.Server.Finality

/-!
# Statements on credentials

Every step of a call leaves the database alone or executes one of a few statements.  What each
statement keeps is therefore kept by every call, whatever runs in between.
-/

namespace Cbs

open Concurrency Database

def AdminRequest.OnRoles : AdminRequest → Prop
  | deactivateEntity _ | activateEntity _ => False
  | _ => True

/-- What a single step of a request may do to the database, apart from activating an account and
reviving a robot. -/
inductive Statement (before : Database) : Database → Prop
  | insertApiKey {now id : Int} {name ownerEmail keyHash keyPrefix : String} {after : Database}
      (own : Text.startsWith name "worker:" = false)
      (inserted : before.insertApiKey now name ownerEmail keyHash keyPrefix = .ok (after, id)) :
      Statement before after
  | revokeApiKeys (check : Int → ApiKeyRow → Bool) : Statement before (before.revokeApiKeys check).1
  | registerWorker {now : Int} {email name : String} {id : WorkerId} {arch : Arch}
      {material : KeyMaterial} {after : Database}
      (registered : before.registerWorker now email id name arch material = .ok after) :
      Statement before after
  | deregisterWorker (id : WorkerId) (worker : WorkerRow) :
      Statement before (before.deregisterWorker id worker).1
  | regenerateToken {now : Int} {email : String} {id : WorkerId} {worker : WorkerRow}
      {material : KeyMaterial} {after : Database} {revoked : List Int}
      (replaced : before.regenerateToken now email id worker material = .ok (after, revoked)) :
      Statement before after
  | tombstoneRobot (now : Int) (email : String) :
      Statement before (before.tombstoneRobot now email).1
  | rotateToken {email : String} {renew : Bool} {token : NewToken} {after : Database}
      {revoked : List Int} (rotated : before.rotateToken email renew token = .ok (after, revoked)) :
      Statement before after
  | revokeAllActiveTokens (email : String) : Statement before (before.revokeAllActiveTokens email).1
  | setDescription (now : Int) (email : String) (description : Option String) :
      Statement before (before.setDescription now email description).1
  | deactivateUser (now : Int) (email : String) :
      Statement before (before.deactivateUser now email).1
  | revokeSessionTokens (email : String) : Statement before (before.revokeSessionTokens email).1
  | roles (env : AdminEnv) (user : AuthUser) {request : AdminRequest} (onRoles : request.OnRoles) :
      Statement before (before.withAccounts (request.handle env user before.accounts).1)

def AuthCall.Revives (call : AuthCall) (email : String) : Prop :=
  ∃ env user body material, call = .handle env user (.createOrReviveRobot body material) ∧
    email = env.nameToSyntheticEmail (env.toLowercase body.name)

theorem Statement.evolves {before after : Database} (statement : Statement before after) :
    before.Evolves after := by
  cases statement with
  | insertApiKey own inserted => exact evolves_insertApiKey inserted
  | revokeApiKeys check => exact evolves_revokeApiKeys check
  | registerWorker registered => exact (registerWorker_eq_ok registered).1
  | deregisterWorker id worker => exact evolves_deregisterWorker id worker
  | regenerateToken replaced => exact evolves_regenerateToken replaced
  | tombstoneRobot now email => exact evolves_tombstoneRobot now email
  | rotateToken rotated => exact (rotateToken_eq_ok rotated).2.1.evolves
  | revokeAllActiveTokens email => exact (concerns_revokeAllActiveTokens email).evolves
  | setDescription now email description =>
    exact evolves_setDescription now email description
  | deactivateUser now email => exact evolves_deactivateUser now email
  | revokeSessionTokens email | roles env user onRoles => exact evolves_withAccounts _

/-- Entries of the cache were there before or describe a token. -/
def CacheDescribed (before after : AuthState) : Prop :=
  ∀ digest entry, after.cache.peek digest = some entry →
    before.cache.peek digest = some entry ∨ before.db.Describes entry

/-- The steps that a restriction of the calls allows; `revives` are the robots that may be created
or revived. -/
structure Admits (R : Rely AuthState AuthStep) (revives : String → Prop) : Prop where
  evolves : ∀ before after, R.Moves before after → before.db.Evolves after.db
  cache : ∀ state cache, R.Invariant state → CacheDescribed state { state with cache := cache } →
    R.Moves state { state with cache := cache }
  statement : ∀ state db, R.Invariant state → Statement state.db db →
    R.Moves state { state with db := db }
  activate : ∀ (found tokens state : AuthState) now email target, R.Invariant found →
    R.Invariant tokens → R.Invariant state → found.db.accounts.getUser email = some target →
    (target.isRobot = true → tokens.db.hasNonRevokedToken email = true) →
    R.Moves state
      { state with db := state.db.withAccounts (state.db.accounts.setActive now email true) }
  revive : ∀ (state : AuthState) now email name description token roles after outcome,
    R.Invariant state → revives email →
    state.db.createOrRevive now email name description token roles = .ok (after, outcome) →
    R.Moves state { state with db := after }

variable {revives : String → Prop}

theorem Admits.stay {R : Rely AuthState AuthStep}
    (admits : Admits R revives) {state : AuthState} (invariant : R.Invariant state) :
    R.Moves state state :=
  admits.cache state state.cache invariant fun _ _ present => Or.inl present

/-- The routine takes admitted steps only. -/
abbrev Proper {α : Type} (R : Rely AuthState AuthStep) (routine : AuthTask α) : Prop :=
  R.Outline (fun _ _ => True) routine (fun _ => True) fun _ _ => True

section Steps

variable {R : Rely AuthState AuthStep} {revives : String → Prop} {α β ε : Type}

theorem proper_pure (value : α) : Proper R (pure value) :=
  Rely.outline_pure fun _ _ _ => trivial

theorem Proper.bind {routine : AuthTask α} {next : α → AuthTask β} (first : Proper R routine)
    (rest : ∀ value, Proper R (next value)) : Proper R (routine >>= next) :=
  Rely.Outline.bind (fun _ _ => True) first rest

theorem proper_stepAt {key : AuthState → Option AuthStep} {action : AuthState → AuthState × α}
    (moves : ∀ state, R.Invariant state → R.Moves state (action state).1) :
    Proper R (.stepAt key action) :=
  Rely.outline_stepAt fun state invariant _ _ =>
    ⟨moves state invariant, fun _ _ => trivial, R.stable_true, trivial⟩

theorem proper_orRefuse {check : Except AuthError α} {next : α → AuthTask Reply}
    (accepted : ∀ value, check = .ok value → Proper R (next value)) :
    Proper R (AuthTask.orRefuse check next) := by
  cases result : check with
  | error reason => exact proper_pure _
  | ok value => exact accepted value result

variable (admits : Admits R revives)
include admits

theorem proper_withCache {change : TokenCache → TokenCache × α}
    (drops : ∀ (cache : TokenCache) digest entry, (change cache).1.peek digest = some entry →
      cache.peek digest = some entry) : Proper R (AuthTask.withCache change) :=
  proper_stepAt fun state invariant => admits.cache state _ invariant
    fun digest entry present => Or.inl (drops state.cache digest entry present)

theorem proper_purgeByOwner (email : String) : Proper R (AuthTask.purgeByOwner email) :=
  proper_withCache admits fun _ _ _ present => (TokenCache.peek_of_removeByOwner present).1

theorem proper_purgeByPrefix (tokenPrefix : String) :
    Proper R (AuthTask.purgeByPrefix tokenPrefix) :=
  proper_withCache admits fun _ _ _ present => (TokenCache.peek_of_removeByPrefix present).1

theorem proper_query (read : Database → α) : Proper R (AuthTask.query read) :=
  proper_stepAt fun _ invariant => admits.stay invariant

theorem proper_execute {change : Database → Database × α}
    (statement : ∀ db, Statement db (change db).1) : Proper R (AuthTask.execute change) :=
  proper_stepAt fun state invariant => admits.statement state _ invariant (statement state.db)

theorem proper_transaction {attempt : Database → Except ε (Database × α)}
    (moves : ∀ (state : AuthState) after value, R.Invariant state →
      attempt state.db = .ok (after, value) → R.Moves state { state with db := after }) :
    Proper R (AuthTask.transaction attempt) := by
  refine proper_stepAt fun state invariant => ?_
  cases attempted : attempt state.db with
  | error reason =>
    rw [commit_of_error attempted]
    exact admits.stay invariant
  | ok outcome =>
    obtain ⟨after, value⟩ := outcome
    rw [commit_of_ok attempted]
    exact moves state after value invariant attempted

theorem proper_verifyUncached (env : VerifyEnv) (kind : TokenKind)
    (raw : String) : Proper R (verifyUncached env kind raw) := by
  -- The candidates still describe their tokens when one of them is stored in the cache.
  refine Rely.Outline.bind (fun candidates state => ∀ candidate ∈ candidates,
    state.db.Describes (candidate.toCached kind)) ?_ fun candidates => ?_
  · refine Rely.outline_stepFree fun state invariant _ => ⟨admits.stay invariant, ?_, ?_⟩
    · intro earlier later _ moves holds candidate inside
      exact (admits.evolves _ _ moves).describes (holds candidate inside)
    · intro candidate inside
      obtain ⟨info, stored, -, agrees⟩ := token_of_mem_fetchCandidates inside
      exact describes_of_token stored agrees
  · dsimp only
    split
    · exact Rely.outline_pure fun _ _ _ => trivial
    · rename_i candidate found
      have inside := List.mem_of_find?_eq_some found
      split_ifs
      · exact Rely.outline_pure fun _ _ _ => trivial
      · refine Rely.Outline.bind (fun _ _ => True)
          (Rely.outline_stepAt fun state invariant holds _ =>
            ⟨?_, fun _ _ => trivial, R.stable_true, trivial⟩) fun _ => proper_pure _
        refine admits.cache state _ invariant fun digest entry present => ?_
        rcases TokenCache.peek_of_insert present with rfl | old
        · exact Or.inr (holds candidate inside)
        · exact Or.inl old

theorem proper_verifyHashedToken (env : VerifyEnv) (kind : TokenKind)
    (raw : String) : Proper R (verifyHashedToken env kind raw) := by
  unfold verifyHashedToken
  split_ifs
  · exact proper_pure _
  · refine (proper_withCache admits fun _ _ _ present => by simpa using present).bind fun hit => ?_
    cases hit with
    | some cached => exact proper_pure _
    | none => exact proper_verifyUncached admits env kind raw

theorem proper_purgeKey (lookupFails : Bool) (keyId : Int) :
    Proper R (purgeKey lookupFails keyId) := by
  unfold purgeKey
  split_ifs
  · exact proper_stepAt fun _ invariant => admits.stay invariant
  · refine (proper_query admits _).bind fun found => ?_
    cases found with
    | none => exact proper_pure _
    | some keyPrefix => exact proper_purgeByPrefix admits keyPrefix

variable (env : CredentialEnv) (user : AuthUser)

theorem proper_createApiKeyHandler (name : String) (material : KeyMaterial) :
    Proper R (createApiKeyHandler env user name material) := by
  refine proper_orRefuse fun _ _ => proper_orRefuse fun _ _ => proper_orRefuse fun _ own => ?_
  refine (proper_transaction admits fun state after id invariant inserted => ?_).bind
    fun _ => proper_pure _
  exact admits.statement state after invariant
    (.insertApiKey (Checks.require_eq_ok.mp own) inserted)

theorem proper_registerWorker (name arch : String) (id : WorkerId) (material : KeyMaterial) :
    Proper R (registerWorker env user name arch id material) := by
  refine proper_orRefuse fun _ _ => proper_orRefuse fun _ _ => proper_orRefuse fun arch _ => ?_
  refine (proper_transaction admits fun state after value invariant done => ?_).bind
    fun _ => proper_pure _
  obtain ⟨stored, registered, same⟩ := Checks.map_eq_ok.mp done
  obtain ⟨rfl, -⟩ := Prod.mk.inj same
  exact admits.statement state _ invariant (.registerWorker registered)

theorem proper_deregisterWorker (id : WorkerId)
    (lookupFails : Bool) : Proper R (deregisterWorker user id lookupFails) :=
  proper_orRefuse fun _ _ => (proper_query admits _).bind fun _ => proper_orRefuse fun _ _ =>
    (proper_execute admits fun _ => .deregisterWorker _ _).bind fun _ =>
      (proper_purgeKey admits _ _).bind fun _ => proper_pure _

theorem proper_regenerateWorkerToken (id : WorkerId) (material : KeyMaterial) (lookupFails : Bool) :
    Proper R (regenerateWorkerToken env user id material lookupFails) := by
  refine proper_orRefuse fun _ _ => (proper_query admits _).bind fun _ => ?_
  refine proper_orRefuse fun worker _ => Proper.bind ?_ fun _ => proper_orRefuse fun _ _ =>
    (proper_purgeKey admits _ _).bind fun _ => proper_pure _
  exact proper_transaction admits fun state after _ invariant replaced =>
    admits.statement state after invariant (.regenerateToken replaced)

theorem proper_createOrReviveRobot (body : CreateRobotBody) (material : KeyMaterial)
    (allowed : revives (env.nameToSyntheticEmail (env.toLowercase body.name))) :
    Proper R (createOrReviveRobot env user body material) := by
  refine proper_orRefuse fun _ _ => proper_orRefuse fun _ _ => (proper_query admits _).bind
    fun _ => proper_orRefuse fun _ _ => proper_orRefuse fun expiresAt _ => ?_
  refine Proper.bind ?_ fun _ => proper_orRefuse fun outcome _ => Proper.bind ?_ fun _ =>
    (proper_query admits _).bind fun _ => proper_pure _
  · exact proper_transaction admits fun state after _ invariant done =>
      admits.revive state _ _ _ _ _ _ after _ invariant allowed done
  · cases outcome.1 with
    | created => exact proper_pure _
    | revived => exact proper_purgeByOwner admits _

theorem proper_createOrRotateToken (name : String) (expires : ExpiresWire) (renew : Bool)
    (material : KeyMaterial) :
    Proper R (createOrRotateToken env user name expires renew material) := by
  refine proper_orRefuse fun _ _ => proper_orRefuse fun expiresAt _ => Proper.bind ?_ fun _ =>
    proper_orRefuse fun _ _ => (proper_purgeByOwner admits _).bind fun _ => proper_pure _
  exact proper_transaction admits fun state after _ invariant rotated =>
    admits.statement state after invariant (.rotateToken rotated)

theorem proper_deactivateEntity
    (address : String) : Proper R (AuthTask.deactivateEntity env user address) := by
  refine proper_orRefuse fun _ _ => (proper_query admits _).bind fun _ => ?_
  refine proper_orRefuse fun target _ => ?_
  split
  · exact proper_pure _
  · refine (proper_execute admits fun _ => .deactivateUser _ _).bind fun _ => ?_
    refine proper_orRefuse fun _ _ => (proper_purgeByOwner admits _).bind fun _ => ?_
    split
    · exact proper_pure _
    · refine (proper_execute admits fun _ => .revokeSessionTokens _).bind fun _ => ?_
      exact (proper_stepAt fun state invariant =>
        admits.statement state _ invariant (.revokeApiKeys _)).bind fun _ => proper_pure _

theorem proper_activateEntity
    (address : String) : Proper R (AuthTask.activateEntity env user address) := by
  refine proper_orRefuse fun _ _ => ?_
  -- What the write relies on was read in earlier states, which also satisfied the invariant.
  refine Rely.Outline.bind (fun found _ => (∃ state, R.Invariant state ∧
    state.db.accounts.getUser (env.normalizeEmail address) = found) ∧ True) ?_ fun found => ?_
  · exact Rely.outline_stepFree fun state invariant _ =>
      ⟨admits.stay invariant, R.stable_const _, ⟨state, invariant, rfl⟩, trivial⟩
  · refine Rely.outline_of_fact fun ⟨read, wasRead, isFound⟩ => ?_
    refine proper_orRefuse fun target isTarget => ?_
    rw [Checks.orError_eq_ok.mp isTarget] at isFound
    refine Rely.Outline.bind (fun usable _ => (usable = true → target.isRobot = true →
      ∃ tokens, R.Invariant tokens ∧
        tokens.db.hasNonRevokedToken (env.normalizeEmail address) = true) ∧ True) ?_
          fun usable => ?_
    · unfold AuthTask.mayActivate
      split
      · exact Rely.outline_stepFree fun state invariant _ =>
          ⟨admits.stay invariant, R.stable_const _,
            fun has _ => ⟨state, invariant, has⟩, trivial⟩
      · rename_i human
        exact Rely.outline_pure fun _ _ _ => ⟨fun _ isRobot => absurd isRobot human, trivial⟩
    · refine Rely.outline_of_fact fun checked => proper_orRefuse fun _ accepted => ?_
      have usable := Checks.require_eq_ok.mp accepted
      refine Proper.bind (proper_stepAt fun state invariant => ?_) fun _ =>
        (proper_purgeByOwner admits _).bind fun _ => proper_pure _
      by_cases isRobot : target.isRobot = true
      · obtain ⟨tokens, wasToo, has⟩ := checked usable isRobot
        exact admits.activate read tokens state _ _ target wasRead wasToo invariant isFound
          fun _ => has
      · exact admits.activate read state state _ _ target wasRead invariant invariant isFound
          fun robot => absurd robot isRobot

theorem proper_adminRequest (request : AdminRequest) : Proper R (request.task env user) := by
  have onRoles (request : AdminRequest) (onRoles : request.OnRoles) : Proper R (do
      let response ← AuthTask.execute fun db =>
        (db.withAccounts (request.handle env.toAdminEnv user db.accounts).1,
          (request.handle env.toAdminEnv user db.accounts).2)
      pure (Reply.plain (response.map .admin))) :=
    (proper_execute admits fun _ => .roles _ _ onRoles).bind fun _ => proper_pure _
  cases request with
  | deactivateEntity address => exact proper_deactivateEntity admits env user address
  | activateEntity address => exact proper_activateEntity admits env user address
  | _ => exact onRoles _ trivial

/-- Every step of a request is admitted, if the robot that it may revive is. -/
theorem proper_request (request : CredentialRequest)
    (allowed : ∀ email, (AuthCall.handle env user request).Revives email → revives email) :
    Proper R (request.task env user) := by
  cases request with
  | createApiKey name material => exact proper_createApiKeyHandler admits env user name material
  | listApiKeys =>
    exact proper_orRefuse fun _ _ => (proper_query admits _).bind fun _ => proper_pure _
  | revokeApiKey keyPrefix =>
    refine proper_orRefuse fun _ _ => (proper_execute admits fun _ => .revokeApiKeys _).bind
      fun _ => ?_
    split_ifs
    · exact proper_pure _
    · exact (proper_purgeByPrefix admits _).bind fun _ => proper_pure _
  | registerWorker name arch id material =>
    exact proper_registerWorker admits env user name arch id material
  | deregisterWorker id lookupFails => exact proper_deregisterWorker admits user id lookupFails
  | regenerateWorkerToken id material lookupFails =>
    exact proper_regenerateWorkerToken admits env user id material lookupFails
  | createOrReviveRobot body material =>
    exact proper_createOrReviveRobot admits env user body material
      (allowed _ ⟨env, user, body, material, rfl, rfl⟩)
  | tombstoneRobot name =>
    exact proper_orRefuse fun _ _ => (proper_query admits _).bind fun _ =>
      proper_orRefuse fun _ _ => (proper_execute admits fun _ => .tombstoneRobot _ _).bind
        fun _ => (proper_purgeByOwner admits _).bind fun _ => proper_pure _
  | createOrRotateToken name expires renew material =>
    exact proper_createOrRotateToken admits env user name expires renew material
  | revokeRobotToken name =>
    exact proper_orRefuse fun _ _ => (proper_query admits _).bind fun _ =>
      proper_orRefuse fun _ _ => (proper_execute admits fun _ => .revokeAllActiveTokens _).bind
        fun _ => (proper_purgeByOwner admits _).bind fun _ => proper_pure _
  | setRobotDescription name description =>
    exact proper_orRefuse fun _ _ => (proper_execute admits fun _ => .setDescription _ _ _).bind
      fun _ => proper_pure _
  | admin request => exact proper_adminRequest admits env user request

theorem proper_call (call : AuthCall)
    (allowed : ∀ email, call.Revives email → revives email) : Proper R call.task := by
  have last (label : AuthStep) : Proper R (Routine.step label fun state => (state, ())) :=
    proper_stepAt fun state invariant => admits.stay invariant
  cases call with
  | verify env kind raw =>
    exact (proper_verifyHashedToken admits env kind raw).bind fun _ => last _
  | handle env user request =>
    exact (proper_request admits env user request allowed).bind fun _ => last _

end Steps

/-- An assertion that every step keeps. -/
def invariantRely (invariant : AuthState → Prop) : Rely AuthState AuthStep where
  Invariant := invariant
  Moves := fun before after =>
    before.db.Evolves after.db ∧ CacheDescribed before after ∧ invariant after
  Allows := fun _ _ => True
  keeps := fun _ _ _ moves => moves.2.2

/-- It is enough to look at what may be done to the database. -/
theorem admits_invariantRely {invariant : AuthState → Prop}
    (cache : ∀ state cache, invariant state → CacheDescribed state { state with cache := cache } →
      invariant { state with cache := cache })
    (statement : ∀ (state : AuthState) db, invariant state → Statement state.db db →
      invariant { state with db := db })
    (activate : ∀ (found tokens state : AuthState) now email target, invariant found →
      invariant tokens → invariant state → found.db.accounts.getUser email = some target →
      (target.isRobot = true → tokens.db.hasNonRevokedToken email = true) →
      invariant
        { state with db := state.db.withAccounts (state.db.accounts.setActive now email true) })
    (revive : ∀ (state : AuthState) now email name description token roles after outcome,
      invariant state → revives email →
      state.db.createOrRevive now email name description token roles = .ok (after, outcome) →
      invariant { state with db := after }) :
    Admits (invariantRely invariant) revives where
  evolves := fun _ _ moves => moves.1
  cache := fun state after holds described =>
    ⟨.refl _, described, cache state after holds described⟩
  statement := fun state db holds executed =>
    ⟨executed.evolves, fun _ _ present => Or.inl present, statement state db holds executed⟩
  activate := fun found tokens state now email target wasFound hadTokens holds isFound needs =>
    ⟨evolves_withAccounts _, fun _ _ present => Or.inl present,
      activate found tokens state now email target wasFound hadTokens holds isFound needs⟩
  revive := fun state now email name description token roles after outcome holds revived done =>
    ⟨(createOrRevive_eq_ok done).1.evolves, fun _ _ present => Or.inl present,
      revive state now email name description token roles after outcome holds revived done⟩

end Cbs
